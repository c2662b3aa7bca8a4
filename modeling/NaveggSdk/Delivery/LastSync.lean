import NaveggSdk.System.Copies

/-!
# The date of the last sync

A success is recorded twice: as the date in the suite, and as a copy in the object whose request
succeeded. Other objects do not notice; they read the suite when they are built, and not after that.
`last_sync` follows both over the runs of any number of objects: the suite has the last success of
all, and the copy that `getDateLastSync` unwraps is the last success that was there when the object
was built, or its own last one since. So the copies are behind, but never wrong, and unwrapping one
traps exactly for want of a success before that moment.
-/

open WebService NaveggApi

/-- The two places of the date: in the object, and in the suite. -/
def Memory.syncDates (m : Memory) : Option String × Option String :=
  (m.user.onBoarding.getDateLastSync, m.defaults.string "dateLastSyncOnBoarding")

/-! ## Code that records no success -/

section
variable (device : Device) (m : Memory)

theorem spared_syncDates : Spared Memory.syncDates where
  browsed _ := rfl
  issue _ _ := rfl

theorem WebService.syncDates_setToSendOnBoarding (status : Bool) :
    (setToSendOnBoarding status m).syncDates = m.syncDates :=
  Prod.ext rfl (UserDefaults.string_set_ne _ _ (by decide))

theorem WebService.syncDates_setDateLastSync (date : Date) :
    (setDateLastSync date m).syncDates =
      (some (Util.dateToString date), some (Util.dateToString date)) := by
  simp [Memory.syncDates, setDateLastSync, OnBoarding.setDateLastSync, OnBoarding.getDateLastSync]

/-- No call records a success. -/
theorem Call.syncDates_run (c : Call) : (c.run device m).memory.syncDates = m.syncDates := by
  apply spared_syncDates.run device m
  · exact fun status m => syncDates_setToSendOnBoarding m status
  · exact fun m => rfl
  · exact fun k v m => Prod.ext rfl (UserDefaults.string_set_ne _ _ (by simp))

/-- **Of the handlers, that of a send does**, in both places. -/
theorem WebService.syncDates_completion (call : WebCall) (response : DataResponse) :
    (WebService.completion device call response m).memory.syncDates =
      if call = .sendOnBoarding ∧ recordsSuccess response = true then
        (some (Util.dateToString device.now), some (Util.dateToString device.now))
      else m.syncDates := by
  cases call with
  | createUser =>
      refine (spared_syncDates.createUserCompletion device m response (fun userId => ?_) rfl).trans
        (if_neg nofun).symm
      refine Prod.ext rfl ?_
      show (m.defaults.setOptional (some (.string userId)) "NVGSDK_USERID").string _ = _
      exact UserDefaults.string_setOptional_ne _ _ (by decide)
  | getSegments =>
      refine (part_getSegmentsCompletion Memory.syncDates device m response
        fun segments => ?_).trans (if_neg nofun).symm
      exact Prod.ext rfl ((UserDefaults.string_set_ne _ _ (by decide)).trans
        (UserDefaults.string_set_ne _ _ (by decide)))
  | sendOnBoarding =>
      show (sendOnBoardingCompletion device response m).syncDates = _
      rw [sendOnBoardingCompletion_eq]
      cases hsuccess : recordsSuccess response with
      | true =>
          rw [if_pos rfl, if_pos ⟨rfl, rfl⟩]
          exact syncDates_setDateLastSync (setToSendOnBoarding true m) device.now
      | false =>
          rw [if_neg Bool.false_ne_true, if_neg fun h => Bool.false_ne_true h.2]
          exact syncDates_setToSendOnBoarding m false

end

/-! ## Runs of any number of objects -/

def Copied.lastSync : Copied (Option String) where
  stored defaults := defaults.string "dateLastSyncOnBoarding"
  copy user := user.onBoarding.getDateLastSync
  accepted device call response :=
    if call = .sendOnBoarding ∧ recordsSuccess response = true then
      some (some (Util.dateToString device.now))
    else none
  Fit _ := True
  fit_built _ _ := trivial
  fit_call _ _ _ _ := trivial
  fit_completion _ _ _ _ _ := trivial
  copy_built _ _ := rfl
  stored_registered accountId idAppStore defaults :=
    (registered_readers accountId idAppStore defaults "dateLastSyncOnBoarding" (by decide)
      (by decide) (by decide)).1
  call device c m _ := Call.syncDates_run device m c
  completion device call response m _ := by
    refine (syncDates_completion device m call response).trans ?_
    split <;> rfl

/-- What is recorded is a date. -/
theorem Copied.lastSync_ne_none (s : Shared) (actions : List Shared.Action) (i : Nat) :
    (i, none) ∉ lastSync.history s actions := by
  induction actions generalizing s with
  | nil => exact List.not_mem_nil
  | cons a as ih =>
      intro hmem
      rcases List.mem_append.mp hmem with hnow | hlater
      · obtain ⟨id, response, call, -, haccepted, -⟩ := lastSync.of_written (Option.mem_toList.mp hnow)
        rw [show lastSync.accepted s.device call response = if _ then _ else _ from rfl] at haccepted
        split at haccepted <;> cases haccepted
      · exact ih (s.step a) hlater

namespace Shared

/-- **The dates of the last sync**, in every run of any number of objects: the suite has the text of
the last recorded success. `getDateLastSync` answers the last of the successes that the object
knows, and all it does not know came to other objects; it traps exactly where the object knows
none. -/
theorem last_sync (accountId : Int) (device : Device) (actions : List Action) :
    let s := after accountId device actions
    let history := Copied.lastSync.history (installed accountId device) actions
    s.defaults.string "dateLastSyncOnBoarding" = Replicas.last none history ∧
      ∀ i user, s.apps[i]? = some user → ∃ known unknown, history = known ++ unknown ∧
        user.onBoarding.getDateLastSync = Replicas.last none known ∧
        (∀ w ∈ unknown, w.1 ≠ i) ∧ (user.onBoarding.getDateLastSync = none ↔ known = []) := by
  intro s history
  have hbehind := Copied.lastSync.behind_after accountId device actions
  refine ⟨hbehind.store, fun i user huser => ?_⟩
  obtain ⟨known, unknown, hsplit, hcopy, hothers⟩ :=
    Copied.lastSync.knows_after accountId device actions huser
  refine ⟨known, unknown, hsplit, hcopy, hothers, ?_⟩
  have hcopy : user.onBoarding.getDateLastSync = Replicas.last none known := hcopy
  rw [hcopy]
  constructor
  · intro hnone
    obtain ⟨hempty, -⟩ | ⟨i, hmem⟩ := Replicas.last_cases none known
    · exact hempty
    · -- no success is recorded without a date
      rw [hnone] at hmem
      refine absurd ?_ (Copied.lastSync_ne_none (installed accountId device) actions i)
      rw [hsplit]
      exact List.mem_append_left unknown hmem
  · rintro rfl
    rfl

end Shared
