import NaveggSdk.System.Sound

/-!
# When `getSegments` fetches again

The segments are to be fetched if there are none yet, if those there are from an earlier day, or if
an onboarding map was delivered after they were saved (`RefreshWanted`). The code has a test for
each of the three. Its test for the day counts the days from now to the last save, a number that is
never positive, and compares it with one: `refreshDue_iff` says what is left, the other two tests,
and `refresh_right_iff` in which states that is enough.
-/

open WebService

namespace UserDefaults

variable (defaults : UserDefaults) (device : Device)

def NeverSaved : Prop := defaults.string "dateLastSync" = none

def DayPassed : Prop :=
  ∃ saved, defaults.string "dateLastSync" = some saved ∧
    device.calendar.dayOf (Util.stringToDate saved) < device.calendar.dayOf device.now

/-- The last onboarding success is later than the last save. -/
def SentLater : Prop :=
  ∃ saved sent, defaults.string "dateLastSync" = some saved ∧
    defaults.string "dateLastSyncOnBoarding" = some sent ∧
    Util.stringToDate saved < Util.stringToDate sent

def RefreshWanted : Prop := defaults.NeverSaved ∨ defaults.DayPassed device ∨ defaults.SentLater

/-- The last save, if there is one, is not in the future. -/
def SavedInPast : Prop :=
  ∀ saved, defaults.string "dateLastSync" = some saved → Util.stringToDate saved ≤ device.now

end UserDefaults

namespace User

/-- The test for the day never succeeds: its difference is counted the other way round. -/
theorem dayBetweenDates_nonpos {device : Device} {last : Date} (h : last ≤ device.now) :
    Util.dayBetweenDates device.calendar device.now last ≤ 0 := by
  have hday := device.calendar.dayOf_mono h
  unfold Util.dayBetweenDates
  omega

/-- **What is left of the three tests.** -/
theorem refreshDue_iff {device : Device} {defaults : UserDefaults}
    (hpast : defaults.SavedInPast device) :
    refreshDue device defaults = true ↔ defaults.NeverSaved ∨ defaults.SentLater := by
  unfold refreshDue UserDefaults.NeverSaved UserDefaults.SentLater
  cases hsaved : defaults.string "dateLastSync" with
  | none => simp
  | some saved =>
      have hnever := dayBetweenDates_nonpos (hpast saved hsaved)
      have hdead :
          ¬ Util.dayBetweenDates device.calendar device.now (Util.stringToDate saved) ≥ 1 := by
        omega
      simp only [if_neg hdead]
      cases hsent : defaults.string "dateLastSyncOnBoarding" with
      | none => simp
      | some sent => simp

/-- The call issues a request for segments, and no other. -/
def Refreshes (device : Device) (segments : String) (m : Memory) : Prop :=
  ∃ r : Request, r.call = .getSegments ∧
    (getSegments device segments m).memory.requests = m.requests ++ [r]

/-- The answer is made from memory: it issues nothing. -/
theorem memory_bind_answer (x : Outcome Unit) (segments : String) :
    (x.bind fun _ m => .done (m.user.segment segments) m).memory = x.memory := by
  cases x with
  | done a m => rfl
  | trap why m => rfl

/-- A user with an id on a connected device fetches when the tests say so, unless the account number
stops it. -/
theorem refreshes_iff {device : Device} {m : Memory} (segments : String)
    (hid : m.user.getUserId ≠ "0") (hconn : device.connected = true) :
    Refreshes device segments m ↔
      refreshDue device m.defaults = true ∧ AccountFits m.user.accountId := by
  unfold Refreshes
  rw [getSegments_eq, memory_bind_answer]
  cases hdue : refreshDue device m.defaults with
  | false => simp
  | true =>
      have hfetch := WebService.fetch device (browsed m)
      simp only [if_true, true_and]
      generalize WebService.getSegments device (browsed m) = x at hfetch ⊢
      cases hfetch with
      | idle hidle =>
          rcases hidle with hzero | hoff
          · exact absurd hzero hid
          · simp [hconn] at hoff
      | issue acc _ _ hacc =>
          refine iff_of_true ⟨_, ?_, rfl⟩ (accountFits_of_some hacc)
          exact getSegmentsRequest_call _ _ _
      | overflow _ _ hacc =>
          refine iff_of_false ?_ (not_accountFits_of_none hacc)
          simp

/-- **The policy is met exactly where the day does not matter**: if the segments are wanted at all,
then for one of the two other reasons, and the account number lets the request out. -/
theorem refresh_right_iff (device : Device) (segments : String) (m : Memory)
    (hid : m.user.getUserId ≠ "0") (hconn : device.connected = true)
    (hpast : m.defaults.SavedInPast device) :
    (Refreshes device segments m ↔ m.defaults.RefreshWanted device) ↔
      (m.defaults.RefreshWanted device →
        (m.defaults.NeverSaved ∨ m.defaults.SentLater) ∧ AccountFits m.user.accountId) := by
  rw [refreshes_iff segments hid hconn, refreshDue_iff hpast]
  constructor
  · exact fun h hwanted => h.mpr hwanted
  · intro h
    refine ⟨?_, h⟩
    rintro ⟨hnever | hlater, -⟩
    · exact .inl hnever
    · exact .inr (.inr hlater)

end User

namespace System

def overnight : List Action :=
  [.restart none, .complete 0 (named "u1"), .complete 1 (listed "1"), .clock 1700086400]

def nextDay : System := after 7 (.phone 1700000000) overnight

theorem nextDay_dateLastSync :
    nextDay.defaults.string "dateLastSync" = some "2023-11-14 22:13:20" := by
  decide +kernel

theorem nextDay_savedInPast : nextDay.defaults.SavedInPast nextDay.device := by
  intro saved hsaved
  rw [nextDay_dateLastSync, Option.some.injEq] at hsaved
  rw [← hsaved]
  decide +kernel

/-- The user of the next day has the id of the day before. -/
theorem nextDay_user : ∃ user, nextDay.app = some user ∧ user.getUserId ≠ "0" ∧
    AccountFits user.accountId := by
  have hlive : (nextDay.app.map fun user =>
      decide (user.getUserId ≠ "0" ∧ AccountFits user.accountId)) = some true := by
    decide +kernel
  obtain ⟨user, happ, hid⟩ := Option.map_eq_some_iff.mp hlive
  exact ⟨user, happ, of_decide_eq_true hid⟩

theorem refresh_right_iff_nextDay :
    ∃ user, nextDay.app = some user ∧
      ((User.Refreshes nextDay.device "gender" (.enter user nextDay.defaults) ↔
          nextDay.defaults.RefreshWanted nextDay.device) ↔
        (nextDay.defaults.RefreshWanted nextDay.device →
          (nextDay.defaults.NeverSaved ∨ nextDay.defaults.SentLater) ∧
            AccountFits user.accountId)) := by
  obtain ⟨user, happ, hid, -⟩ := nextDay_user
  exact ⟨user, happ, User.refresh_right_iff nextDay.device "gender" (.enter user nextDay.defaults)
    hid (by decide +kernel) nextDay_savedInPast⟩

/-- The next day the segments are wanted, and not fetched. -/
theorem refresh_misses_nextDay :
    ∃ user, nextDay.app = some user ∧ user.getUserId ≠ "0" ∧ nextDay.device.connected = true ∧
      nextDay.defaults.SavedInPast nextDay.device ∧
      ¬ (User.Refreshes nextDay.device "gender" (.enter user nextDay.defaults) ↔
        nextDay.defaults.RefreshWanted nextDay.device) := by
  obtain ⟨user, happ, hid, -⟩ := nextDay_user
  have hconn : nextDay.device.connected = true := by decide +kernel
  refine ⟨user, happ, hid, hconn, nextDay_savedInPast, fun h => ?_⟩
  have hwanted : nextDay.defaults.RefreshWanted nextDay.device :=
    .inr (.inl ⟨_, nextDay_dateLastSync, by decide +kernel⟩)
  have hdue : User.refreshDue nextDay.device nextDay.defaults = false := by decide +kernel
  have hrefreshes := (User.refreshes_iff "gender" hid hconn).mp (h.mpr hwanted)
  rw [Memory.enter_defaults, hdue] at hrefreshes
  exact absurd hrefreshes.1 Bool.false_ne_true

end System
