import NaveggSdk.Identity.Number
import NaveggSdk.System.Requests

/-!
# What ends the process

A trap ends the process of the app that uses the SDK. Two things can trap, in any number of objects
and after any run: an answer that its handler cannot take apart (`Breaks`), and an account number
that is no `UInt32`, where a request is made with it (`Narrows`). `survives_iff` says that there is
no third, and that these always do.

A number that does not fit is never good for anything: no segments are ever asked for, so a refresh
stays due, and each process that has an id and a connection ends in its first `getSegments`
(`unfit_account`).
-/

open WebService NaveggApi

/-- The answer is one that the handler of the call does not survive, before it has even looked at
what it says. -/
def DataResponse.Breaks (response : DataResponse) : WebCall → Prop
  | .createUser => response.responseJSON true = .success ∧
    (response.data = none ∨ ∃ data json, response.data = some data ∧
      data.jsonObject = some json ∧ (json.asDictionary = none ∨
        ∃ fields v, json.asDictionary = some fields ∧ fields.lookup "nvgid" = some v ∧
          v.asString = none))
  | .getSegments => response.responseJSON false = .success ∧
    (response.data = none ∨ ∃ data json, response.data = some data ∧
      data.jsonObject = some json ∧ json.asStringDictionary = none)
  | .sendOnBoarding => False

theorem WebService.readUserId_fatal_iff (response : DataResponse) :
    (∃ why, readUserId response = .fatal why) ↔ response.Breaks .createUser := by
  unfold readUserId DataResponse.Breaks
  cases response.responseJSON true with
  | failure => simp
  | success =>
      cases response.data with
      | none => simp
      | some data =>
          cases hjson : data.jsonObject with
          | none => simp [hjson]
          | some json =>
              cases hfields : json.asDictionary with
              | none => simp [hjson, hfields]
              | some fields =>
                  cases hmember : fields.lookup "nvgid" with
                  | none => simp [hjson, hfields, hmember]
                  | some v =>
                      cases hstring : v.asString with
                      | none => simp [hjson, hfields, hmember, hstring]
                      | some userId => simp [hjson, hfields, hmember, hstring]

theorem WebService.readSegments_fatal_iff (response : DataResponse) :
    (∃ why, readSegments response = .fatal why) ↔ response.Breaks .getSegments := by
  unfold readSegments DataResponse.Breaks
  cases response.responseJSON false with
  | failure => simp
  | success =>
      cases response.data with
      | none => simp
      | some data =>
          cases hjson : data.jsonObject with
          | none => simp [hjson]
          | some json =>
              cases hsegments : json.asStringDictionary with
              | none => simp [hjson, hsegments]
              | some segments => simp [hjson, hsegments]

/-- Asking for segments ends, unless the number has to be narrowed and does not fit. -/
theorem WebService.getSegments_isDone_iff (device : Device) (m : Memory) :
    (WebService.getSegments device m).isDone = true ↔
      AccountFits m.user.accountId ∨ ¬ (m.user.getUserId ≠ "0" ∧ device.connected = true) := by
  have hfetch := fetch device m
  generalize WebService.getSegments device m = x at hfetch ⊢
  cases hfetch with
  | idle hidle =>
      refine iff_of_true rfl (.inr fun hgo => ?_)
      rcases hidle with hzero | hoff
      · exact hgo.1 hzero
      · simp [hoff] at hgo
  | issue acc hid hconn hacc => exact iff_of_true rfl (.inl (User.accountFits_of_some hacc))
  | overflow hid hconn hacc =>
      refine iff_of_false Bool.false_ne_true ?_
      rintro (hfits | hnot)
      · exact User.not_accountFits_of_none hacc hfits
      · exact hnot ⟨hid, hconn⟩

namespace Shared

/-- **Every request carries the number of the account**, whichever object issues it. -/
theorem accountNumber_of_issues {s : Shared} (howned : s.Owned) {a : Action} {r : Request}
    (h : s.Issues a r) : r.accountNumber = some s.accountId := by
  have howner : ∀ {i : Nat} {user : User} {acc : UInt32}, s.apps[i]? = some user →
      user.getAccountId = some acc → (acc.toNat : Int) = s.accountId := by
    intro i user acc huser hacc
    rw [User.toNat_getAccountId hacc]
    exact (howned user (List.mem_of_getElem? huser)).1
  cases h with
  | create idAppStore hmissing hconn => exact createUserRequest_accountNumber _ _
  | fetch owner user k acc huser hdue hid hconn hacc =>
      rw [getSegmentsRequest_accountNumber, howner huser hacc]
  | send owner user k v acc huser hsup hid hconn hacc =>
      rw [sendOnBoardingRequest_accountNumber, howner huser hacc]
  | flush owner user acc huser hflag hid hconn hacc =>
      rw [sendOnBoardingRequest_accountNumber, howner huser hacc]
  | named id response p user userId acc hp huser hcall hread hne hconn hacc =>
      rw [getSegmentsRequest_accountNumber, howner huser hacc]

def Survives (s : Shared) (a : Action) : Prop := ∀ x, s.ran a = some x → x.isDone = true

/-- The step is an answer that breaks the handler of a live object. -/
def Unreadable (s : Shared) : Action → Prop
  | .complete id response => ∃ p user, s.posted? id = some p ∧ s.apps[p.owner]? = some user ∧
    response.Breaks p.flight.request.call
  | _ => False

/-- What cannot trap: no number is narrowed that does not fit, and no answer breaks its handler. -/
def CrashSafe (s : Shared) (a : Action) : Prop :=
  (AccountFits s.accountId ∨ ¬ s.Narrows a) ∧ ¬ s.Unreadable a

/-- A public call. Its requests carry the right number anyway, so it is usable if it ends. -/
theorem call_isDone_iff {s : Shared} (howned : s.Owned) {owner : Nat} {user : User}
    (huser : s.apps[owner]? = some user) (c : Call) :
    (c.run s.device (.enter user s.defaults)).isDone = true ↔
      AccountFits s.accountId ∨ ¬ s.Narrows (.call owner c) := by
  have haccount := (howned user (List.mem_of_getElem? huser)).1
  rw [← haccount, ← call_usable_iff huser c]
  constructor
  · intro hdone
    refine ⟨hdone, fun r hr => ?_⟩
    have hmem : r ∈ s.issuedBy (.call owner c) := by
      rw [issuedBy, ran, huser]
      exact hr
    rw [accountNumber_of_issues howned (mem_issuedBy_iff.mp hmem), haccount]
  · exact fun husable => husable.1

/-- A handler. -/
theorem completion_isDone_iff {s : Shared} (howned : s.Owned) {id : Nat} {p : Posted} {user : User}
    (hp : s.posted? id = some p) (huser : s.apps[p.owner]? = some user) (response : DataResponse) :
    (WebService.completion s.device p.flight.request.call response
        (.enter user s.defaults)).isDone = true ↔ s.CrashSafe (.complete id response) := by
  have haccount := (howned user (List.mem_of_getElem? huser)).1
  have hunreadable : s.Unreadable (.complete id response) ↔
      response.Breaks p.flight.request.call := by
    simp [Unreadable, hp, huser]
  rw [CrashSafe, hunreadable]
  cases hcall : p.flight.request.call with
  | createUser =>
      show (createUserCompletion s.device response (.enter user s.defaults)).isDone = true ↔ _
      rw [createUserCompletion_eq, ← readUserId_fatal_iff]
      have hnarrows : s.Narrows (.complete id response) ↔
          ∃ userId, readUserId response = .accepted userId ∧ userId ≠ "0" ∧
            s.device.connected = true := by
        simp [Narrows, hp, huser, hcall]
      rw [hnarrows]
      cases hread : readUserId response with
      | accepted userId =>
          have hends := getSegments_isDone_iff s.device
            (Memory.identify userId (.enter user s.defaults))
          refine hends.trans ?_
          have hnarrow : (∃ userId', Reading.accepted userId = .accepted userId' ∧
              userId' ≠ "0" ∧ s.device.connected = true) ↔
              userId ≠ "0" ∧ s.device.connected = true := by
            simp
          rw [hnarrow, ← haccount]
          exact (and_iff_left (by simp)).symm
      | refused => simp
      | fatal why => simp
  | getSegments =>
      show (getSegmentsCompletion s.device response (.enter user s.defaults)).isDone = true ↔ _
      rw [getSegmentsCompletion_eq, ← readSegments_fatal_iff]
      have hnarrows : ¬ s.Narrows (.complete id response) := by
        simp [Narrows, hp, hcall]
      cases hread : readSegments response with
      | accepted segments => simp [hnarrows]
      | refused => simp [hnarrows]
      | fatal why => simp
  | sendOnBoarding =>
      have hnarrows : ¬ s.Narrows (.complete id response) := by
        simp [Narrows, hp, hcall]
      exact iff_of_true rfl ⟨.inr hnarrows, fun hbreaks => hbreaks⟩

theorem survives_of_not_ran {s : Shared} {a : Action} (h : s.ran a = none) : s.Survives a := by
  intro x hx
  rw [h] at hx
  cases hx

/-- **One step.** The process survives exactly the safe steps. -/
theorem survives_step_iff {s : Shared} (howned : s.Owned) (a : Action) :
    s.Survives a ↔ s.CrashSafe a := by
  unfold Survives
  cases a with
  | construct idAppStore =>
      refine iff_of_true (fun x hx => ?_) ⟨.inr id, id⟩
      cases hx
      rfl
  | call owner c =>
      cases huser : s.apps[owner]? with
      | none =>
          refine iff_of_true (survives_of_not_ran (by rw [ran, huser]; rfl)) ⟨.inr ?_, id⟩
          cases c <;> simp [Narrows, huser]
      | some user =>
          have hcall := call_isDone_iff howned huser c
          simpa [ran, huser, CrashSafe, Unreadable] using hcall
  | complete id response =>
      cases hp : s.posted? id with
      | none =>
          refine iff_of_true (survives_of_not_ran (by rw [ran, hp]; rfl)) ⟨.inr ?_, ?_⟩
          · simp [Narrows, hp]
          · simp [Unreadable, hp]
      | some p =>
          cases huser : s.apps[p.owner]? with
          | none =>
              refine iff_of_true (survives_of_not_ran ?_) ⟨.inr ?_, ?_⟩
              · rw [ran, hp, Option.bind_some, huser]
                rfl
              · simp [Narrows, hp, huser]
              · simp [Unreadable, hp, huser]
          | some user =>
              rw [← completion_isDone_iff howned hp huser response]
              simp [ran, hp, huser]
  | connectivity connected => exact iff_of_true (survives_of_not_ran rfl) ⟨.inr id, id⟩
  | clock now => exact iff_of_true (survives_of_not_ran rfl) ⟨.inr id, id⟩
  | restart => exact iff_of_true (survives_of_not_ran rfl) ⟨.inr id, id⟩

end Shared

/-! ## A number that does not fit -/

section
variable (device : Device) (m : Memory)

/-- Only the handler of `getSegments` writes the date of the segments. -/
theorem spared_dateLastSync : Spared fun m => m.defaults.string "dateLastSync" where
  browsed _ := rfl
  issue _ _ := rfl

theorem Call.dateLastSync_run (c : Call) :
    (c.run device m).memory.defaults.string "dateLastSync" =
      m.defaults.string "dateLastSync" := by
  apply spared_dateLastSync.run device m
  · exact fun status m => UserDefaults.string_set_ne _ _ (by decide)
  · exact fun m => rfl
  · exact fun k v m => UserDefaults.string_set_ne _ _ (by simp)

theorem WebService.dateLastSync_createUserCompletion (response : DataResponse) :
    (createUserCompletion device response m).memory.defaults.string "dateLastSync" =
      m.defaults.string "dateLastSync" := by
  refine spared_dateLastSync.createUserCompletion device m response (fun userId => ?_) rfl
  show (m.defaults.setOptional (some (.string userId)) "NVGSDK_USERID").string _ = _
  exact UserDefaults.string_setOptional_ne _ _ (by decide)

end

namespace Shared

/-- The number does not fit, and nothing but ids was ever asked for. -/
structure Useless (s : Shared) : Prop where
  owned : s.Owned
  unfit : ¬ AccountFits s.accountId
  asked : ∀ p ∈ s.inFlight, p.flight.request.call = .createUser
  unsynced : s.defaults.string "dateLastSync" = none

namespace Useless

variable {s : Shared} (h : s.Useless)
include h

theorem getAccountId_eq_none {i : Nat} {user : User} (huser : s.apps[i]? = some user) :
    user.getAccountId = none := by
  cases hacc : user.getAccountId with
  | none => rfl
  | some acc =>
      have hfits := User.accountFits_of_some hacc
      rw [(h.owned user (List.mem_of_getElem? huser)).1] at hfits
      exact absurd hfits h.unfit

/-- Only requests for an id are made without the narrowed number. -/
theorem call_of_issues {a : Action} {r : Request} (hissues : s.Issues a r) :
    r.call = .createUser := by
  cases hissues with
  | create idAppStore hmissing hconn => rfl
  | fetch owner user k acc huser hdue hid hconn hacc =>
      rw [h.getAccountId_eq_none huser] at hacc
      cases hacc
  | send owner user k v acc huser hsup hid hconn hacc =>
      rw [h.getAccountId_eq_none huser] at hacc
      cases hacc
  | flush owner user acc huser hflag hid hconn hacc =>
      rw [h.getAccountId_eq_none huser] at hacc
      cases hacc
  | named id response p user userId acc hp huser hcall hread hne hconn hacc =>
      rw [h.getAccountId_eq_none huser] at hacc
      cases hacc

theorem step (a : Action) : (s.step a).Useless := by
  constructor
  case owned => exact h.owned.step a
  case unfit =>
    rw [step_accountId]
    exact h.unfit
  case asked =>
    intro p hp
    obtain hold | ⟨-, hnew⟩ := mem_inFlight_step hp
    · exact h.asked p hold
    · exact h.call_of_issues hnew
  case unsynced =>
    apply defaults_step (P := fun d => d.string "dateLastSync" = none) h.unsynced a
    · intro idAppStore
      have hreaders := registered_readers s.accountId idAppStore s.defaults "dateLastSync"
        (by decide) (by decide) (by decide)
      exact hreaders.1.trans h.unsynced
    · rintro owner c user rfl
      exact (Call.dateLastSync_run s.device (.enter user s.defaults) c).trans h.unsynced
    · rintro id response p user rfl hp
      rw [h.asked p (List.mem_of_find?_eq_some hp)]
      have hkept := dateLastSync_createUserCompletion s.device (.enter user s.defaults) response
      exact hkept.trans h.unsynced

/-- A refresh is due, so the number is narrowed. -/
theorem not_survives_getSegments {owner : Nat} {user : User} (huser : s.apps[owner]? = some user)
    (hid : user.getUserId ≠ "0") (hconn : s.device.connected = true) (k : String) :
    ¬ s.Survives (.call owner (.getSegments k)) := by
  rw [survives_step_iff h.owned]
  rintro ⟨hfits | hnot, -⟩
  · exact h.unfit hfits
  · refine hnot ⟨user, huser, ?_, hid, hconn⟩
    unfold User.refreshDue
    rw [h.unsynced]

end Useless

/-- **A number that does not fit is never good for anything.** In every run of any number of objects,
nothing but ids is asked for, and whoever calls `getSegments` on an object with an id, while
connected, ends the process: in this process and in every later one. -/
theorem unfit_account (accountId : Int) (hunfit : ¬ AccountFits accountId) (device : Device)
    (actions : List Action) :
    Runs.Each step (fun s a => (∀ r ∈ s.issuedBy a, r.call = .createUser) ∧
        ∀ owner user k, a = .call owner (.getSegments k) → s.apps[owner]? = some user →
          user.getUserId ≠ "0" → s.device.connected = true → ¬ s.Survives a)
      (installed accountId device) actions := by
  refine Runs.each_of_invariant (I := Useless) ?_ (fun s a h => h.step a) ?_ actions
  · exact ⟨owned_installed accountId device, hunfit, by simp [installed], rfl⟩
  · intro s a h
    refine ⟨fun r hr => h.call_of_issues (mem_issuedBy_iff.mp hr), ?_⟩
    rintro owner user k rfl huser hid hconn
    exact h.not_survives_getSegments huser hid hconn k

/-- The id arrives and ends the process; so does the first call of the next one. -/
theorem unfit_account_negative :
    Runs.Each step (fun s a => (∀ r ∈ s.issuedBy a, r.call = .createUser) ∧
        ∀ owner user k, a = .call owner (.getSegments k) → s.apps[owner]? = some user →
          user.getUserId ≠ "0" → s.device.connected = true → ¬ s.Survives a)
      (installed (-1) (.phone 1700000000))
      [.construct none, .complete 0 (named "u1"), .construct none,
        .call 0 (.getSegments "gender")] :=
  unfit_account (-1) (by decide) _ _

end Shared
