import NaveggSdk.Answers.Malformed
import NaveggSdk.Delivery.Partition
import NaveggSdk.Library.Runs
import NaveggSdk.System.Objects

/-!
# The account number in the requests

`NaveggApi.init` takes any `Int` for the account, and `createUser` sends it as it is. The two other
requests narrow it to a `UInt32`, which traps where it does not fit. The narrowing is far from the
constructor: an id must have arrived, the device must be online, and there must be something to ask
or to send (`Narrows`). `step_usable_iff` says that this is the only way for a number to be of no
use, and `account_usable_iff` lifts it to runs of any number of objects.
-/

open WebService NaveggApi

def Parameter.number? : Parameter → Option Int
  | .int n => some n
  | .uint32 n => some n.toNat
  | _ => none

def Request.accountNumber (r : Request) : Option Int :=
  match r.call with
  | .createUser | .getSegments => (r.parameters.lookup "acc").bind Parameter.number?
  | .sendOnBoarding => (r.parameters.lookup "prtid").bind Parameter.number?

/-- The narrowed number is the number. -/
theorem User.toNat_getAccountId {user : User} {acc : UInt32} (h : user.getAccountId = some acc) :
    (acc.toNat : Int) = user.accountId := by
  obtain ⟨hlow, hhigh⟩ := User.accountFits_of_some h
  have hacc : acc = UInt32.ofNat user.accountId.toNat := by
    rw [User.getAccountId, if_pos ⟨hlow, hhigh⟩, Option.some.injEq] at h
    exact h.symm
  rw [hacc, UInt32.toNat_ofNat']
  omega

theorem createUserRequest_accountNumber (device : Device) (acc : Int) :
    (createUserRequest device acc).accountNumber = some acc := by
  simp [Request.accountNumber, createUserRequest, Parameter.number?]

theorem getSegmentsRequest_accountNumber (acc : UInt32) (userId : String)
    (onBoarding : Dictionary String String) :
    (getSegmentsRequest acc userId onBoarding).accountNumber = some (acc.toNat : Int) := by
  show ((getSegmentsRequest acc userId onBoarding).parameters.lookup "acc").bind _ = _
  rw [(agrees acc userId onBoarding).acc]
  rfl

theorem sendOnBoardingRequest_accountNumber (acc : UInt32) (userId : String)
    (onBoarding : Dictionary String String) :
    (sendOnBoardingRequest acc userId onBoarding).accountNumber = some (acc.toNat : Int) := by
  show ((sendOnBoardingRequest acc userId onBoarding).parameters.lookup "prtid").bind _ = _
  rw [(partitioned acc userId onBoarding).prtid]
  rfl

/-! ## One piece of code -/

/-- The code ends, and all its requests carry the account number. -/
def Outcome.Usable {α : Type} (x : Outcome α) (accountId : Int) : Prop :=
  x.isDone = true ∧ ∀ r ∈ x.memory.requests, r.accountNumber = some accountId

namespace Outcome.Usable

variable {device : Device} {m : Memory}

/-- Code that ends without a request. -/
theorem of_silent {accountId : Int} (h : m.requests = []) :
    (Outcome.done () m).Usable accountId :=
  ⟨rfl, by simp [h]⟩

theorem of_issue {accountId : Int} {r : Request} (h : m.requests = [])
    (hr : r.accountNumber = some accountId) : (Outcome.done () (m.issue r)).Usable accountId := by
  refine ⟨rfl, fun r' hr' => ?_⟩
  have heq : r' = r := by simpa [Memory.issue, h] using hr'
  rw [heq, hr]

theorem not_trap {accountId : Int} {why : Trap} :
    ¬ (Outcome.trap why m : Outcome Unit).Usable accountId :=
  fun h => Bool.false_ne_true h.1

/-- **Asking for segments.** -/
theorem getSegments_iff (h : m.requests = []) :
    (WebService.getSegments device m).Usable m.user.accountId ↔
      AccountFits m.user.accountId ∨ ¬ (m.user.getUserId ≠ "0" ∧ device.connected = true) := by
  have hfetch := fetch device m
  generalize WebService.getSegments device m = x at hfetch ⊢
  cases hfetch with
  | idle hidle =>
      refine iff_of_true (of_silent h) (.inr fun hgo => ?_)
      rcases hidle with hzero | hoff
      · exact hgo.1 hzero
      · simp [hoff] at hgo
  | issue acc hid hconn hacc =>
      refine iff_of_true (of_issue h ?_) (.inl (User.accountFits_of_some hacc))
      rw [getSegmentsRequest_accountNumber, User.toNat_getAccountId hacc]
  | overflow hid hconn hacc =>
      refine iff_of_false not_trap ?_
      rintro (hfits | hnot)
      · exact User.not_accountFits_of_none hacc hfits
      · exact hnot ⟨hid, hconn⟩

/-- **Sending the onboarding map.** -/
theorem sendOnBoarding_iff (onBoarding : OnBoarding) (h : m.requests = []) :
    (WebService.sendOnBoarding device onBoarding m).Usable m.user.accountId ↔
      AccountFits m.user.accountId ∨ ¬ (m.user.getUserId ≠ "0" ∧ device.connected = true) := by
  have hsend := send device onBoarding m
  generalize WebService.sendOnBoarding device onBoarding m = x at hsend ⊢
  cases hsend with
  | missing hid => exact iff_of_true (of_silent h) (.inr fun hgo => hgo.1 hid)
  | offline hid hconn =>
      exact iff_of_true (of_silent h) (.inr fun hgo => by simp [hconn] at hgo)
  | issue acc hid hconn hacc =>
      refine iff_of_true (of_issue h ?_) (.inl (User.accountFits_of_some hacc))
      rw [sendOnBoardingRequest_accountNumber, User.toNat_getAccountId hacc]
  | overflow hid hconn hacc =>
      refine iff_of_false not_trap ?_
      rintro (hfits | hnot)
      · exact User.not_accountFits_of_none hacc hfits
      · exact hnot ⟨hid, hconn⟩

end Outcome.Usable

/-! ## One step -/

namespace Shared

def StepUsable (s : Shared) (a : Action) : Prop := ∀ x, s.ran a = some x → x.Usable s.accountId

/-- An answer that its handler can read: a failure, or a body of the right shape. (The handler of
`sendOnBoarding` reads any answer.) -/
def WellFormed (s : Shared) : Action → Prop
  | .complete id response => ∀ p, s.posted? id = some p →
    match p.flight.request.call with
    | .createUser => response.responseJSON true = .failure ∨ response.WellShaped .createUser
    | .getSegments => response.responseJSON false = .failure ∨ response.WellShaped .getSegments
    | .sendOnBoarding => True
  | _ => True

/-- The steps that narrow the account number: there is an id and a connection, and

* `getSegments` is called when a refresh is due,
* `setOnboarding` is called with a pair that is not suppressed,
* the map is sent in the background with the flag up, or
* an answer of `createUser` brings the id, which is followed by a fetch. -/
def Narrows (s : Shared) : Action → Prop
  | .call owner (.getSegments _) => ∃ user, s.apps[owner]? = some user ∧
    User.refreshDue s.device s.defaults = true ∧ user.getUserId ≠ "0" ∧ s.device.connected = true
  | .call owner (.setOnboarding k v) => ∃ user, s.apps[owner]? = some user ∧
    suppresses s.device k v (.enter user s.defaults) = false ∧ user.getUserId ≠ "0" ∧
      s.device.connected = true
  | .call owner .sendDataSaveInDefault => ∃ user, s.apps[owner]? = some user ∧
    s.defaults.bool "toSendOnBoarding" = true ∧ user.getUserId ≠ "0" ∧ s.device.connected = true
  | .complete id response => ∃ p user userId, s.posted? id = some p ∧ s.apps[p.owner]? = some user ∧
    p.flight.request.call = .createUser ∧ readUserId response = .accepted userId ∧ userId ≠ "0" ∧
      s.device.connected = true
  | _ => False

variable {s : Shared}

/-- A public call of one of the objects. -/
theorem call_usable_iff {user : User} {owner : Nat} (huser : s.apps[owner]? = some user)
    (c : Call) :
    (c.run s.device (.enter user s.defaults)).Usable user.accountId ↔
      AccountFits user.accountId ∨ ¬ s.Narrows (.call owner c) := by
  cases c with
  | getSegments k =>
      have hnarrows : s.Narrows (.call owner (.getSegments k)) ↔
          User.refreshDue s.device s.defaults = true ∧ user.getUserId ≠ "0" ∧
            s.device.connected = true := by
        simp [Narrows, huser]
      rw [Call.run_getSegments, hnarrows, Memory.enter_defaults]
      by_cases hdue : User.refreshDue s.device s.defaults = true
      · rw [if_pos hdue]
        simp only [hdue, true_and]
        exact Outcome.Usable.getSegments_iff (m := User.browsed (.enter user s.defaults)) rfl
      · rw [if_neg hdue]
        exact iff_of_true (.of_silent rfl) (.inr fun h => hdue h.1)
  | setOnboarding k v =>
      have hnarrows : s.Narrows (.call owner (.setOnboarding k v)) ↔
          suppresses s.device k v (.enter user s.defaults) = false ∧ user.getUserId ≠ "0" ∧
            s.device.connected = true := by
        simp [Narrows, huser]
      show (setOnboarding s.device k v (.enter user s.defaults)).Usable _ ↔ _
      rw [setOnboarding_eq, hnarrows]
      by_cases hsup : suppresses s.device k v (.enter user s.defaults) = true
      · rw [if_pos hsup]
        exact iff_of_true (.of_silent rfl) (.inr fun h => by simp [hsup] at h)
      · rw [if_neg hsup]
        simp only [Bool.not_eq_true] at hsup
        simp only [hsup, true_and]
        exact Outcome.Usable.sendOnBoarding_iff (m := store k v (.enter user s.defaults)) _ rfl
  | sendDataSaveInDefault =>
      have hnarrows : s.Narrows (.call owner .sendDataSaveInDefault) ↔
          s.defaults.bool "toSendOnBoarding" = true ∧ user.getUserId ≠ "0" ∧
            s.device.connected = true := by
        simp [Narrows, huser]
      show (User.sendDataSaveInDefault s.device (.enter user s.defaults)).Usable _ ↔ _
      rw [User.sendDataSaveInDefault_eq, hnarrows, Memory.enter_defaults]
      by_cases hgo : (s.device.connected && s.defaults.bool "toSendOnBoarding") = true
      · rw [if_pos hgo]
        obtain ⟨hconn, hflag⟩ := Bool.and_eq_true_iff.mp hgo
        simp only [hflag, true_and]
        exact Outcome.Usable.sendOnBoarding_iff (m := .enter user s.defaults) _ rfl
      · rw [if_neg hgo]
        refine iff_of_true (.of_silent rfl) (.inr fun h => hgo ?_)
        rw [h.1, h.2.2]
        rfl

/-- What a handler that can read its answer makes of it. -/
theorem readUserId_of_wellFormed {response : DataResponse}
    (h : response.responseJSON true = .failure ∨ response.WellShaped .createUser) :
    ∀ why, readUserId response ≠ .fatal why := by
  intro why
  rcases h with hfail | ⟨data, json, hdata, hjson, fields, userId, hobject, hlookup⟩
  · simp [readUserId, hfail]
  · unfold readUserId
    cases response.responseJSON true with
    | failure => simp
    | success => simp [hdata, hjson, hobject, hlookup, JSON.asString]

theorem readSegments_of_wellFormed {response : DataResponse}
    (h : response.responseJSON false = .failure ∨ response.WellShaped .getSegments) :
    ∀ why, readSegments response ≠ .fatal why := by
  intro why
  rcases h with hfail | ⟨data, json, hdata, hjson, segments, hshape⟩
  · simp [readSegments, hfail]
  · unfold readSegments
    cases response.responseJSON false with
    | failure => simp
    | success => simp [hdata, hjson, hshape]

/-- A handler of one of the objects, with an answer it can read. -/
theorem complete_usable_iff {user : User} {p : Posted} {id : Nat} {response : DataResponse}
    (hp : s.posted? id = some p) (huser : s.apps[p.owner]? = some user)
    (hformed : s.WellFormed (.complete id response)) :
    (WebService.completion s.device p.flight.request.call response
        (.enter user s.defaults)).Usable user.accountId ↔
      AccountFits user.accountId ∨ ¬ s.Narrows (.complete id response) := by
  have hread := hformed p hp
  cases hcall : p.flight.request.call with
  | createUser =>
      rw [hcall] at hread
      have hnarrows : s.Narrows (.complete id response) ↔
          ∃ userId, readUserId response = .accepted userId ∧ userId ≠ "0" ∧
            s.device.connected = true := by
        simp [Narrows, hp, huser, hcall]
      show (createUserCompletion s.device response (.enter user s.defaults)).Usable _ ↔ _
      rw [createUserCompletion_eq, hnarrows]
      cases hreading : readUserId response with
      | accepted userId =>
          have hreaches : (∃ userId', Reading.accepted userId = .accepted userId' ∧
              userId' ≠ "0" ∧ s.device.connected = true) ↔
              userId ≠ "0" ∧ s.device.connected = true := by
            simp
          rw [hreaches]
          exact Outcome.Usable.getSegments_iff
            (m := Memory.identify userId (.enter user s.defaults)) rfl
      | refused => exact iff_of_true (.of_silent rfl) (.inr (by simp))
      | fatal why => exact absurd hreading (readUserId_of_wellFormed hread why)
  | getSegments =>
      rw [hcall] at hread
      have hnarrows : ¬ s.Narrows (.complete id response) := by
        simp [Narrows, hp, hcall]
      show (getSegmentsCompletion s.device response (.enter user s.defaults)).Usable _ ↔ _
      rw [getSegmentsCompletion_eq]
      cases hreading : readSegments response with
      | accepted segments => exact iff_of_true (.of_silent rfl) (.inr hnarrows)
      | refused => exact iff_of_true (.of_silent rfl) (.inr hnarrows)
      | fatal why => exact absurd hreading (readSegments_of_wellFormed hread why)
  | sendOnBoarding =>
      have hnarrows : ¬ s.Narrows (.complete id response) := by
        simp [Narrows, hp, hcall]
      show (Outcome.done () (sendOnBoardingCompletion s.device response
        (.enter user s.defaults))).Usable _ ↔ _
      rw [sendOnBoardingCompletion_eq]
      cases recordsSuccess response with
      | true => exact iff_of_true (.of_silent rfl) (.inr hnarrows)
      | false => exact iff_of_true (.of_silent rfl) (.inr hnarrows)

/-- **A step is usable unless it narrows a number that does not fit.** -/
theorem step_usable_iff (howned : s.Owned) {a : Action} (hformed : s.WellFormed a) :
    s.StepUsable a ↔ AccountFits s.accountId ∨ ¬ s.Narrows a := by
  unfold StepUsable
  cases a with
  | construct idAppStore =>
      refine iff_of_true (fun x hx => ?_) (.inr id)
      cases hx
      rw [init_eq]
      refine ⟨rfl, fun r hr => ?_⟩
      by_cases hask : (missing s.defaults && s.device.connected) = true
      · have heq : r = createUserRequest s.device s.accountId := by simpa [hask] using hr
        rw [heq, createUserRequest_accountNumber]
      · simp [hask] at hr
  | call owner c =>
      cases huser : s.apps[owner]? with
      | none =>
          refine iff_of_true (fun x hx => ?_) (.inr ?_)
          · simp [ran, huser] at hx
          · cases c <;> simp [Narrows, huser]
      | some user =>
          have haccount := (howned user (List.mem_of_getElem? huser)).1
          rw [← haccount, ← call_usable_iff huser c]
          simp [ran, huser]
  | complete id response =>
      cases hp : s.posted? id with
      | none =>
          refine iff_of_true (fun x hx => ?_) (.inr ?_)
          · simp [ran, hp] at hx
          · simp [Narrows, hp]
      | some p =>
          cases huser : s.apps[p.owner]? with
          | none =>
              refine iff_of_true (fun x hx => ?_) (.inr ?_)
              · simp [ran, hp, huser] at hx
              · simp [Narrows, hp, huser]
          | some user =>
              have haccount := (howned user (List.mem_of_getElem? huser)).1
              rw [← haccount, ← complete_usable_iff hp huser hformed]
              simp [ran, hp, huser]
  | connectivity connected => exact iff_of_true (fun x hx => by cases hx) (.inr id)
  | clock now => exact iff_of_true (fun x hx => by cases hx) (.inr id)
  | restart => exact iff_of_true (fun x hx => by cases hx) (.inr id)

/-! ## Every run -/

/-- **An account number can be used in exactly the runs that never narrow it, unless it fits.** -/
theorem account_usable_iff (accountId : Int) (device : Device) (actions : List Action)
    (hformed : Runs.Each step WellFormed (installed accountId device) actions) :
    Runs.Each step StepUsable (installed accountId device) actions ↔
      Runs.Each step (fun s a => AccountFits accountId ∨ ¬ s.Narrows a)
        (installed accountId device) actions := by
  apply Runs.each_iff_each_of (I := fun s => s.Owned ∧ s.accountId = accountId)
  · exact ⟨owned_installed accountId device, rfl⟩
  · exact hformed
  · rintro s a ⟨howned, rfl⟩ hformed
    exact step_usable_iff howned hformed
  · rintro s a ⟨howned, rfl⟩ _
    exact ⟨howned.step a, step_accountId s a⟩

/-- An answer that names a user can be read by every handler. -/
theorem wellFormed_named (s : Shared) (id : Nat) (userId : String) :
    s.WellFormed (.complete id (named userId)) := by
  intro p _
  cases p.flight.request.call with
  | createUser => exact .inr ⟨_, _, rfl, rfl, _, userId, rfl, rfl⟩
  | getSegments => exact .inr ⟨_, _, rfl, rfl, _, rfl⟩
  | sendOnBoarding => trivial

def identified : List Action := [.construct none, .complete 0 (named "u1")]

theorem wellFormed_identified (accountId : Int) (device : Device) :
    Runs.Each step WellFormed (installed accountId device) identified :=
  ⟨trivial, wellFormed_named _ _ _, trivial⟩

theorem account_usable_iff_identified :
    Runs.Each step WellFormed (installed 7 (.phone 1700000000)) identified ∧
      (Runs.Each step StepUsable (installed 7 (.phone 1700000000)) identified ↔
        Runs.Each step (fun s a => AccountFits 7 ∨ ¬ s.Narrows a)
          (installed 7 (.phone 1700000000)) identified) :=
  ⟨wellFormed_identified 7 _, account_usable_iff 7 _ _ (wellFormed_identified 7 _)⟩

/-- The number after the last `UInt32` is accepted, and the first answer ends the process. -/
theorem account_traps :
    Runs.Each step WellFormed (installed 4294967296 (.phone 1700000000)) identified ∧
      ¬ Runs.Each step StepUsable (installed 4294967296 (.phone 1700000000)) identified := by
  refine ⟨wellFormed_identified _ _, ?_⟩
  rintro ⟨-, husable, -⟩
  have htrap : ((step (installed 4294967296 (.phone 1700000000)) (.construct none)).ran
      (.complete 0 (named "u1"))).map Outcome.isDone = some false := by
    decide +kernel
  obtain ⟨x, hran, hdone⟩ := Option.map_eq_some_iff.mp htrap
  have hends := (husable x hran).1
  rw [hdone] at hends
  exact absurd hends Bool.false_ne_true

end Shared
