import NaveggSdk.System.Objects
import NaveggSdk.System.Step

/-!
# Which steps issue requests

A step of any number of objects runs code of one of them (`actor`) and issues at most one request.
`Issues` lists the five ways this can happen, with everything that was checked on the way and with
the request itself, and `mem_issuedBy_iff` says that the list is complete and exact. What is known
of the requests of a run follows from it by looking at five cases.
-/

open WebService NaveggApi

/-! ## The two methods that issue requests with an id -/

section
variable {device : Device} {m : Memory} {acc : UInt32} (hid : m.user.getUserId ≠ "0")
  (hconn : device.connected = true) (hacc : m.user.getAccountId = some acc)
include hid hconn hacc

theorem WebService.getSegments_issue :
    WebService.getSegments device m =
      .done () (m.issue
        (getSegmentsRequest acc m.user.getUserId m.user.onBoarding.valueData)) := by
  unfold WebService.getSegments
  rw [if_neg hid, if_pos (show Util.isConnectedInternet device = true from hconn), hacc]
  rfl

theorem WebService.sendOnBoarding_issue (onBoarding : OnBoarding) :
    WebService.sendOnBoarding device onBoarding m =
      .done () (m.issue
        (sendOnBoardingRequest acc m.user.getUserId onBoarding.valueData)) := by
  unfold WebService.sendOnBoarding
  rw [if_neg hid, if_pos (show Util.isConnectedInternet device = true from hconn), hacc]
  rfl

end

namespace Shared

def actor (s : Shared) : Action → Option Nat
  | .construct _ => some s.apps.length
  | .call owner _ => some owner
  | .complete id _ => (s.posted? id).map (·.owner)
  | .connectivity _ | .clock _ | .restart => none

def issuedBy (s : Shared) (a : Action) : List Request := (s.ran a).elim [] (·.memory.requests)

inductive Issues (s : Shared) : Action → Request → Prop
  /-- A new object finds no id. -/
  | create (idAppStore : Option Int) (hmissing : missing s.defaults = true)
      (hconn : s.device.connected = true) :
      Issues s (.construct idAppStore) (createUserRequest s.device s.accountId)
  /-- `getSegments` finds a refresh due. -/
  | fetch (owner : Nat) (user : User) (k : String) (acc : UInt32)
      (huser : s.apps[owner]? = some user)
      (hdue : User.refreshDue s.device s.defaults = true) (hid : user.getUserId ≠ "0")
      (hconn : s.device.connected = true) (hacc : user.getAccountId = some acc) :
      Issues s (.call owner (.getSegments k))
        (getSegmentsRequest acc user.getUserId user.onBoarding.valueData)
  /-- `setOnboarding` stores a pair. -/
  | send (owner : Nat) (user : User) (k v : String) (acc : UInt32)
      (huser : s.apps[owner]? = some user)
      (hsup : suppresses s.device k v (.enter user s.defaults) = false)
      (hid : user.getUserId ≠ "0") (hconn : s.device.connected = true)
      (hacc : user.getAccountId = some acc) :
      Issues s (.call owner (.setOnboarding k v))
        (sendOnBoardingRequest acc user.getUserId
          (store k v (.enter user s.defaults)).user.onBoarding.valueData)
  /-- `sendDataSaveInDefault` finds the flag up. -/
  | flush (owner : Nat) (user : User) (acc : UInt32) (huser : s.apps[owner]? = some user)
      (hflag : s.defaults.bool "toSendOnBoarding" = true) (hid : user.getUserId ≠ "0")
      (hconn : s.device.connected = true) (hacc : user.getAccountId = some acc) :
      Issues s (.call owner .sendDataSaveInDefault)
        (sendOnBoardingRequest acc user.getUserId user.onBoarding.valueData)
  /-- The handler of `createUser` accepts an id. -/
  | named (id : Nat) (response : DataResponse) (p : Posted) (user : User) (userId : String)
      (acc : UInt32) (hp : s.posted? id = some p) (huser : s.apps[p.owner]? = some user)
      (hcall : p.flight.request.call = .createUser)
      (hread : readUserId response = .accepted userId) (hne : userId ≠ "0")
      (hconn : s.device.connected = true) (hacc : user.getAccountId = some acc) :
      Issues s (.complete id response)
        (getSegmentsRequest acc userId user.onBoarding.valueData)

/-! ## The list is complete -/

/-- The code of the step issues nothing, or one of the listed requests. -/
def Listed (s : Shared) (a : Action) (requests : List Request) : Prop :=
  requests = [] ∨ ∃ r, requests = [r] ∧ s.Issues a r

theorem listed_call {s : Shared} {owner : Nat} {user : User} (huser : s.apps[owner]? = some user)
    (c : Call) :
    s.Listed (.call owner c) (c.run s.device (.enter user s.defaults)).memory.requests := by
  cases c with
  | getSegments k =>
      rw [Call.run_getSegments, Memory.enter_defaults]
      cases hdue : User.refreshDue s.device s.defaults with
      | false => exact .inl rfl
      | true =>
          rw [if_pos rfl]
          have hfetch := fetch s.device (User.browsed (.enter user s.defaults))
          generalize WebService.getSegments s.device (User.browsed (.enter user s.defaults)) = x
            at hfetch ⊢
          cases hfetch with
          | idle hidle => exact .inl rfl
          | overflow hid hconn hacc => exact .inl rfl
          | issue acc hid hconn hacc =>
              exact .inr ⟨_, rfl, .fetch owner user k acc huser hdue hid hconn hacc⟩
  | setOnboarding k v =>
      show s.Listed _ (setOnboarding s.device k v (.enter user s.defaults)).memory.requests
      rw [setOnboarding_eq]
      cases hsup : suppresses s.device k v (.enter user s.defaults) with
      | true => exact .inl rfl
      | false =>
          rw [if_neg Bool.false_ne_true]
          have hsend := WebService.send s.device
            (store k v (.enter user s.defaults)).user.onBoarding
            (store k v (.enter user s.defaults))
          generalize WebService.sendOnBoarding s.device
            (store k v (.enter user s.defaults)).user.onBoarding
            (store k v (.enter user s.defaults)) = x at hsend ⊢
          cases hsend with
          | missing hid => exact .inl rfl
          | offline hid hconn => exact .inl rfl
          | overflow hid hconn hacc => exact .inl rfl
          | issue acc hid hconn hacc =>
              exact .inr ⟨_, rfl, .send owner user k v acc huser hsup hid hconn hacc⟩
  | sendDataSaveInDefault =>
      show s.Listed _ (User.sendDataSaveInDefault s.device (.enter user s.defaults)).memory.requests
      rw [User.sendDataSaveInDefault_eq, Memory.enter_defaults]
      by_cases hgo : (s.device.connected && s.defaults.bool "toSendOnBoarding") = true
      · rw [if_pos hgo]
        obtain ⟨hconn, hflag⟩ := Bool.and_eq_true_iff.mp hgo
        rw [Memory.enter_user]
        have hsend := WebService.send s.device user.onBoarding (.enter user s.defaults)
        generalize WebService.sendOnBoarding s.device user.onBoarding (.enter user s.defaults) = x
          at hsend ⊢
        cases hsend with
        | missing hid => exact .inl rfl
        | offline hid hconn => exact .inl rfl
        | overflow hid hconn hacc => exact .inl rfl
        | issue acc hid hconn hacc =>
            exact .inr ⟨_, rfl, .flush owner user acc huser hflag hid hconn hacc⟩
      · rw [if_neg hgo]
        exact .inl rfl

theorem listed_complete {s : Shared} {id : Nat} {p : Posted} {user : User}
    (hp : s.posted? id = some p) (huser : s.apps[p.owner]? = some user) (response : DataResponse) :
    s.Listed (.complete id response) (WebService.completion s.device p.flight.request.call response
      (.enter user s.defaults)).memory.requests := by
  cases hcall : p.flight.request.call with
  | createUser =>
      show s.Listed _ (createUserCompletion s.device response
        (.enter user s.defaults)).memory.requests
      rw [createUserCompletion_eq]
      cases hread : readUserId response with
      | refused => exact .inl rfl
      | fatal why => exact .inl rfl
      | accepted userId =>
          have hfetch := fetch s.device (Memory.identify userId (.enter user s.defaults))
          show s.Listed _ (WebService.getSegments s.device
            (Memory.identify userId (.enter user s.defaults))).memory.requests
          generalize WebService.getSegments s.device
            (Memory.identify userId (.enter user s.defaults)) = x at hfetch ⊢
          cases hfetch with
          | idle hidle => exact .inl rfl
          | overflow hid hconn hacc => exact .inl rfl
          | issue acc hid hconn hacc =>
              exact .inr ⟨_, rfl,
                .named id response p user userId acc hp huser hcall hread hid hconn hacc⟩
  | getSegments =>
      show s.Listed _ (getSegmentsCompletion s.device response
        (.enter user s.defaults)).memory.requests
      rw [getSegmentsCompletion_eq]
      cases readSegments response <;> exact .inl rfl
  | sendOnBoarding =>
      show s.Listed _ (sendOnBoardingCompletion s.device response
        (.enter user s.defaults)).requests
      rw [sendOnBoardingCompletion_eq]
      cases recordsSuccess response <;> exact .inl rfl

/-- **A step issues nothing, or one of the listed requests.** -/
theorem listed_step (s : Shared) (a : Action) : s.Listed a (s.issuedBy a) := by
  unfold issuedBy
  cases a with
  | construct idAppStore =>
      simp only [ran, Option.elim_some, Outcome.memory_done, init_eq]
      by_cases hask : (missing s.defaults && s.device.connected) = true
      · obtain ⟨hmissing, hconn⟩ := Bool.and_eq_true_iff.mp hask
        rw [if_pos hask]
        exact .inr ⟨_, rfl, .create idAppStore hmissing hconn⟩
      · rw [if_neg hask]
        exact .inl rfl
  | call owner c =>
      cases huser : s.apps[owner]? with
      | none =>
          simp only [ran, huser]
          exact .inl rfl
      | some user =>
          simp only [ran, huser]
          exact listed_call huser c
  | complete id response =>
      cases hp : s.posted? id with
      | none =>
          simp only [ran, hp]
          exact .inl rfl
      | some p =>
          cases huser : s.apps[p.owner]? with
          | none =>
              simp only [ran, hp, Option.bind_some, huser]
              exact .inl rfl
          | some user =>
              simp only [ran, hp, Option.bind_some, huser]
              exact listed_complete hp huser response
  | connectivity connected => exact .inl rfl
  | clock now => exact .inl rfl
  | restart => exact .inl rfl

/-- A step that issues a listed request runs to its end and issues nothing else. -/
theorem ran_of_issues {s : Shared} {a : Action} {r : Request} (h : s.Issues a r) :
    ∃ m, s.ran a = some (.done () m) ∧ m.requests = [r] := by
  cases h with
  | create idAppStore hmissing hconn =>
      refine ⟨_, rfl, ?_⟩
      rw [init_eq, hmissing, hconn]
      rfl
  | fetch owner user k acc huser hdue hid hconn hacc =>
      refine ⟨(User.browsed (.enter user s.defaults)).issue
        (getSegmentsRequest acc user.getUserId user.onBoarding.valueData), ?_, rfl⟩
      rw [ran, huser, Option.map_some, Call.run_getSegments, Memory.enter_defaults, if_pos hdue]
      exact congrArg some
        (getSegments_issue (m := User.browsed (.enter user s.defaults)) hid hconn hacc)
  | send owner user k v acc huser hsup hid hconn hacc =>
      refine ⟨(store k v (.enter user s.defaults)).issue (sendOnBoardingRequest acc user.getUserId
        (store k v (.enter user s.defaults)).user.onBoarding.valueData), ?_, rfl⟩
      rw [ran, huser, Option.map_some]
      show some (setOnboarding s.device k v (.enter user s.defaults)) = _
      rw [setOnboarding_eq, hsup, if_neg Bool.false_ne_true]
      exact congrArg some
        (sendOnBoarding_issue (m := store k v (.enter user s.defaults)) hid hconn hacc _)
  | flush owner user acc huser hflag hid hconn hacc =>
      refine ⟨(Memory.enter user s.defaults).issue
        (sendOnBoardingRequest acc user.getUserId user.onBoarding.valueData), ?_, rfl⟩
      rw [ran, huser, Option.map_some]
      show some (User.sendDataSaveInDefault s.device (.enter user s.defaults)) = _
      rw [User.sendDataSaveInDefault_eq, Memory.enter_defaults, hconn, hflag, Bool.and_self,
        if_pos rfl]
      exact congrArg some
        (sendOnBoarding_issue (m := .enter user s.defaults) hid hconn hacc user.onBoarding)
  | named id response p user userId acc hp huser hcall hread hne hconn hacc =>
      refine ⟨(Memory.identify userId (.enter user s.defaults)).issue
        (getSegmentsRequest acc userId user.onBoarding.valueData), ?_, rfl⟩
      rw [ran, hp, Option.bind_some, huser, Option.map_some, hcall]
      show some (createUserCompletion s.device response (.enter user s.defaults)) = _
      rw [createUserCompletion_eq, hread]
      exact congrArg some
        (getSegments_issue (m := Memory.identify userId (.enter user s.defaults)) hne hconn hacc)

/-- **The list is complete and exact**, and no step issues two requests. -/
theorem mem_issuedBy_iff {s : Shared} {a : Action} {r : Request} :
    r ∈ s.issuedBy a ↔ s.Issues a r := by
  constructor
  · intro hr
    obtain hnil | ⟨r', hone, hissues⟩ := s.listed_step a
    · rw [hnil] at hr
      cases hr
    · rw [hone, List.mem_singleton] at hr
      rwa [hr]
  · intro h
    obtain ⟨m, hran, hm⟩ := ran_of_issues h
    simp [issuedBy, hran, hm]

/-! ## The state after a step -/

/-- What is in flight after a step was so before, or was issued by the actor of the step. -/
theorem mem_inFlight_step {s : Shared} {a : Action} {p : Posted} (h : p ∈ (s.step a).inFlight) :
    p ∈ s.inFlight ∨ s.actor a = some p.owner ∧ s.Issues a p.flight.request := by
  rw [← mem_issuedBy_iff]
  cases a with
  | construct idAppStore =>
      obtain hold | ⟨howner, -, hr⟩ := mem_inFlight_settle _ _ _ h
      · exact .inl hold
      · exact .inr ⟨congrArg some howner.symm, hr⟩
  | call owner c =>
      cases huser : s.apps[owner]? with
      | none =>
          simp only [step, huser] at h
          exact .inl h
      | some user =>
          simp only [step, huser] at h
          obtain hold | ⟨howner, -, hr⟩ := mem_inFlight_settle _ _ _ h
          · exact .inl hold
          · refine .inr ⟨congrArg some howner.symm, ?_⟩
            simpa [issuedBy, ran, huser] using hr
  | complete id response =>
      cases hp : s.posted? id with
      | none =>
          simp only [step, hp] at h
          exact .inl h
      | some q =>
          cases huser : s.apps[q.owner]? with
          | none =>
              simp only [step, hp, huser] at h
              exact .inl h
          | some user =>
              simp only [step, hp, huser] at h
              obtain hold | ⟨howner, -, hr⟩ := mem_inFlight_settle _ _ _ h
              · exact .inl (List.mem_filter.mp hold).1
              · refine .inr ⟨?_, ?_⟩
                · rw [actor, hp, Option.map_some, howner]
                · simpa [issuedBy, ran, hp, huser] using hr
  | connectivity connected => exact .inl h
  | clock now => exact .inl h
  | restart => cases h

def Lives (s : Shared) (a : Action) : Prop :=
  (∀ x, s.ran a = some x → x.isDone = true) ∧ a ≠ .restart

/-- Whether the process survives can be computed. -/
instance (s : Shared) : ∀ a, Decidable (s.Lives a)
  | .restart => isFalse fun h => h.2 rfl
  | .construct idAppStore => decidableLives (.construct idAppStore) nofun
  | .call owner c => decidableLives (.call owner c) nofun
  | .complete id response => decidableLives (.complete id response) nofun
  | .connectivity connected => decidableLives (.connectivity connected) nofun
  | .clock now => decidableLives (.clock now) nofun
where
  decidableLives (a : Action) (ha : a ≠ .restart) : Decidable (s.Lives a) :=
    decidable_of_iff ((s.ran a).all (·.isDone) = true) <| by
      rw [Lives, Option.all_eq_true]
      exact (and_iff_left ha).symm

/-- A step that runs code lives if the code comes to its end. -/
theorem lives_iff_of_ran {s : Shared} {a : Action} {x : Outcome Unit} (h : s.ran a = some x) :
    s.Lives a ↔ x.isDone = true := by
  constructor
  · exact fun hlives => hlives.1 x h
  · intro hdone
    refine ⟨fun y hy => ?_, ?_⟩
    · obtain rfl : x = y := Option.some.inj (h.symm.trans hy)
      exact hdone
    · rintro rfl
      cases h

/-- A step that runs no code does not end the process, unless it is meant to. -/
theorem lives_of_not_ran {s : Shared} {a : Action} (h : s.ran a = none) (ha : a ≠ .restart) :
    s.Lives a := by
  refine ⟨fun x hx => ?_, ha⟩
  rw [h] at hx
  cases hx

/-- Nor does a step that issues a request. -/
theorem lives_of_issues {s : Shared} {a : Action} {r : Request} (h : s.Issues a r) :
    s.Lives a := by
  obtain ⟨m, hran, -⟩ := ran_of_issues h
  exact (lives_iff_of_ran hran).mpr rfl

/-- Nothing survives the end of the process. -/
theorem dead_step {s : Shared} {a : Action} (h : ¬ s.Lives a) :
    (s.step a).apps = [] ∧ (s.step a).inFlight = [] := by
  have hdead : (∃ x, s.ran a = some x ∧ x.isDone = false) ∨ a = .restart := by
    by_contra hnone
    push Not at hnone
    refine h ⟨fun x hx => ?_, hnone.2⟩
    simpa using hnone.1 x hx
  obtain ⟨x, hran, hend⟩ | rfl := hdead
  · cases a with
    | construct idAppStore =>
        cases hran
        cases hend
    | call owner c =>
        obtain ⟨user, huser, rfl⟩ := Option.map_eq_some_iff.mp hran
        simp [step, huser, settle, hend]
    | complete id response =>
        obtain ⟨p, hp, hmapped⟩ := Option.bind_eq_some_iff.mp hran
        obtain ⟨user, huser, rfl⟩ := Option.map_eq_some_iff.mp hmapped
        simp [step, hp, huser, settle, hend]
    | connectivity connected => cases hran
    | clock now => cases hran
    | restart => cases hran
  · exact ⟨rfl, rfl⟩

/-- What is in flight once the handler of a step has taken its answer. -/
def remaining (s : Shared) : Action → List Posted
  | .complete id response =>
    if (s.ran (.complete id response)).isSome then (s.drop id).inFlight else s.inFlight
  | _ => s.inFlight

/-- **What is in flight after a step**: what remains, and what the step issued for its actor. -/
theorem inFlight_step {s : Shared} {a : Action} (hlives : s.Lives a) :
    (s.step a).inFlight = s.remaining a ++
      (Flight.number s.issued (s.issuedBy a)).map (Posted.mk ((s.actor a).getD 0)) := by
  obtain ⟨hdone, hrestart⟩ := hlives
  cases a with
  | construct idAppStore => rfl
  | call owner c =>
      cases huser : s.apps[owner]? with
      | none => simp [step, huser, remaining, issuedBy, ran, Flight.number]
      | some user =>
          have hend := hdone _ (by rw [ran, huser]; rfl)
          simp [step, huser, settle, hend, remaining, issuedBy, ran, actor]
  | complete id response =>
      cases hp : s.posted? id with
      | none => simp [step, hp, remaining, issuedBy, ran, Flight.number]
      | some p =>
          cases huser : s.apps[p.owner]? with
          | none => simp [step, hp, huser, remaining, issuedBy, ran, Flight.number]
          | some user =>
              have hend := hdone _ (by rw [ran, hp, Option.bind_some, huser]; rfl)
              simp only [step, hp, huser, settle, if_pos hend]
              simp [remaining, issuedBy, ran, actor, hp, huser, drop]
  | connectivity connected => simp [step, remaining, issuedBy, ran, Flight.number]
  | clock now => simp [step, remaining, issuedBy, ran, Flight.number]
  | restart => exact absurd rfl hrestart

/-- The numbers go up by the requests of the step. -/
theorem issued_step (s : Shared) (a : Action) :
    (s.step a).issued = s.issued + (s.issuedBy a).length := by
  cases a with
  | construct idAppStore => rfl
  | call owner c =>
      cases huser : s.apps[owner]? with
      | none => simp [step, huser, issuedBy, ran]
      | some user => simp [step, huser, settle, issuedBy, ran]
  | complete id response =>
      cases hp : s.posted? id with
      | none => simp [step, hp, issuedBy, ran]
      | some p =>
          cases huser : s.apps[p.owner]? with
          | none => simp [step, hp, huser, issuedBy, ran]
          | some user => simp [step, hp, huser, settle, issuedBy, ran, drop]
  | connectivity connected => rfl
  | clock now => rfl
  | restart => rfl

/-- Is this an action of one of the objects? -/
def Action.isOwn : Action → Bool
  | .construct _ | .call _ _ | .complete _ _ => true
  | .connectivity _ | .clock _ | .restart => false

/-- No object touches the device. -/
theorem step_device (s : Shared) {a : Action} (h : a.isOwn = true) :
    (s.step a).device = s.device := by
  cases a with
  | construct idAppStore => rfl
  | call owner c =>
      simp only [step]
      cases s.apps[owner]? <;> rfl
  | complete id response =>
      simp only [step]
      cases s.posted? id with
      | none => rfl
      | some p => cases hp : s.apps[p.owner]? <;> simp [hp, drop]
  | connectivity connected => cases h
  | clock now => cases h
  | restart => cases h

/-- **The objects after a step**: the actor as its code left it, the others as they were. -/
theorem apps_step {s : Shared} {a : Action} (hlives : s.Lives a) (i : Nat) :
    (s.step a).apps[i]? =
      if s.actor a = some i then ((s.ran a).map (·.memory.user)).or s.apps[i]?
      else s.apps[i]? := by
  obtain ⟨hdone, hrestart⟩ := hlives
  cases a with
  | construct idAppStore =>
      show (List.set (s.apps ++ [_]) s.apps.length _)[i]? = _
      by_cases hi : s.apps.length = i
      · subst hi
        simp [actor, ran]
      · rw [List.getElem?_set_ne hi]
        simp only [actor, Option.some.injEq, if_neg hi]
        rw [List.getElem?_append]
        split
        · rfl
        · rename_i hle
          rw [List.getElem?_eq_none (by simp; omega), List.getElem?_eq_none (by omega)]
  | call owner c =>
      cases huser : s.apps[owner]? with
      | none => simp [step, huser, ran]
      | some user =>
          have hend := hdone _ (by rw [ran, huser]; rfl)
          have hlt : owner < s.apps.length := (List.getElem?_eq_some_iff.mp huser).1
          simp only [step, huser, settle, if_pos hend, actor, Option.some.injEq]
          by_cases hi : owner = i
          · subst hi
            rw [if_pos rfl, List.getElem?_set_self hlt, ran, huser]
            rfl
          · rw [if_neg hi, List.getElem?_set_ne hi]
  | complete id response =>
      cases hp : s.posted? id with
      | none => simp [step, hp, actor]
      | some p =>
          cases huser : s.apps[p.owner]? with
          | none => simp [step, hp, huser, ran]
          | some user =>
              have hend := hdone _ (by rw [ran, hp, Option.bind_some, huser]; rfl)
              have hlt : p.owner < s.apps.length := (List.getElem?_eq_some_iff.mp huser).1
              simp only [step, hp, huser, settle, if_pos hend, actor, Option.map_some,
                Option.some.injEq]
              by_cases hi : p.owner = i
              · subst hi
                rw [if_pos rfl, ran, hp, Option.bind_some, huser]
                exact List.getElem?_set_self hlt
              · rw [if_neg hi]
                exact List.getElem?_set_ne hi
  | connectivity connected => rfl
  | clock now => rfl
  | restart => exact absurd rfl hrestart

/-- **An object after a step** is as it was, or as its call or its handler left it. -/
theorem object_step {s : Shared} {P : User → Prop} {a : Action} (hlives : s.Lives a) {i : Nat}
    {user : User} (huser : s.apps[i]? = some user) (hother : s.actor a ≠ some i → P user)
    (hcall : ∀ c, a = .call i c → P (c.run s.device (.enter user s.defaults)).memory.user)
    (hcomplete : ∀ id response p, a = .complete id response → s.posted? id = some p →
      p.owner = i → P (WebService.completion s.device p.flight.request.call response
        (.enter user s.defaults)).memory.user) :
    ∃ user', (s.step a).apps[i]? = some user' ∧ P user' := by
  rw [apps_step hlives]
  by_cases hactor : s.actor a = some i
  · rw [if_pos hactor]
    cases a with
    | construct idAppStore =>
        -- the new object is another one
        have hlt : i < s.apps.length := (List.getElem?_eq_some_iff.mp huser).1
        exact absurd (Option.some.inj hactor) hlt.ne'
    | call owner c =>
        cases hactor
        refine ⟨_, ?_, hcall c rfl⟩
        rw [ran, huser]
        rfl
    | complete id response =>
        obtain ⟨p, hp, rfl⟩ := Option.map_eq_some_iff.mp hactor
        refine ⟨_, ?_, hcomplete id response p rfl hp rfl⟩
        rw [ran, hp, Option.bind_some, huser]
        rfl
    | connectivity connected => cases hactor
    | clock now => cases hactor
    | restart => cases hactor
  · rw [if_neg hactor]
    exact ⟨user, huser, hother hactor⟩

/-- **The suite after a step** is what the constructor, a call or a handler made of it. -/
theorem defaults_step {s : Shared} {P : UserDefaults → Prop} (h : P s.defaults) (a : Action)
    (hconstruct : ∀ idAppStore, P (registered s.accountId idAppStore s.defaults))
    (hcall : ∀ owner c user, a = .call owner c →
      P (c.run s.device (.enter user s.defaults)).memory.defaults)
    (hcomplete : ∀ id response p user, a = .complete id response → s.posted? id = some p →
      P (WebService.completion s.device p.flight.request.call response
        (.enter user s.defaults)).memory.defaults) :
    P (s.step a).defaults := by
  cases hran : s.ran a with
  | none =>
      rw [(idle_of_not_ran hran).2.1]
      exact h
  | some x =>
      rw [(ends_of_ran hran).defaults]
      cases a with
      | construct idAppStore =>
          cases hran
          rw [init_eq]
          exact hconstruct idAppStore
      | call owner c =>
          obtain ⟨user, -, rfl⟩ := Option.map_eq_some_iff.mp hran
          exact hcall owner c user rfl
      | complete id response =>
          obtain ⟨p, hp, hmapped⟩ := Option.bind_eq_some_iff.mp hran
          obtain ⟨user, -, rfl⟩ := Option.map_eq_some_iff.mp hmapped
          exact hcomplete id response p user rfl hp
      | connectivity connected => cases hran
      | clock now => cases hran
      | restart => cases hran

end Shared
