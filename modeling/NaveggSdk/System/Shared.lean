import NaveggSdk.System.History

/-!
# Several objects over one suite

Nothing keeps an app from building more than one `NaveggApi` for one account. They share the suite
and nothing else: each has its own `User`, `OnBoarding` and `WebService`, and each answer goes to
the user that asked. A `Shared` is the system with any number of live objects; a trap, like a
restart, ends them all.
-/

/-- A request in flight, with the index of the object whose user its handler captured. -/
structure Posted where
  owner : Nat
  flight : Flight

/-- Any number of objects of one account on one device. -/
structure Shared where
  accountId : Int
  device : Device
  defaults : UserDefaults
  apps : List User
  inFlight : List Posted
  issued : Nat

namespace Shared

inductive Action where
  | construct (idAppStore : Option Int)
  | call (owner : Nat) (c : Call)
  | complete (id : Nat) (response : DataResponse)
  | connectivity (connected : Bool)
  | clock (now : Date)
  | restart

def settle (owner : Nat) (x : Outcome Unit) (s : Shared) : Shared :=
  let posted := (Flight.number s.issued x.memory.requests).map (Posted.mk owner)
  { s with
    defaults := x.memory.defaults
    apps := if x.isDone then s.apps.set owner x.memory.user else []
    inFlight := if x.isDone then s.inFlight ++ posted else []
    issued := s.issued + x.memory.requests.length }

def posted? (s : Shared) (id : Nat) : Option Posted := s.inFlight.find? (·.flight.id = id)

def drop (id : Nat) (s : Shared) : Shared :=
  { s with inFlight := s.inFlight.filter (·.flight.id ≠ id) }

def step (s : Shared) : Action → Shared
  | .construct idAppStore =>
    let m := NaveggApi.init s.device s.accountId idAppStore s.defaults
    { s with apps := s.apps ++ [m.user] }.settle s.apps.length (.done () m)
  | .call owner c =>
    match s.apps[owner]? with
    | none => s
    | some user => s.settle owner (c.run s.device (.enter user s.defaults))
  | .complete id response =>
    match s.posted? id with
    | none => s
    | some p =>
      match s.apps[p.owner]? with
      | none => s
      | some user =>
        (s.drop id).settle p.owner
          (WebService.completion s.device p.flight.request.call response (.enter user s.defaults))
  | .connectivity connected => { s with device := { s.device with connected := connected } }
  | .clock now => { s with device := { s.device with now := now } }
  | .restart => { s with apps := [], inFlight := [] }

def installed (accountId : Int) (device : Device) : Shared where
  accountId := accountId
  device := device
  defaults := UserDefaults.empty
  apps := []
  inFlight := []
  issued := 0

/-- How the code that a step runs ends; `none` for a step that runs none. -/
def ran (s : Shared) : Action → Option (Outcome Unit)
  | .construct idAppStore =>
    some (.done () (NaveggApi.init s.device s.accountId idAppStore s.defaults))
  | .call owner c => s.apps[owner]?.map fun user => c.run s.device (.enter user s.defaults)
  | .complete id response =>
    (s.posted? id).bind fun p => s.apps[p.owner]?.map fun user =>
      WebService.completion s.device p.flight.request.call response (.enter user s.defaults)
  | .connectivity _ | .clock _ | .restart => none

/-! ## The state after a call -/

section
variable (s : Shared) (owner : Nat) (x : Outcome Unit)

@[simp] theorem settle_defaults : (s.settle owner x).defaults = x.memory.defaults := rfl
@[simp] theorem settle_device : (s.settle owner x).device = s.device := rfl
@[simp] theorem settle_accountId : (s.settle owner x).accountId = s.accountId := rfl

/-- The objects after a call: the caller as the call left it, the others as they were. -/
theorem mem_apps_settle {user : User} (h : user ∈ (s.settle owner x).apps) :
    user ∈ s.apps ∨ user = x.memory.user := by
  unfold settle at h
  cases x with
  | done value m => exact List.mem_or_eq_of_mem_set h
  | trap why m => simp at h

/-- The requests in flight after a call: the old ones and those of the call. -/
theorem mem_inFlight_settle {p : Posted} (h : p ∈ (s.settle owner x).inFlight) :
    p ∈ s.inFlight ∨
      p.owner = owner ∧ s.issued ≤ p.flight.id ∧ p.flight.request ∈ x.memory.requests := by
  unfold settle at h
  cases x with
  | trap why m => simp at h
  | done value m =>
      rcases List.mem_append.mp h with hold | hnew
      · exact .inl hold
      · obtain ⟨f, hf, rfl⟩ := List.mem_map.mp hnew
        exact .inr ⟨rfl, ((Flight.number_ordered _ _).2 f hf).1, Flight.mem_number hf⟩

end

/-- What the end of some code leaves of the system. -/
structure Ends (s : Shared) (x : Outcome Unit) (t : Shared) : Prop where
  accountId : t.accountId = s.accountId
  defaults : t.defaults = x.memory.defaults
  apps : ∀ user ∈ t.apps, user ∈ s.apps ∨ user = x.memory.user
  inFlight : ∀ p ∈ t.inFlight, p ∈ s.inFlight ∨ p.flight.request ∈ x.memory.requests
  dead : x.isDone = false → t.apps = []

theorem ends_settle (s : Shared) (owner : Nat) (x : Outcome Unit) :
    s.Ends x (s.settle owner x) where
  accountId := rfl
  defaults := rfl
  apps _ h := mem_apps_settle s owner x h
  inFlight _ h := (mem_inFlight_settle s owner x h).imp_right fun hnew => hnew.2.2
  dead h := by simp [settle, h]

/-- **A step that runs code** ends as the code does. -/
theorem ends_of_ran {s : Shared} {a : Action} {x : Outcome Unit} (h : s.ran a = some x) :
    s.Ends x (s.step a) := by
  cases a with
  | construct idAppStore =>
      cases h
      have hends := ends_settle
        { s with
          apps := s.apps ++ [(NaveggApi.init s.device s.accountId idAppStore s.defaults).user] }
        s.apps.length (.done () (NaveggApi.init s.device s.accountId idAppStore s.defaults))
      refine ⟨rfl, rfl, fun user huser => ?_, hends.inFlight, hends.dead⟩
      rcases hends.apps user huser with hold | hnew
      · rcases List.mem_append.mp hold with hold | hnew
        · exact .inl hold
        · exact .inr (List.mem_singleton.mp hnew)
      · exact .inr hnew
  | call owner c =>
      obtain ⟨user, huser, rfl⟩ := Option.map_eq_some_iff.mp h
      simp only [step, huser]
      exact ends_settle s owner _
  | complete id response =>
      obtain ⟨p, hp, hmap⟩ := Option.bind_eq_some_iff.mp h
      obtain ⟨user, huser, rfl⟩ := Option.map_eq_some_iff.mp hmap
      simp only [step, hp, huser]
      have hends := ends_settle (s.drop id) p.owner (WebService.completion s.device
        p.flight.request.call response (.enter user s.defaults))
      refine ⟨rfl, rfl, hends.apps, fun q hq => ?_, hends.dead⟩
      rcases hends.inFlight q hq with hold | hnew
      · exact .inl (List.mem_filter.mp hold).1
      · exact .inr hnew
  | connectivity connected => cases h
  | clock now => cases h
  | restart => cases h

/-- A step that runs no code touches neither the suite nor an object, though it may end them all. -/
theorem idle_of_not_ran {s : Shared} {a : Action} (h : s.ran a = none) :
    (s.step a).accountId = s.accountId ∧ (s.step a).defaults = s.defaults ∧
      (∀ user ∈ (s.step a).apps, user ∈ s.apps) ∧ ∀ p ∈ (s.step a).inFlight, p ∈ s.inFlight := by
  cases a with
  | construct idAppStore => cases h
  | call owner c =>
      rw [ran, Option.map_eq_none_iff] at h
      have hstep : s.step (.call owner c) = s := by simp only [step, h]
      rw [hstep]
      exact ⟨rfl, rfl, fun _ hu => hu, fun _ hp => hp⟩
  | complete id response =>
      cases hp : s.posted? id with
      | none =>
          have hstep : s.step (.complete id response) = s := by simp only [step, hp]
          rw [hstep]
          exact ⟨rfl, rfl, fun _ hu => hu, fun _ hp => hp⟩
      | some p =>
          rw [ran, hp, Option.bind_some, Option.map_eq_none_iff] at h
          have hstep : s.step (.complete id response) = s := by simp only [step, hp, h]
          rw [hstep]
          exact ⟨rfl, rfl, fun _ hu => hu, fun _ hp => hp⟩
  | connectivity connected => exact ⟨rfl, rfl, fun _ hu => hu, fun _ hp => hp⟩
  | clock now => exact ⟨rfl, rfl, fun _ hu => hu, fun _ hp => hp⟩
  | restart => exact ⟨rfl, rfl, by simp [step], by simp [step]⟩

end Shared
