import NaveggSdk.Sdk.Effects
import NaveggSdk.System.Session

/-!
# Reading the history

The log of a `System` holds events; what the properties speak of are the few things that can be
read off it, newest first:

* `recorded` — the sends whose success was recorded, with the map they carried and the date;
* `outcomes` — how the attempts to send ended, the skipped ones included;
* `saved` — the answers to `getSegments` that were saved.

A request event says nothing about any of the three, so `settle` adds exactly what its own events
say (`recorded_settle` and its sisters).
-/

/-- A saved answer: the number of its request, its body, and when it was saved. -/
structure Saved where
  id : Nat
  segments : Dictionary String String
  date : Date

namespace Event

/-- A recorded send: the map it carried, and when its success was recorded. -/
def recorded? : Event → Option (Dictionary String String × Date)
  | .answered flight response date =>
    if flight.request.call = .sendOnBoarding ∧ WebService.recordsSuccess response = true then
      some (flight.request.onBoarding, date)
    else none
  | _ => none

/-- How an attempt to send ended: with a recorded success, or not. -/
def outcome? : Event → Option Bool
  | .answered flight response _ =>
    if flight.request.call = .sendOnBoarding then some (WebService.recordsSuccess response)
    else none
  | .skipped => some false
  | _ => none

def saved? : Event → Option Saved
  | .answered flight response date =>
    if flight.request.call = .getSegments then
      match WebService.readSegments response with
      | .accepted segments => some ⟨flight.id, segments, date⟩
      | _ => none
    else none
  | _ => none

end Event

namespace History

def recorded (log : List Event) : List (Dictionary String String × Date) :=
  log.filterMap Event.recorded?

def outcomes (log : List Event) : List Bool := log.filterMap Event.outcome?

def saved (log : List Event) : List Saved := log.filterMap Event.saved?

/-- A pair was contained in a send whose success was recorded. -/
def Delivered (log : List Event) (key value : String) : Prop :=
  ∃ p ∈ recorded log, p.1.lookup key = some value

/-- The same, with the success recorded on a given day. -/
def DeliveredOn (calendar : Calendar) (day : Int) (log : List Event) (key value : String) : Prop :=
  ∃ p ∈ recorded log, calendar.dayOf p.2 = day ∧ p.1.lookup key = some value

end History

/-- The numbered requests of a call are the requests of the call. -/
theorem Flight.mem_number {f : Flight} :
    ∀ {n : Nat} {rs : List Request}, f ∈ Flight.number n rs → f.request ∈ rs
  | _, [], h => by simp [Flight.number] at h
  | n, r :: rs, h => by
      rcases List.mem_cons.mp h with rfl | h
      · exact List.mem_cons_self
      · exact List.mem_cons_of_mem r (Flight.mem_number h)

/-- Numbers are given in order, from `n` on. -/
theorem Flight.number_ordered (rs : List Request) (n : Nat) :
    (Flight.number n rs).Pairwise (fun f g => f.id < g.id) ∧
      ∀ f ∈ Flight.number n rs, n ≤ f.id ∧ f.id < n + rs.length := by
  induction rs generalizing n with
  | nil => exact ⟨List.Pairwise.nil, by simp [Flight.number]⟩
  | cons r rs ih =>
      obtain ⟨hordered, hbound⟩ := ih (n + 1)
      constructor
      · refine List.Pairwise.cons (fun g hg => ?_) hordered
        exact (hbound g hg).1
      · intro f hf
        rw [List.length_cons]
        rcases List.mem_cons.mp hf with rfl | hf
        · exact ⟨Nat.le_refl n, by show n < _; omega⟩
        · have := hbound f hf
          omega

def Flight.isCreateUser (f : Flight) : Bool := f.request.call = .createUser

namespace System

open History

/-! ## The state after a call, field by field -/

section
variable (s : System) (es : List Event) (x : Outcome Unit) (m : Memory) (why : Trap)

@[simp] theorem settle_accountId : (s.settle es x).accountId = s.accountId := rfl
@[simp] theorem settle_device : (s.settle es x).device = s.device := rfl
@[simp] theorem settle_defaults : (s.settle es x).defaults = x.memory.defaults := rfl
@[simp] theorem settle_app_done : (s.settle es (.done () m)).app = some m.user := rfl
@[simp] theorem settle_app_trap : (s.settle es (.trap why m)).app = none := rfl
@[simp] theorem settle_inFlight_done : (s.settle es (.done () m)).inFlight =
    s.inFlight ++ Flight.number s.issued m.requests := rfl
@[simp] theorem settle_inFlight_trap : (s.settle es (.trap why m)).inFlight = [] := rfl
@[simp] theorem settle_issued :
    (s.settle es x).issued = s.issued + x.memory.requests.length := rfl
theorem settle_log : (s.settle es x).log =
    ((Flight.number s.issued x.memory.requests).map Event.issued).reverse ++
      (es.reverse ++ s.log) := rfl

@[simp] theorem drop_accountId (id : Nat) : (s.drop id).accountId = s.accountId := rfl
@[simp] theorem drop_device (id : Nat) : (s.drop id).device = s.device := rfl
@[simp] theorem drop_defaults (id : Nat) : (s.drop id).defaults = s.defaults := rfl
@[simp] theorem drop_app (id : Nat) : (s.drop id).app = s.app := rfl
@[simp] theorem drop_issued (id : Nat) : (s.drop id).issued = s.issued := rfl
@[simp] theorem drop_log (id : Nat) : (s.drop id).log = s.log := rfl
@[simp] theorem drop_inFlight (id : Nat) :
    (s.drop id).inFlight = s.inFlight.filter (·.id ≠ id) := rfl

/-- What holds of the issued requests and of the events of a call holds of all it adds. -/
theorem settle_log_forall {P : Event → Prop} (hissued : ∀ flight, P (.issued flight))
    (hes : ∀ e ∈ es, P e) : ∃ new, (s.settle es x).log = new ++ s.log ∧ ∀ e ∈ new, P e := by
  refine ⟨((Flight.number s.issued x.memory.requests).map Event.issued).reverse ++ es.reverse,
    by rw [settle_log, List.append_assoc], fun e he => ?_⟩
  rcases List.mem_append.mp he with he | he
  · obtain ⟨flight, -, rfl⟩ := List.mem_map.mp (List.mem_reverse.mp he)
    exact hissued flight
  · exact hes e (List.mem_reverse.mp he)

/-- A projection that ignores requests reads the events of a call and the old history. -/
theorem filterMap_settle {β : Type} {f : Event → Option β}
    (hf : ∀ flight, f (.issued flight) = none) :
    (s.settle es x).log.filterMap f = es.reverse.filterMap f ++ s.log.filterMap f := by
  have hissued : ∀ flights : List Flight, (flights.map Event.issued).filterMap f = [] := by
    intro flights
    rw [List.filterMap_map]
    exact List.filterMap_eq_nil_iff.mpr fun flight _ => hf flight
  rw [settle_log, List.filterMap_append, List.filterMap_append, List.filterMap_reverse, hissued,
    List.reverse_nil, List.nil_append]

@[simp] theorem recorded_settle :
    recorded (s.settle es x).log = recorded es.reverse ++ recorded s.log :=
  filterMap_settle s es x fun _ => rfl

@[simp] theorem outcomes_settle :
    outcomes (s.settle es x).log = outcomes es.reverse ++ outcomes s.log :=
  filterMap_settle s es x fun _ => rfl

@[simp] theorem saved_settle : saved (s.settle es x).log = saved es.reverse ++ saved s.log :=
  filterMap_settle s es x fun _ => rfl

end

/-- At most one `createUser` in flight: dropping one leaves none. -/
theorem filter_drop_createUser {s : System}
    (hone : (s.inFlight.filter Flight.isCreateUser).length ≤ 1) {f : Flight} (hf : f ∈ s.inFlight)
    (hcall : f.request.call = .createUser) :
    (s.drop f.id).inFlight.filter Flight.isCreateUser = [] := by
  have hf' : f ∈ s.inFlight.filter Flight.isCreateUser :=
    List.mem_filter.mpr ⟨hf, by simp [Flight.isCreateUser, hcall]⟩
  have hsame : s.inFlight.filter Flight.isCreateUser = [f] := by
    obtain ⟨g, hg⟩ | hnil := (Nat.le_one_iff_eq_zero_or_eq_one.mp hone).symm.imp
      List.length_eq_one_iff.mp List.length_eq_zero_iff.mp
    · rw [hg, List.mem_singleton] at hf'
      rw [hg, hf']
    · simp [hnil] at hf'
  rw [drop_inFlight, List.filter_comm, hsame]
  simp

/-- The request in flight with a given number is in flight and has that number. -/
theorem mem_of_flight? {s : System} {id : Nat} {f : Flight} (h : s.flight? id = some f) :
    f ∈ s.inFlight ∧ f.id = id := by
  have hid := List.find?_some h
  exact ⟨List.mem_of_find?_eq_some h, by simpa using hid⟩

/-! ## Numbers

The requests in flight stand in the order in which they were issued, so no two have one number. -/

/-- The requests in flight are ordered by number, and the next number is free. -/
structure Numbered (s : System) : Prop where
  ordered : s.inFlight.Pairwise fun f g => f.id < g.id
  bound : ∀ f ∈ s.inFlight, f.id < s.issued

namespace Numbered

variable {s : System}

theorem of_idle (h : s.inFlight = []) : Numbered s := ⟨by simp [h], by simp [h]⟩

theorem drop (h : Numbered s) (id : Nat) : Numbered (s.drop id) :=
  ⟨h.ordered.filter _, fun f hf => h.bound f (List.mem_filter.mp hf).1⟩

theorem settle (h : Numbered s) (es : List Event) (x : Outcome Unit) :
    Numbered (s.settle es x) := by
  cases x with
  | trap why m => exact .of_idle rfl
  | done value m =>
      obtain ⟨hordered, hbound⟩ := Flight.number_ordered m.requests s.issued
      constructor
      · rw [settle_inFlight_done, List.pairwise_append]
        refine ⟨h.ordered, hordered, fun f hf g hg => ?_⟩
        exact Nat.lt_of_lt_of_le (h.bound f hf) (hbound g hg).1
      · intro f hf
        rw [settle_inFlight_done, List.mem_append] at hf
        rw [settle_issued, Outcome.memory_done]
        rcases hf with hf | hf
        · exact Nat.lt_add_right _ (h.bound f hf)
        · exact (hbound f hf).2

/-- Every step keeps the numbers. -/
theorem step (h : Numbered s) (a : Action) : Numbered (s.step a) := by
  cases a with
  | call c =>
      cases happ : s.app with
      | none => simpa only [System.step, happ] using h
      | some user =>
          simp only [System.step, happ]
          exact h.settle _ _
  | complete id response =>
      cases happ : s.app with
      | none => simpa only [System.step, happ] using h
      | some user =>
          cases hf : s.flight? id with
          | none => simpa only [System.step, happ, hf] using h
          | some f =>
              simp only [System.step, happ, hf]
              exact (h.drop id).settle _ _
  | connectivity connected => exact ⟨h.ordered, h.bound⟩
  | clock now => exact ⟨h.ordered, h.bound⟩
  | restart idAppStore => exact (Numbered.of_idle (s := { s with inFlight := [] }) rfl).settle _ _

/-- A number belongs to one request. -/
theorem eq_of_id (h : Numbered s) {f g : Flight} (hf : f ∈ s.inFlight) (hg : g ∈ s.inFlight)
    (hid : f.id = g.id) : f = g := by
  obtain ⟨i, hi, rfl⟩ := List.getElem_of_mem hf
  obtain ⟨j, hj, rfl⟩ := List.getElem_of_mem hg
  rcases Nat.lt_trichotomy i j with hlt | heq | hgt
  · have := List.pairwise_iff_getElem.mp h.ordered i j hi hj hlt
    omega
  · subst heq
    rfl
  · have := List.pairwise_iff_getElem.mp h.ordered j i hj hi hgt
    omega

/-- **Dropping a request drops nothing else**: whatever is not read off the request itself is read
off the rest. -/
theorem filterMap_drop (h : Numbered s) {f : Flight} (hf : f ∈ s.inFlight) {β : Type}
    {g : Flight → Option β} (hg : g f = none) :
    (s.drop f.id).inFlight.filterMap g = s.inFlight.filterMap g := by
  rw [drop_inFlight, List.filterMap_filter]
  apply List.filterMap_congr
  intro f' hf'
  by_cases hid : f'.id = f.id
  · rw [h.eq_of_id hf' hf hid, hg]
    simp
  · simp [hid]

theorem filter_drop (h : Numbered s) {f : Flight} (hf : f ∈ s.inFlight) {p : Flight → Bool}
    (hp : p f = false) : (s.drop f.id).inFlight.filter p = s.inFlight.filter p := by
  rw [← List.filterMap_eq_filter]
  exact h.filterMap_drop hf (by simp [Option.guard, hp])

end Numbered

end System
