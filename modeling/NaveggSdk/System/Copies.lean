import NaveggSdk.Delivery.Persistence
import NaveggSdk.Library.Replicas
import NaveggSdk.System.Requests

/-!
# What each object has a copy of

The user id, the segments and the date of the last sync are stored in the suite, and each object has
a copy, which it reads when it is built. The handler of an answer writes both, the copy of its own
object only. Such a value is `Copied`, and any number of objects with such a value are a store and
its `Replicas` (`replicas_step`), so `behind_after` holds of each of them: the suite has what was
accepted last, and each object knows a first part of the history, beyond which all was accepted by
others.
-/

open WebService NaveggApi

/-- A value that is stored in the suite, that each object has a copy of, and that only handlers
write, in both places. What this takes of an object (`Fit`), every object keeps. -/
structure Copied (V : Type) where
  stored : UserDefaults → V
  copy : User → V
  /-- What the handler of an answer writes. -/
  accepted : Device → WebCall → DataResponse → Option V
  Fit : User → Prop
  fit_built : ∀ accountId defaults, Fit (built accountId defaults)
  fit_call : ∀ (device : Device) (c : Call) (m : Memory), Fit m.user →
    Fit (c.run device m).memory.user
  fit_completion : ∀ (device : Device) (call : WebCall) (response : DataResponse) (m : Memory),
    Fit m.user → Fit (WebService.completion device call response m).memory.user
  copy_built : ∀ accountId defaults, copy (built accountId defaults) = stored defaults
  stored_registered : ∀ accountId idAppStore defaults,
    stored (registered accountId idAppStore defaults) = stored defaults
  call : ∀ (device : Device) (c : Call) (m : Memory), Fit m.user →
    (copy (c.run device m).memory.user, stored (c.run device m).memory.defaults) =
      (copy m.user, stored m.defaults)
  completion : ∀ (device : Device) (call : WebCall) (response : DataResponse) (m : Memory),
    Fit m.user → (copy (WebService.completion device call response m).memory.user,
        stored (WebService.completion device call response m).memory.defaults) =
      ((accepted device call response).map fun v => (v, v)).getD (copy m.user, stored m.defaults)

namespace Copied

variable {V : Type} (R : Copied V)

def replicas (s : Shared) : Replicas V := ⟨R.stored s.defaults, s.apps.map R.copy⟩

/-- What a step writes, and through which object. -/
def written (s : Shared) : Shared.Action → Option (Nat × V)
  | .complete id response =>
    (s.posted? id).bind fun p => s.apps[p.owner]?.bind fun _ =>
      (R.accepted s.device p.flight.request.call response).map (Prod.mk p.owner)
  | _ => none

def history : Shared → List Shared.Action → List (Nat × V)
  | _, [] => []
  | s, a :: as => (R.written s a).toList ++ history (s.step a) as

/-- The events of a step: what it writes, and the end of the objects if it is that. -/
def events (s : Shared) (a : Shared.Action) : List (Replicas.Event V) :=
  (match a with
    | .construct _ => [.make]
    | _ => []) ++
  ((R.written s a).map fun w => .write w.1 w.2).toList ++
  if s.Lives a then [] else [.drop]

theorem filterMap_events (s : Shared) (a : Shared.Action) :
    (R.events s a).filterMap Replicas.Event.written = (R.written s a).toList := by
  unfold events
  rw [List.filterMap_append, List.filterMap_append]
  have hmake : (match a with
      | .construct _ => [Replicas.Event.make]
      | _ => ([] : List (Replicas.Event V))).filterMap Replicas.Event.written = [] := by
    cases a <;> rfl
  have hdrop : (if s.Lives a then [] else [Replicas.Event.drop (V := V)]).filterMap
      Replicas.Event.written = [] := by
    split <;> rfl
  rw [hmake, hdrop, List.nil_append, List.append_nil]
  cases R.written s a <;> rfl

/-! ## One step -/

/-- All objects are fit. -/
def AllFit (s : Shared) : Prop := ∀ user ∈ s.apps, R.Fit user

theorem AllFit.step {s : Shared} (h : R.AllFit s) (a : Shared.Action) : R.AllFit (s.step a) := by
  intro user huser
  cases hran : s.ran a with
  | none => exact h user ((Shared.idle_of_not_ran hran).2.2.1 user huser)
  | some x =>
      obtain hold | rfl := (Shared.ends_of_ran hran).apps user huser
      · exact h user hold
      · cases a with
        | construct idAppStore =>
            cases hran
            rw [init_eq]
            exact R.fit_built s.accountId s.defaults
        | call owner c =>
            obtain ⟨before, hbefore, rfl⟩ := Option.map_eq_some_iff.mp hran
            exact R.fit_call _ _ _ (h before (List.mem_of_getElem? hbefore))
        | complete id response =>
            obtain ⟨p, hp, hmapped⟩ := Option.bind_eq_some_iff.mp hran
            obtain ⟨before, hbefore, rfl⟩ := Option.map_eq_some_iff.mp hmapped
            exact R.fit_completion _ _ _ _ (h before (List.mem_of_getElem? hbefore))
        | connectivity connected => cases hran
        | clock now => cases hran
        | restart => cases hran

/-- The end of some code of an object that writes at most one value. -/
theorem replicas_settle {s : Shared} {owner : Nat} {user : User}
    (howner : s.apps[owner]? = some user) {x : Outcome Unit} (w : Option V)
    (hx : (R.copy x.memory.user, R.stored x.memory.defaults) =
      (w.map fun v => (v, v)).getD (R.copy user, R.stored s.defaults)) :
    R.replicas (s.settle owner x) =
      Runs.run Replicas.step (R.replicas s)
        ((w.map (Replicas.Event.write owner)).toList ++ if x.isDone then [] else [.drop]) := by
  have hcopies : (s.apps.set owner x.memory.user).map R.copy =
      (s.apps.map R.copy).set owner (R.copy x.memory.user) := List.map_set
  have hsame : (s.apps.map R.copy).set owner (R.copy user) = s.apps.map R.copy := by
    obtain ⟨hlt, rfl⟩ := List.getElem?_eq_some_iff.mp howner
    rw [← List.map_set, List.set_getElem_self]
  cases w with
  | none =>
      obtain ⟨hcopy, hstored⟩ := Prod.mk.inj hx
      cases hend : x.isDone with
      | true =>
          simp only [replicas, Shared.settle, hend, if_true, hcopies, hcopy, hstored, hsame]
          rfl
      | false =>
          simp only [replicas, Shared.settle, hend, hstored]
          rfl
  | some v =>
      obtain ⟨hcopy, hstored⟩ := Prod.mk.inj hx
      cases hend : x.isDone with
      | true =>
          simp only [replicas, Shared.settle, hend, if_true, hcopies, hcopy, hstored]
          rfl
      | false =>
          simp only [replicas, Shared.settle, hend, hstored]
          rfl

/-- **A step of the objects is a few events of the replicas.** -/
theorem replicas_step {s : Shared} (hfit : R.AllFit s) (a : Shared.Action) :
    R.replicas (s.step a) = Runs.run Replicas.step (R.replicas s) (R.events s a) := by
  have hidle : ∀ {a : Shared.Action}, s.ran a = none → a ≠ .restart →
      (if s.Lives a then [] else [Replicas.Event.drop (V := V)]) = [] := by
    intro a hran ha
    exact if_pos (Shared.lives_of_not_ran hran ha)
  have hruns : ∀ {a : Shared.Action} {x : Outcome Unit}, s.ran a = some x →
      (if s.Lives a then [] else [Replicas.Event.drop (V := V)]) =
        if x.isDone then [] else [.drop] := by
    intro a x hran
    exact if_congr (Shared.lives_iff_of_ran hran) rfl rfl
  unfold events
  cases a with
  | construct idAppStore =>
      have hset : ((s.apps ++ [built s.accountId s.defaults]).set s.apps.length
          (built s.accountId s.defaults)).map R.copy =
            s.apps.map R.copy ++ [R.stored s.defaults] := by
        rw [List.set_append_right _ _ (Nat.le_refl _), List.map_append, Nat.sub_self]
        exact congrArg (fun v => s.apps.map R.copy ++ [v]) (R.copy_built _ _)
      have hstep : R.replicas (s.step (.construct idAppStore)) =
          ⟨R.stored s.defaults, s.apps.map R.copy ++ [R.stored s.defaults]⟩ := by
        show R.replicas (Shared.settle _ _ _) = _
        rw [init_eq]
        exact congrArg₂ Replicas.mk (R.stored_registered _ _ _) hset
      rw [hruns (a := .construct idAppStore) rfl, hstep]
      rfl
  | call owner c =>
      cases huser : s.apps[owner]? with
      | none =>
          rw [hidle (a := .call owner c) (by rw [Shared.ran, huser]; rfl) (by simp)]
          simp only [Shared.step, huser]
          rfl
      | some user =>
          rw [hruns (a := .call owner c) (by rw [Shared.ran, huser]; rfl)]
          simp only [Shared.step, huser]
          have huserFit := hfit user (List.mem_of_getElem? huser)
          exact R.replicas_settle huser none (R.call s.device c (.enter user s.defaults) huserFit)
  | complete id response =>
      cases hp : s.posted? id with
      | none =>
          rw [hidle (a := .complete id response) (by rw [Shared.ran, hp]; rfl) (by simp)]
          simp only [Shared.step, written, hp]
          rfl
      | some p =>
          cases huser : s.apps[p.owner]? with
          | none =>
              rw [hidle (a := .complete id response)
                (by rw [Shared.ran, hp, Option.bind_some, huser]; rfl) (by simp)]
              simp only [Shared.step, written, hp, Option.bind_some, huser]
              rfl
          | some user =>
              rw [hruns (a := .complete id response)
                (by rw [Shared.ran, hp, Option.bind_some, huser]; rfl)]
              simp only [Shared.step, written, hp, Option.bind_some, huser, Option.map_map]
              have huserFit := hfit user (List.mem_of_getElem? huser)
              exact R.replicas_settle (s := s.drop id) huser
                (R.accepted s.device p.flight.request.call response)
                (R.completion s.device p.flight.request.call response (.enter user s.defaults)
                  huserFit)
  | connectivity connected =>
      rw [hidle (a := .connectivity connected) rfl (by simp)]
      rfl
  | clock now =>
      rw [hidle (a := .clock now) rfl (by simp)]
      rfl
  | restart =>
      have hdead : ¬ s.Lives .restart := fun hlives => hlives.2 rfl
      rw [if_neg hdead]
      rfl

/-! ## Every run -/

theorem allFit_after (accountId : Int) (device : Device) (actions : List Shared.Action) :
    R.AllFit (Shared.after accountId device actions) := by
  have hfit : R.AllFit (.installed accountId device) := List.forall_mem_nil R.Fit
  exact Runs.run_invariant hfit (fun s a h => h.step R a) actions

theorem behind_run {initial : V} {before : List (Nat × V)} {s : Shared} (hfit : R.AllFit s)
    (h : Replicas.Behind initial before (R.replicas s)) (actions : List Shared.Action) :
    Replicas.Behind initial (before ++ R.history s actions)
      (R.replicas (Runs.run Shared.step s actions)) := by
  induction actions generalizing s before with
  | nil =>
      rw [history, List.append_nil]
      exact h
  | cons a as ih =>
      have hstep := h.run (R.events s a)
      rw [R.filterMap_events, ← R.replicas_step hfit] at hstep
      rw [history, ← List.append_assoc]
      exact ih (hfit.step R a) hstep

/-- **The objects are behind the suite, and nothing worse**, after every run. -/
theorem behind_after (accountId : Int) (device : Device) (actions : List Shared.Action) :
    Replicas.Behind (R.stored UserDefaults.empty)
      (R.history (.installed accountId device) actions)
      (R.replicas (Shared.after accountId device actions)) := by
  have hstart : Replicas.Behind (R.stored UserDefaults.empty) []
      (R.replicas (.installed accountId device)) := .start _
  have hfit : R.AllFit (.installed accountId device) := List.forall_mem_nil R.Fit
  exact R.behind_run hfit hstart actions

/-- What one of the objects knows. -/
theorem knows_after (accountId : Int) (device : Device) (actions : List Shared.Action) {i : Nat}
    {user : User} (huser : (Shared.after accountId device actions).apps[i]? = some user) :
    Replicas.Knows (R.stored UserDefaults.empty) (R.history (.installed accountId device) actions)
      i (R.copy user) := by
  refine (R.behind_after accountId device actions).copies i (R.copy user) ?_
  show (List.map _ _)[i]? = _
  rw [List.getElem?_map, huser]
  rfl

theorem history_append (s : Shared) (as bs : List Shared.Action) :
    R.history s (as ++ bs) = R.history s as ++ R.history (Runs.run Shared.step s as) bs := by
  induction as generalizing s with
  | nil => rfl
  | cons a as ih =>
      rw [List.cons_append, history, history, ih, List.append_assoc]
      rfl

/-- What is written is accepted from an answer, through an object that is there. -/
theorem of_written {s : Shared} {a : Shared.Action} {w : Nat × V} (h : R.written s a = some w) :
    ∃ id response call, a = .complete id response ∧
      R.accepted s.device call response = some w.2 ∧ w.1 < s.apps.length := by
  cases a with
  | complete id response =>
      obtain ⟨p, hp, hw⟩ := Option.bind_eq_some_iff.mp h
      obtain ⟨user, huser, hw⟩ := Option.bind_eq_some_iff.mp hw
      obtain ⟨v, hv, rfl⟩ := Option.map_eq_some_iff.mp hw
      exact ⟨id, response, p.flight.request.call, rfl, hv, (List.getElem?_eq_some_iff.mp huser).1⟩
  | construct idAppStore => cases h
  | call owner c => cases h
  | connectivity connected => cases h
  | clock now => cases h
  | restart => cases h

end Copied
