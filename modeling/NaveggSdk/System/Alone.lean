import NaveggSdk.System.Copies

/-!
# One object among many

A `System` is a `Shared` in which an object is built at each start of the process, and at no other
time: `alone` is what its actions are there. So what is known of any number of objects is known of
the one of a `System` (`shared_run`), and being alone it is never behind the suite (`copy_alone`).
-/

open WebService NaveggApi

namespace System

def shared (s : System) : Shared where
  accountId := s.accountId
  device := s.device
  defaults := s.defaults
  apps := s.app.toList
  inFlight := s.inFlight.map (Posted.mk 0)
  issued := s.issued

/-- What is done to the object. A start ends the old process first. -/
def alone : Action → List Shared.Action
  | .call c => [.call 0 c]
  | .complete id response => [.complete id response]
  | .connectivity connected => [.connectivity connected]
  | .clock now => [.clock now]
  | .restart idAppStore => [.restart, .construct idAppStore]

theorem shared_settle (s : System) (user : User) (happ : s.app = some user) (events : List Event)
    (x : Outcome Unit) : (s.settle events x).shared = s.shared.settle 0 x := by
  cases x with
  | done value m => simp [settle, shared, Shared.settle, happ]
  | trap why m => simp [settle, shared, Shared.settle]

theorem posted?_shared (s : System) (id : Nat) :
    s.shared.posted? id = (s.flight? id).map (Posted.mk 0) := by
  rw [Shared.posted?, shared, List.find?_map]
  rfl

theorem shared_drop (s : System) (id : Nat) : (s.drop id).shared = s.shared.drop id := by
  simp only [shared, drop, Shared.drop, List.filter_map]
  rfl

/-- **One step** of the one object is a step among many; a start is two. -/
theorem shared_step (s : System) (a : Action) :
    (s.step a).shared = Runs.run Shared.step s.shared (alone a) := by
  cases a with
  | call c =>
      show _ = s.shared.step (.call 0 c)
      cases happ : s.app with
      | none => simp [step, happ, Shared.step, shared]
      | some user =>
          have howner : s.shared.apps[0]? = some user := by simp [shared, happ]
          simp only [step, happ, Shared.step, howner]
          exact shared_settle s user happ _ _
  | complete id response =>
      show _ = s.shared.step (.complete id response)
      cases happ : s.app with
      | none =>
          have hnobody : s.shared.apps = [] := by simp [shared, happ]
          simp only [step, happ, Shared.step]
          cases s.shared.posted? id <;> simp [hnobody]
      | some user =>
          have howner : s.shared.apps[0]? = some user := by simp [shared, happ]
          cases hf : s.flight? id with
          | none => simp [step, happ, hf, Shared.step, posted?_shared]
          | some flight =>
              simp only [step, happ, hf, Shared.step, posted?_shared, Option.map_some, howner]
              rw [← shared_drop]
              exact shared_settle (s.drop id) user happ _ _
  | connectivity connected => rfl
  | clock now => rfl
  | restart idAppStore => rfl

/-- **A run of one object is a run among many.** -/
theorem shared_run (accountId : Int) (device : Device) (actions : List Action) :
    (after accountId device actions).shared =
      Shared.after accountId device (actions.flatMap alone) := by
  have hrun : ∀ s : System, (Runs.run step s actions).shared =
      Runs.run Shared.step s.shared (actions.flatMap alone) := by
    induction actions with
    | nil => exact fun s => rfl
    | cons a as ih =>
        intro s
        rw [Runs.run_cons, ih, shared_step, List.flatMap_cons, Runs.run_append]
  exact hrun (installed accountId device)

section
variable {V : Type} (R : Copied V)

/-- Nobody but the object itself writes. -/
theorem history_alone (s : System) (actions : List Action) :
    ∀ w ∈ R.history s.shared (actions.flatMap alone), w.1 = 0 := by
  induction actions generalizing s with
  | nil => exact List.forall_mem_nil _
  | cons a as ih =>
      rw [List.flatMap_cons, R.history_append, ← shared_step]
      intro w hw
      rcases List.mem_append.mp hw with hnow | hlater
      · cases a with
        | complete id response =>
            rw [alone, Copied.history, Copied.history, List.append_nil, Option.mem_toList] at hnow
            obtain ⟨-, -, -, -, -, hlt⟩ := R.of_written hnow
            have hone : s.shared.apps.length ≤ 1 := Option.length_toList_le
            exact Nat.lt_one_iff.mp (Nat.lt_of_lt_of_le hlt hone)
        | call c => cases hnow
        | connectivity connected => cases hnow
        | clock now => cases hnow
        | restart idAppStore => cases hnow
      · exact ih (s.step a) w hlater

/-- **What the only object has a copy of is what the suite says**, at any time. -/
theorem copy_alone (accountId : Int) (device : Device) (actions : List Action) {user : User}
    (happ : (after accountId device actions).app = some user) :
    R.copy user = R.stored (after accountId device actions).defaults := by
  have howner : (Shared.after accountId device (actions.flatMap alone)).apps[0]? = some user := by
    rw [← shared_run]
    simp [shared, happ]
  have hknows := R.knows_after accountId device (actions.flatMap alone) howner
  have hbehind := R.behind_after accountId device (actions.flatMap alone)
  have hown := history_alone R (installed accountId device) actions
  rw [hknows.eq_last hown]
  rw [← shared_run] at hbehind
  exact hbehind.store.symm

end

end System
