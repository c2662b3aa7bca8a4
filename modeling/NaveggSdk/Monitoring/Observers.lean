import NaveggSdk.System.Monitoring

/-!
# Registrations of the manager

The manager registers itself under two notifications. `startMonitoring` takes its old registration
away before it adds the new one; `startApplicationDidEnterBackground` only adds, and nothing takes
that registration away. So the manager is registered once at most exactly in the runs where
`startApplicationDidEnterBackground` is called once at most (`atMostOnce_iff`).
-/

open ReachabilityManager (Notification)

namespace ReachabilityManager

variable {U : Type} (m : ReachabilityManager U)

/-- Stopping leaves no registration for the changes of the network. -/
theorem count_stopMonitoring : m.stopMonitoring.observers.count .reachabilityChanged = 0 := by
  apply List.count_eq_zero_of_not_mem
  intro hmem
  have hne := (List.mem_filter.mp hmem).2
  exact absurd hne (by decide)

/-- Stopping keeps the registrations for the background. -/
theorem count_stopMonitoring_didEnterBackground :
    m.stopMonitoring.observers.count .didEnterBackground =
      m.observers.count .didEnterBackground := by
  show (m.observers.filter (· ≠ .reachabilityChanged)).count .didEnterBackground = _
  exact List.count_filter (by decide)

/-- After a start there is one registration for the changes of the network. -/
theorem count_startMonitoring (user : U) :
    (m.startMonitoring user).observers.count .reachabilityChanged = 1 := by
  have hstop := count_stopMonitoring { m with user := some user }
  simp [startMonitoring, hstop]

/-- A start keeps the registrations for the background. -/
theorem count_startMonitoring_didEnterBackground (user : U) :
    (m.startMonitoring user).observers.count .didEnterBackground =
      m.observers.count .didEnterBackground := by
  have hstop := count_stopMonitoring_didEnterBackground { m with user := some user }
  simp [startMonitoring, hstop]

/-- A posted `didEnterBackground` sends once for each registration, if there is a user. -/
theorem length_sends_post :
    (m.post .didEnterBackground).sends.length =
      m.sends.length + m.observers.count .didEnterBackground * m.user.toList.length := by
  rw [post_didEnterBackground]
  simp

end ReachabilityManager

namespace Monitoring

variable {U : Type}

/-- The manager is registered at most once under each notification, and one more notification that
the app went to the background would send at most once. -/
def AtMostOnce (s : Monitoring U) : Prop :=
  s.manager.observers.count .reachabilityChanged ≤ 1 ∧
    s.manager.observers.count .didEnterBackground ≤ 1 ∧
    (s.step .didEnterBackground).manager.sends.length ≤ s.manager.sends.length + 1

/-- At most one registration under each notification is enough for the sends. -/
theorem atMostOnce_of_count {s : Monitoring U}
    (hchanged : s.manager.observers.count .reachabilityChanged ≤ 1)
    (hbackground : s.manager.observers.count .didEnterBackground ≤ 1) : s.AtMostOnce := by
  refine ⟨hchanged, hbackground, ?_⟩
  have huser : s.manager.user.toList.length ≤ 1 := by
    cases s.manager.user with
    | none => exact Nat.zero_le 1
    | some user => exact Nat.le_refl 1
  have hproduct := Nat.mul_le_mul hbackground huser
  show (s.manager.post .didEnterBackground).sends.length ≤ _
  rw [ReachabilityManager.length_sends_post]
  omega

/-- No step leaves more than one registration for the changes of the network. -/
theorem count_reachabilityChanged_step {s : Monitoring U}
    (h : s.manager.observers.count .reachabilityChanged ≤ 1) (action : Action U) :
    (s.step action).manager.observers.count .reachabilityChanged ≤ 1 := by
  cases action with
  | call c =>
      cases c with
      | startMonitoring user =>
          exact Nat.le_of_eq (s.manager.count_startMonitoring user)
      | stopMonitoring =>
          have hstop := s.manager.count_stopMonitoring
          show s.manager.stopMonitoring.observers.count .reachabilityChanged ≤ 1
          omega
      | getTypeConnection => exact h
      | startApplicationDidEnterBackground user =>
          simpa [step, ReachabilityManager.startApplicationDidEnterBackground] using h
  | setFlags flags => exact h
  | runSerialQueue => simpa [step] using h
  | runMainQueue => simpa [step] using h
  | didEnterBackground => simpa [step] using h

/-- **A step adds a registration for the background exactly if it is a call of
`startApplicationDidEnterBackground`**, and no step takes one away. -/
theorem count_didEnterBackground_step (s : Monitoring U) (action : Action U) :
    (s.step action).manager.observers.count .didEnterBackground =
      s.manager.observers.count .didEnterBackground +
        (if action.startsBackground then 1 else 0) := by
  cases action with
  | call c =>
      cases c with
      | startMonitoring user => exact s.manager.count_startMonitoring_didEnterBackground user
      | stopMonitoring => exact s.manager.count_stopMonitoring_didEnterBackground
      | getTypeConnection => rfl
      | startApplicationDidEnterBackground user =>
          simp [step, ReachabilityManager.startApplicationDidEnterBackground,
            Action.startsBackground]
  | setFlags flags => rfl
  | runSerialQueue => simp [step, Action.startsBackground]
  | runMainQueue => simp [step, Action.startsBackground]
  | didEnterBackground => simp [step, Action.startsBackground]

/-- The runs on which registrations do not pile up, from any state that has at most one of each. -/
theorem always_atMostOnce_iff {s : Monitoring U} (actions : List (Action U))
    (hchanged : s.manager.observers.count .reachabilityChanged ≤ 1)
    (hbackground : s.manager.observers.count .didEnterBackground ≤ 1) :
    Runs.Always step AtMostOnce s actions ↔
      s.manager.observers.count .didEnterBackground +
        actions.countP Action.startsBackground ≤ 1 := by
  induction actions generalizing s with
  | nil =>
      have hnow := atMostOnce_of_count hchanged hbackground
      simpa using ⟨fun _ => hbackground, fun _ => hnow⟩
  | cons action actions ih =>
      have hnow := atMostOnce_of_count hchanged hbackground
      have hcount := s.count_didEnterBackground_step action
      have hchanged' := count_reachabilityChanged_step hchanged action
      rw [List.countP_cons]
      constructor
      · rintro ⟨_, hrest⟩
        -- The next state is one of the run, so it has at most one registration too.
        have hbackground' := hrest.head.2.1
        have := (ih hchanged' hbackground').mp hrest
        omega
      · intro hle
        have hbackground' :
            (s.step action).manager.observers.count .didEnterBackground ≤ 1 := by omega
        exact ⟨hnow, (ih hchanged' hbackground').mpr (by omega)⟩

/-- **Registrations do not pile up exactly in the runs that call
`startApplicationDidEnterBackground` at most once.** -/
theorem atMostOnce_iff (isRunningOnDevice : Bool) (flags : NetworkFlags)
    (actions : List (Action U)) :
    Runs.Always step AtMostOnce (launched isRunningOnDevice flags) actions ↔
      actions.countP Action.startsBackground ≤ 1 := by
  have h := always_atMostOnce_iff (s := launched isRunningOnDevice flags) actions
    (Nat.zero_le 1) (Nat.zero_le 1)
  simpa [launched, ReachabilityManager.init] using h

/-- After two calls of `startApplicationDidEnterBackground`, going to the background sends twice. -/
theorem not_atMostOnce_twice :
    ¬ Runs.Always step AtMostOnce (launched true .wiFi)
      [.call (.startApplicationDidEnterBackground 1),
        .call (.startApplicationDidEnterBackground 1)] := by
  intro h
  have htwice := h.last.2.2
  exact absurd htwice (by decide)

end Monitoring
