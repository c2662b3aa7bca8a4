import NaveggSdk.Monitoring.Observers
import NaveggSdk.Monitoring.WiFi

/-!
# Whom the watcher sends for, and how often

`Rounds` says what is sent when one thing happens at a time. Here everything may happen in between:
the network changes while checks are on the serial queue and closures on the main queue, monitoring
is stopped and started meanwhile. What is sent depends on the order then, but it is never for anyone
but the user of the moment, and there is never more of it than was asked for (`sends_paid`): a check
is put on the serial queue by a change of the network or by a start, it leaves one closure on the
main queue at most, and a closure sends once at most.
-/

namespace ReachabilityManager

variable {U : Type} {m : ReachabilityManager U}

/-- A closure sends once at most. -/
theorem length_sentBy_le (closure : Option Closure) : (m.sentBy closure).length ≤ 1 := by
  unfold sentBy
  split
  · exact Option.length_toList_le
  · exact Nat.zero_le 1

/-- A closure sends for the user of the moment. -/
theorem user_of_mem_sentBy {closure : Option Closure} {user : U} (h : user ∈ m.sentBy closure) :
    m.user = some user := by
  unfold sentBy at h
  split at h
  · exact Option.mem_toList.mp h
  · cases h

/-- What is on the queues and may send: each check, and each change that was noticed. -/
def pending (m : ReachabilityManager U) : Nat :=
  m.reachability.serialQueue.length + m.mainQueue.countP Block.isChanged

/-- **What a queue does**: the network is the same; nothing that was sent is taken back, and what is
sent is for the user of the moment; and each send is one thing less that may send. -/
structure Onward (m m' : ReachabilityManager U) : Prop where
  device : m'.reachability.isRunningOnDevice = m.reachability.isRunningOnDevice
  cellular : m'.reachability.allowsCellularConnection = m.reachability.allowsCellularConnection
  flags : m'.reachability.flags = m.reachability.flags
  sends : ∃ l, m'.sends = m.sends ++ l ∧ ∀ user ∈ l, m.user = some user
  paid : m'.sends.length + m'.pending ≤ m.sends.length + m.pending

/-- Nothing is sent. -/
theorem sends_same : ∃ l, m.sends = m.sends ++ l ∧ ∀ user ∈ l, m.user = some user :=
  ⟨[], (List.append_nil _).symm, List.forall_mem_nil _⟩

theorem onward_runSerialQueue : m.Onward m.runSerialQueue := by
  cases hserial : m.reachability.serialQueue with
  | nil =>
      rw [runSerialQueue_nil hserial]
      exact ⟨rfl, rfl, rfl, sends_same, Nat.le_refl _⟩
  | cons check checks =>
      obtain ⟨-, hrun⟩ | ⟨-, hrun⟩ := runSerialQueue_cons hserial
      · -- the check becomes a change
        rw [hrun]
        refine ⟨rfl, rfl, rfl, sends_same, ?_⟩
        simp only [pending, hserial, List.length_cons, List.countP_append, List.countP_cons,
          List.countP_nil, Block.isChanged, if_true]
        omega
      · rw [hrun]
        refine ⟨rfl, rfl, rfl, sends_same, ?_⟩
        simp only [pending, hserial, List.length_cons]
        omega

theorem onward_runMainQueue : m.Onward m.runMainQueue := by
  cases hmain : m.mainQueue with
  | nil =>
      rw [runMainQueue_nil hmain]
      exact ⟨rfl, rfl, rfl, sends_same, Nat.le_refl _⟩
  | cons block rest =>
      cases block with
      | changed closure =>
          -- the change becomes a send, or nothing
          have hsent := m.length_sentBy_le closure
          rw [runMainQueue_changed hmain]
          refine ⟨rfl, rfl, rfl, ⟨_, rfl, fun user huser => user_of_mem_sentBy huser⟩, ?_⟩
          simp only [pending, hmain, List.length_append, List.countP_append, countP_leftBy,
            countP_replicate_install, List.countP_cons, Block.isChanged, if_true]
          omega
      | install =>
          rw [runMainQueue_install hmain]
          refine ⟨rfl, rfl, rfl, sends_same, ?_⟩
          simp [pending, hmain, Block.isChanged]
      | empty =>
          rw [runMainQueue_empty hmain]
          refine ⟨rfl, rfl, rfl, sends_same, ?_⟩
          simp [pending, hmain, Block.isChanged]

/-- A start puts one check on the serial queue, if the notifier did not run. -/
theorem length_startNotifier (r : Reachability Closure) :
    r.startNotifier.serialQueue.length =
      r.serialQueue.length + if r.notifierRunning then 0 else 1 := by
  unfold Reachability.startNotifier
  split <;> simp

end ReachabilityManager

namespace Monitoring

variable {U : Type} {s : Monitoring U}

def Action.brought : Action U → Option U
  | .call (.startMonitoring user) | .call (.startApplicationDidEnterBackground user) => some user
  | _ => none

/-- The user of the manager is that of the last call that brought one. -/
theorem user_step (s : Monitoring U) (a : Action U) :
    (s.step a).manager.user = a.brought.or s.manager.user := by
  cases a with
  | call c => cases c <;> rfl
  | setFlags flags => rfl
  | runSerialQueue => exact ReachabilityManager.keeps_runSerialQueue.user
  | runMainQueue => exact ReachabilityManager.keeps_runMainQueue.user
  | didEnterBackground =>
      show (s.manager.post .didEnterBackground).user = _
      rw [ReachabilityManager.post_didEnterBackground]
      rfl

/-- Nothing that was sent is taken back, and what is sent is for the user of the moment. -/
theorem sends_step (s : Monitoring U) (a : Action U) :
    ∃ l, (s.step a).manager.sends = s.manager.sends ++ l ∧
      ∀ user ∈ l, s.manager.user = some user := by
  cases a with
  | call c =>
      have hnone := ReachabilityManager.sends_same (m := s.manager)
      cases c <;> exact hnone
  | setFlags flags => exact ReachabilityManager.sends_same (m := s.manager)
  | runSerialQueue => exact ReachabilityManager.onward_runSerialQueue.sends
  | runMainQueue => exact ReachabilityManager.onward_runMainQueue.sends
  | didEnterBackground =>
      show ∃ l, (s.manager.post .didEnterBackground).sends = _ ∧ _
      rw [ReachabilityManager.post_didEnterBackground]
      refine ⟨_, rfl, ?_⟩
      intro user huser
      obtain ⟨l, hl, hmem⟩ := List.mem_flatten.mp huser
      rw [List.eq_of_mem_replicate hl] at hmem
      exact Option.mem_toList.mp hmem

theorem sends_run (s : Monitoring U) (actions : List (Action U)) :
    ∃ l, (Runs.run step s actions).manager.sends = s.manager.sends ++ l := by
  induction actions generalizing s with
  | nil => exact ⟨[], (List.append_nil _).symm⟩
  | cons a as ih =>
      obtain ⟨l, hl, -⟩ := s.sends_step a
      obtain ⟨l', hl'⟩ := ih (s.step a)
      exact ⟨l ++ l', by rw [Runs.run_cons, hl', hl, List.append_assoc]⟩

/-- A running notifier has seen the flags, or is about to look. -/
theorem seen_step (h : s.manager.reachability.Seen) (a : Action U) :
    (s.step a).manager.reachability.Seen := by
  cases a with
  | call c =>
      cases c with
      | startMonitoring user => exact Reachability.seen_stopNotifier.startNotifier
      | stopMonitoring => exact Reachability.seen_stopNotifier
      | getTypeConnection => exact h.startNotifier
      | startApplicationDidEnterBackground user => exact h.startNotifier
  | setFlags flags => exact h.setFlags flags
  | runSerialQueue => exact ReachabilityManager.seen_runSerialQueue h
  | runMainQueue => exact ReachabilityManager.seen_runMainQueue h
  | didEnterBackground =>
      show (s.manager.post .didEnterBackground).reachability.Seen
      rw [ReachabilityManager.post_didEnterBackground]
      exact h

/-- The flags of the network, and what kind of device this is. -/
theorem network_step (s : Monitoring U) (a : Action U) :
    (s.step a).manager.reachability.isRunningOnDevice =
        s.manager.reachability.isRunningOnDevice ∧
      (s.step a).manager.reachability.allowsCellularConnection =
        s.manager.reachability.allowsCellularConnection ∧
      (s.step a).manager.reachability.flags =
        match a with
        | .setFlags flags => flags
        | _ => s.manager.reachability.flags := by
  have hstart : ∀ r : Reachability ReachabilityManager.Closure,
      r.startNotifier.isRunningOnDevice = r.isRunningOnDevice ∧
        r.startNotifier.allowsCellularConnection = r.allowsCellularConnection ∧
        r.startNotifier.flags = r.flags := by
    intro r
    unfold Reachability.startNotifier
    split <;> exact ⟨rfl, rfl, rfl⟩
  cases a with
  | call c =>
      cases c with
      | startMonitoring user => exact hstart s.manager.reachability.stopNotifier
      | stopMonitoring => exact ⟨rfl, rfl, rfl⟩
      | getTypeConnection => exact hstart s.manager.reachability
      | startApplicationDidEnterBackground user => exact hstart s.manager.reachability
  | setFlags flags => exact ⟨rfl, rfl, rfl⟩
  | runSerialQueue =>
      obtain ⟨hdevice, hcellular, hflags, -⟩ :=
        ReachabilityManager.onward_runSerialQueue (m := s.manager)
      exact ⟨hdevice, hcellular, hflags⟩
  | runMainQueue =>
      obtain ⟨hdevice, hcellular, hflags, -⟩ :=
        ReachabilityManager.onward_runMainQueue (m := s.manager)
      exact ⟨hdevice, hcellular, hflags⟩
  | didEnterBackground =>
      show (s.manager.post .didEnterBackground).reachability.isRunningOnDevice = _ ∧
        (s.manager.post .didEnterBackground).reachability.allowsCellularConnection = _ ∧
        (s.manager.post .didEnterBackground).reachability.flags = _
      rw [ReachabilityManager.post_didEnterBackground]
      exact ⟨rfl, rfl, rfl⟩

/-! ## Every run -/

/-- The sends that an action may bring about: one for a change of the network while the notifier
runs, one for a start of the notifier, and one for each registration when the app goes to the
background. -/
def credit (s : Monitoring U) : Action U → Nat
  | .call (.startMonitoring _) => 1
  | .call .getTypeConnection | .call (.startApplicationDidEnterBackground _) =>
    if s.manager.reachability.notifierRunning then 0 else 1
  | .setFlags flags =>
    if s.manager.reachability.notifierRunning ∧ flags ≠ s.manager.reachability.flags then 1 else 0
  | .didEnterBackground => s.manager.observers.count .didEnterBackground
  | .call .stopMonitoring | .runSerialQueue | .runMainQueue => 0

/-- **One step** spends no more than it brings in. -/
theorem paid_step (s : Monitoring U) (a : Action U) :
    (s.step a).manager.sends.length + (s.step a).manager.pending ≤
      s.manager.sends.length + s.manager.pending + s.credit a := by
  cases a with
  | call c =>
      cases c with
      | startMonitoring user =>
          have hlength := ReachabilityManager.length_startNotifier
            s.manager.reachability.stopNotifier
          show s.manager.sends.length +
            (s.manager.reachability.stopNotifier.startNotifier.serialQueue.length +
              s.manager.mainQueue.countP ReachabilityManager.Block.isChanged) ≤ _
          rw [hlength, credit, ReachabilityManager.pending]
          show _ + (s.manager.reachability.serialQueue.length + 1 + _) ≤ _
          omega
      | stopMonitoring => exact Nat.le_refl _
      | getTypeConnection =>
          have hlength := ReachabilityManager.length_startNotifier s.manager.reachability
          show s.manager.sends.length + (s.manager.reachability.startNotifier.serialQueue.length +
            s.manager.mainQueue.countP ReachabilityManager.Block.isChanged) ≤ _
          rw [hlength, credit, ReachabilityManager.pending]
          omega
      | startApplicationDidEnterBackground user =>
          have hlength := ReachabilityManager.length_startNotifier s.manager.reachability
          show s.manager.sends.length + (s.manager.reachability.startNotifier.serialQueue.length +
            s.manager.mainQueue.countP ReachabilityManager.Block.isChanged) ≤ _
          rw [hlength, credit, ReachabilityManager.pending]
          omega
  | setFlags flags =>
      show s.manager.sends.length + (List.length (if _ then _ else _) +
        s.manager.mainQueue.countP ReachabilityManager.Block.isChanged) ≤ _
      rw [credit, ReachabilityManager.pending]
      split
      · rw [List.length_append, List.length_singleton]
        omega
      · omega
  | runSerialQueue => exact ReachabilityManager.onward_runSerialQueue.paid
  | runMainQueue => exact ReachabilityManager.onward_runMainQueue.paid
  | didEnterBackground =>
      have huser : s.manager.user.toList.length ≤ 1 := Option.length_toList_le
      have hsends := Nat.mul_le_mul (Nat.le_refl (s.manager.observers.count .didEnterBackground))
        huser
      have hpending : (s.manager.post .didEnterBackground).pending = s.manager.pending := by
        rw [ReachabilityManager.post_didEnterBackground]
        rfl
      show (s.manager.post .didEnterBackground).sends.length +
        (s.manager.post .didEnterBackground).pending ≤ _
      rw [hpending, ReachabilityManager.length_sends_post, credit]
      omega

/-- Whoever was sent for was the user, or was brought by a call. -/
theorem brought_of_mem_sends {actions : List (Action U)} {user : U}
    (h : user ∈ (Runs.run step s actions).manager.sends) :
    user ∈ s.manager.sends ∨ s.manager.user = some user ∨
      ∃ a ∈ actions, a.brought = some user := by
  induction actions generalizing s with
  | nil => exact .inl h
  | cons a as ih =>
      rcases ih h with hsent | huser | ⟨b, hb, hbrought⟩
      · obtain ⟨l, hl, hmoment⟩ := s.sends_step a
        rw [hl] at hsent
        rcases List.mem_append.mp hsent with hold | hnew
        · exact .inl hold
        · exact .inr (.inl (hmoment user hnew))
      · rw [user_step] at huser
        cases hbrought : a.brought with
        | none =>
            rw [hbrought, Option.none_or] at huser
            exact .inr (.inl huser)
        | some user' =>
            rw [hbrought, Option.some_or] at huser
            exact .inr (.inr ⟨a, List.mem_cons_self, hbrought.trans huser⟩)
      · exact .inr (.inr ⟨b, List.mem_cons_of_mem a hb, hbrought⟩)

/-- **The watcher never sends more than was asked for, nor for anyone else**, in whatever order the
calls, the changes of the network and the two queues take their turns. All that it has sent and may
still send was there before, or is paid for: each change of the network and each start by one send,
each time the app goes to the background by one for each registration. -/
theorem sends_paid (s : Monitoring U) (actions : List (Action U)) :
    (Runs.run step s actions).manager.sends.length + (Runs.run step s actions).manager.pending ≤
        s.manager.sends.length + s.manager.pending + Runs.credits step credit s actions ∧
      ∀ user ∈ (Runs.run step s actions).manager.sends,
        user ∈ s.manager.sends ∨ s.manager.user = some user ∨
          ∃ a ∈ actions, a.brought = some user := by
  constructor
  · exact Runs.spent_le_credits (·.manager.sends.length) (·.manager.pending) paid_step s actions
  · exact fun user huser => brought_of_mem_sends huser

end Monitoring
