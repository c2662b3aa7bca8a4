import NaveggSdk.Library.Runs
import NaveggSdk.Sdk.ReachabilityManager

/-!
# The watcher at work

A `Monitoring` is the shared `ReachabilityManager` between two things that happen to it. What
happens next is free: a call, a change of the network, the next check of the serial queue, the next
block of the main queue, or the app going to the background. `monitored` is the history's view of
the calls: the user of the last `startMonitoring`, unless `stopMonitoring` was called since.
-/

/-- The shared manager, and whether it was last told to monitor. -/
structure Monitoring (U : Type) where
  manager : ReachabilityManager U
  monitored : Option U

namespace Monitoring

variable {U : Type}

inductive Call (U : Type) where
  | startMonitoring (user : U)
  | stopMonitoring
  | getTypeConnection
  | startApplicationDidEnterBackground (user : U)

inductive Action (U : Type) where
  | call (c : Call U)
  | setFlags (flags : NetworkFlags)
  | runSerialQueue
  | runMainQueue
  | didEnterBackground

def Action.startsBackground : Action U → Bool
  | .call (.startApplicationDidEnterBackground _) => true
  | _ => false

def step (s : Monitoring U) : Action U → Monitoring U
  | .call (.startMonitoring user) => ⟨s.manager.startMonitoring user, some user⟩
  | .call .stopMonitoring => ⟨s.manager.stopMonitoring, none⟩
  | .call .getTypeConnection => { s with manager := s.manager.getTypeConnection.2 }
  | .call (.startApplicationDidEnterBackground user) =>
    { s with manager := s.manager.startApplicationDidEnterBackground user }
  | .setFlags flags => { s with manager := s.manager.setFlags flags }
  | .runSerialQueue => { s with manager := s.manager.runSerialQueue }
  | .runMainQueue => { s with manager := s.manager.runMainQueue }
  | .didEnterBackground => { s with manager := s.manager.post .didEnterBackground }

/-- A manager before its first call, on a network with the given flags. -/
def launched (isRunningOnDevice : Bool) (flags : NetworkFlags) : Monitoring U :=
  ⟨ReachabilityManager.init isRunningOnDevice flags, none⟩

end Monitoring

namespace ReachabilityManager

variable {U : Type} (m : ReachabilityManager U)

/-! ## What a notification does

A handler runs once for each registration, and no handler touches the registrations. -/

/-- Posting `reachabilityChanged` asks for the closures, once for each registration. -/
theorem post_reachabilityChanged :
    m.post .reachabilityChanged =
      { m with
        mainQueue := m.mainQueue ++
          List.replicate (m.observers.count .reachabilityChanged) .install } := by
  have hloop : ∀ (l : List Notification) (m : ReachabilityManager U),
      l.foldl (fun m registration =>
          if registration = .reachabilityChanged then m.handle .reachabilityChanged else m) m =
        { m with
          mainQueue := m.mainQueue ++ List.replicate (l.count .reachabilityChanged) .install } := by
    intro l
    induction l with
    | nil => simp
    | cons registration l ih =>
        intro m
        rw [List.foldl_cons, ih]
        cases registration with
        | reachabilityChanged =>
            simp [handle, reachabilityChanged, async, List.replicate_succ]
        | didEnterBackground => simp
  exact hloop m.observers m

/-- Posting `didEnterBackground` sends, once for each registration. -/
theorem post_didEnterBackground :
    m.post .didEnterBackground =
      { m with
        sends := m.sends ++
          (List.replicate (m.observers.count .didEnterBackground) m.user.toList).flatten } := by
  have hloop : ∀ (l : List Notification) (m : ReachabilityManager U),
      l.foldl (fun m registration =>
          if registration = .didEnterBackground then m.handle .didEnterBackground else m) m =
        { m with
          sends := m.sends ++
            (List.replicate (l.count .didEnterBackground) m.user.toList).flatten } := by
    intro l
    induction l with
    | nil => simp
    | cons registration l ih =>
        intro m
        rw [List.foldl_cons, ih]
        cases registration with
        | reachabilityChanged => simp
        | didEnterBackground =>
            simp [handle, backGroundReachabilityChanged, sendDataSaveInDefault,
              List.replicate_succ]
  exact hloop m.observers m

/-! ## What a queue does

One equation for each block of the main queue, and one for the serial queue. -/

/-- What the manager sends when this closure is run. -/
def sentBy (closure : Option Closure) : List U :=
  if closure = some .whenReachable ∧ m.reachability.connection = .wifi then m.user.toList else []

/-- The blocks that a closure leaves on the main queue. -/
def leftBy (closure : Option Closure) : List Block :=
  if closure = some .whenUnreachable then [.empty] else []

variable {m} {rest : List Block}

theorem runMainQueue_nil (h : m.mainQueue = []) : m.runMainQueue = m := by
  unfold runMainQueue
  rw [h]

/-- A change that was noticed: the closure is run, then the notification asks for the closures. -/
theorem runMainQueue_changed {closure : Option Closure}
    (h : m.mainQueue = .changed closure :: rest) :
    m.runMainQueue =
      { m with
        mainQueue := rest ++ leftBy closure ++
          List.replicate (m.observers.count .reachabilityChanged) .install
        sends := m.sends ++ m.sentBy closure } := by
  unfold runMainQueue
  rw [h]
  match closure with
  | none =>
      show ReachabilityManager.post _ _ = _
      rw [post_reachabilityChanged]
      simp [leftBy, sentBy]
  | some .whenUnreachable =>
      show (ReachabilityManager.async _ _).post _ = _
      rw [post_reachabilityChanged]
      simp [leftBy, sentBy, async]
  | some .whenReachable =>
      show (ReachabilityManager.runClosure _ _).post _ = _
      rw [post_reachabilityChanged]
      by_cases hwifi : m.reachability.connection = .wifi
      · simp [leftBy, sentBy, runClosure, sendDataSaveInDefault, hwifi]
      · simp [leftBy, sentBy, runClosure, hwifi]

theorem runMainQueue_install (h : m.mainQueue = .install :: rest) :
    m.runMainQueue =
      { m with
        mainQueue := rest
        reachability.whenReachable := some .whenReachable
        reachability.whenUnreachable := some .whenUnreachable } := by
  unfold runMainQueue
  rw [h]
  rfl

theorem runMainQueue_empty (h : m.mainQueue = .empty :: rest) :
    m.runMainQueue = { m with mainQueue := rest } := by
  unfold runMainQueue
  rw [h]
  rfl

variable {check : Reachability.Check} {checks : List Reachability.Check}

theorem runSerialQueue_nil (h : m.reachability.serialQueue = []) : m.runSerialQueue = m := by
  unfold runSerialQueue Reachability.runSerialQueue
  rw [h]

/-- **What a check does.** If it is carried out and finds flags that were not seen before, the
closure of the moment goes to the main queue. -/
theorem runSerialQueue_cons (h : m.reachability.serialQueue = check :: checks) :
    (m.reachability.previousFlags ≠ some m.reachability.flags ∧
      m.runSerialQueue =
        { m with
          reachability.serialQueue := checks
          reachability.previousFlags := some m.reachability.flags
          mainQueue := m.mainQueue ++ [.changed m.reachability.handed] }) ∨
    ((m.reachability.notifierRunning = true →
        m.reachability.previousFlags = some m.reachability.flags) ∧
      m.runSerialQueue = { m with reachability.serialQueue := checks }) := by
  unfold runSerialQueue
  obtain ⟨hunseen, hrun⟩ | ⟨hseen, hrun⟩ := Reachability.runSerialQueue_cons h
  · rw [hrun]
    exact .inl ⟨hunseen, rfl⟩
  · rw [hrun]
    exact .inr ⟨hseen, rfl⟩

/-! ## What the queues leave alone -/

@[simp] theorem observers_post (name : Notification) : (m.post name).observers = m.observers := by
  cases name with
  | reachabilityChanged => rw [post_reachabilityChanged]
  | didEnterBackground => rw [post_didEnterBackground]

/-- The user, the registrations and the state of the notifier are the same. -/
structure Keeps (m m' : ReachabilityManager U) : Prop where
  user : m'.user = m.user
  observers : m'.observers = m.observers
  notifierRunning : m'.reachability.notifierRunning = m.reachability.notifierRunning

theorem keeps_runMainQueue : m.Keeps m.runMainQueue := by
  cases h : m.mainQueue with
  | nil =>
      rw [runMainQueue_nil h]
      exact ⟨rfl, rfl, rfl⟩
  | cons block rest =>
      cases block with
      | changed closure =>
          rw [runMainQueue_changed h]
          exact ⟨rfl, rfl, rfl⟩
      | install =>
          rw [runMainQueue_install h]
          exact ⟨rfl, rfl, rfl⟩
      | empty =>
          rw [runMainQueue_empty h]
          exact ⟨rfl, rfl, rfl⟩

theorem keeps_runSerialQueue : m.Keeps m.runSerialQueue := by
  cases h : m.reachability.serialQueue with
  | nil =>
      rw [runSerialQueue_nil h]
      exact ⟨rfl, rfl, rfl⟩
  | cons check checks =>
      obtain ⟨_, hrun⟩ | ⟨_, hrun⟩ := runSerialQueue_cons h
      · rw [hrun]
        exact ⟨rfl, rfl, rfl⟩
      · rw [hrun]
        exact ⟨rfl, rfl, rfl⟩

@[simp] theorem observers_runMainQueue : m.runMainQueue.observers = m.observers :=
  keeps_runMainQueue.observers

@[simp] theorem observers_runSerialQueue : m.runSerialQueue.observers = m.observers :=
  keeps_runSerialQueue.observers

end ReachabilityManager
