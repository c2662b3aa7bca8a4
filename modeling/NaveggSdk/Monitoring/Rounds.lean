import NaveggSdk.Monitoring.Observers
import NaveggSdk.Monitoring.WiFi

/-!
# The watcher without its queues

What the shared manager does is spread over a notifier, two queues and a notification that installs
closures. A `Watch` is what all this comes to when one thing happens at a time: it has no queues,
and each event takes effect at once. The whole machinery is one function, `look`: on flags that were
not seen before, send on a Wi-Fi if armed, and be armed from now on if registered.

`rounds_refine` says that a manager whose queues come to rest after each event does what the `Watch`
does, whatever the events are; `exists_inRounds` that its queues can always come to rest. With the
`Watch` in hand, `promise_kept` is a short argument about four fields.
-/

def NetworkFlags.isWiFi (isRunningOnDevice : Bool) (flags : NetworkFlags) : Bool :=
  (Reachability.init isRunningOnDevice flags : Reachability Unit).connection = .wifi

/-- A manager without queues. -/
structure Watch (U : Type) where
  user : Option U
  /-- `reachabilityChanged` is observed. -/
  registered : Bool
  /-- The registrations for `didEnterBackground`. -/
  background : Nat
  running : Bool
  flags : NetworkFlags
  seen : Option NetworkFlags
  /-- The closure is installed that sends on a Wi-Fi. -/
  armed : Bool
  sends : List U

namespace Watch

variable {U : Type} (isRunningOnDevice : Bool)

def look (w : Watch U) : Watch U :=
  if w.seen = some w.flags then w
  else
    { w with
      seen := some w.flags
      armed := w.armed || w.registered
      sends := w.sends ++
        if w.armed && w.flags.isWiFi isRunningOnDevice then w.user.toList else [] }

/-- What happens next. The queues have nothing to do. -/
def next (w : Watch U) : Monitoring.Action U → Watch U
  | .call (.startMonitoring user) =>
    look isRunningOnDevice { w with user := some user, registered := true, running := true }
  | .call .stopMonitoring => { w with registered := false, running := false }
  | .call .getTypeConnection =>
    if w.running then w else look isRunningOnDevice { w with running := true }
  | .call (.startApplicationDidEnterBackground user) =>
    let w := { w with user := some user, background := w.background + 1 }
    if w.running then w else look isRunningOnDevice { w with running := true }
  | .setFlags flags =>
    if w.running ∧ flags ≠ w.flags then look isRunningOnDevice { w with flags := flags }
    else { w with flags := flags }
  | .didEnterBackground =>
    { w with sends := w.sends ++ (List.replicate w.background w.user.toList).flatten }
  | .runSerialQueue | .runMainQueue => w

/-- Before the first call, on a network with the given flags. -/
def init (flags : NetworkFlags) : Watch U where
  user := none
  registered := false
  background := 0
  running := false
  flags := flags
  seen := none
  armed := false
  sends := []

end Watch

namespace Reachability

variable {κ : Type} {r : Reachability κ}

theorem startNotifier_of_running (h : r.notifierRunning = true) : r.startNotifier = r := if_pos h

theorem startNotifier_of_stopped (h : r.notifierRunning = false) :
    r.startNotifier =
      { r with serialQueue := r.serialQueue ++ [.initial], notifierRunning := true } := by
  unfold Reachability.startNotifier
  rw [h]
  rfl

end Reachability

namespace Monitoring

open ReachabilityManager

variable {U : Type} {isRunningOnDevice : Bool}

/-- The parts that the queues leave alone are those of the watch. -/
structure Matches (isRunningOnDevice : Bool) (m : ReachabilityManager U) (w : Watch U) : Prop where
  user : m.user = w.user
  registered : m.observers.count .reachabilityChanged = if w.registered then 1 else 0
  background : m.observers.count .didEnterBackground = w.background
  running : m.reachability.notifierRunning = w.running
  flags : m.reachability.flags = w.flags
  device : m.reachability.isRunningOnDevice = isRunningOnDevice
  cellular : m.reachability.allowsCellularConnection = true

/-- **The queues lead to the watch**: once they are at rest, the manager is what the watch is. -/
inductive Leads (isRunningOnDevice : Bool) (w : Watch U) (m : ReachabilityManager U) : Prop where
  /-- A check is on the serial queue, and will be carried out. -/
  | checking (w₀ : Watch U) (check : Reachability.Check)
      (hserial : m.reachability.serialQueue = [check]) (hmain : m.mainQueue = [])
      (hrunning : m.reachability.notifierRunning = true)
      (hmatches : Matches isRunningOnDevice m w₀) (hseen : m.reachability.previousFlags = w₀.seen)
      (harmed : w₀.armed = true ↔ m.reachability.whenReachable = some .whenReachable)
      (hsends : w₀.sends = m.sends) (hw : w = w₀.look isRunningOnDevice)
  /-- A change was noticed, and the closure of the moment is on the main queue. -/
  | notifying (closure : Option Closure) (hserial : m.reachability.serialQueue = [])
      (hmain : m.mainQueue = [.changed closure]) (hmatches : Matches isRunningOnDevice m w)
      (hseen : m.reachability.previousFlags = w.seen)
      (harmed : w.armed = true ↔
        m.reachability.whenReachable = some .whenReachable ∨ w.registered = true)
      (hsends : w.sends = m.sends ++ m.sentBy closure)
  /-- What is left installs the closures, if it does anything. -/
  | quiet (hserial : m.reachability.serialQueue = [])
      (hmain : ∀ block ∈ m.mainQueue, block.isChanged = false)
      (hmatches : Matches isRunningOnDevice m w) (hseen : m.reachability.previousFlags = w.seen)
      (harmed : w.armed = true ↔
        m.reachability.whenReachable = some .whenReachable ∨ Block.install ∈ m.mainQueue)
      (hsends : w.sends = m.sends)

namespace Matches

variable {m : ReachabilityManager U} {w : Watch U} (h : Matches isRunningOnDevice m w)
include h

/-- The two agree on what is a Wi-Fi. -/
theorem isWiFi : w.flags.isWiFi isRunningOnDevice = true ↔ m.reachability.connection = .wifi := by
  obtain ⟨-, -, -, -, hflags, hdevice, hcellular⟩ := h
  have hconnection : (Reachability.init isRunningOnDevice w.flags : Reachability Unit).connection =
      m.reachability.connection := by
    unfold Reachability.connection Reachability.isConnectionOnTrafficOrDemandFlagSet
    rw [hflags, hdevice, hcellular]
    rfl
  rw [NetworkFlags.isWiFi, hconnection, decide_eq_true_eq]

/-- What the closure of the moment sends. -/
theorem sentBy_handed
    (harmed : w.armed = true ↔ m.reachability.whenReachable = some .whenReachable) :
    m.sentBy m.reachability.handed =
      if w.armed && w.flags.isWiFi isRunningOnDevice then w.user.toList else [] := by
  rw [Monitoring.sentBy_handed, ← h.user]
  refine if_congr ?_ rfl rfl
  rw [Bool.and_eq_true, harmed, h.isWiFi]

end Matches

namespace Leads

variable {m : ReachabilityManager U} {w : Watch U}

/-- The serial queue does its part. -/
theorem runSerialQueue (h : Leads isRunningOnDevice w m) :
    Leads isRunningOnDevice w m.runSerialQueue := by
  cases h with
  | notifying closure hserial hmain hmatches hseen harmed hsends =>
      rw [runSerialQueue_nil hserial]
      exact .notifying closure hserial hmain hmatches hseen harmed hsends
  | quiet hserial hmain hmatches hseen harmed hsends =>
      rw [runSerialQueue_nil hserial]
      exact .quiet hserial hmain hmatches hseen harmed hsends
  | checking w₀ check hserial hmain hrunning hmatches hseen harmed hsends hw =>
      subst hw
      obtain ⟨hunseen, hrun⟩ | ⟨hknown, hrun⟩ := runSerialQueue_cons hserial
      · -- other flags: the closure goes to the main queue
        rw [hseen, hmatches.flags] at hunseen
        rw [hrun, Watch.look, if_neg hunseen]
        refine .notifying m.reachability.handed rfl ?_ ?_ ?_ ?_ ?_
        · show m.mainQueue ++ [_] = _
          rw [hmain]
          rfl
        · exact { hmatches with }
        · exact congrArg some hmatches.flags
        · rw [Bool.or_eq_true, harmed]
        · show w₀.sends ++ _ = m.sends ++ m.sentBy m.reachability.handed
          rw [hmatches.sentBy_handed harmed, hsends]
      · -- the same flags: nothing
        have hknown := hknown hrunning
        rw [hseen, hmatches.flags] at hknown
        rw [hrun, Watch.look, if_pos hknown]
        refine .quiet rfl ?_ ?_ hseen ?_ hsends
        · show ∀ block ∈ m.mainQueue, _
          rw [hmain]
          exact List.forall_mem_nil _
        · exact { hmatches with }
        · show _ ↔ _ ∨ Block.install ∈ m.mainQueue
          rw [hmain, harmed]
          simp

/-- The main queue does its part. -/
theorem runMainQueue (h : Leads isRunningOnDevice w m) :
    Leads isRunningOnDevice w m.runMainQueue := by
  cases h with
  | checking w₀ check hserial hmain hrunning hmatches hseen harmed hsends hw =>
      rw [runMainQueue_nil hmain]
      exact .checking w₀ check hserial hmain hrunning hmatches hseen harmed hsends hw
  | notifying closure hserial hmain hmatches hseen harmed hsends =>
      rw [runMainQueue_changed hmain]
      refine .quiet hserial ?_ ?_ hseen ?_ hsends
      · intro block hmem
        rcases List.mem_append.mp hmem with hleft | hasked
        · exact isChanged_of_leftBy hleft
        · rw [List.eq_of_mem_replicate hasked]
          rfl
      · exact { hmatches with }
      · -- the closures are asked for exactly where there is a registration
        rw [harmed]
        refine or_congr_right ?_
        have hleft : Block.install ∉ leftBy closure := by
          unfold leftBy
          split <;> simp
        rw [hmatches.registered]
        cases w.registered <;> simp [hleft]
  | quiet hserial hmain hmatches hseen harmed hsends =>
      cases hqueue : m.mainQueue with
      | nil =>
          rw [runMainQueue_nil hqueue]
          exact .quiet hserial hmain hmatches hseen harmed hsends
      | cons block rest =>
          rw [hqueue] at hmain harmed
          obtain ⟨hblock, hrest⟩ := List.forall_mem_cons.mp hmain
          cases block with
          | changed closure => cases hblock
          | install =>
              rw [runMainQueue_install hqueue]
              refine .quiet hserial hrest ?_ hseen ?_ hsends
              · exact { hmatches with }
              · rw [harmed]
                simp
          | empty =>
              rw [runMainQueue_empty hqueue]
              refine .quiet hserial hrest ?_ hseen ?_ hsends
              · exact { hmatches with }
              · rw [harmed]
                simp

end Leads

/-! ## One round -/

/-- The manager is at rest, and is what the watch is. -/
def Shows (isRunningOnDevice : Bool) (s : Monitoring U) (w : Watch U) : Prop :=
  s.Settled ∧ Leads isRunningOnDevice w s.manager

namespace Shows

variable {s : Monitoring U} {w : Watch U} (h : Shows isRunningOnDevice s w)
include h

/-- At rest only the quiet case is left, and nothing waits to be installed. -/
theorem atRest : Matches isRunningOnDevice s.manager w ∧
    s.manager.reachability.previousFlags = w.seen ∧
    (w.armed = true ↔ s.manager.reachability.whenReachable = some .whenReachable) ∧
    w.sends = s.manager.sends := by
  obtain ⟨⟨hserial, hmain⟩, hleads⟩ := h
  cases hleads with
  | checking w₀ check hcheck => simp [hserial] at hcheck
  | notifying closure _ hchanged => simp [hmain] at hchanged
  | quiet _ _ hmatches hseen harmed hsends =>
      refine ⟨hmatches, hseen, ?_, hsends⟩
      rw [harmed, hmain]
      simp

theorem matches' : Matches isRunningOnDevice s.manager w := h.atRest.1

theorem seen : s.manager.reachability.previousFlags = w.seen := h.atRest.2.1

theorem armed :
    w.armed = true ↔ s.manager.reachability.whenReachable = some .whenReachable :=
  h.atRest.2.2.1

theorem sends : w.sends = s.manager.sends := h.atRest.2.2.2

/-- Nothing is put on a queue. -/
theorem leads_of_quiet {m : ReachabilityManager U} {w' : Watch U}
    (hserial : m.reachability.serialQueue = s.manager.reachability.serialQueue)
    (hmain : m.mainQueue = s.manager.mainQueue)
    (hinstalled : m.reachability.whenReachable = s.manager.reachability.whenReachable)
    (hprevious : m.reachability.previousFlags = s.manager.reachability.previousFlags)
    (hmatches : Matches isRunningOnDevice m w') (hseen : w'.seen = w.seen)
    (harmed : w'.armed = w.armed) (hsends : w'.sends = m.sends) : Leads isRunningOnDevice w' m := by
  obtain ⟨hserial', hmain'⟩ := h.1
  refine .quiet (hserial.trans hserial') ?_ hmatches ?_ ?_ hsends
  · rw [hmain, hmain']
    exact List.forall_mem_nil _
  · rw [hprevious, h.seen, hseen]
  · rw [harmed, h.armed, hinstalled, hmain, hmain']
    simp

/-- A check is put on the serial queue. -/
theorem leads_of_check {m : ReachabilityManager U} {w₀ : Watch U} (check : Reachability.Check)
    (hserial : m.reachability.serialQueue = s.manager.reachability.serialQueue ++ [check])
    (hmain : m.mainQueue = s.manager.mainQueue)
    (hrunning : m.reachability.notifierRunning = true)
    (hinstalled : m.reachability.whenReachable = s.manager.reachability.whenReachable)
    (hprevious : m.reachability.previousFlags = s.manager.reachability.previousFlags)
    (hmatches : Matches isRunningOnDevice m w₀) (hseen : w₀.seen = w.seen)
    (harmed : w₀.armed = w.armed) (hsends : w₀.sends = m.sends) :
    Leads isRunningOnDevice (w₀.look isRunningOnDevice) m := by
  obtain ⟨hserial', hmain'⟩ := h.1
  refine .checking w₀ check ?_ (hmain.trans hmain') hrunning hmatches ?_ ?_ hsends rfl
  · rw [hserial, hserial']
    rfl
  · rw [hprevious, h.seen, hseen]
  · rw [harmed, h.armed, hinstalled]

/-- **What happens leads to what happens to the watch.** -/
theorem leads_step (a : Action U) :
    Leads isRunningOnDevice (w.next isRunningOnDevice a) (s.step a).manager := by
  have hm := h.matches'
  cases a with
  | call c =>
      cases c with
      | startMonitoring user =>
          refine h.leads_of_check .initial rfl rfl rfl rfl rfl ?_ rfl rfl h.sends
          exact ⟨rfl, count_startMonitoring _ user,
            (count_startMonitoring_didEnterBackground _ user).trans hm.background, rfl, hm.flags,
            hm.device, hm.cellular⟩
      | stopMonitoring =>
          refine h.leads_of_quiet rfl rfl rfl rfl ?_ rfl rfl h.sends
          exact ⟨hm.user, count_stopMonitoring _,
            (count_stopMonitoring_didEnterBackground _).trans hm.background, rfl, hm.flags, hm.device,
            hm.cellular⟩
      | getTypeConnection =>
          show Leads _ (if w.running then w else _) { s.manager with
            reachability := s.manager.reachability.startNotifier }
          cases hrunning : w.running with
          | true =>
              rw [Reachability.startNotifier_of_running (hm.running.trans hrunning)]
              exact h.2
          | false =>
              rw [Reachability.startNotifier_of_stopped (hm.running.trans hrunning)]
              refine h.leads_of_check .initial rfl rfl rfl rfl rfl ?_ rfl rfl h.sends
              exact { hm with running := rfl }
      | startApplicationDidEnterBackground user =>
          show Leads _ (if w.running then { w with user := some user, background := _ } else _)
            { s.manager with
              user := some user
              observers := s.manager.observers ++ [Notification.didEnterBackground]
              reachability := s.manager.reachability.startNotifier }
          have hregistered : (s.manager.observers ++ [Notification.didEnterBackground]).count
              .reachabilityChanged = if w.registered then 1 else 0 := by
            rw [← hm.registered]
            simp
          have hbackground : (s.manager.observers ++ [Notification.didEnterBackground]).count
              .didEnterBackground = w.background + 1 := by
            rw [← hm.background]
            simp
          cases hrunning : w.running with
          | true =>
              rw [Reachability.startNotifier_of_running (hm.running.trans hrunning)]
              refine h.leads_of_quiet rfl rfl rfl rfl ?_ rfl rfl h.sends
              exact ⟨rfl, hregistered, hbackground, hm.running.trans hrunning, hm.flags, hm.device,
                hm.cellular⟩
          | false =>
              rw [Reachability.startNotifier_of_stopped (hm.running.trans hrunning)]
              refine h.leads_of_check .initial rfl rfl rfl rfl rfl ?_ rfl rfl h.sends
              exact ⟨rfl, hregistered, hbackground, rfl, hm.flags, hm.device, hm.cellular⟩
  | setFlags flags =>
      show Leads _ (if w.running ∧ flags ≠ w.flags then _ else _)
        (s.manager.setFlags flags)
      by_cases hnotices : w.running = true ∧ flags ≠ w.flags
      · have hnotices' : s.manager.reachability.notifierRunning = true ∧
            flags ≠ s.manager.reachability.flags := by
          rwa [hm.running, hm.flags]
        rw [if_pos hnotices]
        refine h.leads_of_check .callback ?_ rfl hnotices'.1 rfl rfl ?_ rfl rfl h.sends
        · exact if_pos hnotices'
        · exact { hm with flags := rfl }
      · have hnotices' : ¬ (s.manager.reachability.notifierRunning = true ∧
            flags ≠ s.manager.reachability.flags) := by
          rwa [hm.running, hm.flags]
        rw [if_neg hnotices]
        refine h.leads_of_quiet ?_ rfl rfl rfl ?_ rfl rfl h.sends
        · exact if_neg hnotices'
        · exact { hm with flags := rfl }
  | didEnterBackground =>
      show Leads _ _ (s.manager.post .didEnterBackground)
      rw [post_didEnterBackground]
      refine h.leads_of_quiet rfl rfl rfl rfl ?_ rfl rfl ?_
      · exact { hm with }
      · show w.sends ++ _ = s.manager.sends ++ _
        rw [h.sends, hm.background, hm.user]
  | runSerialQueue => exact h.2.runSerialQueue
  | runMainQueue => exact h.2.runMainQueue

/-- **One round of the manager is one step of the watch.** -/
theorem round (a : Action U) {queues : List (Action U)}
    (hqueues : ∀ b ∈ queues, b.isQueue = true)
    (hrest : (Runs.run step (s.step a) queues).Settled) :
    Shows isRunningOnDevice (Runs.run step (s.step a) queues) (w.next isRunningOnDevice a) := by
  refine ⟨hrest, ?_⟩
  clear hrest
  have hleads := h.leads_step a
  generalize s.step a = t at hleads ⊢
  induction queues generalizing t with
  | nil => exact hleads
  | cons b queues ih =>
      refine ih (fun b' hb' => hqueues b' (List.mem_cons_of_mem b hb')) (t.step b) ?_
      have hqueue := hqueues b List.mem_cons_self
      cases b with
      | runSerialQueue => exact hleads.runSerialQueue
      | runMainQueue => exact hleads.runMainQueue
      | call c => cases hqueue
      | setFlags flags => cases hqueue
      | didEnterBackground => cases hqueue

end Shows

theorem shows_launched (flags : NetworkFlags) :
    Shows isRunningOnDevice (launched isRunningOnDevice flags : Monitoring U) (.init flags) := by
  refine ⟨⟨rfl, rfl⟩, .quiet rfl ?_ ⟨rfl, rfl, rfl, rfl, rfl, rfl, rfl⟩ rfl ?_ rfl⟩
  · exact List.forall_mem_nil _
  · exact iff_of_false nofun (by simp [launched, ReachabilityManager.init, Reachability.init])

/-! ## Every run in rounds -/

/-- Things happen to the manager one at a time: its queues are at rest before the next one. -/
abbrev InRounds (s : Monitoring U) (rounds : List (Action U × List (Action U))) : Prop :=
  Runs.Rounds step (fun b => b.isQueue = true) Settled s rounds

theorem shows_rounds (isRunningOnDevice : Bool) (flags : NetworkFlags)
    {rounds : List (Action U × List (Action U))}
    (hrounds : InRounds (launched isRunningOnDevice flags) rounds) :
    Shows isRunningOnDevice
      (Runs.run step (launched isRunningOnDevice flags) (Runs.ofRounds rounds))
      (Runs.run (Watch.next isRunningOnDevice) (.init flags) (rounds.map Prod.fst)) := by
  apply Runs.Rounds.related (R := Shows isRunningOnDevice) (shows_launched flags) ?_ hrounds
  intro s w a queues hshows hqueues hrest
  exact hshows.round a hqueues hrest

/-- **The manager refines the watch.** Whatever happens to it, one thing at a time, what it has sent
when its queues are at rest is what the watch sends; and the two agree on the user, on whether the
notifier runs, on the flags it saw last, and on whether the closure is installed that sends. -/
theorem rounds_refine (isRunningOnDevice : Bool) (flags : NetworkFlags)
    (rounds : List (Action U × List (Action U)))
    (hrounds : InRounds (launched isRunningOnDevice flags) rounds) :
    let s := Runs.run step (launched isRunningOnDevice flags) (Runs.ofRounds rounds)
    let w := Runs.run (Watch.next isRunningOnDevice) (.init flags) (rounds.map Prod.fst)
    s.manager.sends = w.sends ∧ s.manager.user = w.user ∧
      s.manager.reachability.notifierRunning = w.running ∧
      s.manager.reachability.previousFlags = w.seen ∧ (s.Installed ↔ w.armed = true) := by
  intro s w
  have hshows : Shows isRunningOnDevice s w := shows_rounds isRunningOnDevice flags hrounds
  exact ⟨hshows.sends.symm, hshows.matches'.user, hshows.matches'.running, hshows.seen,
    hshows.armed.symm⟩

/-- Any things that happen can happen one at a time. -/
theorem exists_inRounds (s : Monitoring U) (events : List (Action U)) :
    ∃ rounds, InRounds s rounds ∧ rounds.map Prod.fst = events :=
  Runs.exists_rounds exists_settled s events

def wiFiAfterStart : List (Action ℕ × List (Action ℕ)) :=
  [(.call (.startMonitoring 1), [.runSerialQueue, .runMainQueue, .runMainQueue]),
    (.setFlags .wiFi, [.runSerialQueue, .runMainQueue, .runMainQueue]),
    (.didEnterBackground, [])]

theorem inRounds_wiFiAfterStart : InRounds (launched true .offline) wiFiAfterStart :=
  ⟨by decide, by decide, by decide, by decide, by decide, by decide, trivial⟩

theorem rounds_refine_wiFiAfterStart :
    (Runs.run step (launched true .offline) (Runs.ofRounds wiFiAfterStart)).manager.sends = [1] :=
  (rounds_refine true .offline _ inRounds_wiFiAfterStart).1.trans (by decide)

end Monitoring

/-! ## What is sent, if nobody else starts the notifier

Without `getTypeConnection` and `startApplicationDidEnterBackground` the notifier runs while
`reachabilityChanged` is observed and at no other time. So the first look comes with a registration,
and nothing is missed. -/

/-- Is this neither of the calls that start the notifier on the way? -/
def Monitoring.Action.isPlain {U : Type} : Monitoring.Action U → Bool
  | .call .getTypeConnection | .call (.startApplicationDidEnterBackground _) => false
  | _ => true

namespace Watch

variable {U : Type} {isRunningOnDevice : Bool} {w : Watch U}

/-- What the watch knows between two plain events. -/
structure Plain (w : Watch U) : Prop where
  running : w.running = w.registered
  armed : w.armed = true ↔ w.seen ≠ none
  seen : w.registered = true → w.seen = some w.flags
  background : w.background = 0

theorem plain_init (flags : NetworkFlags) : (init flags : Watch U).Plain :=
  ⟨rfl, iff_of_false nofun fun h => h rfl, nofun, rfl⟩

/-- A look under a registration. -/
theorem plain_look (hrunning : w.running = true) (hregistered : w.registered = true)
    (harmed : w.armed = true ↔ w.seen ≠ none) (hbackground : w.background = 0) :
    (w.look isRunningOnDevice).Plain := by
  unfold look
  by_cases hseen : w.seen = some w.flags
  · rw [if_pos hseen]
    exact ⟨hrunning.trans hregistered.symm, harmed, fun _ => hseen, hbackground⟩
  · rw [if_neg hseen]
    refine ⟨hrunning.trans hregistered.symm, ?_, fun _ => rfl, hbackground⟩
    show (w.armed || w.registered) = true ↔ some w.flags ≠ none
    rw [hregistered, Bool.or_true]
    exact iff_of_true rfl (Option.some_ne_none _)

/-- **Plain events keep it.** -/
theorem Plain.next (h : w.Plain) {a : Monitoring.Action U} (ha : a.isPlain = true) :
    (w.next isRunningOnDevice a).Plain := by
  cases a with
  | call c =>
      cases c with
      | startMonitoring user => exact plain_look rfl rfl h.armed h.background
      | stopMonitoring => exact ⟨rfl, h.armed, nofun, h.background⟩
      | getTypeConnection => cases ha
      | startApplicationDidEnterBackground user => cases ha
  | setFlags flags =>
      show Plain (if w.running = true ∧ flags ≠ w.flags then _ else _)
      by_cases hnotices : w.running = true ∧ flags ≠ w.flags
      · rw [if_pos hnotices]
        exact plain_look hnotices.1 (h.running.symm.trans hnotices.1) h.armed h.background
      · rw [if_neg hnotices]
        refine ⟨h.running, h.armed, fun hregistered => ?_, h.background⟩
        have hsame : flags = w.flags := by
          by_contra hne
          exact hnotices ⟨h.running.trans hregistered, hne⟩
        rw [h.seen hregistered, hsame]
  | didEnterBackground => exact ⟨h.running, h.armed, h.seen, h.background⟩
  | runSerialQueue => exact h
  | runMainQueue => exact h

/-- What a look sends. -/
theorem sends_look (w : Watch U) :
    (w.look isRunningOnDevice).sends = w.sends ++
      if w.seen ≠ some w.flags ∧ w.armed = true ∧ w.flags.isWiFi isRunningOnDevice = true then
        w.user.toList
      else [] := by
  unfold look
  by_cases hseen : w.seen = some w.flags
  · simp [hseen]
  · simp [hseen]

end Watch

namespace Monitoring

variable {U : Type} {isRunningOnDevice : Bool}

/-- What an event sends: a change to a Wi-Fi, once for the monitoring user; and a start, if the
flags are other ones than when monitoring was on the last time and mean a Wi-Fi. -/
def sentFor (s : Monitoring U) : Action U → List U
  | .setFlags flags =>
    if flags ≠ s.manager.reachability.flags ∧ s.connectionAfter flags = .wifi then
      s.monitored.toList
    else []
  | .call (.startMonitoring user) =>
    if s.manager.reachability.previousFlags ≠ none ∧
        s.manager.reachability.previousFlags ≠ some s.manager.reachability.flags ∧
        s.manager.reachability.connection = .wifi then
      [user]
    else []
  | _ => []

/-- What the events of a run in rounds send. -/
def sentForAll (s : Monitoring U) : List (Action U × List (Action U)) → List U
  | [] => []
  | (a, queues) :: rounds =>
    s.sentFor a ++ sentForAll (Runs.run step (s.step a) queues) rounds

/-- The manager is what a watch is that has seen plain events only. -/
structure ShowsPlain (isRunningOnDevice : Bool) (s : Monitoring U) (w : Watch U) : Prop where
  shows : Shows isRunningOnDevice s w
  plain : w.Plain
  monitored : s.monitored = if w.registered then w.user else none

/-- The queues do not touch what was asked for. -/
theorem monitored_queues (s : Monitoring U) {queues : List (Action U)}
    (hqueues : ∀ b ∈ queues, b.isQueue = true) :
    (Runs.run step s queues).monitored = s.monitored := by
  induction queues generalizing s with
  | nil => rfl
  | cons b queues ih =>
      have hrest := ih (s.step b) fun b' hb' => hqueues b' (List.mem_cons_of_mem b hb')
      have hqueue := hqueues b List.mem_cons_self
      cases b with
      | runSerialQueue => exact hrest
      | runMainQueue => exact hrest
      | call c => cases hqueue
      | setFlags flags => cases hqueue
      | didEnterBackground => cases hqueue

namespace ShowsPlain

variable {s : Monitoring U} {w : Watch U} (h : ShowsPlain isRunningOnDevice s w)
include h

/-- The watch sends for a plain event what the manager should. -/
theorem sends_next {a : Action U} (ha : a.isPlain = true) :
    (w.next isRunningOnDevice a).sends = w.sends ++ s.sentFor a := by
  have hm := h.shows.matches'
  cases a with
  | call c =>
      cases c with
      | startMonitoring user =>
          show (Watch.look isRunningOnDevice _).sends = _
          rw [Watch.sends_look]
          refine congrArg (w.sends ++ ·) (if_congr ?_ rfl rfl)
          have hwifi : w.flags.isWiFi isRunningOnDevice = true ↔
              s.manager.reachability.connection = .wifi := hm.isWiFi
          rw [h.shows.seen, hm.flags]
          show w.seen ≠ some w.flags ∧ w.armed = true ∧ w.flags.isWiFi isRunningOnDevice = true ↔ _
          rw [hwifi]
          constructor
          · rintro ⟨hseen, harmed, hconnection⟩
            exact ⟨h.plain.armed.mp harmed, hseen, hconnection⟩
          · rintro ⟨hsome, hseen, hconnection⟩
            exact ⟨hseen, h.plain.armed.mpr hsome, hconnection⟩
      | stopMonitoring => exact (List.append_nil _).symm
      | getTypeConnection => cases ha
      | startApplicationDidEnterBackground user => cases ha
  | setFlags flags =>
      have hwifi : flags.isWiFi isRunningOnDevice = true ↔ s.connectionAfter flags = .wifi := by
        have hafter : Matches isRunningOnDevice (s.manager.setFlags flags)
            { w with flags := flags } :=
          { hm with flags := rfl }
        exact hafter.isWiFi
      show Watch.sends (if w.running = true ∧ flags ≠ w.flags then _ else _) =
        w.sends ++ if flags ≠ s.manager.reachability.flags ∧ s.connectionAfter flags = .wifi then
          s.monitored.toList else []
      rw [hm.flags, h.monitored]
      cases hregistered : w.registered with
      | false =>
          have hstopped : w.running = false := h.plain.running.trans hregistered
          simp [hstopped]
      | true =>
          have hrunning : w.running = true := h.plain.running.trans hregistered
          have hseen := h.plain.seen hregistered
          have harmed : w.armed = true := h.plain.armed.mpr (by rw [hseen]; exact nofun)
          by_cases hflags : flags = w.flags
          · simp [hflags]
          · rw [if_pos ⟨hrunning, hflags⟩, Watch.sends_look]
            have hunseen : w.seen ≠ some flags := by
              rw [hseen]
              exact fun heq => hflags (Option.some.inj heq).symm
            refine congrArg (w.sends ++ ·) (if_congr ?_ rfl rfl)
            constructor
            · rintro ⟨-, -, hconnection⟩
              exact ⟨hflags, hwifi.mp hconnection⟩
            · rintro ⟨-, hconnection⟩
              exact ⟨hunseen, harmed, hwifi.mpr hconnection⟩
  | didEnterBackground =>
      show w.sends ++ _ = w.sends ++ []
      rw [h.plain.background]
      rfl
  | runSerialQueue => exact (List.append_nil _).symm
  | runMainQueue => exact (List.append_nil _).symm

/-- **One round.** -/
theorem round {a : Action U} (ha : a.isPlain = true) {queues : List (Action U)}
    (hqueues : ∀ b ∈ queues, b.isQueue = true)
    (hrest : (Runs.run step (s.step a) queues).Settled) :
    ShowsPlain isRunningOnDevice (Runs.run step (s.step a) queues)
      (w.next isRunningOnDevice a) := by
  refine ⟨h.shows.round a hqueues hrest, h.plain.next ha, ?_⟩
  rw [monitored_queues _ hqueues]
  cases a with
  | call c =>
      cases c with
      | startMonitoring user =>
          show some user = if (Watch.look isRunningOnDevice _).registered then
            (Watch.look isRunningOnDevice _).user else none
          unfold Watch.look
          split <;> rfl
      | stopMonitoring => rfl
      | getTypeConnection => cases ha
      | startApplicationDidEnterBackground user => cases ha
  | setFlags flags =>
      show s.monitored = if Watch.registered (if w.running = true ∧ flags ≠ w.flags then _ else _)
        then Watch.user (if w.running = true ∧ flags ≠ w.flags then _ else _) else none
      rw [h.monitored]
      unfold Watch.look
      split_ifs <;> rfl
  | didEnterBackground => exact h.monitored
  | runSerialQueue => exact h.monitored
  | runMainQueue => exact h.monitored

theorem sends_rounds {rounds : List (Action U × List (Action U))} (hrounds : InRounds s rounds)
    (hplain : ∀ r ∈ rounds, r.1.isPlain = true) :
    (Runs.run step s (Runs.ofRounds rounds)).manager.sends =
      s.manager.sends ++ s.sentForAll rounds := by
  induction rounds generalizing s w with
  | nil => exact (List.append_nil _).symm
  | cons r rounds ih =>
      obtain ⟨a, queues⟩ := r
      obtain ⟨hqueues, hrest, hrounds⟩ := hrounds
      have ha : a.isPlain = true := hplain _ List.mem_cons_self
      have hround := h.round ha hqueues hrest
      rw [Runs.run_ofRounds_cons,
        ih hround hrounds fun r' hr' => hplain r' (List.mem_cons_of_mem _ hr')]
      rw [← hround.shows.sends, h.sends_next ha, h.shows.sends, List.append_assoc]
      rfl

end ShowsPlain

/-- **Monitoring sends what it promises, and nothing else**, as long as things happen one at a time
and nobody calls `getTypeConnection` or `startApplicationDidEnterBackground`: for each change to a
Wi-Fi while it is on, once for the user of the last start; for each start after the network has
become another Wi-Fi while it was off, once for the user of this start. -/
theorem promise_kept (isRunningOnDevice : Bool) (flags : NetworkFlags)
    (rounds : List (Action U × List (Action U)))
    (hrounds : InRounds (launched isRunningOnDevice flags) rounds)
    (hplain : ∀ r ∈ rounds, r.1.isPlain = true) :
    (Runs.run step (launched isRunningOnDevice flags) (Runs.ofRounds rounds)).manager.sends =
      (launched isRunningOnDevice flags).sentForAll rounds := by
  have hshows : ShowsPlain isRunningOnDevice (launched isRunningOnDevice flags : Monitoring U)
      (.init flags) := ⟨shows_launched flags, Watch.plain_init flags, rfl⟩
  exact hshows.sends_rounds hrounds hplain

theorem promise_kept_wiFiAfterStart :
    (Runs.run step (launched true .offline) (Runs.ofRounds wiFiAfterStart)).manager.sends =
      (launched true .offline).sentForAll wiFiAfterStart :=
  promise_kept true .offline _ inRounds_wiFiAfterStart (by decide)

end Monitoring
