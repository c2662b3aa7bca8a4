import NaveggSdk.System.Monitoring

/-!
# One change on its way through the queues

A change of the flags is a check on the serial queue. The check puts a block on the main queue, and
the block may leave further blocks behind, which send nothing (`Owes`). So the queues can always
come to rest (`exists_settled`), and what a change has sent by then is known when it happens
(`due`, `sends_setFlags`): one call for the user, if the notifier looks, the flags mean a Wi-Fi and
the closure that sends was installed *before*.
-/

/-! ## What the notifier has seen -/

namespace Reachability

variable {κ : Type} {r : Reachability κ}

/-- A running notifier has seen the flags of the moment, or has a check ahead of it. -/
def Seen (r : Reachability κ) : Prop :=
  r.notifierRunning = true → r.serialQueue ≠ [] ∨ r.previousFlags = some r.flags

theorem running_startNotifier : r.startNotifier.notifierRunning = true := by
  unfold Reachability.startNotifier
  split
  · assumption
  · rfl

theorem Seen.startNotifier (h : r.Seen) : r.startNotifier.Seen := by
  unfold Reachability.startNotifier
  split
  · exact h
  · intro _
    left
    simp

theorem seen_stopNotifier : r.stopNotifier.Seen := by
  intro hrunning
  cases hrunning

theorem Seen.setFlags (h : r.Seen) (flags : NetworkFlags) : (r.setFlags flags).Seen := by
  intro hrunning
  have hrunning : r.notifierRunning = true := hrunning
  by_cases hflags : flags = r.flags
  · subst hflags
    simpa [Reachability.setFlags] using h hrunning
  · left
    simp [Reachability.setFlags, hrunning, hflags]

end Reachability

namespace ReachabilityManager

variable {U : Type} {m : ReachabilityManager U}

theorem seen_runSerialQueue (h : m.reachability.Seen) : m.runSerialQueue.reachability.Seen := by
  cases hqueue : m.reachability.serialQueue with
  | nil => rwa [runSerialQueue_nil hqueue]
  | cons check checks =>
      obtain ⟨_, hrun⟩ | ⟨hseen, hrun⟩ := runSerialQueue_cons hqueue
      · rw [hrun]
        exact fun _ => .inr rfl
      · rw [hrun]
        exact fun hrunning => .inr (hseen hrunning)

theorem seen_runMainQueue (h : m.reachability.Seen) : m.runMainQueue.reachability.Seen := by
  cases hqueue : m.mainQueue with
  | nil => rwa [runMainQueue_nil hqueue]
  | cons block rest =>
      cases block with
      | changed closure => rwa [runMainQueue_changed hqueue]
      | install => rwa [runMainQueue_install hqueue]
      | empty => rwa [runMainQueue_empty hqueue]

end ReachabilityManager

/-! ## What the queues still have to send -/

namespace ReachabilityManager

variable {U : Type} {m : ReachabilityManager U} {l : List U}

def Block.isChanged : Block → Bool
  | .changed _ => true
  | _ => false

theorem isChanged_of_leftBy {closure : Option Closure} {block : Block}
    (h : block ∈ leftBy closure) : block.isChanged = false := by
  unfold leftBy at h
  split at h
  · rw [List.mem_singleton.mp h]
    rfl
  · cases h

/-- Where a change is on its way through the queues, and what will have been sent at the end. -/
inductive Owes (l : List U) (m : ReachabilityManager U) : Prop where
  /-- The notifier has not looked yet. -/
  | checking (hserial : m.reachability.serialQueue = [.callback]) (hmain : m.mainQueue = [])
      (hrunning : m.reachability.notifierRunning = true)
      (hunseen : m.reachability.previousFlags ≠ some m.reachability.flags)
      (hl : l = m.sentBy m.reachability.handed)
  /-- The closure has not been run yet. -/
  | notifying (closure : Option Closure) (hserial : m.reachability.serialQueue = [])
      (hmain : m.mainQueue = [.changed closure]) (hl : l = m.sentBy closure)
  /-- What is left sends nothing. -/
  | quiet (hserial : m.reachability.serialQueue = [])
      (hmain : ∀ block ∈ m.mainQueue, block.isChanged = false) (hl : l = [])

theorem Owes.runSerialQueue (h : Owes l m) :
    ∃ l', Owes l' m.runSerialQueue ∧ m.runSerialQueue.sends ++ l' = m.sends ++ l := by
  cases h with
  | checking hserial hmain hrunning hunseen hl =>
      obtain ⟨_, hrun⟩ | ⟨hseen, _⟩ := runSerialQueue_cons hserial
      · rw [hrun]
        refine ⟨l, .notifying m.reachability.handed rfl ?_ hl, rfl⟩
        show m.mainQueue ++ [.changed m.reachability.handed] = _
        rw [hmain]
        rfl
      · exact absurd (hseen hrunning) hunseen
  | notifying closure hserial hmain hl =>
      rw [runSerialQueue_nil hserial]
      exact ⟨l, .notifying closure hserial hmain hl, rfl⟩
  | quiet hserial hmain hl =>
      rw [runSerialQueue_nil hserial]
      exact ⟨l, .quiet hserial hmain hl, rfl⟩

theorem Owes.runMainQueue (h : Owes l m) :
    ∃ l', Owes l' m.runMainQueue ∧ m.runMainQueue.sends ++ l' = m.sends ++ l := by
  cases h with
  | checking hserial hmain hrunning hunseen hl =>
      rw [runMainQueue_nil hmain]
      exact ⟨l, .checking hserial hmain hrunning hunseen hl, rfl⟩
  | notifying closure hserial hmain hl =>
      rw [runMainQueue_changed hmain]
      refine ⟨[], .quiet hserial ?_ rfl, ?_⟩
      · intro block hmem
        rcases List.mem_append.mp hmem with hleft | hasked
        · exact isChanged_of_leftBy hleft
        · rw [List.eq_of_mem_replicate hasked]
          rfl
      · rw [hl]
        exact List.append_nil _
  | quiet hserial hmain hl =>
      cases hqueue : m.mainQueue with
      | nil =>
          rw [runMainQueue_nil hqueue]
          exact ⟨l, .quiet hserial hmain hl, rfl⟩
      | cons block rest =>
          have hrest : ∀ block ∈ rest, block.isChanged = false := by
            intro block hmem
            exact hmain block (by rw [hqueue]; exact List.mem_cons_of_mem _ hmem)
          have hblock : block.isChanged = false := hmain block (by rw [hqueue]; simp)
          cases block with
          | changed closure => cases hblock
          | install =>
              rw [runMainQueue_install hqueue]
              exact ⟨l, .quiet hserial hrest hl, rfl⟩
          | empty =>
              rw [runMainQueue_empty hqueue]
              exact ⟨l, .quiet hserial hrest hl, rfl⟩

theorem countP_leftBy (closure : Option Closure) : (leftBy closure).countP Block.isChanged = 0 :=
  List.countP_eq_zero.mpr fun block hmem => by simp [isChanged_of_leftBy hmem]

theorem countP_replicate_install (n : ℕ) :
    (List.replicate n Block.install).countP Block.isChanged = 0 := by
  simp [List.countP_replicate, Block.isChanged]

theorem serialQueue_runSerialQueue {check : Reachability.Check} {checks : List Reachability.Check}
    (h : m.reachability.serialQueue = check :: checks) :
    m.runSerialQueue.reachability.serialQueue = checks := by
  obtain ⟨_, hrun⟩ | ⟨_, hrun⟩ := runSerialQueue_cons h
  · rw [hrun]
  · rw [hrun]

/-- A step of the main queue leaves fewer noticed changes behind, or as many and fewer blocks. -/
theorem runMainQueue_less {block : Block} {rest : List Block} (h : m.mainQueue = block :: rest) :
    m.runMainQueue.reachability.serialQueue = m.reachability.serialQueue ∧
      Prod.Lex (· < ·) (· < ·)
        (m.runMainQueue.mainQueue.countP Block.isChanged, m.runMainQueue.mainQueue.length)
        (m.mainQueue.countP Block.isChanged, m.mainQueue.length) := by
  cases block with
  | changed closure =>
      rw [runMainQueue_changed h, h]
      refine ⟨rfl, Prod.Lex.left _ _ ?_⟩
      rw [List.countP_append, List.countP_append, countP_leftBy, countP_replicate_install,
        List.countP_cons_of_pos rfl]
      exact Nat.lt_succ_self _
  | install =>
      rw [runMainQueue_install h, h]
      exact ⟨rfl, Prod.Lex.right _ (Nat.lt_succ_self rest.length)⟩
  | empty =>
      rw [runMainQueue_empty h, h]
      exact ⟨rfl, Prod.Lex.right _ (Nat.lt_succ_self rest.length)⟩

theorem Owes.eq_nil (h : Owes l m) (hserial : m.reachability.serialQueue = [])
    (hmain : m.mainQueue = []) : l = [] := by
  cases h with
  | checking hcallback => simp [hserial] at hcallback
  | notifying closure _ hchanged => simp [hmain] at hchanged
  | quiet _ _ hl => exact hl

end ReachabilityManager

/-! ## Coming to rest -/

namespace Monitoring

variable {U : Type} {s : Monitoring U}

def Action.isQueue : Action U → Bool
  | .runSerialQueue | .runMainQueue => true
  | _ => false

def Settled (s : Monitoring U) : Prop :=
  s.manager.reachability.serialQueue = [] ∧ s.manager.mainQueue = []

instance : Decidable s.Settled := inferInstanceAs (Decidable (_ ∧ _))

open ReachabilityManager (Owes)

/-- The queues send what they owe. -/
theorem sends_of_settled {l : List U} (h : Owes l s.manager) {queues : List (Action U)}
    (hqueues : ∀ action ∈ queues, action.isQueue = true)
    (hsettled : (Runs.run step s queues).Settled) :
    (Runs.run step s queues).manager.sends = s.manager.sends ++ l := by
  induction queues generalizing s l with
  | nil =>
      have hnil := h.eq_nil hsettled.1 hsettled.2
      simp [hnil]
  | cons action queues ih =>
      have hrest : ∀ action ∈ queues, action.isQueue = true :=
        fun a ha => hqueues a (List.mem_cons_of_mem action ha)
      have hstep : ∃ l', Owes l' (s.step action).manager ∧
          (s.step action).manager.sends ++ l' = s.manager.sends ++ l := by
        have hqueue := hqueues action List.mem_cons_self
        cases action with
        | runSerialQueue => exact h.runSerialQueue
        | runMainQueue => exact h.runMainQueue
        | call c => cases hqueue
        | setFlags flags => cases hqueue
        | didEnterBackground => cases hqueue
      obtain ⟨l', howes, hsends⟩ := hstep
      rw [Runs.run_cons, ih howes hrest hsettled, hsends]

/-- **The queues can always come to rest.** A check leaves at most one block behind, and a block
leaves only blocks behind that leave nothing. -/
theorem exists_settled (s : Monitoring U) :
    ∃ queues : List (Action U), (∀ action ∈ queues, action.isQueue = true) ∧
      (Runs.run step s queues).Settled := by
  cases hserial : s.manager.reachability.serialQueue with
  | cons check checks =>
      obtain ⟨queues, hqueues, hsettled⟩ := exists_settled (s.step .runSerialQueue)
      exact ⟨.runSerialQueue :: queues, List.forall_mem_cons.mpr ⟨rfl, hqueues⟩, hsettled⟩
  | nil =>
      cases hmain : s.manager.mainQueue with
      | nil => exact ⟨[], List.forall_mem_nil _, hserial, hmain⟩
      | cons block rest =>
          obtain ⟨queues, hqueues, hsettled⟩ := exists_settled (s.step .runMainQueue)
          exact ⟨.runMainQueue :: queues, List.forall_mem_cons.mpr ⟨rfl, hqueues⟩, hsettled⟩
termination_by (s.manager.reachability.serialQueue.length,
  s.manager.mainQueue.countP ReachabilityManager.Block.isChanged, s.manager.mainQueue.length)
decreasing_by
  · obtain ⟨hsame, hless⟩ := ReachabilityManager.runMainQueue_less hmain
    show Prod.Lex _ _ (s.manager.runMainQueue.reachability.serialQueue.length, _) _
    rw [hsame]
    exact Prod.Lex.right _ hless
  · have hless : (s.step .runSerialQueue).manager.reachability.serialQueue.length <
        s.manager.reachability.serialQueue.length := by
      show s.manager.runSerialQueue.reachability.serialQueue.length < _
      rw [ReachabilityManager.serialQueue_runSerialQueue hserial, hserial]
      exact Nat.lt_succ_self checks.length
    exact Prod.Lex.left _ _ hless

/-! ## One change of the network -/

def connectionAfter (s : Monitoring U) (flags : NetworkFlags) : Reachability.Connection :=
  (s.manager.reachability.setFlags flags).connection

/-- Has the closure been installed that sends on a Wi-Fi? -/
def Installed (s : Monitoring U) : Prop :=
  s.manager.reachability.whenReachable = some .whenReachable

instance : Decidable s.Installed := inferInstanceAs (Decidable (_ = _))

def Watches (s : Monitoring U) (flags : NetworkFlags) : Prop :=
  s.manager.reachability.notifierRunning = true ∧ flags ≠ s.manager.reachability.flags

instance (flags : NetworkFlags) : Decidable (s.Watches flags) := inferInstanceAs (Decidable (_ ∧ _))

/-- What a change sends in the end. -/
def due (s : Monitoring U) (flags : NetworkFlags) : List U :=
  if s.Watches flags ∧ s.Installed ∧ s.connectionAfter flags = .wifi then s.manager.user.toList
  else []

/-- On a Wi-Fi the closure of the moment is the one that sends, if it was installed. -/
theorem sentBy_handed (m : ReachabilityManager U) :
    m.sentBy m.reachability.handed =
      if m.reachability.whenReachable = some .whenReachable ∧ m.reachability.connection = .wifi
      then m.user.toList else [] := by
  unfold ReachabilityManager.sentBy Reachability.handed
  by_cases hwifi : m.reachability.connection = .wifi
  · simp [hwifi]
  · simp [hwifi]

/-- The queues owe what is due. -/
theorem owes_due (hseen : s.manager.reachability.Seen) (hsettled : s.Settled)
    (flags : NetworkFlags) : Owes (s.due flags) (s.step (.setFlags flags)).manager := by
  obtain ⟨hserial, hmain⟩ := hsettled
  by_cases hwatches : s.Watches flags
  · obtain ⟨hrunning, hflags⟩ := hwatches
    have hprevious : s.manager.reachability.previousFlags = some s.manager.reachability.flags :=
      (hseen hrunning).resolve_left (not_not.mpr hserial)
    refine .checking ?_ hmain hrunning ?_ ?_
    · show (if _ then _ else _) = _
      rw [if_pos ⟨hrunning, hflags⟩, hserial]
      rfl
    · show s.manager.reachability.previousFlags ≠ some flags
      rw [hprevious]
      exact fun heq => hflags (Option.some.inj heq).symm
    · rw [sentBy_handed]
      unfold due
      simp only [show s.Watches flags from ⟨hrunning, hflags⟩, true_and]
      rfl
  · refine .quiet ?_ ?_ (if_neg fun h => hwatches h.1)
    · exact (if_neg hwatches).trans hserial
    · show ∀ block ∈ s.manager.mainQueue, _
      rw [hmain]
      exact List.forall_mem_nil _

/-- **What a change has sent when the queues are at rest again.** -/
theorem sends_setFlags (hseen : s.manager.reachability.Seen) (hsettled : s.Settled)
    (flags : NetworkFlags) {queues : List (Action U)}
    (hqueues : ∀ action ∈ queues, action.isQueue = true)
    (hrest : (Runs.run step (s.step (.setFlags flags)) queues).Settled) :
    (Runs.run step (s.step (.setFlags flags)) queues).manager.sends =
      s.manager.sends ++ s.due flags :=
  sends_of_settled (owes_due hseen hsettled flags) hqueues hrest

end Monitoring
