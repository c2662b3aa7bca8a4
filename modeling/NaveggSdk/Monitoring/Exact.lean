import NaveggSdk.Monitoring.Rounds

/-!
# Sending exactly while monitoring is on

Monitoring promises two things (`Promised`). While it is on, a Wi-Fi that comes up sends once, for
the user of the last `startMonitoring`. While it is stopped nothing is sent: not by a change of the
network, and not by a query that notices an earlier change.

The calls and the changes come in order here, each with all that it puts on the queues, and each is
held to what its own round sends. Whether a round sends depends on two things that no call of
`startMonitoring` or `stopMonitoring` decides alone. The closure that sends is installed by the
handler of an *earlier* notification, and stays for good; and the notifier also runs after a call of
`getTypeConnection`. `exact_iff_safe` says that these are the only obstacles.

A change that comes while the notifier does not run is noticed when it starts again. If it is
`startMonitoring` that starts it and something is sent then, one may count this for the start, or
against the change that came while nobody monitored. `exact_iff_safe` has the exact condition of
both readings.
-/

/-! ## What the watch knows -/

namespace Watch

variable {U : Type} {isRunningOnDevice : Bool} {w : Watch U}

/-- What the watch knows between two events, if `startApplicationDidEnterBackground` is never called
and `monitored` is the user that monitoring is on for. -/
structure Obeys (w : Watch U) (monitored : Option U) : Prop where
  /-- A running notifier has seen the flags. -/
  seen : w.running = true → w.seen = some w.flags
  /-- The closure is installed, or about to be, only where there is a user. -/
  hasUser : w.armed = true ∨ w.registered = true → w.user ≠ none
  monitored : ∀ user, monitored = some user → w.user = some user ∧ w.running = true
  background : w.background = 0

theorem obeys_init (flags : NetworkFlags) : (init flags : Watch U).Obeys none where
  seen := nofun
  hasUser := by
    rintro (harmed | hregistered)
    · cases harmed
    · cases hregistered
  monitored := nofun
  background := rfl

@[simp] theorem look_running : (w.look isRunningOnDevice).running = w.running := by
  unfold look
  split <;> rfl

@[simp] theorem look_flags : (w.look isRunningOnDevice).flags = w.flags := by
  unfold look
  split <;> rfl

@[simp] theorem look_user : (w.look isRunningOnDevice).user = w.user := by
  unfold look
  split <;> rfl

@[simp] theorem look_registered : (w.look isRunningOnDevice).registered = w.registered := by
  unfold look
  split <;> rfl

@[simp] theorem look_background : (w.look isRunningOnDevice).background = w.background := by
  unfold look
  split <;> rfl

theorem look_seen : (w.look isRunningOnDevice).seen = some w.flags := by
  unfold look
  split
  · assumption
  · rfl

/-- A look installs the closure only under a registration. -/
theorem armed_look (h : (w.look isRunningOnDevice).armed = true) :
    w.armed = true ∨ w.registered = true := by
  unfold look at h
  split at h
  · exact .inl h
  · exact Bool.or_eq_true _ _ ▸ h

/-- **A look leaves the flags seen**, so that only the other facts have to be known before. -/
theorem obeys_look {monitored : Option U}
    (hasUser : w.armed = true ∨ w.registered = true → w.user ≠ none)
    (hmonitored : ∀ user, monitored = some user → w.user = some user ∧ w.running = true)
    (background : w.background = 0) : (w.look isRunningOnDevice).Obeys monitored where
  seen := by
    intro _
    rw [look_seen, look_flags]
  hasUser := by
    rw [look_user, look_registered]
    rintro (harmed | hregistered)
    · exact hasUser (armed_look harmed)
    · exact hasUser (.inr hregistered)
  monitored := by
    rw [look_user, look_running]
    exact hmonitored
  background := by rw [look_background, background]

/-- When a look sends nothing. -/
theorem sends_look_eq_iff (w : Watch U) :
    (w.look isRunningOnDevice).sends = w.sends ↔
      (w.seen ≠ some w.flags → w.flags.isWiFi isRunningOnDevice = true → w.armed = true →
        w.user = none) := by
  rw [sends_look, List.append_right_eq_self]
  split
  · rename_i hsends
    obtain ⟨hseen, harmed, hwifi⟩ := hsends
    rw [Option.toList_eq_nil_iff]
    exact ⟨fun hnone _ _ _ => hnone, fun hquiet => hquiet hseen hwifi harmed⟩
  · rename_i hquiet
    refine iff_of_true rfl ?_
    intro hseen hwifi harmed
    exact absurd ⟨hseen, harmed, hwifi⟩ hquiet

end Watch

namespace Monitoring

variable {U : Type} {isRunningOnDevice : Bool} {s : Monitoring U} {w : Watch U}

open Watch (Obeys)

/-- **Every event keeps what the watch knows.** -/
theorem obeys_next (h : w.Obeys s.monitored) {a : Action U} (ha : a.startsBackground = false) :
    (w.next isRunningOnDevice a).Obeys (s.step a).monitored := by
  cases a with
  | call c =>
      cases c with
      | startMonitoring user =>
          apply Watch.obeys_look
          · intro _
            exact Option.some_ne_none user
          · intro user' heq
            exact ⟨heq, rfl⟩
          · exact h.background
      | stopMonitoring =>
          constructor
          case seen => exact nofun
          case hasUser =>
            rintro (harmed | hregistered)
            · exact h.hasUser (.inl harmed)
            · cases hregistered
          case monitored => exact nofun
          case background => exact h.background
      | getTypeConnection =>
          show Obeys (if w.running = true then w else _) s.monitored
          split
          · exact h
          · apply Watch.obeys_look (w := { w with running := true }) h.hasUser
            · intro user heq
              exact ⟨(h.monitored user heq).1, rfl⟩
            · exact h.background
      | startApplicationDidEnterBackground user => cases ha
  | setFlags flags =>
      show Obeys (if w.running = true ∧ flags ≠ w.flags then _ else _) s.monitored
      split
      · exact Watch.obeys_look h.hasUser h.monitored h.background
      · rename_i hquiet
        refine ⟨?_, h.hasUser, h.monitored, h.background⟩
        intro hrunning
        have hsame : flags = w.flags := by
          by_contra hne
          exact hquiet ⟨hrunning, hne⟩
        rw [hsame]
        exact h.seen hrunning
  | didEnterBackground => exact ⟨h.seen, h.hasUser, h.monitored, h.background⟩
  | runSerialQueue => exact h
  | runMainQueue => exact h

/-! ## The promise -/

def Unseen (s : Monitoring U) : Prop :=
  s.manager.reachability.previousFlags ≠ some s.manager.reachability.flags

instance : Decidable s.Unseen := inferInstanceAs (Decidable (¬ _))

/-- What monitoring promises of the event that comes next. While it is on, a Wi-Fi after no
connection sends once, for the user of the last `startMonitoring`. While it is stopped, nothing
sends but a `startMonitoring`. -/
def Promised (s : Monitoring U) (a : Action U) (sends : List U) : Prop :=
  match s.monitored with
  | some user =>
    match a with
    | .setFlags flags =>
      s.manager.reachability.connection = .none → s.connectionAfter flags = .wifi →
        sends = s.manager.sends ++ [user]
    | _ => True
  | none =>
    match a with
    | .call (.startMonitoring _) => True
    | _ => sends = s.manager.sends

/-- The event does what was promised, by what has been sent when the queues are at rest again. -/
def Exact (s : Monitoring U) (r : Action U × List (Action U)) : Prop :=
  s.Promised r.1 (Runs.round step s r).manager.sends

instance [DecidableEq U] (a : Action U) (sends : List U) : Decidable (s.Promised a sends) := by
  unfold Promised
  split
  · split <;> infer_instance
  · split <;> infer_instance

instance [DecidableEq U] (r : Action U × List (Action U)) : Decidable (s.Exact r) :=
  inferInstanceAs (Decidable (s.Promised _ _))

/-- When it does: while monitoring, a Wi-Fi comes up after the closure was installed; and while not
monitoring, no Wi-Fi comes up or is found under the eyes of the notifier after that. -/
def Safe (s : Monitoring U) (r : Action U × List (Action U)) : Prop :=
  match s.monitored with
  | some _ =>
    match r.1 with
    | .setFlags flags =>
      s.manager.reachability.connection = .none → s.connectionAfter flags = .wifi → s.Installed
    | _ => True
  | none =>
    match r.1 with
    | .setFlags flags => s.Watches flags → s.connectionAfter flags = .wifi → ¬ s.Installed
    | .call .getTypeConnection =>
      s.Unseen → s.manager.reachability.connection = .wifi → ¬ s.Installed
    | _ => True

instance (r : Action U × List (Action U)) : Decidable (s.Safe r) := by
  unfold Safe
  split
  · split <;> infer_instance
  · split <;> infer_instance

/-- A start sends nothing. What it would send is for a change that nobody saw. -/
def StartsSilent (s : Monitoring U) (r : Action U × List (Action U)) : Prop :=
  ∀ user, r.1 = .call (.startMonitoring user) →
    (Runs.round step s r).manager.sends = s.manager.sends

/-- A start does not find a Wi-Fi that nobody saw, with the closure installed. -/
def StartsSafe (s : Monitoring U) (r : Action U × List (Action U)) : Prop :=
  ∀ user, r.1 = .call (.startMonitoring user) →
    s.Unseen → s.manager.reachability.connection = .wifi → ¬ s.Installed

/-! ## What a round sends -/

structure Known (isRunningOnDevice : Bool) (s : Monitoring U) (w : Watch U) : Prop where
  shows : Shows isRunningOnDevice s w
  obeys : w.Obeys s.monitored

namespace Known

variable (h : Known isRunningOnDevice s w)
include h

theorem unseen_iff : s.Unseen ↔ w.seen ≠ some w.flags := by
  unfold Unseen
  rw [h.shows.seen, h.shows.matches'.flags]

theorem wifi_iff : s.manager.reachability.connection = .wifi ↔
    w.flags.isWiFi isRunningOnDevice = true :=
  h.shows.matches'.isWiFi.symm

theorem wifi_after_iff (flags : NetworkFlags) :
    s.connectionAfter flags = .wifi ↔ flags.isWiFi isRunningOnDevice = true := by
  have hafter : Matches isRunningOnDevice (s.manager.setFlags flags) { w with flags := flags } :=
    { h.shows.matches' with flags := rfl }
  exact hafter.isWiFi.symm

theorem watches_iff (flags : NetworkFlags) :
    s.Watches flags ↔ w.running = true ∧ flags ≠ w.flags := by
  unfold Watches
  rw [h.shows.matches'.running, h.shows.matches'.flags]

/-- Where the closure is installed, there is a user to send for. -/
theorem user_ne_none (harmed : w.armed = true) : w.user ≠ none := h.obeys.hasUser (.inl harmed)

/-- One round later. -/
theorem round {r : Action U × List (Action U)} (ha : r.1.startsBackground = false)
    (hqueues : ∀ b ∈ r.2, b.isQueue = true) (hrest : (Runs.round step s r).Settled) :
    Known isRunningOnDevice (Runs.round step s r) (w.next isRunningOnDevice r.1) where
  shows := h.shows.round r.1 hqueues hrest
  obeys := by
    rw [Runs.round, monitored_queues _ hqueues]
    exact obeys_next h.obeys ha

/-- A Wi-Fi that comes up while monitoring sends once exactly if the closure was installed. -/
theorem sends_monitored_iff {user : U} (hmonitored : s.monitored = some user)
    {flags : NetworkFlags} (hnone : s.manager.reachability.connection = .none)
    (hwifi : s.connectionAfter flags = .wifi) :
    (w.next isRunningOnDevice (.setFlags flags)).sends = w.sends ++ [user] ↔ s.Installed := by
  obtain ⟨huser, hrunning⟩ := h.obeys.monitored user hmonitored
  rw [h.wifi_after_iff] at hwifi
  -- no connection before and a Wi-Fi after: these are other flags
  have hflags : flags ≠ w.flags := by
    rintro rfl
    rw [← h.wifi_iff, hnone] at hwifi
    cases hwifi
  have hunseen : w.seen ≠ some flags := by
    rw [h.obeys.seen hrunning]
    exact fun heq => hflags (Option.some.inj heq).symm
  show Watch.sends (if w.running = true ∧ flags ≠ w.flags then _ else _) = _ ↔ _
  rw [if_pos ⟨hrunning, hflags⟩, Watch.sends_look]
  refine Iff.trans ?_ h.shows.armed
  show w.sends ++ (if w.seen ≠ some flags ∧ w.armed = true ∧
    flags.isWiFi isRunningOnDevice = true then w.user.toList else []) = _ ↔ _
  rw [List.append_cancel_left_eq, huser]
  by_cases harmed : w.armed = true
  · simp [harmed, hunseen, hwifi]
  · simp [harmed]

/-- The closure has somebody to send for, so it is silent only if it is not there. -/
theorem nobody_iff {user : Option U} (huser : w.armed = true → user ≠ none) :
    (w.armed = true → user = none) ↔ ¬ s.Installed := by
  constructor
  · intro hnone hinstalled
    have harmed := h.shows.armed.mpr hinstalled
    exact huser harmed (hnone harmed)
  · intro hnot harmed
    exact absurd (h.shows.armed.mp harmed) hnot

/-- What the notifier finds sends nothing exactly if the closure was not installed. -/
theorem silent_look_iff :
    (w.look isRunningOnDevice).sends = w.sends ↔
      (s.Unseen → s.manager.reachability.connection = .wifi → ¬ s.Installed) := by
  rw [Watch.sends_look_eq_iff, h.unseen_iff, h.wifi_iff]
  exact forall_congr' fun _ => forall_congr' fun _ => h.nobody_iff h.user_ne_none

/-- A change sends nothing exactly if it is not noticed, is no Wi-Fi, or the closure was not
installed. -/
theorem silent_setFlags_iff (flags : NetworkFlags) :
    (w.next isRunningOnDevice (.setFlags flags)).sends = w.sends ↔
      (s.Watches flags → s.connectionAfter flags = .wifi → ¬ s.Installed) := by
  rw [h.watches_iff, h.wifi_after_iff]
  show Watch.sends (if w.running = true ∧ flags ≠ w.flags then _ else _) = _ ↔ _
  by_cases hwatches : w.running = true ∧ flags ≠ w.flags
  · have hunseen : w.seen ≠ some flags := by
      rw [h.obeys.seen hwatches.1]
      exact fun heq => hwatches.2 (Option.some.inj heq).symm
    rw [if_pos hwatches]
    refine (Watch.sends_look_eq_iff { w with flags := flags }).trans ?_
    constructor
    · intro hnone _ hwifi
      exact (h.nobody_iff h.user_ne_none).mp (hnone hunseen hwifi)
    · intro hnot _ hwifi
      exact (h.nobody_iff h.user_ne_none).mpr (hnot hwatches hwifi)
  · rw [if_neg hwatches]
    exact iff_of_true rfl fun hwatch => absurd hwatch hwatches

/-- A query while the notifier runs finds nothing new. -/
theorem silent_getTypeConnection_iff :
    (w.next isRunningOnDevice (.call .getTypeConnection)).sends = w.sends ↔
      (s.Unseen → s.manager.reachability.connection = .wifi → ¬ s.Installed) := by
  show Watch.sends (if w.running = true then _ else _) = _ ↔ _
  by_cases hrunning : w.running = true
  · rw [if_pos hrunning]
    refine iff_of_true rfl fun hunseen => ?_
    exact absurd (h.obeys.seen hrunning) (h.unseen_iff.mp hunseen)
  · rw [if_neg hrunning, ← h.silent_look_iff]
    exact (Watch.sends_look_eq_iff { w with running := true }).trans
      (Watch.sends_look_eq_iff w).symm

theorem silent_startMonitoring_iff (user : U) :
    (w.next isRunningOnDevice (.call (.startMonitoring user))).sends = w.sends ↔
      (s.Unseen → s.manager.reachability.connection = .wifi → ¬ s.Installed) := by
  show (Watch.look isRunningOnDevice _).sends = _ ↔ _
  refine (Watch.sends_look_eq_iff
    { w with user := some user, registered := true, running := true }).trans ?_
  rw [h.unseen_iff, h.wifi_iff]
  refine forall_congr' fun _ => forall_congr' fun _ => h.nobody_iff ?_
  intro _
  exact Option.some_ne_none user

variable {r : Action U × List (Action U)} (ha : r.1.startsBackground = false)
  (hqueues : ∀ b ∈ r.2, b.isQueue = true) (hrest : (Runs.round step s r).Settled)
include ha hqueues hrest

/-- **One event does what was promised exactly when it is safe.** -/
theorem exact_iff_safe_step : s.Exact r ↔ s.Safe r := by
  have hsends := (h.round ha hqueues hrest).shows.sends
  unfold Exact Promised Safe
  rw [← hsends, ← h.shows.sends]
  obtain ⟨a, queues⟩ := r
  cases hmonitored : s.monitored with
  | some user =>
      cases a with
      | setFlags flags =>
          refine forall_congr' fun hnone => forall_congr' fun hwifi => ?_
          exact h.sends_monitored_iff hmonitored hnone hwifi
      | call c => exact Iff.rfl
      | runSerialQueue => exact Iff.rfl
      | runMainQueue => exact Iff.rfl
      | didEnterBackground => exact Iff.rfl
  | none =>
      cases a with
      | setFlags flags => exact h.silent_setFlags_iff flags
      | call c =>
          cases c with
          | startMonitoring user => exact Iff.rfl
          | stopMonitoring => exact iff_of_true rfl trivial
          | getTypeConnection => exact h.silent_getTypeConnection_iff
          | startApplicationDidEnterBackground user => cases ha
      | runSerialQueue => exact iff_of_true rfl trivial
      | runMainQueue => exact iff_of_true rfl trivial
      | didEnterBackground =>
          refine iff_of_true ?_ trivial
          show w.sends ++ (List.replicate w.background w.user.toList).flatten = w.sends
          rw [h.obeys.background]
          exact List.append_nil _

/-- A start is silent exactly when it is safe. -/
theorem startsSilent_iff_step : s.StartsSilent r ↔ s.StartsSafe r := by
  have hsends := (h.round ha hqueues hrest).shows.sends
  unfold StartsSilent StartsSafe
  rw [← hsends, ← h.shows.sends]
  refine forall_congr' fun user => forall_congr' fun hstart => ?_
  rw [hstart]
  exact h.silent_startMonitoring_iff user

end Known

/-! ## Every run -/

/-- **Monitoring sends exactly while it is on** in exactly the runs whose events are safe, whatever
the calls and the changes are and however the two queues take their turns after each. And no
`startMonitoring` sends for a change that came before it in exactly the runs whose starts are
safe. -/
theorem exact_iff_safe (isRunningOnDevice : Bool) (flags : NetworkFlags)
    (rounds : List (Action U × List (Action U)))
    (hrounds : InRounds (launched isRunningOnDevice flags) rounds)
    (hcalls : ∀ r ∈ rounds, r.1.startsBackground = false) :
    (Runs.Each (Runs.round step) Exact (launched isRunningOnDevice flags) rounds ↔
      Runs.Each (Runs.round step) Safe (launched isRunningOnDevice flags) rounds) ∧
    (Runs.Each (Runs.round step) StartsSilent (launched isRunningOnDevice flags) rounds ↔
      Runs.Each (Runs.round step) StartsSafe (launched isRunningOnDevice flags) rounds) := by
  have hknown : ∃ w, Known isRunningOnDevice (launched isRunningOnDevice flags : Monitoring U) w :=
    ⟨.init flags, shows_launched flags, Watch.obeys_init flags⟩
  have hassumed := hrounds.each.and (Runs.each_of_mem
    (A := fun r : Action U × List (Action U) => r.1.startsBackground = false) _ hcalls)
  have hkeep : ∀ s r, (∃ w, Known isRunningOnDevice s w) →
      ((∀ b ∈ r.2, b.isQueue = true) ∧ (Runs.round step s r).Settled) ∧
        r.1.startsBackground = false →
      ∃ w, Known (U := U) isRunningOnDevice (Runs.round step s r) w := by
    rintro s r ⟨w, h⟩ ⟨⟨hqueues, hrest⟩, ha⟩
    exact ⟨_, h.round ha hqueues hrest⟩
  constructor
  · refine Runs.each_iff_each_of hknown hassumed ?_ hkeep
    rintro s r ⟨w, h⟩ ⟨⟨hqueues, hrest⟩, ha⟩
    exact h.exact_iff_safe_step ha hqueues hrest
  · refine Runs.each_iff_each_of hknown hassumed ?_ hkeep
    rintro s r ⟨w, h⟩ ⟨⟨hqueues, hrest⟩, ha⟩
    exact h.startsSilent_iff_step ha hqueues hrest

/-- A Wi-Fi comes up after a start, whose check has found no connection and had the closure
installed. -/
theorem exact_iff_safe_started :
    Runs.Each (Runs.round step) Exact (launched true .offline) wiFiAfterStart :=
  ((exact_iff_safe true .offline _ inRounds_wiFiAfterStart (by decide)).1).mpr (by decide)

def queriedBefore : List (Action ℕ × List (Action ℕ)) :=
  [(.call .getTypeConnection, [.runSerialQueue, .runMainQueue]),
    (.call (.startMonitoring 1), [.runSerialQueue]),
    (.setFlags .wiFi, [.runSerialQueue, .runMainQueue, .runMainQueue])]

def queriedAfter : List (Action ℕ × List (Action ℕ)) :=
  [(.call (.startMonitoring 1), [.runSerialQueue, .runMainQueue, .runMainQueue]),
    (.call .stopMonitoring, []),
    (.call .getTypeConnection, [.runSerialQueue]),
    (.setFlags .wiFi, [.runSerialQueue, .runMainQueue])]

/-- If `getTypeConnection` has made the notifier look before the start, the Wi-Fi that comes up
sends nothing. And once the closure is there, `getTypeConnection` is enough for a Wi-Fi to send
after the stop. -/
theorem not_exact_getTypeConnection :
    (InRounds (launched true .offline) queriedBefore ∧
      ¬ Runs.Each (Runs.round step) Exact (launched true .offline) queriedBefore) ∧
    (InRounds (launched true .offline) queriedAfter ∧
      ¬ Runs.Each (Runs.round step) Exact (launched true .offline) queriedAfter) := by
  constructor
  · constructor
    · decide
    · decide
  · constructor
    · decide
    · decide

end Monitoring
