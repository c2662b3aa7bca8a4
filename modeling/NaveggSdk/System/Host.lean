import NaveggSdk.Foundation.NetworkReachabilityManager
import NaveggSdk.Monitoring.Sends
import NaveggSdk.System.Requests

/-!
# The objects and the watcher in one process

A `Host` puts the two halves of the SDK together: the objects of an account, and the shared
`ReachabilityManager` that runs `sendDataSaveInDefault` on one of them. The network is one for both,
but they ask different libraries about it: the objects find a connection when Alamofire does.

The process runs on a device. On the simulator the two libraries agree on less: `Reachability` takes
every connection for a Wi-Fi there.

* `refines`: a run of a host is a run of its objects, with the calls of the watcher among the calls
  of the app, and with the connection that the flags of the network amount to.
* `wifi_resends`: what comes of a change of the network.
-/

open NetworkReachabilityManager (isReachable isNetworkReachable)

/-- The objects of one account, and the shared manager, which knows them by their index. -/
structure Host where
  shared : Shared
  watcher : Monitoring Nat

namespace Host

inductive Action where
  | construct (idAppStore : Option Int)
  | call (owner : Nat) (c : Call)
  | complete (id : Nat) (response : DataResponse)
  | clock (now : Date)
  | restart
  | watch (a : Monitoring.Action Nat)

/-- The watcher after a step of its own. A user is given to it by the one who holds it. -/
def watched (h : Host) (a : Monitoring.Action Nat) : Monitoring Nat :=
  match a with
  | .call (.startMonitoring user) | .call (.startApplicationDidEnterBackground user) =>
    if user < h.shared.apps.length then h.watcher.step a else h.watcher
  | _ => h.watcher.step a

def flush (user : Nat) : Shared.Action := .call user .sendDataSaveInDefault

/-- What changes for the objects when the watcher has done something. -/
def noticed (flags? : Option NetworkFlags) (before after : Monitoring Nat) : List Shared.Action :=
  (flags?.map fun flags => .connectivity (isReachable (some flags))).toList ++
    (after.manager.sends.drop before.manager.sends.length).map flush

def newFlags : Monitoring.Action Nat → Option NetworkFlags
  | .setFlags flags => some flags
  | _ => none

/-- What the objects do in a step. -/
def inner (h : Host) : Action → List Shared.Action
  | .construct idAppStore => [.construct idAppStore]
  | .call owner c => [.call owner c]
  | .complete id response => [.complete id response]
  | .clock now => [.clock now]
  | .restart => [.restart]
  | .watch a => noticed (newFlags a) h.watcher (h.watched a)

/-- The watcher after a step, if the process lives. -/
def watcherAfter (h : Host) : Action → Monitoring Nat
  | .watch a => h.watched a
  | _ => h.watcher

def relaunched (watcher : Monitoring Nat) : Monitoring Nat :=
  .launched watcher.manager.reachability.isRunningOnDevice watcher.manager.reachability.flags

def step (h : Host) (a : Action) : Host where
  shared := Runs.run Shared.step h.shared (h.inner a)
  watcher :=
    if Runs.Each Shared.step Shared.Lives h.shared (h.inner a) then h.watcherAfter a
    else relaunched (h.watcherAfter a)

/-- A freshly installed app on a device, with the network as it is. -/
def installed (accountId : Int) (device : Device) (flags : NetworkFlags) : Host where
  shared := .installed accountId { device with connected := isReachable (some flags) }
  watcher := .launched true flags

def innerAll : Host → List Action → List Shared.Action
  | _, [] => []
  | h, a :: as => h.inner a ++ innerAll (h.step a) as

/-- **A run of a host is a run of its objects.** -/
theorem shared_run (h : Host) (actions : List Action) :
    (Runs.run step h actions).shared = Runs.run Shared.step h.shared (innerAll h actions) := by
  induction actions generalizing h with
  | nil => rfl
  | cons a as ih =>
      rw [Runs.run_cons, ih, innerAll, Runs.run, Runs.run, List.foldl_append]
      rfl

end Host

/-! ## What is known of every host -/

namespace Host

variable {h : Host}

/-- The watcher does what happens, or it is asked for an object that is not there. -/
theorem watched_cases (h : Host) (a : Monitoring.Action Nat) :
    h.watched a = h.watcher.step a ∨ newFlags a = none ∧ h.watched a = h.watcher := by
  cases a with
  | call c =>
      cases c with
      | startMonitoring user =>
          by_cases huser : user < h.shared.apps.length
          · exact .inl (if_pos huser)
          · exact .inr ⟨rfl, if_neg huser⟩
      | startApplicationDidEnterBackground user =>
          by_cases huser : user < h.shared.apps.length
          · exact .inl (if_pos huser)
          · exact .inr ⟨rfl, if_neg huser⟩
      | stopMonitoring => exact .inl rfl
      | getTypeConnection => exact .inl rfl
  | setFlags flags => exact .inl rfl
  | runSerialQueue => exact .inl rfl
  | runMainQueue => exact .inl rfl
  | didEnterBackground => exact .inl rfl

/-- What the watcher calls does not touch the device. -/
theorem device_flushes (s : Shared) (users : List Nat) :
    (Runs.run Shared.step s (users.map flush)).device = s.device := by
  induction users generalizing s with
  | nil => rfl
  | cons user users ih =>
      rw [List.map_cons, Runs.run_cons, ih]
      exact s.step_device rfl

/-- No object goes away while the process lives. -/
theorem length_apps_run {s : Shared} {actions : List Shared.Action}
    (hlives : Runs.Each Shared.step Shared.Lives s actions) :
    s.apps.length ≤ (Runs.run Shared.step s actions).apps.length := by
  induction actions generalizing s with
  | nil => exact le_rfl
  | cons a as ih =>
      refine le_trans ?_ (ih hlives.2)
      by_contra hless
      push Not at hless
      -- the last object that would be missing
      have hgone : (s.step a).apps[(s.step a).apps.length]? = none :=
        List.getElem?_eq_none le_rfl
      rw [Shared.apps_step hlives.1, List.getElem?_eq_getElem hless] at hgone
      split at hgone
      · rw [Option.or_eq_none_iff] at hgone
        cases hgone.2
      · cases hgone

/-- What is known of every host on a device: there is a connection when Alamofire finds one, a
running notifier has seen the flags or is about to look, and the user of the watcher is there. -/
structure Wired (h : Host) : Prop where
  connected : h.shared.device.connected = isReachable (some h.watcher.manager.reachability.flags)
  device : h.watcher.manager.reachability.isRunningOnDevice = true
  cellular : h.watcher.manager.reachability.allowsCellularConnection = true
  seen : h.watcher.manager.reachability.Seen
  user : ∀ i, h.watcher.manager.user = some i → i < h.shared.apps.length

theorem wired_installed (accountId : Int) (device : Device) (flags : NetworkFlags) :
    (installed accountId device flags).Wired :=
  ⟨rfl, rfl, rfl, nofun, nofun⟩

/-- The user of the watcher is there when it is told so. -/
theorem Wired.user_after (hwired : h.Wired) (a : Action) {i : Nat}
    (hi : (h.watcherAfter a).manager.user = some i) : i < h.shared.apps.length := by
  cases a with
  | construct idAppStore => exact hwired.user i hi
  | call owner c => exact hwired.user i hi
  | complete id response => exact hwired.user i hi
  | clock now => exact hwired.user i hi
  | restart => exact hwired.user i hi
  | watch a =>
      have hkept : (h.watcher.step a).manager.user = h.watcher.manager.user →
          h.watched a = h.watcher.step a → i < h.shared.apps.length := by
        intro huser hwatched
        refine hwired.user i ?_
        rw [← huser, ← hwatched]
        exact hi
      have huser := h.watcher.user_step a
      cases a with
      | call c =>
          cases c with
          | startMonitoring user =>
              by_cases hlt : user < h.shared.apps.length
              · simp only [watcherAfter, watched, if_pos hlt, huser, Monitoring.Action.brought,
                  Option.some_or, Option.some.injEq] at hi
                rwa [← hi]
              · simp only [watcherAfter, watched, if_neg hlt] at hi
                exact hwired.user i hi
          | startApplicationDidEnterBackground user =>
              by_cases hlt : user < h.shared.apps.length
              · simp only [watcherAfter, watched, if_pos hlt, huser, Monitoring.Action.brought,
                  Option.some_or, Option.some.injEq] at hi
                rwa [← hi]
              · simp only [watcherAfter, watched, if_neg hlt] at hi
                exact hwired.user i hi
          | stopMonitoring => exact hkept huser rfl
          | getTypeConnection => exact hkept huser rfl
      | setFlags flags => exact hkept huser rfl
      | runSerialQueue => exact hkept huser rfl
      | runMainQueue => exact hkept huser rfl
      | didEnterBackground => exact hkept huser rfl

/-- The connection follows the flags of the watcher. -/
theorem Wired.connected_inner (hwired : h.Wired) (a : Action) :
    (Runs.run Shared.step h.shared (h.inner a)).device.connected =
      isReachable (some (h.watcherAfter a).manager.reachability.flags) := by
  cases a with
  | construct idAppStore => exact hwired.connected
  | call owner c =>
      have hdevice := h.shared.step_device (a := .call owner c) rfl
      exact (congrArg Device.connected hdevice).trans hwired.connected
  | complete id response =>
      have hdevice := h.shared.step_device (a := .complete id response) rfl
      exact (congrArg Device.connected hdevice).trans hwired.connected
  | clock now => exact hwired.connected
  | restart => exact hwired.connected
  | watch a =>
      show (Runs.run Shared.step h.shared (noticed _ _ _)).device.connected = _
      rw [noticed, Runs.run_append, device_flushes]
      obtain hwatched | ⟨hflags, hwatched⟩ := h.watched_cases a
      · show _ = isReachable (some (h.watched a).manager.reachability.flags)
        rw [hwatched, (h.watcher.network_step a).2.2]
        cases a with
        | setFlags flags => rfl
        | call c => exact hwired.connected
        | runSerialQueue => exact hwired.connected
        | runMainQueue => exact hwired.connected
        | didEnterBackground => exact hwired.connected
      · show _ = isReachable (some (h.watched a).manager.reachability.flags)
        rw [hflags, hwatched]
        exact hwired.connected

theorem Wired.step (hwired : h.Wired) (a : Action) : (h.step a).Wired := by
  have hdevice : (h.watcherAfter a).manager.reachability.isRunningOnDevice = true ∧
      (h.watcherAfter a).manager.reachability.allowsCellularConnection = true ∧
      (h.watcherAfter a).manager.reachability.Seen := by
    cases a with
    | watch a =>
        obtain hwatched | ⟨-, hwatched⟩ := h.watched_cases a
        · obtain ⟨hsame, hcellular, -⟩ := h.watcher.network_step a
          show (h.watched a).manager.reachability.isRunningOnDevice = true ∧ _
          simp only [watcherAfter, hwatched]
          exact ⟨hsame.trans hwired.device, hcellular.trans hwired.cellular,
            Monitoring.seen_step hwired.seen a⟩
        · simp only [watcherAfter, hwatched]
          exact ⟨hwired.device, hwired.cellular, hwired.seen⟩
    | construct idAppStore => exact ⟨hwired.device, hwired.cellular, hwired.seen⟩
    | call owner c => exact ⟨hwired.device, hwired.cellular, hwired.seen⟩
    | complete id response => exact ⟨hwired.device, hwired.cellular, hwired.seen⟩
    | clock now => exact ⟨hwired.device, hwired.cellular, hwired.seen⟩
    | restart => exact ⟨hwired.device, hwired.cellular, hwired.seen⟩
  obtain ⟨hdevice, hcellular, hseen⟩ := hdevice
  have hconnected := hwired.connected_inner a
  unfold Host.step
  by_cases hlives : Runs.Each Shared.step Shared.Lives h.shared (h.inner a)
  · rw [if_pos hlives]
    refine ⟨hconnected, hdevice, hcellular, hseen, fun i hi => ?_⟩
    exact Nat.lt_of_lt_of_le (hwired.user_after a hi) (length_apps_run hlives)
  · rw [if_neg hlives]
    exact ⟨hconnected, hdevice, rfl, nofun, nofun⟩

theorem wired_run (accountId : Int) (device : Device) (flags : NetworkFlags)
    (actions : List Action) : (Runs.run step (installed accountId device flags) actions).Wired :=
  Runs.run_invariant (wired_installed accountId device flags)
    (fun _ a hwired => hwired.step a) actions

/-! ## What the watcher adds to a run -/

/-- What the app itself does with the objects. -/
def ofApp : Action → Option Shared.Action
  | .construct idAppStore => some (.construct idAppStore)
  | .call owner c => some (.call owner c)
  | .complete id response => some (.complete id response)
  | .clock now => some (.clock now)
  | .restart => some .restart
  | .watch _ => none

/-- Is this certainly not the watcher's doing? -/
def isApps : Shared.Action → Bool
  | .connectivity _ | .call _ .sendDataSaveInDefault => false
  | _ => true

theorem filter_inner (h : Host) (a : Action) :
    (h.inner a).filter isApps = (ofApp a).toList.filter isApps := by
  cases a with
  | watch a =>
      refine List.filter_eq_nil_iff.mpr fun b hb => ?_
      rcases List.mem_append.mp hb with hflags | hcall
      · obtain ⟨flags, -, rfl⟩ := Option.map_eq_some_iff.mp (Option.mem_toList.mp hflags)
        exact Bool.false_ne_true
      · obtain ⟨user, -, rfl⟩ := List.mem_map.mp hcall
        exact Bool.false_ne_true
  | construct idAppStore => rfl
  | call owner c => rfl
  | complete id response => rfl
  | clock now => rfl
  | restart => rfl

theorem filter_innerAll (h : Host) (actions : List Action) :
    (innerAll h actions).filter isApps = (actions.filterMap ofApp).filter isApps := by
  induction actions generalizing h with
  | nil => rfl
  | cons a as ih =>
      rw [innerAll, List.filter_append, ih, filter_inner, List.filterMap_cons]
      cases ofApp a with
      | none => rfl
      | some b =>
          rw [Option.toList_some, ← List.filter_append]
          rfl

/-- **The process refines its objects.** In every run on a device the objects are in a state that
they reach without a watcher, by what the app does in its order and, in between, calls of
`sendDataSaveInDefault` and changes of the connection. The two libraries agree then as far as this:
a Wi-Fi of `Reachability` is a connection for the objects, and where it finds no connection, neither
do they. And the user of the watcher is one of the objects. -/
theorem refines (accountId : Int) (device : Device) (flags : NetworkFlags)
    (actions : List Action) :
    let h := Runs.run step (installed accountId device flags) actions
    (∃ own : List Shared.Action,
      own.filter isApps = (actions.filterMap ofApp).filter isApps ∧
      h.shared = Runs.run Shared.step
        (.installed accountId { device with connected := isReachable (some flags) }) own) ∧
      (h.watcher.manager.reachability.connection = .wifi → h.shared.device.connected = true) ∧
      (h.watcher.manager.reachability.connection = .none → h.shared.device.connected = false) ∧
      ∀ i, h.watcher.manager.user = some i → i < h.shared.apps.length := by
  intro h
  have hwired : h.Wired := wired_run accountId device flags actions
  refine ⟨⟨innerAll (installed accountId device flags) actions, ?_, ?_⟩, ?_, ?_, hwired.user⟩
  · exact filter_innerAll _ actions
  · exact shared_run _ actions
  · intro hwifi
    rw [hwired.connected, NetworkReachabilityManager.isReachable_some]
    exact ((Reachability.connection_eq_wifi_iff hwired.device hwired.cellular).mp hwifi).1
  · intro hnone
    rw [hwired.connected, NetworkReachabilityManager.isReachable_some]
    exact ((Reachability.connection_eq_none_iff hwired.device hwired.cellular).mp hnone).1

/-! ## What the queues do to the objects -/

/-- Nobody is there to be called. -/
theorem flushes_of_dead {s : Shared} (h : s.apps = []) (users : List Nat) :
    Runs.run Shared.step s (users.map flush) = s := by
  induction users with
  | nil => rfl
  | cons user users ih =>
      have hstep : s.step (flush user) = s := by simp [flush, Shared.step, h]
      rw [List.map_cons, Runs.run_cons, hstep, ih]

/-- A call that ends the process leaves nobody. -/
theorem dead_flushes {s : Shared} {users : List Nat}
    (h : ¬ Runs.Each Shared.step Shared.Lives s (users.map flush)) :
    (Runs.run Shared.step s (users.map flush)).apps = [] := by
  induction users generalizing s with
  | nil => exact absurd trivial h
  | cons user users ih =>
      by_cases hlives : s.Lives (flush user)
      · exact ih fun hrest => h ⟨hlives, hrest⟩
      · obtain ⟨hdead, -⟩ := Shared.dead_step hlives
        rw [List.map_cons, Runs.run_cons, flushes_of_dead hdead, hdead]

/-- **What the queues do to the objects** are the calls that they make on the watcher. If one of
them ends the process, the others have nobody to call. -/
theorem run_queues (h : Host) {queues : List (Monitoring.Action Nat)}
    (hqueues : ∀ b ∈ queues, b.isQueue = true) {l : List Nat}
    (hsends : (Runs.run Monitoring.step h.watcher queues).manager.sends =
      h.watcher.manager.sends ++ l) :
    (Runs.run step h (queues.map .watch)).shared =
      Runs.run Shared.step h.shared (l.map flush) := by
  induction queues generalizing h l with
  | nil =>
      rw [List.self_eq_append_right.mp hsends]
      rfl
  | cons b queues ih =>
      have hrest : ∀ b' ∈ queues, b'.isQueue = true :=
        fun b' hb' => hqueues b' (List.mem_cons_of_mem b hb')
      obtain ⟨first, hfirst, -⟩ := h.watcher.sends_step b
      obtain ⟨rest, hlater⟩ := (h.watcher.step b).sends_run queues
      have hl : l = first ++ rest := by
        rw [Runs.run_cons, hlater, hfirst, List.append_assoc] at hsends
        exact (List.append_cancel_left hsends).symm
      have hqueue : h.inner (.watch b) = first.map flush ∧
          h.watcherAfter (.watch b) = h.watcher.step b := by
        have hqueue := hqueues b List.mem_cons_self
        cases b with
        | runSerialQueue =>
            refine ⟨?_, rfl⟩
            show [] ++ (List.drop _ (h.watcher.step .runSerialQueue).manager.sends).map flush = _
            rw [hfirst, List.drop_left, List.nil_append]
        | runMainQueue =>
            refine ⟨?_, rfl⟩
            show [] ++ (List.drop _ (h.watcher.step .runMainQueue).manager.sends).map flush = _
            rw [hfirst, List.drop_left, List.nil_append]
        | call c => cases hqueue
        | setFlags flags => cases hqueue
        | didEnterBackground => cases hqueue
      obtain ⟨hinner, hafter⟩ := hqueue
      have hshared : (h.step (.watch b)).shared =
          Runs.run Shared.step h.shared (first.map flush) := by
        rw [← hinner]
        rfl
      rw [List.map_cons, Runs.run_cons, hl, List.map_append, Runs.run_append, ← hshared]
      by_cases hlives : Runs.Each Shared.step Shared.Lives h.shared (h.inner (.watch b))
      · have hwatcher : (h.step (.watch b)).watcher = h.watcher.step b := by
          show (if _ then _ else _) = _
          rw [if_pos hlives, hafter]
        exact ih _ hrest (by rw [hwatcher, hlater])
      · -- the process has ended, and there is nobody left
        have hdead : (h.step (.watch b)).shared.apps = [] := by
          rw [hshared]
          rw [hinner] at hlives
          exact dead_flushes hlives
        obtain ⟨l', hl'⟩ := (h.step (.watch b)).watcher.sends_run queues
        rw [ih _ hrest hl', flushes_of_dead hdead, flushes_of_dead hdead]

/-- **What a change of the network does to the objects**, once the queues are at rest: they learn of
the connection, and then the user of the watcher is called, if this is due. -/
theorem shared_setFlags (hwired : h.Wired) (hsettled : h.watcher.Settled) (flags : NetworkFlags)
    {queues : List (Monitoring.Action Nat)} (hqueues : ∀ b ∈ queues, b.isQueue = true)
    (hrest : (Runs.run Monitoring.step (h.watcher.step (.setFlags flags)) queues).Settled) :
    (Runs.run step (h.step (.watch (.setFlags flags))) (queues.map .watch)).shared =
      Runs.run Shared.step (h.shared.step (.connectivity (isReachable (some flags))))
        ((h.watcher.due flags).map flush) := by
  have hinner : h.inner (.watch (.setFlags flags)) =
      [.connectivity (isReachable (some flags))] := by
    show [Shared.Action.connectivity _] ++
      (List.drop _ (h.watcher.step (.setFlags flags)).manager.sends).map flush = _
    rw [show (h.watcher.step (.setFlags flags)).manager.sends = h.watcher.manager.sends from rfl,
      List.drop_length]
    rfl
  have hlives : Runs.Each Shared.step Shared.Lives h.shared (h.inner (.watch (.setFlags flags))) := by
    rw [hinner]
    exact ⟨Shared.lives_of_not_ran rfl nofun, trivial⟩
  have hstep : h.step (.watch (.setFlags flags)) =
      ⟨h.shared.step (.connectivity (isReachable (some flags))),
        h.watcher.step (.setFlags flags)⟩ := by
    unfold step
    rw [if_pos hlives, hinner]
    rfl
  rw [hstep]
  exact run_queues _ hqueues (Monitoring.sends_setFlags hwired.seen hsettled flags hqueues hrest)

/-- **A Wi-Fi resends.** Whatever has happened on a device: if the queues of the watcher are at rest
when the flags of the network change, then once they are at rest again, the objects have learned of
the connection and `sendDataSaveInDefault` was called at most once. It was called for the user of
the watcher exactly if a running notifier has the closure installed and the new flags are reachable
and not cellular; and a request went out exactly if, further, the flag was up and the user has an
id. Then it carries all the parameters that this object holds. -/
theorem wifi_resends (accountId : Int) (device : Device) (before : NetworkFlags)
    (actions : List Action) (flags : NetworkFlags) (queues : List (Monitoring.Action Nat))
    (hsettled : (Runs.run step (installed accountId device before) actions).watcher.Settled)
    (hqueues : ∀ b ∈ queues, b.isQueue = true)
    (hrest : (Runs.run Monitoring.step
      ((Runs.run step (installed accountId device before) actions).watcher.step (.setFlags flags))
      queues).Settled) :
    let h := Runs.run step (installed accountId device before) actions
    let s := h.shared.step (.connectivity (isNetworkReachable flags))
    ∃ users : List Nat,
      (Runs.run step (h.step (.watch (.setFlags flags))) (queues.map .watch)).shared =
        Runs.run Shared.step s (users.map flush) ∧
      users.length ≤ 1 ∧
      (∀ i, i ∈ users ↔ h.watcher.Watches flags ∧ h.watcher.Installed ∧
        (isNetworkReachable flags = true ∧ flags.isWWAN = false) ∧
          h.watcher.manager.user = some i) ∧
      ∀ i ∈ users, ∀ r, r ∈ s.issuedBy (flush i) ↔
        h.shared.defaults.bool "toSendOnBoarding" = true ∧
          ∃ user acc, h.shared.apps[i]? = some user ∧ user.getUserId ≠ "0" ∧
            user.getAccountId = some acc ∧
            r = WebService.sendOnBoardingRequest acc user.getUserId user.onBoarding.valueData := by
  intro h s
  have hwired : h.Wired := wired_run accountId device before actions
  have hwifi : h.watcher.connectionAfter flags = .wifi ↔
      isNetworkReachable flags = true ∧ flags.isWWAN = false :=
    Reachability.connection_eq_wifi_iff (r := h.watcher.manager.reachability.setFlags flags)
      hwired.device hwired.cellular
  have hdue : ∀ i, i ∈ h.watcher.due flags ↔ h.watcher.Watches flags ∧ h.watcher.Installed ∧
      (isNetworkReachable flags = true ∧ flags.isWWAN = false) ∧
        h.watcher.manager.user = some i := by
    intro i
    rw [← hwifi]
    unfold Monitoring.due
    by_cases hsends : h.watcher.Watches flags ∧ h.watcher.Installed ∧
        h.watcher.connectionAfter flags = .wifi
    · rw [if_pos hsends, Option.mem_toList]
      obtain ⟨hwatches, hinstalled, hconnection⟩ := hsends
      exact ⟨fun huser => ⟨hwatches, hinstalled, hconnection, huser⟩, fun hall => hall.2.2.2⟩
    · rw [if_neg hsends]
      refine iff_of_false List.not_mem_nil ?_
      rintro ⟨hwatches, hinstalled, hconnection, -⟩
      exact hsends ⟨hwatches, hinstalled, hconnection⟩
  refine ⟨h.watcher.due flags, ?_, ?_, hdue, ?_⟩
  · rw [shared_setFlags hwired hsettled flags hqueues hrest,
      NetworkReachabilityManager.isReachable_some]
  · unfold Monitoring.due
    split
    · exact Option.length_toList_le
    · exact Nat.zero_le 1
  · intro i hi r
    have hconn : isNetworkReachable flags = true := ((hdue i).mp hi).2.2.1.1
    rw [Shared.mem_issuedBy_iff]
    constructor
    · intro hissues
      cases hissues with
      | flush owner user acc huser hflag hid hconn hacc =>
          exact ⟨hflag, user, acc, huser, hid, hacc, rfl⟩
    · rintro ⟨hflag, user, acc, huser, hid, hacc, rfl⟩
      exact .flush i user acc huser hflag hid hconn hacc

def arrived : List Action :=
  [.construct none, .complete 0 (WebService.named "u1"), .call 0 (.setOnboarding "city" "SP"),
    .complete 2 (.ok (.text "1")), .watch (.setFlags .offline), .watch (.call (.startMonitoring 0)),
    .watch .runSerialQueue, .watch .runMainQueue, .watch .runMainQueue]

theorem wifi_resends_arrived :
    let h := Runs.run step (installed 7 (.phone 1700000000) .wiFi) arrived
    let s := h.shared.step (.connectivity true)
    (∃ r, r ∈ s.issuedBy (flush 0)) ∧ ∃ users : List Nat, 0 ∈ users ∧ users.length ≤ 1 ∧
      (Runs.run step (h.step (.watch (.setFlags .wiFi)))
        [.watch .runSerialQueue, .watch .runMainQueue, .watch .runMainQueue]).shared =
        Runs.run Shared.step s (users.map flush) := by
  intro h s
  obtain ⟨users, hshared, hlength, husers, -⟩ :=
    wifi_resends 7 (.phone 1700000000) .wiFi arrived .wiFi
      [.runSerialQueue, .runMainQueue, .runMainQueue] (by decide +kernel) (by decide)
      (by decide +kernel)
  have hmem : 0 ∈ users := (husers 0).mpr (by decide +kernel)
  have hissued : (s.issuedBy (flush 0)).isEmpty = false := by decide +kernel
  exact ⟨List.exists_mem_of_ne_nil _ (List.isEmpty_eq_false_iff.mp hissued),
    users, hmem, hlength, hshared⟩

end Host
