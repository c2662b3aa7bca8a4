import Mathlib.Data.List.Basic

/-!
# `Reachability`: the vendored watcher of the network

A `Reachability` reads the flags of the network, remembers those it saw last, and holds the closure
it is to run when they change. While its notifier is running, a change of the flags puts a *check*
on its serial queue; so does starting the notifier. A check that finds other flags than the last
ones hands the closure of the moment to the main queue, where it is run and followed by a
notification.

What a closure does is up to whoever installs it, so the type of the closures is a parameter.
`SCNetworkReachabilitySetCallback` and `SCNetworkReachabilitySetDispatchQueue` are taken to succeed.
-/

/-- `SCNetworkReachabilityFlags`. -/
structure NetworkFlags where
  isWWAN : Bool
  reachable : Bool
  connectionRequired : Bool
  interventionRequired : Bool
  connectionOnTraffic : Bool
  connectionOnDemand : Bool
  transientConnection : Bool
  isLocalAddress : Bool
  isDirect : Bool
  deriving DecidableEq

namespace NetworkFlags

def offline : NetworkFlags := ⟨false, false, false, false, false, false, false, false, false⟩

def wiFi : NetworkFlags := ⟨false, true, false, false, false, false, false, false, false⟩

end NetworkFlags

namespace Reachability

inductive Connection where
  | none
  | wifi
  | cellular
  deriving DecidableEq

/-- What the serial queue runs: the check that `startNotifier` asks for, or the one of the callback,
which is not called any more once the notifier has been stopped. -/
inductive Check where
  | initial
  | callback

end Reachability

/-- The `Reachability` object, with the flags of the network and its serial queue. -/
structure Reachability (κ : Type) where
  isRunningOnDevice : Bool
  allowsCellularConnection : Bool
  /-- What `SCNetworkReachabilityGetFlags` answers. -/
  flags : NetworkFlags
  previousFlags : Option NetworkFlags
  notifierRunning : Bool
  whenReachable : Option κ
  whenUnreachable : Option κ
  /-- `reachabilitySerialQueue`. -/
  serialQueue : List Reachability.Check

namespace Reachability

variable {κ : Type}

def init (isRunningOnDevice : Bool) (flags : NetworkFlags) : Reachability κ where
  isRunningOnDevice := isRunningOnDevice
  allowsCellularConnection := true
  flags := flags
  previousFlags := Option.none
  notifierRunning := false
  whenReachable := Option.none
  whenUnreachable := Option.none
  serialQueue := []

def isConnectionOnTrafficOrDemandFlagSet (r : Reachability κ) : Bool :=
  r.flags.connectionOnTraffic || r.flags.connectionOnDemand

def connection (r : Reachability κ) : Connection :=
  if !r.flags.reachable then .none
  else if !r.isRunningOnDevice then .wifi
  else
    let connection := if !r.flags.connectionRequired then Connection.wifi else .none
    let connection :=
      if r.isConnectionOnTrafficOrDemandFlagSet && !r.flags.interventionRequired then .wifi
      else connection
    if r.flags.isWWAN then
      if !r.allowsCellularConnection then .none else .cellular
    else connection

def startNotifier (r : Reachability κ) : Reachability κ :=
  if r.notifierRunning then r
  else { r with serialQueue := r.serialQueue ++ [.initial], notifierRunning := true }

def stopNotifier (r : Reachability κ) : Reachability κ := { r with notifierRunning := false }

/-- `reachabilityChanged`, on the serial queue. The second component is what is handed to the main
queue, if anything is: the closure that was installed at this moment, which may be none. -/
def reachabilityChanged (r : Reachability κ) : Reachability κ × Option (Option κ) :=
  if r.previousFlags ≠ some r.flags then
    let block := if r.connection ≠ .none then r.whenReachable else r.whenUnreachable
    ({ r with previousFlags := some r.flags }, some block)
  else (r, Option.none)

def setFlags (flags : NetworkFlags) (r : Reachability κ) : Reachability κ :=
  { r with
    flags := flags
    serialQueue :=
      if r.notifierRunning ∧ flags ≠ r.flags then r.serialQueue ++ [.callback]
      else r.serialQueue }

def runSerialQueue (r : Reachability κ) : Reachability κ × Option (Option κ) :=
  match r.serialQueue with
  | [] => (r, Option.none)
  | .initial :: rest => { r with serialQueue := rest }.reachabilityChanged
  | .callback :: rest =>
    if r.notifierRunning then { r with serialQueue := rest }.reachabilityChanged
    else ({ r with serialQueue := rest }, Option.none)

/-! ## What a check does -/

/-- The closure of the moment. -/
def handed (r : Reachability κ) : Option κ :=
  if r.connection ≠ .none then r.whenReachable else r.whenUnreachable

variable {r : Reachability κ} {check : Check} {checks : List Check}

theorem reachabilityChanged_seen (h : r.previousFlags = some r.flags) :
    r.reachabilityChanged = (r, Option.none) := by
  unfold reachabilityChanged
  rw [if_neg (not_not.mpr h)]

theorem reachabilityChanged_unseen (h : r.previousFlags ≠ some r.flags) :
    r.reachabilityChanged = ({ r with previousFlags := some r.flags }, some r.handed) := by
  unfold reachabilityChanged
  rw [if_pos h]
  rfl

/-- **A check is taken from the queue.** If it is carried out and finds flags that were not seen
before, it remembers them and hands over the closure of the moment. -/
theorem runSerialQueue_cons (h : r.serialQueue = check :: checks) :
    (r.previousFlags ≠ some r.flags ∧
      r.runSerialQueue =
        ({ r with serialQueue := checks, previousFlags := some r.flags }, some r.handed)) ∨
    ((r.notifierRunning = true → r.previousFlags = some r.flags) ∧
      r.runSerialQueue = ({ r with serialQueue := checks }, Option.none)) := by
  unfold runSerialQueue
  rw [h]
  cases check with
  | initial =>
      by_cases hseen : r.previousFlags = some r.flags
      · exact .inr ⟨fun _ => hseen, reachabilityChanged_seen hseen⟩
      · exact .inl ⟨hseen, reachabilityChanged_unseen hseen⟩
  | callback =>
      by_cases hrunning : r.notifierRunning = true
      · simp only [if_pos hrunning]
        by_cases hseen : r.previousFlags = some r.flags
        · exact .inr ⟨fun _ => hseen, reachabilityChanged_seen hseen⟩
        · exact .inl ⟨hseen, reachabilityChanged_unseen hseen⟩
      · exact .inr ⟨fun hrunning' => absurd hrunning' hrunning, if_neg hrunning⟩

end Reachability
