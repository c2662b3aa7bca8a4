import NaveggSdk.Foundation.Reachability

/-!
# `ReachabilityManager`: sending in the background

The shared `ReachabilityManager` calls `sendDataSaveInDefault` on its user by itself, in two
situations: when the app goes to the background, and when the network becomes a Wi-Fi. For the
second it installs a closure in its `Reachability`, and it does so from inside the handler of a
notification that this `Reachability` posts.

Everything here runs on the main queue. `mainQueue` holds the blocks that were put there with
`DispatchQueue.main.async` and have not run yet. The users are only told apart, so their type is a
parameter; `sends` is the history of the calls of `sendDataSaveInDefault`, oldest first.

The fields `defaults`, `NetworkReachabilityChanged` and `hasCreateNotificationCenter` are read by
none of these methods and are left out.
-/

namespace ReachabilityManager

inductive Closure where
  /-- `sendDataSaveInDefault` on a Wi-Fi. -/
  | whenReachable
  /-- An empty block on the main queue. -/
  | whenUnreachable
  deriving DecidableEq

inductive Block where
  /-- Of `Reachability`: run a closure, if there is one, and post `reachabilityChanged`. -/
  | changed (closure : Option Closure)
  /-- Of the handler of `reachabilityChanged`: install the closures. -/
  | install
  /-- Of the closure `whenUnreachable`. -/
  | empty

inductive Notification where
  | reachabilityChanged
  | didEnterBackground
  deriving DecidableEq

end ReachabilityManager

/-- The shared `ReachabilityManager`. -/
structure ReachabilityManager (U : Type) where
  user : Option U
  reachability : Reachability ReachabilityManager.Closure
  /-- Its registrations in `NotificationCenter.default`: one entry for each `addObserver`. -/
  observers : List ReachabilityManager.Notification
  mainQueue : List ReachabilityManager.Block
  sends : List U

namespace ReachabilityManager

variable {U : Type}

def init (isRunningOnDevice : Bool) (flags : NetworkFlags) : ReachabilityManager U where
  user := none
  reachability := Reachability.init isRunningOnDevice flags
  observers := []
  mainQueue := []
  sends := []

/-- `self.user?.sendDataSaveInDefault()`. -/
def sendDataSaveInDefault (m : ReachabilityManager U) : ReachabilityManager U :=
  { m with sends := m.sends ++ m.user.toList }

def async (block : Block) (m : ReachabilityManager U) : ReachabilityManager U :=
  { m with mainQueue := m.mainQueue ++ [block] }

/-- `getTypeConnection`, which starts the notifier on the way. -/
def getTypeConnection (m : ReachabilityManager U) : String × ReachabilityManager U :=
  let type :=
    match m.reachability.connection with
    | .wifi => "Wi-Fi"
    | .cellular => "4G"
    | .none => "Sem Internet"
  (type, { m with reachability := m.reachability.startNotifier })

def reachabilityChanged (m : ReachabilityManager U) : ReachabilityManager U := m.async .install

def backGroundReachabilityChanged (m : ReachabilityManager U) : ReachabilityManager U :=
  m.sendDataSaveInDefault

def stopMonitoring (m : ReachabilityManager U) : ReachabilityManager U :=
  { m with
    reachability := m.reachability.stopNotifier
    observers := m.observers.filter (· ≠ .reachabilityChanged) }

def startMonitoring (user : U) (m : ReachabilityManager U) : ReachabilityManager U :=
  let m := { m with user := some user }
  let m := m.stopMonitoring
  let m := { m with observers := m.observers ++ [Notification.reachabilityChanged] }
  { m with reachability := m.reachability.startNotifier }

def startApplicationDidEnterBackground (user : U) (m : ReachabilityManager U) :
    ReachabilityManager U :=
  let m := { m with user := some user }
  let m := { m with observers := m.observers ++ [Notification.didEnterBackground] }
  { m with reachability := m.reachability.startNotifier }

/-! ## Notifications and queues -/

def handle (name : Notification) (m : ReachabilityManager U) : ReachabilityManager U :=
  match name with
  | .reachabilityChanged => m.reachabilityChanged
  | .didEnterBackground => m.backGroundReachabilityChanged

/-- `NotificationCenter.default.post`: each registration under the name is delivered. -/
def post (name : Notification) (m : ReachabilityManager U) : ReachabilityManager U :=
  m.observers.foldl (fun m registration => if registration = name then m.handle name else m) m

def runClosure (closure : Closure) (m : ReachabilityManager U) : ReachabilityManager U :=
  match closure with
  | .whenReachable =>
    if m.reachability.connection = .wifi then m.sendDataSaveInDefault else m
  | .whenUnreachable => m.async .empty

def runBlock (block : Block) (m : ReachabilityManager U) : ReachabilityManager U :=
  match block with
  | .changed (some closure) => (m.runClosure closure).post .reachabilityChanged
  | .changed none => m.post .reachabilityChanged
  | .install =>
    { m with
      reachability.whenReachable := some .whenReachable
      reachability.whenUnreachable := some .whenUnreachable }
  | .empty => m

/-- The main queue runs its next block. -/
def runMainQueue (m : ReachabilityManager U) : ReachabilityManager U :=
  match m.mainQueue with
  | [] => m
  | block :: rest => { m with mainQueue := rest }.runBlock block

def runSerialQueue (m : ReachabilityManager U) : ReachabilityManager U :=
  let (reachability, block) := m.reachability.runSerialQueue
  let m := { m with reachability := reachability }
  match block with
  | some closure => m.async (.changed closure)
  | none => m

def setFlags (flags : NetworkFlags) (m : ReachabilityManager U) : ReachabilityManager U :=
  { m with reachability := m.reachability.setFlags flags }

end ReachabilityManager
