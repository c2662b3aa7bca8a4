import NaveggSdk.Library.Runs
import NaveggSdk.Sdk.NaveggApi

/-!
# The system: one account on one device

A `System` is what there is between two steps of the main queue: the device, the suite of the
account, the one live `NaveggApi` (none once the process has died), and the requests in flight. An
`Action` is the next thing that happens: a call by the app, the answer to one of the requests in
flight, a change of connectivity or of the clock, or a restart of the process, which drops the
requests in flight and builds the objects anew from the suite.

Which action comes next is free. Answers arrive in any order, each at most once, and say anything;
an answer to a request that is not in flight is no answer, and a call to a dead process is no call.
A trap ends the process with the suite as it was at that moment.

`log` is the history, newest first: what was stored, issued and answered so far. No code reads it.
It is what "was delivered", "the last attempt" and "issued after" mean.
-/

/-- A request in flight. `id` counts the requests of the account's history. -/
structure Flight where
  id : Nat
  request : Request

/-- What the history remembers. -/
inductive Event where
  /-- The process started; `segments` is the stored map it loaded. -/
  | launched (segments : Option (Dictionary String String))
  /-- `addInfo` stored a pair. -/
  | stored (key value : String)
  /-- A stored pair was followed by no request. -/
  | skipped
  | issued (flight : Flight)
  | answered (flight : Flight) (response : DataResponse) (date : Date)

inductive Call where
  | getSegments (segments : String)
  | setOnboarding (key value : String)
  | sendDataSaveInDefault

namespace Call

def run (device : Device) (c : Call) (m : Memory) : Outcome Unit :=
  match c with
  | .getSegments segments => (NaveggApi.getSegments device segments m).bind fun _ m => .done () m
  | .setOnboarding key value => NaveggApi.setOnboarding device key value m
  | .sendDataSaveInDefault => User.sendDataSaveInDefault device m

/-- What the history remembers of a call, besides its requests. -/
def events (device : Device) (c : Call) (m : Memory) : List Event :=
  match c with
  | .setOnboarding key value =>
    if (User.setOnBoarding device key value m).1 then
      if (c.run device m).memory.requests = [] then [.stored key value, .skipped]
      else [.stored key value]
    else []
  | _ => []

end Call

/-- One account on one device. -/
structure System where
  accountId : Int
  device : Device
  defaults : UserDefaults
  app : Option User
  inFlight : List Flight
  issued : Nat
  log : List Event

/-- The requests of a call, numbered from `n`. -/
def Flight.number : Nat → List Request → List Flight
  | _, [] => []
  | n, r :: rs => ⟨n, r⟩ :: number (n + 1) rs

/-- The memory a call on the live objects starts from. -/
def Memory.enter (user : User) (defaults : UserDefaults) : Memory := ⟨user, defaults, []⟩

namespace Memory

@[simp] theorem enter_user (user : User) (defaults : UserDefaults) :
    (enter user defaults).user = user := rfl
@[simp] theorem enter_defaults (user : User) (defaults : UserDefaults) :
    (enter user defaults).defaults = defaults := rfl
@[simp] theorem enter_requests (user : User) (defaults : UserDefaults) :
    (enter user defaults).requests = [] := rfl

end Memory

namespace System

inductive Action where
  | call (c : Call)
  | complete (id : Nat) (response : DataResponse)
  | connectivity (connected : Bool)
  | clock (now : Date)
  | restart (idAppStore : Option Int)

/-- The end of a call: its memory becomes the system's, its requests are in flight and in the
history. After a trap only the suite is left. -/
def settle (events : List Event) (x : Outcome Unit) (s : System) : System :=
  let flights := Flight.number s.issued x.memory.requests
  { s with
    defaults := x.memory.defaults
    app := if x.isDone then some x.memory.user else none
    inFlight := if x.isDone then s.inFlight ++ flights else []
    issued := s.issued + x.memory.requests.length
    log := (flights.map Event.issued).reverse ++ (events.reverse ++ s.log) }

/-- A new process: whatever was in memory or in flight is gone. -/
def launch (idAppStore : Option Int) (s : System) : System :=
  { s with inFlight := [] }.settle [.launched (s.defaults.dictionary "jsonSegments")]
    (.done () (NaveggApi.init s.device s.accountId idAppStore s.defaults))

def flight? (s : System) (id : Nat) : Option Flight := s.inFlight.find? (·.id = id)

def drop (id : Nat) (s : System) : System :=
  { s with inFlight := s.inFlight.filter (·.id ≠ id) }

def step (s : System) : Action → System
  | .call c =>
    match s.app with
    | none => s
    | some user =>
      let m := Memory.enter user s.defaults
      s.settle (c.events s.device m) (c.run s.device m)
  | .complete id response =>
    match s.app, s.flight? id with
    | some user, some flight =>
      (s.drop id).settle [.answered flight response s.device.now]
        (WebService.completion s.device flight.request.call response
          (Memory.enter user s.defaults))
    | _, _ => s
  | .connectivity connected => { s with device := { s.device with connected := connected } }
  | .clock now => { s with device := { s.device with now := now } }
  | .restart idAppStore => s.launch idAppStore

def installed (accountId : Int) (device : Device) : System where
  accountId := accountId
  device := device
  defaults := UserDefaults.empty
  app := none
  inFlight := []
  issued := 0
  log := []

def after (accountId : Int) (device : Device) (actions : List Action) : System :=
  Runs.run step (installed accountId device) actions

end System
