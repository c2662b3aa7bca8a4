import NaveggSdk.Foundation.UserDefaults
import NaveggSdk.Sdk.OnBoarding

/-!
# The objects of one `NaveggApi` and what a call does to them

A `NaveggApi` owns a `User`, which owns an `OnBoarding` and a `WebService`; all three share one
suite of `UserDefaults`. A call of the SDK runs on the main queue from its first line to its last
without interruption. Its input and output is a `Memory`: the objects, the suite, and the requests
the call has handed to Alamofire so far. Answers come back later, as calls of their own.

A call can also *trap*: a force-unwrapped `nil`, a failed `as!` and an integer conversion out of
range end the process. An `Outcome` keeps the memory of that moment, because what was already
written to the suite outlives the process.

`context`, `listCustom`, `util` and `appDelegate` hold no data that the modelled methods read.
-/

/-- The `WebService` object; `runningCreateUser` is `nil` until the first `createUser`. -/
structure WebService where
  runningCreateUser : Option Bool

structure User where
  accountId : Int
  userId : Option String
  onBoarding : OnBoarding
  ws : WebService
  dateLastSync : Option Date
  customListPermanent : List Int
  jsonSegments : Dictionary String String

inductive WebCall where
  | createUser
  | getSegments
  | sendOnBoarding
  deriving DecidableEq

inductive Parameter where
  | int (n : Int)
  | uint32 (n : UInt32)
  | string (s : String)
  | emptyArray
  | dictionary (d : Dictionary String String)

/-- A request handed to Alamofire. The completion handler captures the user and knows nothing of
the request it answers; `onBoarding` is the onboarding map the parameters were made from, kept here
to speak about what was delivered. -/
structure Request where
  call : WebCall
  url : String
  parameters : Dictionary String Parameter
  headers : List (String × String)
  onBoarding : Dictionary String String

/-- What a call of the SDK reads and writes. -/
structure Memory where
  user : User
  defaults : UserDefaults
  /-- The requests of this call, in the order they were issued. -/
  requests : List Request

inductive Trap where
  /-- `nil` was force-unwrapped. -/
  | unwrap
  /-- `as!` failed. -/
  | cast
  /-- `UInt32(_:)` was given a number that is none. -/
  | overflow
  deriving DecidableEq

/-- How a call ends: with a value, or with the process. -/
inductive Outcome (α : Type) where
  | done (value : α) (memory : Memory)
  | trap (why : Trap) (memory : Memory)

namespace Outcome

variable {α β : Type}

/-- The memory at the end, however it came. -/
def memory : Outcome α → Memory
  | .done _ m => m
  | .trap _ m => m

def isDone : Outcome α → Bool
  | .done _ _ => true
  | .trap _ _ => false

/-- Continue after a call that did not trap. -/
def bind (x : Outcome α) (f : α → Memory → Outcome β) : Outcome β :=
  match x with
  | .done a m => f a m
  | .trap why m => .trap why m

@[simp] theorem memory_done (a : α) (m : Memory) : (done a m).memory = m := rfl
@[simp] theorem memory_trap (why : Trap) (m : Memory) : (trap why m : Outcome α).memory = m := rfl
@[simp] theorem isDone_done (a : α) (m : Memory) : (done a m).isDone = true := rfl
@[simp] theorem isDone_trap (why : Trap) (m : Memory) :
    (trap why m : Outcome α).isDone = false := rfl

@[simp] theorem bind_done (a : α) (m : Memory) (f : α → Memory → Outcome β) :
    (done a m).bind f = f a m := rfl
@[simp] theorem bind_trap (why : Trap) (m : Memory) (f : α → Memory → Outcome β) :
    (trap why m : Outcome α).bind f = trap why m := rfl

end Outcome

/-- A request leaves the call. -/
def Memory.issue (r : Request) (m : Memory) : Memory := { m with requests := m.requests ++ [r] }

namespace User

/-- `getUserId`: `"0"` stands for no id. -/
def getUserId (user : User) : String :=
  match user.userId with
  | none => "0"
  | some id => id

/-- `getAccountId`: `UInt32(self.accountId)` traps when the number does not fit; `none` is the
trap. -/
def getAccountId (user : User) : Option UInt32 :=
  if 0 ≤ user.accountId ∧ user.accountId < 2 ^ 32 then some (UInt32.ofNat user.accountId.toNat)
  else none

/-- `__set_user_id`. -/
def setUserId (userID : Option String) (m : Memory) : Memory :=
  { m with
    user.userId := userID
    defaults := m.defaults.setOptional (userID.map .string) "NVGSDK_USERID" }

def saveSegments (device : Device) (segments : Dictionary String String) (m : Memory) : Memory :=
  { m with
    user.jsonSegments := segments
    defaults := (m.defaults.set (.dictionary segments) "jsonSegments").set
      (.string (Util.dateToString device.now)) "dateLastSync" }

def setOnBoarding (device : Device) (key value : String) (m : Memory) : Bool × Memory :=
  let (stored, onBoarding, defaults) := m.user.onBoarding.addInfo device key value m.defaults
  (stored, { m with user.onBoarding := onBoarding, defaults := defaults })

def getOnBoarding (user : User) : OnBoarding := user.onBoarding

end User
