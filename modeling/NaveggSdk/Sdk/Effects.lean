import NaveggSdk.Sdk.NaveggApi

/-!
# What the calls and the handlers can do

The code of `WebService`, `User` and `NaveggApi` once more, as the list of its possible endings.
Every later proof takes a call apart with the lemmas of this file and never unfolds the code.

* A handler first *reads* its answer: `readUserId` and `readSegments` are that part, with the three
  ways it can end (`Reading`).
* `Fetch` and `Send` are the endings of `WebService.getSegments` and `WebService.sendOnBoarding`.
* `getSegments_eq` and `setOnboarding_eq` say when the public calls reach them.
-/

/-! ## Reading an answer -/

/-- What a handler makes of an answer before it acts on it. -/
inductive Reading (α : Type) where
  | accepted (a : α)
  /-- A failure, or an answer that the handler recognises as useless. -/
  | refused
  | fatal (why : Trap)
  deriving DecidableEq

namespace WebService

/-- How the handler of `createUser` reads an answer. -/
def readUserId (response : DataResponse) : Reading String :=
  match response.responseJSON true with
  | .failure => .refused
  | .success =>
    match response.data with
    | none => .fatal .unwrap
    | some data =>
      match data.jsonObject with
      | none => .refused
      | some json =>
        match json.asDictionary with
        | none => .fatal .unwrap
        | some jsonData =>
          match jsonData.lookup "nvgid" with
          | none => .refused
          | some userIdData =>
            match userIdData.asString with
            | none => .fatal .cast
            | some userId => .accepted userId

/-- How the handler of `getSegments` reads an answer. -/
def readSegments (response : DataResponse) : Reading (Dictionary String String) :=
  match response.responseJSON false with
  | .failure => .refused
  | .success =>
    match response.data with
    | none => .fatal .unwrap
    | some data =>
      match data.jsonObject with
      | none => .refused
      | some json =>
        match json.asStringDictionary with
        | none => .fatal .cast
        | some jsonData => .accepted jsonData

def named (userId : String) : DataResponse :=
  .ok (.json (.object [("nvgid", .string userId)]) ("\x7b\"nvgid\":\"" ++ userId ++ "\"\x7d"))

def listed (gender : String) : DataResponse :=
  .ok (.json (.object [("gender", .string gender)])
    ("\x7b\"gender\":\"" ++ gender ++ "\"\x7d"))

theorem createUserCompletion_eq (device : Device) (response : DataResponse) (m : Memory) :
    createUserCompletion device response m =
      match readUserId response with
      | .accepted userId =>
        getSegments device (setRunningCreateUser false (User.setUserId (some userId) m))
      | .refused => .done () (setRunningCreateUser false m)
      | .fatal why => .trap why m := by
  unfold createUserCompletion readUserId
  cases response.responseJSON true with
  | failure => rfl
  | success =>
      cases response.data with
      | none => rfl
      | some data =>
          simp only
          cases data.jsonObject with
          | none => rfl
          | some json =>
              simp only
              cases json.asDictionary with
              | none => rfl
              | some jsonData =>
                  simp only
                  cases jsonData.lookup "nvgid" with
                  | none => rfl
                  | some userIdData =>
                      simp only
                      cases userIdData.asString <;> rfl

theorem getSegmentsCompletion_eq (device : Device) (response : DataResponse) (m : Memory) :
    getSegmentsCompletion device response m =
      match readSegments response with
      | .accepted segments => .done () (User.saveSegments device segments m)
      | .refused => .done () m
      | .fatal why => .trap why m := by
  unfold getSegmentsCompletion readSegments
  cases response.responseJSON false with
  | failure => rfl
  | success =>
      cases response.data with
      | none => rfl
      | some data =>
          simp only
          cases data.jsonObject with
          | none => rfl
          | some json =>
              simp only
              cases json.asStringDictionary <;> rfl

/-- The handler of `sendOnBoarding` takes an answer for a success, whatever it says. -/
def recordsSuccess (response : DataResponse) : Bool := response.responseString false = .success

theorem sendOnBoardingCompletion_eq (device : Device) (response : DataResponse) (m : Memory) :
    sendOnBoardingCompletion device response m =
      if recordsSuccess response then setDateLastSync device.now (setToSendOnBoarding true m)
      else setToSendOnBoarding false m := by
  unfold sendOnBoardingCompletion recordsSuccess
  cases response.responseString false <;> simp

/-! ## Asking for segments -/

/-- The endings of `getSegments`. -/
inductive Fetch (device : Device) (m : Memory) : Outcome Unit → Prop
  | idle (h : m.user.getUserId = "0" ∨ device.connected = false) : Fetch device m (.done () m)
  | issue (acc : UInt32) (hid : m.user.getUserId ≠ "0") (hconn : device.connected = true)
      (hacc : m.user.getAccountId = some acc) :
      Fetch device m (.done () (m.issue
        (getSegmentsRequest acc m.user.getUserId m.user.onBoarding.valueData)))
  | overflow (hid : m.user.getUserId ≠ "0") (hconn : device.connected = true)
      (hacc : m.user.getAccountId = none) : Fetch device m (.trap .overflow m)

theorem fetch (device : Device) (m : Memory) : Fetch device m (getSegments device m) := by
  unfold getSegments
  by_cases hid : m.user.getUserId = "0"
  · rw [if_pos hid]
    exact .idle (.inl hid)
  · rw [if_neg hid]
    cases hconn : device.connected with
    | false =>
        rw [if_neg (by simp [Util.isConnectedInternet, hconn])]
        exact .idle (.inr hconn)
    | true =>
        rw [if_pos (by simp [Util.isConnectedInternet, hconn])]
        cases hacc : m.user.getAccountId with
        | none => exact .overflow hid hconn hacc
        | some acc => exact .issue acc hid hconn hacc

/-! ## Sending the onboarding map -/

/-- The endings of `sendOnBoarding`. -/
inductive Send (device : Device) (onBoarding : OnBoarding) (m : Memory) : Outcome Unit → Prop
  | missing (hid : m.user.getUserId = "0") : Send device onBoarding m (.done () m)
  | offline (hid : m.user.getUserId ≠ "0") (hconn : device.connected = false) :
      Send device onBoarding m (.done () (setToSendOnBoarding false m))
  | issue (acc : UInt32) (hid : m.user.getUserId ≠ "0") (hconn : device.connected = true)
      (hacc : m.user.getAccountId = some acc) :
      Send device onBoarding m (.done () (m.issue
        (sendOnBoardingRequest acc m.user.getUserId onBoarding.valueData)))
  | overflow (hid : m.user.getUserId ≠ "0") (hconn : device.connected = true)
      (hacc : m.user.getAccountId = none) : Send device onBoarding m (.trap .overflow m)

theorem send (device : Device) (onBoarding : OnBoarding) (m : Memory) :
    Send device onBoarding m (sendOnBoarding device onBoarding m) := by
  unfold sendOnBoarding
  by_cases hid : m.user.getUserId = "0"
  · rw [if_pos hid]
    exact .missing hid
  · rw [if_neg hid]
    cases hconn : device.connected with
    | false =>
        rw [if_neg (by simp [Util.isConnectedInternet, hconn])]
        exact .offline hid hconn
    | true =>
        rw [if_pos (by simp [Util.isConnectedInternet, hconn])]
        cases hacc : m.user.getAccountId with
        | none => exact .overflow hid hconn hacc
        | some acc => exact .issue acc hid hconn hacc

end WebService

/-! ## The public calls -/

namespace User

/-- The memory that `getSegments` fetches and answers from: the custom entry rewritten, the stored
date read. -/
def browsed (m : Memory) : Memory :=
  { distintcCustomSegment m with
    user.dateLastSync :=
      match m.defaults.string "dateLastSync" with
      | some stringDate => some (Util.stringToDate stringDate)
      | none => m.user.dateLastSync }

def refreshDue (device : Device) (defaults : UserDefaults) : Bool :=
  match defaults.string "dateLastSync" with
  | none => true
  | some stringDate =>
    if Util.dayBetweenDates device.calendar device.now (Util.stringToDate stringDate) ≥ 1 then true
    else
      match defaults.string "dateLastSyncOnBoarding" with
      | none => false
      | some stringDateOnBoarding =>
        Util.stringToDate stringDate < Util.stringToDate stringDateOnBoarding

theorem refreshSegments_eq (device : Device) (m : Memory) :
    refreshSegments device (distintcCustomSegment m) =
      if refreshDue device m.defaults then WebService.getSegments device (browsed m)
      else .done () (browsed m) := by
  have hdefaults : (distintcCustomSegment m).defaults = m.defaults := rfl
  unfold refreshSegments refreshDue browsed
  rw [hdefaults]
  cases m.defaults.string "dateLastSync" with
  | none => rfl
  | some stringDate =>
      by_cases hday : Util.dayBetweenDates device.calendar device.now
          (Util.stringToDate stringDate) ≥ 1
      · simp only [if_pos hday, if_true]
        rfl
      · simp only [if_neg hday]
        cases m.defaults.string "dateLastSyncOnBoarding" with
        | none => rfl
        | some stringDateOnBoarding =>
            simp only [decide_eq_true_eq]
            rfl

/-- The entry of a segment name, `""` when there is none. -/
def segment (user : User) (segments : String) : String :=
  (user.jsonSegments.lookup segments).getD ""

/-- **`getSegments`, ending by ending**: fetch if a refresh is due, then answer from memory. -/
theorem getSegments_eq (device : Device) (segments : String) (m : Memory) :
    getSegments device segments m =
      (if refreshDue device m.defaults then WebService.getSegments device (browsed m)
        else .done () (browsed m)).bind fun _ m => .done (m.user.segment segments) m := by
  rw [getSegments, refreshSegments_eq]
  congr 1
  funext _ m'
  unfold segment
  cases m'.user.jsonSegments.lookup segments <;> rfl

/-- **`sendDataSaveInDefault`, ending by ending.** The flag and the two negations around it come to
this: the map is sent when the flag `toSendOnBoarding` is *true*. -/
theorem sendDataSaveInDefault_eq (device : Device) (m : Memory) :
    sendDataSaveInDefault device m =
      if device.connected && m.defaults.bool "toSendOnBoarding" then
        WebService.sendOnBoarding device m.user.onBoarding m
      else .done () m := by
  have hconnected : Util.isConnectedInternet device = device.connected := rfl
  have hnot : (!OnBoarding.hasToSendOnBoarding m.defaults) =
      m.defaults.bool "toSendOnBoarding" := by
    unfold OnBoarding.hasToSendOnBoarding
    cases m.defaults.bool "toSendOnBoarding" <;> rfl
  unfold sendDataSaveInDefault
  rw [hconnected, hnot]
  cases device.connected <;> cases m.defaults.bool "toSendOnBoarding" <;> rfl

/-! ### What `browsed` leaves alone -/

section
variable (m : Memory)

@[simp] theorem browsed_defaults : (browsed m).defaults = m.defaults := rfl
@[simp] theorem browsed_requests : (browsed m).requests = m.requests := rfl
@[simp] theorem browsed_accountId : (browsed m).user.accountId = m.user.accountId := rfl
@[simp] theorem browsed_userId : (browsed m).user.userId = m.user.userId := rfl
@[simp] theorem browsed_onBoarding : (browsed m).user.onBoarding = m.user.onBoarding := rfl
@[simp] theorem browsed_ws : (browsed m).user.ws = m.user.ws := rfl
@[simp] theorem browsed_customListPermanent :
    (browsed m).user.customListPermanent = m.user.customListPermanent := rfl
@[simp] theorem browsed_getUserId : (browsed m).user.getUserId = m.user.getUserId := rfl
@[simp] theorem browsed_getAccountId : (browsed m).user.getAccountId = m.user.getAccountId := rfl

/-- **The rewrite of the custom entry is invisible** while no permanent segment is added: joining
undoes splitting, and the entry of a map without one reads as empty before and after. -/
theorem browsed_segment (h : m.user.customListPermanent = []) (segments : String) :
    (browsed m).user.segment segments = m.user.segment segments := by
  simp only [segment, browsed, distintcCustomSegment, h, List.foldl_nil]
  by_cases hk : segments = "custom"
  · subst hk
    rw [AList.lookup_insert]
    cases m.user.jsonSegments.lookup "custom" with
    | none => rfl
    | some custom => simp [Components.joined_components]
  · rw [AList.lookup_insert_ne hk]

end

end User

namespace NaveggApi

/-- The memory after `addInfo` has read the store again. -/
def reread (m : Memory) : Memory :=
  { m with user.onBoarding.valueData :=
      OnBoarding.storedMap m.user.onBoarding.accountId m.defaults }

def store (key value : String) (m : Memory) : Memory :=
  let valueData := (OnBoarding.storedMap m.user.onBoarding.accountId m.defaults).insert key value
  { m with
    user.onBoarding.valueData := valueData
    defaults := m.defaults.set (.dictionary valueData)
      (OnBoarding.mapKey m.user.onBoarding.accountId) }

/-- The test of `addInfo` on the memory it is called in. -/
def suppresses (device : Device) (key value : String) (m : Memory) : Bool :=
  OnBoarding.isSuppressed device m.defaults
    (OnBoarding.storedMap m.user.onBoarding.accountId m.defaults) key value

theorem setOnBoarding_eq (device : Device) (key value : String) (m : Memory) :
    User.setOnBoarding device key value m =
      if suppresses device key value m then (false, reread m) else (true, store key value m) := by
  unfold User.setOnBoarding OnBoarding.addInfo suppresses
  simp only
  split <;> rfl

/-- **`setOnboarding`, ending by ending**: nothing for a suppressed pair, else store and send. -/
theorem setOnboarding_eq (device : Device) (key value : String) (m : Memory) :
    setOnboarding device key value m =
      if suppresses device key value m then .done () (reread m)
      else WebService.sendOnBoarding device (store key value m).user.onBoarding
        (store key value m) := by
  unfold setOnboarding
  rw [setOnBoarding_eq]
  cases suppresses device key value m <;> rfl

/-! ### A new process -/

def missing (defaults : UserDefaults) : Bool :=
  match defaults.string "NVGSDK_USERID" with
  | none => true
  | some userId => userId = "0"

/-- The suite after `init`: what it writes is read by nothing else. -/
def registered (accountId : Int) (idAppStore : Option Int) (defaults : UserDefaults) :
    UserDefaults :=
  registerReceiverAndAccountSdk accountId
    ((defaults.set (.int accountId) "NVGSDK_CODCONTA").setOptional (idAppStore.map .int)
      "NVGSDK_IDAPPSTORE")

/-- The user a new process builds from the suite. -/
def built (accountId : Int) (defaults : UserDefaults) : User where
  accountId := accountId
  userId := defaults.string "NVGSDK_USERID"
  onBoarding := OnBoarding.init accountId defaults
  ws := ⟨if missing defaults then some true else none⟩
  dateLastSync := none
  customListPermanent := []
  jsonSegments := (defaults.dictionary "jsonSegments").getD ∅

section
variable (accountId : Int) (idAppStore : Option Int) (defaults : UserDefaults)

theorem registered_value {key : String} (h₁ : key ≠ "NVGSDK_CODCONTA")
    (h₂ : key ≠ "NVGSDK_IDAPPSTORE") (h₃ : key ≠ "accounts") :
    (registered accountId idAppStore defaults).value key = defaults.value key := by
  unfold registered registerReceiverAndAccountSdk
  simp only
  split
  · rw [UserDefaults.value_setOptional_ne _ _ h₂, UserDefaults.value_set_ne _ _ h₁]
  · rw [UserDefaults.value_set_ne _ _ h₃, UserDefaults.value_setOptional_ne _ _ h₂,
      UserDefaults.value_set_ne _ _ h₁]

/-- What `init` writes is read under its own keys only. -/
theorem registered_readers (key : String) (h₁ : key ≠ "NVGSDK_CODCONTA")
    (h₂ : key ≠ "NVGSDK_IDAPPSTORE") (h₃ : key ≠ "accounts") :
    (registered accountId idAppStore defaults).string key = defaults.string key ∧
      (registered accountId idAppStore defaults).bool key = defaults.bool key ∧
      (registered accountId idAppStore defaults).array key = defaults.array key ∧
      (registered accountId idAppStore defaults).dictionary key = defaults.dictionary key :=
  UserDefaults.readers_congr (registered_value accountId idAppStore defaults h₁ h₂ h₃)

theorem missing_registered :
    missing (registered accountId idAppStore defaults) = missing defaults := by
  rw [missing, missing,
    (registered_readers accountId idAppStore defaults "NVGSDK_USERID" (by decide) (by decide)
      (by decide)).1]

/-- The user is built from a suite in which only `init` has written. -/
theorem built_congr {d d' : UserDefaults}
    (h : ∀ key, key ≠ "NVGSDK_CODCONTA" → key ≠ "NVGSDK_IDAPPSTORE" → d.value key = d'.value key) :
    built accountId d = built accountId d' := by
  have huser : d.string "NVGSDK_USERID" = d'.string "NVGSDK_USERID" :=
    (UserDefaults.readers_congr (h _ (by decide) (by decide))).1
  have hdate : d.string "dateLastSyncOnBoarding" = d'.string "dateLastSyncOnBoarding" :=
    (UserDefaults.readers_congr (h _ (by decide) (by decide))).1
  have hsegments : d.dictionary "jsonSegments" = d'.dictionary "jsonSegments" :=
    (UserDefaults.readers_congr (h _ (by decide) (by decide))).2.2.2
  have hmap : d.dictionary (OnBoarding.mapKey accountId) =
      d'.dictionary (OnBoarding.mapKey accountId) :=
    (UserDefaults.readers_congr (h _ (by simp) (by simp))).2.2.2
  rw [built, built, missing, missing, OnBoarding.init, OnBoarding.init, OnBoarding.storedMap,
    OnBoarding.storedMap, huser, hdate, hsegments, hmap]

theorem missing_iff :
    missing defaults = true ↔
      defaults.string "NVGSDK_USERID" = none ∨ defaults.string "NVGSDK_USERID" = some "0" := by
  unfold missing
  cases defaults.string "NVGSDK_USERID" <;> simp

theorem built_getUserId : (built accountId defaults).getUserId = "0" ↔ missing defaults = true := by
  unfold User.getUserId missing built
  cases defaults.string "NVGSDK_USERID" <;> simp

/-- `User.init`: a missing user id takes the lock, and a request if there is a connection. -/
theorem userInit_eq (device : Device) :
    User.init device accountId defaults =
      { user := built accountId defaults
        defaults := defaults
        requests :=
          if missing defaults && device.connected then
            [WebService.createUserRequest device accountId]
          else [] } := by
  have hload : ∀ m : Memory, User.loadResourcesFromSharedObject m =
      { m with user.jsonSegments :=
          (m.defaults.dictionary "jsonSegments").getD m.user.jsonSegments } := by
    intro m
    unfold User.loadResourcesFromSharedObject
    cases m.defaults.dictionary "jsonSegments" <;> rfl
  unfold User.init
  simp only [hload, ← missing_iff]
  cases hmissing : missing defaults with
  | false => simp [built, hmissing]
  | true =>
      cases hconn : device.connected <;>
        simp [built, hmissing, User.createUserId, WebService.createUser,
          WebService.setRunningCreateUser, Util.isConnectedInternet, hconn, Memory.issue]

/-- **`init`**: the objects are those the suite describes; a user id is asked for once, if none is
stored and the device is connected. The second attempt of the source finds the lock taken. -/
theorem init_eq (device : Device) :
    init device accountId idAppStore defaults =
      { user := built accountId defaults
        defaults := registered accountId idAppStore defaults
        requests :=
          if missing defaults && device.connected then
            [WebService.createUserRequest device accountId]
          else [] } := by
  obtain ⟨opened, hopened⟩ : ∃ d, d = (defaults.set (.int accountId) "NVGSDK_CODCONTA").setOptional
      (idAppStore.map .int) "NVGSDK_IDAPPSTORE" := ⟨_, rfl⟩
  have hvalue : ∀ key, key ≠ "NVGSDK_CODCONTA" → key ≠ "NVGSDK_IDAPPSTORE" →
      opened.value key = defaults.value key := by
    intro key h₁ h₂
    rw [hopened, UserDefaults.value_setOptional_ne _ _ h₂, UserDefaults.value_set_ne _ _ h₁]
  have hmissing : missing opened = missing defaults := by
    rw [missing, missing,
      (UserDefaults.readers_congr (hvalue "NVGSDK_USERID" (by decide) (by decide))).1]
  unfold init
  simp only [← hopened, userInit_eq, registered, built_getUserId]
  rw [built_congr accountId hvalue, hmissing]
  cases hm : missing defaults with
  | false => simp
  | true =>
      have hlock : (built accountId defaults).ws.runningCreateUser = some true := by
        simp [built, hm]
      simp [User.createUserId, WebService.createUser, hlock]

end

end NaveggApi
