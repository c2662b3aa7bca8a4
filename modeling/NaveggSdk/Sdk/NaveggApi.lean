import NaveggSdk.Library.Components
import NaveggSdk.Sdk.WebService

/-!
# `User` and `NaveggApi`: the methods an app calls

The rest of `User` (what needs its `WebService`) and the public interface: `NaveggApi.init`,
`getSegments` and `setOnboarding`. `sendDataSaveInDefault` is what the SDK runs by itself when the
app goes to the background or finds a Wi-Fi.
-/

namespace User

def createUserId (device : Device) (m : Memory) : Memory :=
  WebService.createUser device m.user.accountId m

def sendOnBoarding (device : Device) (m : Memory) : Outcome Unit :=
  WebService.sendOnBoarding device m.user.getOnBoarding m

def loadResourcesFromSharedObject (m : Memory) : Memory :=
  match m.defaults.dictionary "jsonSegments" with
  | some jsonSegments => { m with user.jsonSegments := jsonSegments }
  | none => m

def init (device : Device) (accountId : Int) (defaults : UserDefaults) : Memory :=
  let user : User :=
    { accountId := accountId
      userId := defaults.string "NVGSDK_USERID"
      onBoarding := OnBoarding.init accountId defaults
      ws := ⟨none⟩
      dateLastSync := none
      customListPermanent := []
      jsonSegments := ∅ }
  let m : Memory := ⟨user, defaults, []⟩
  let m := if m.user.userId = none ∨ m.user.userId = some "0" then createUserId device m else m
  loadResourcesFromSharedObject m

def distintcCustomSegment (m : Memory) : Memory :=
  let customs :=
    match m.user.jsonSegments.lookup "custom" with
    | some custom => Components.components '-' custom
    | none => []
  let customs := m.user.customListPermanent.foldl
    (fun customs value =>
      if customs.contains (toString value) then customs else customs ++ [toString value])
    customs
  { m with user.jsonSegments :=
      m.user.jsonSegments.insert "custom" (Components.joined '-' customs) }

/-- The part of `getSegments` that decides whether to fetch. -/
def refreshSegments (device : Device) (m : Memory) : Outcome Unit :=
  match m.defaults.string "dateLastSync" with
  | some stringDate =>
    let dateLastSync := Util.stringToDate stringDate
    let m := { m with user.dateLastSync := some dateLastSync }
    -- counted from now to the last save, so never positive for a save in the past
    if Util.dayBetweenDates device.calendar device.now dateLastSync ≥ 1 then
      WebService.getSegments device m
    else
      match m.defaults.string "dateLastSyncOnBoarding" with
      | some stringDateOnBoarding =>
        if dateLastSync < Util.stringToDate stringDateOnBoarding then
          WebService.getSegments device m
        else .done () m
      | none => .done () m
  | none => WebService.getSegments device m

def getSegments (device : Device) (segments : String) (m : Memory) : Outcome String :=
  (refreshSegments device (distintcCustomSegment m)).bind fun _ m =>
    match m.user.jsonSegments.lookup segments with
    | some idSegments => .done idSegments m
    | none => .done "" m

def sendDataSaveInDefault (device : Device) (m : Memory) : Outcome Unit :=
  if Util.isConnectedInternet device then
    -- `hasToSendOnBoarding` is false after a success
    if !OnBoarding.hasToSendOnBoarding m.defaults then
      WebService.sendOnBoarding device m.user.getOnBoarding m
    else .done () m
  else .done () m

end User

namespace NaveggApi

def registerReceiverAndAccountSdk (cod : Int) (defaults : UserDefaults) : UserDefaults :=
  let accounts := (defaults.array "accounts").getD []
  if accounts.contains cod then defaults
  else defaults.set (.array (accounts ++ [cod])) "accounts"

/-- `init`. The suite is the one of the account; the id of a user it does not hold is asked for
twice, by `User.init` and here. -/
def init (device : Device) (accountId : Int) (idAppStore : Option Int) (defaults : UserDefaults) :
    Memory :=
  let defaults := defaults.set (.int accountId) "NVGSDK_CODCONTA"
  let defaults := defaults.setOptional (idAppStore.map .int) "NVGSDK_IDAPPSTORE"
  let m := User.init device accountId defaults
  -- finds the lock taken by `User.init`
  let m := if m.user.getUserId = "0" then User.createUserId device m else m
  { m with defaults := registerReceiverAndAccountSdk accountId m.defaults }

def getSegments (device : Device) (segments : String) (m : Memory) : Outcome String :=
  User.getSegments device segments m

def setOnboarding (device : Device) (key value : String) (m : Memory) : Outcome Unit :=
  let (stored, m) := User.setOnBoarding device key value m
  if stored then User.sendOnBoarding device m else .done () m

end NaveggApi
