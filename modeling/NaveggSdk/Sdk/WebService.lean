import NaveggSdk.Foundation.Response
import NaveggSdk.Sdk.Memory

/-!
# `WebService`: the three requests and their completion handlers

`createUser`, `getSegments` and `sendOnBoarding` are modelled in two parts each: the method, which
may issue a request, and the completion handler, which Alamofire runs with the answer. Both halves
follow the source branch by branch.
-/

namespace WebService

inductive EndPoint where
  | app
  | request
  | onboarding

def endpoints : EndPoint → String
  | .app => "app"
  | .request => "cdn"
  | .onboarding => "cd"

def getEndPoint (endPoint : EndPoint) (param : String) : String :=
  "https://" ++ endpoints endPoint ++ ".navdmp.com/" ++ param

def headers : List (String × String) :=
  [("User-Agent", "Mozilla/5.0 (Windows NT 6.1) AppleWebKit/537.36 (KHTML, like Gecko) " ++
      "Chrome/41.0.2228.0 Safari/537.36"),
    ("content-type", "application/octet-stream")]

/-- `defineParams`: the onboarding keys that travel as parameters of their own. -/
def defineParams : List String :=
  ["prtusride", "prtusridc", "prtusridr", "prtusridf", "prtusridt"]

/-- `self.runningCreateUser = value`. -/
def setRunningCreateUser (value : Bool) (m : Memory) : Memory :=
  { m with user.ws.runningCreateUser := some value }

/-! ## The requests -/

def createUserRequest (device : Device) (acc : Int) : Request where
  call := .createUser
  url := getEndPoint .app "app"
  parameters := ((∅ : Dictionary String Parameter).insert "devid"
    (.string (Util.getDeviceId device))).insert "acc" (.int acc)
  headers := headers
  onBoarding := ∅

def createUser (device : Device) (acc : Int) (m : Memory) : Memory :=
  if m.user.ws.runningCreateUser = some true then m
  else
    -- taken before the connection is looked at, and kept if there is none
    let m := setRunningCreateUser true m
    if Util.isConnectedInternet device then m.issue (createUserRequest device acc) else m

def getSegmentsFixed (acc : UInt32) (userId : String) : Dictionary String Parameter :=
  ((((((∅ : Dictionary String Parameter).insert "wct" (.int 1)).insert "id"
    (.string userId)).insert "v" (.int 11)).insert "wst" (.int 0)).insert "acc" (.uint32 acc))

def getSegmentsRequest (acc : UInt32) (userId : String) (onBoarding : Dictionary String String) :
    Request where
  call := .getSegments
  url := getEndPoint .app "app"
  parameters :=
    onBoarding.entries.foldl
      (fun parameters e =>
        if defineParams.contains e.1 then parameters.insert e.1 (.string e.2) else parameters)
      (getSegmentsFixed acc userId)
  headers := headers
  onBoarding := onBoarding

def getSegments (device : Device) (m : Memory) : Outcome Unit :=
  if m.user.getUserId = "0" then .done () m
  else if Util.isConnectedInternet device then
    match m.user.getAccountId with
    | none => .trap .overflow m
    | some acc =>
      .done () (m.issue
        (getSegmentsRequest acc m.user.getUserId m.user.getOnBoarding.getHashMap))
  else .done () m

/-- The parameters of `sendOnBoarding` before the loop. -/
def sendOnBoardingFixed (acc : UInt32) (userId : String) : Dictionary String Parameter :=
  (((∅ : Dictionary String Parameter).insert "DATA" .emptyArray).insert "id"
    (.string userId)).insert "prtid" (.uint32 acc)

/-- The loop of `sendOnBoarding`: `parameters` and `valueData` after it. -/
def sendOnBoardingLoop (onBoarding : Dictionary String String)
    (parameters : Dictionary String Parameter) :
    Dictionary String Parameter × Dictionary String String :=
  onBoarding.entries.foldl
    (fun acc e =>
      if defineParams.contains e.1 then (acc.1.insert e.1 (.string e.2), acc.2)
      else (acc.1, acc.2.insert e.1 e.2))
    (parameters, ∅)

def sendOnBoardingRequest (acc : UInt32) (userId : String) (onBoarding : Dictionary String String) :
    Request where
  call := .sendOnBoarding
  url := getEndPoint .onboarding "cd"
  parameters :=
    let (parameters, valueData) := sendOnBoardingLoop onBoarding (sendOnBoardingFixed acc userId)
    parameters.insert "DATA" (.dictionary valueData)
  headers := headers
  onBoarding := onBoarding

/-- `usr.getOnBoarding().__set_to_send_onBoarding(status:)`. -/
def setToSendOnBoarding (status : Bool) (m : Memory) : Memory :=
  { m with defaults := OnBoarding.setToSendOnBoarding status m.defaults }

def sendOnBoarding (device : Device) (onBoarding : OnBoarding) (m : Memory) : Outcome Unit :=
  if m.user.getUserId = "0" then .done () m
  else if Util.isConnectedInternet device then
    match m.user.getAccountId with
    | none => .trap .overflow m
    | some acc =>
      .done () (m.issue (sendOnBoardingRequest acc m.user.getUserId onBoarding.getHashMap))
  else .done () (setToSendOnBoarding false m)

section
variable (acc : UInt32) (userId : String) (onBoarding : Dictionary String String)

@[simp] theorem getSegmentsRequest_call :
    (getSegmentsRequest acc userId onBoarding).call = .getSegments := rfl

@[simp] theorem sendOnBoardingRequest_call :
    (sendOnBoardingRequest acc userId onBoarding).call = .sendOnBoarding := rfl

end

/-! ## The completion handlers -/

def createUserCompletion (device : Device) (response : DataResponse) (m : Memory) : Outcome Unit :=
  match response.responseJSON true with
  | .success =>
    match response.data with
    | none => .trap .unwrap m
    | some data =>
      match data.jsonObject with
      | none => .done () (setRunningCreateUser false m)   -- thrown, and caught
      | some json =>
        -- `as?` lets another shape pass as `nil`, and `jsonData!` does not
        match json.asDictionary with
        | none => .trap .unwrap m
        | some jsonData =>
          match jsonData.lookup "nvgid" with
          | none => .done () (setRunningCreateUser false m)
          | some userIdData =>
            -- `as! String`: no error is thrown, so the `catch` does not see it
            match userIdData.asString with
            | none => .trap .cast m
            | some userId =>
              getSegments device (setRunningCreateUser false (User.setUserId (some userId) m))
  | .failure => .done () (setRunningCreateUser false m)

def getSegmentsCompletion (device : Device) (response : DataResponse) (m : Memory) :
    Outcome Unit :=
  match response.responseJSON false with
  | .success =>
    match response.data with
    | none => .trap .unwrap m
    | some data =>
      match data.jsonObject with
      | none => .done () m   -- thrown, and caught
      | some json =>
        -- `as! [String:String]`: one value of another type is enough
        match json.asStringDictionary with
        | none => .trap .cast m
        | some jsonData => .done () (User.saveSegments device jsonData m)
  | .failure => .done () m

/-- `usr.getOnBoarding().setDateLastSync(date:)`. -/
def setDateLastSync (date : Date) (m : Memory) : Memory :=
  let (onBoarding, defaults) := m.user.onBoarding.setDateLastSync date m.defaults
  { m with user.onBoarding := onBoarding, defaults := defaults }

def sendOnBoardingCompletion (device : Device) (response : DataResponse) (m : Memory) : Memory :=
  match response.responseString false with
  | .success => setDateLastSync device.now (setToSendOnBoarding true m)
  | .failure => setToSendOnBoarding false m

/-- The handler of a request, by the method that issued it. -/
def completion (device : Device) (call : WebCall) (response : DataResponse) (m : Memory) :
    Outcome Unit :=
  match call with
  | .createUser => createUserCompletion device response m
  | .getSegments => getSegmentsCompletion device response m
  | .sendOnBoarding => .done () (sendOnBoardingCompletion device response m)

end WebService
