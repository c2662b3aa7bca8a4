import NaveggSdk.System.Consistent

/-!
# What an HTTP error does

Only `createUser` validates the status. The other two requests take any answer that parses for a
success: a JSON error page is read as segments, and any text at all confirms a send. So a status
outside `200..<300` changes nothing in exactly three cases (`error_status_iff`): for `createUser`;
for a body that does not parse; and for one that says what is known already.
-/

open WebService

/-- The state of the synchronisation is the same in both memories, in memory and in the suite, and
the flag is not newly up. -/
structure SyncUnchanged (m m' : Memory) : Prop where
  userId : m'.user.userId = m.user.userId
  storedUserId : m'.defaults.string "NVGSDK_USERID" = m.defaults.string "NVGSDK_USERID"
  segments : Dictionary.Same m'.user.jsonSegments m.user.jsonSegments
  savedSegments : Dictionary.Same (storedSegments m'.defaults) (storedSegments m.defaults)
  date : m'.user.dateLastSync = m.user.dateLastSync
  storedDate : m'.defaults.string "dateLastSync" = m.defaults.string "dateLastSync"
  map : Dictionary.Same m'.user.onBoarding.valueData m.user.onBoarding.valueData
  storedMap : ∀ accountId, Dictionary.Same (OnBoarding.storedMap accountId m'.defaults)
    (OnBoarding.storedMap accountId m.defaults)
  dateOnBoarding : m'.user.onBoarding.dateLastSync = m.user.onBoarding.dateLastSync
  storedDateOnBoarding : m'.defaults.string "dateLastSyncOnBoarding" =
    m.defaults.string "dateLastSyncOnBoarding"
  flag : m'.defaults.bool "toSendOnBoarding" = true → m.defaults.bool "toSendOnBoarding" = true

/-- The call ends, and the state of the synchronisation is what it was before. -/
def LeavesSync (m : Memory) (x : Outcome Unit) : Prop := ∃ m', x = .done () m' ∧ SyncUnchanged m m'

/-- The answers with an error status that do no harm, by the request they answer.

* `createUser`: all of them.
* `getSegments`: a body that is no JSON, or the segments of memory and suite once more, in the
  second in which they were saved.
* `sendOnBoarding`: no body, or one that is no text, or the second of a recorded success. -/
def ErrorHarmless (device : Device) (response : DataResponse) (m : Memory) : WebCall → Prop
  | .createUser => True
  | .getSegments => ∀ data, response.data = some data → ∀ json, data.jsonObject = some json →
    ∃ segments, json.asStringDictionary = some segments ∧
      Dictionary.Same segments m.user.jsonSegments ∧
      Dictionary.Same segments (storedSegments m.defaults) ∧
      m.defaults.string "dateLastSync" = some (Util.dateToString device.now)
  | .sendOnBoarding => ∀ data, response.data = some data → data.isEmpty = false →
    data.string.isSome = true →
      m.defaults.bool "toSendOnBoarding" = true ∧
      m.defaults.string "dateLastSyncOnBoarding" = some (Util.dateToString device.now) ∧
      m.user.onBoarding.dateLastSync = some (Util.dateToString device.now)

namespace LeavesSync

variable {m : Memory}

theorem done_iff {m' : Memory} : LeavesSync m (.done () m') ↔ SyncUnchanged m m' := by
  constructor
  · rintro ⟨m'', heq, h⟩
    cases heq
    exact h
  · intro h
    exact ⟨m', rfl, h⟩

theorem not_trap {why : Trap} {m' : Memory} : ¬ LeavesSync m (.trap why m') := by
  rintro ⟨m'', heq, -⟩
  cases heq

end LeavesSync

namespace SyncUnchanged

variable {m : Memory}

theorem refl (m : Memory) : SyncUnchanged m m :=
  ⟨rfl, rfl, .refl _, .refl _, rfl, rfl, .refl _, fun _ => .refl _, rfl, rfl, id⟩

/-- Freeing the lock of `createUser`. -/
theorem setRunningCreateUser (value : Bool) :
    SyncUnchanged m (WebService.setRunningCreateUser value m) :=
  ⟨rfl, rfl, .refl _, .refl _, rfl, rfl, .refl _, fun _ => .refl _, rfl, rfl, id⟩

/-- Taking the flag down. -/
theorem setToSendOnBoarding_false : SyncUnchanged m (setToSendOnBoarding false m) where
  userId := rfl
  storedUserId := by simp [setToSendOnBoarding, OnBoarding.setToSendOnBoarding]
  segments := .refl _
  savedSegments k := by
    simp [setToSendOnBoarding, OnBoarding.setToSendOnBoarding, storedSegments]
  date := rfl
  storedDate := by simp [setToSendOnBoarding, OnBoarding.setToSendOnBoarding]
  map := .refl _
  storedMap accountId k := by
    simp [setToSendOnBoarding, OnBoarding.setToSendOnBoarding, OnBoarding.storedMap]
  dateOnBoarding := rfl
  storedDateOnBoarding := by simp [setToSendOnBoarding, OnBoarding.setToSendOnBoarding]
  flag := by simp [setToSendOnBoarding, OnBoarding.setToSendOnBoarding]

/-- Saving segments: only the same segments, in the same second. -/
theorem saveSegments_iff (device : Device) (segments : Dictionary String String) :
    SyncUnchanged m (User.saveSegments device segments m) ↔
      Dictionary.Same segments m.user.jsonSegments ∧
      Dictionary.Same segments (storedSegments m.defaults) ∧
      m.defaults.string "dateLastSync" = some (Util.dateToString device.now) := by
  have hstored : storedSegments (User.saveSegments device segments m).defaults = segments := by
    simp [User.saveSegments, storedSegments]
  have hdate : (User.saveSegments device segments m).defaults.string "dateLastSync" =
      some (Util.dateToString device.now) := by
    simp [User.saveSegments]
  constructor
  · intro h
    refine ⟨h.segments, ?_, h.storedDate.symm.trans hdate⟩
    rw [← hstored]
    exact h.savedSegments
  · rintro ⟨hmemory, hsuite, hsecond⟩
    constructor
    case segments => exact hmemory
    case savedSegments =>
      rw [hstored]
      exact hsuite
    case storedDate => exact hdate.trans hsecond.symm
    case userId => rfl
    case date => rfl
    case map => exact .refl _
    case dateOnBoarding => rfl
    case storedUserId => simp [User.saveSegments]
    case storedMap => exact fun accountId k => by simp [User.saveSegments, OnBoarding.storedMap]
    case storedDateOnBoarding => simp [User.saveSegments]
    case flag => simp [User.saveSegments]

/-- Recording a success: only in the second of the last one. -/
theorem recorded_iff (date : Date) :
    SyncUnchanged m (setDateLastSync date (setToSendOnBoarding true m)) ↔
      m.defaults.bool "toSendOnBoarding" = true ∧
      m.defaults.string "dateLastSyncOnBoarding" = some (Util.dateToString date) ∧
      m.user.onBoarding.dateLastSync = some (Util.dateToString date) := by
  have hflag : (setDateLastSync date (setToSendOnBoarding true m)).defaults.bool
      "toSendOnBoarding" = true := by
    simp [setDateLastSync, OnBoarding.setDateLastSync, setToSendOnBoarding,
      OnBoarding.setToSendOnBoarding]
  have hdate : (setDateLastSync date (setToSendOnBoarding true m)).defaults.string
      "dateLastSyncOnBoarding" = some (Util.dateToString date) := by
    simp [setDateLastSync, OnBoarding.setDateLastSync]
  constructor
  · intro h
    exact ⟨h.flag hflag, h.storedDateOnBoarding.symm.trans hdate, h.dateOnBoarding.symm⟩
  · rintro ⟨hup, hsuite, hmemory⟩
    constructor
    case flag => exact fun _ => hup
    case storedDateOnBoarding => exact hdate.trans hsuite.symm
    case dateOnBoarding => exact hmemory.symm
    case userId => rfl
    case segments => exact .refl _
    case date => rfl
    case map => exact .refl _
    all_goals
      simp [setDateLastSync, OnBoarding.setDateLastSync, setToSendOnBoarding,
        OnBoarding.setToSendOnBoarding, storedSegments, OnBoarding.storedMap, Dictionary.Same]

end SyncUnchanged

/-! ## How an answer with an error status is read -/

section
variable {response : DataResponse} {statusCode : Nat}
  (hstatus : response.statusCode = some statusCode)
  (herror : DataResponse.acceptable statusCode = false)
include hstatus herror

/-- `createUser` refuses it. -/
theorem readUserId_of_error : readUserId response = .refused := by
  rw [readUserId, DataResponse.responseJSON_of_not_acceptable hstatus herror]

/-- `getSegments` refuses a body that is no JSON, and nothing else. -/
theorem readSegments_of_error :
    readSegments response =
      match response.data.bind Data.jsonObject with
      | none => .refused
      | some json =>
        match json.asStringDictionary with
        | none => .fatal .cast
        | some segments => .accepted segments := by
  have hsuccess := DataResponse.serialize_of_not_acceptable
    (fun data => data.jsonObject.isSome) hstatus herror
  unfold readSegments
  cases hresult : response.responseJSON false with
  | failure =>
      have hnone : response.data.bind Data.jsonObject = none := by
        cases hdata : response.data with
        | none => rfl
        | some data =>
            cases hjson : data.jsonObject with
            | none => simpa using hjson
            | some json =>
                have hbody : data.isEmpty = false := by
                  cases hempty : data.isEmpty with
                  | false => rfl
                  | true => simp [data.jsonObject_of_isEmpty hempty] at hjson
                have hresult' := hsuccess.mpr ⟨data, hdata, hbody, by simp [hjson]⟩
                exact absurd (hresult.symm.trans hresult') nofun
      rw [hnone]
  | success =>
      obtain ⟨data, hdata, -, hjson⟩ := hsuccess.mp hresult
      obtain ⟨json, hjson⟩ := Option.isSome_iff_exists.mp hjson
      cases hshape : json.asStringDictionary <;> simp [hdata, hjson, hshape]

/-- `sendOnBoarding` takes any text for a success. -/
theorem recordsSuccess_of_error : recordsSuccess response = true ↔
    ∃ data, response.data = some data ∧ data.isEmpty = false ∧ data.string.isSome = true := by
  rw [recordsSuccess, decide_eq_true_iff]
  exact DataResponse.serialize_of_not_acceptable _ hstatus herror

end

/-- **An answer with an error status leaves everything as it was in exactly the harmless cases.** -/
theorem error_status_iff (device : Device) (call : WebCall) (response : DataResponse) (m : Memory)
    (statusCode : Nat) (hstatus : response.statusCode = some statusCode)
    (herror : DataResponse.acceptable statusCode = false) :
    LeavesSync m (completion device call response m) ↔ ErrorHarmless device response m call := by
  cases call with
  | createUser =>
      show LeavesSync m (createUserCompletion device response m) ↔ True
      rw [createUserCompletion_eq, readUserId_of_error hstatus herror]
      exact iff_of_true (LeavesSync.done_iff.mpr (.setRunningCreateUser false)) trivial
  | getSegments =>
      show LeavesSync m (getSegmentsCompletion device response m) ↔ _
      rw [getSegmentsCompletion_eq, readSegments_of_error hstatus herror]
      cases hjson : response.data.bind Data.jsonObject with
      | none =>
          refine iff_of_true (LeavesSync.done_iff.mpr (.refl m)) fun data hdata json hsome => ?_
          simp [hdata, hsome] at hjson
      | some json =>
          obtain ⟨data, hdata, hsome⟩ := Option.bind_eq_some_iff.mp hjson
          have hone : ErrorHarmless device response m .getSegments ↔
              ∃ segments, json.asStringDictionary = some segments ∧
                Dictionary.Same segments m.user.jsonSegments ∧
                Dictionary.Same segments (storedSegments m.defaults) ∧
                m.defaults.string "dateLastSync" = some (Util.dateToString device.now) := by
            simp [ErrorHarmless, hdata, hsome]
          rw [hone]
          dsimp only
          cases hshape : json.asStringDictionary with
          | none => exact iff_of_false LeavesSync.not_trap (by simp)
          | some segments =>
              refine LeavesSync.done_iff.trans ?_
              rw [SyncUnchanged.saveSegments_iff]
              simp
  | sendOnBoarding =>
      show LeavesSync m (.done () (sendOnBoardingCompletion device response m)) ↔ _
      rw [sendOnBoardingCompletion_eq, LeavesSync.done_iff]
      have hread := recordsSuccess_of_error hstatus herror
      cases hsuccess : recordsSuccess response with
      | false =>
          refine iff_of_true .setToSendOnBoarding_false fun data hdata hbody htext => ?_
          have htrue := hread.mpr ⟨data, hdata, hbody, htext⟩
          simp [hsuccess] at htrue
      | true =>
          obtain ⟨data, hdata, hbody, htext⟩ := hread.mp hsuccess
          rw [if_pos rfl, SyncUnchanged.recorded_iff]
          simp [ErrorHarmless, hdata, hbody, htext]

/-! ### An error page that is saved as segments -/

/-- A server error whose body happens to be an object of strings. -/
def errorPage : DataResponse := ⟨some 500, (listed "error").data⟩

theorem error_status_iff_errorPage :
    LeavesSync (NaveggApi.init (.phone 1700000000) 7 none UserDefaults.empty)
        (completion (.phone 1700000000) .getSegments errorPage
          (NaveggApi.init (.phone 1700000000) 7 none UserDefaults.empty)) ↔
      ErrorHarmless (.phone 1700000000) errorPage
        (NaveggApi.init (.phone 1700000000) 7 none UserDefaults.empty) .getSegments :=
  error_status_iff _ .getSegments errorPage _ 500 rfl rfl

def fetching : List System.Action := [.restart none, .complete 0 (named "u1")]

theorem error_page_saved :
    ∃ user f, (System.after 7 (.phone 1700000000) fetching).app = some user ∧
      (System.after 7 (.phone 1700000000) fetching).flight? 1 = some f ∧
      ¬ LeavesSync (.enter user (System.after 7 (.phone 1700000000) fetching).defaults)
        (completion (System.after 7 (.phone 1700000000) fetching).device f.request.call errorPage
          (.enter user (System.after 7 (.phone 1700000000) fetching).defaults)) := by
  have hlive : (System.after 7 (.phone 1700000000) fetching).app.isSome = true := by
    decide +kernel
  have hasked : ((System.after 7 (.phone 1700000000) fetching).flight? 1).map
      (fun f => f.request.call) = some .getSegments := by
    decide +kernel
  obtain ⟨user, happ⟩ := Option.isSome_iff_exists.mp hlive
  obtain ⟨f, hf, hcall⟩ := Option.map_eq_some_iff.mp hasked
  refine ⟨user, f, happ, hf, ?_⟩
  rw [hcall]
  rintro ⟨m', hdone, hunchanged⟩
  have hbefore : (System.after 7 (.phone 1700000000) fetching).defaults.string "dateLastSync" =
      none := by
    decide +kernel
  have hstamped : ((System.after 7 (.phone 1700000000) fetching).app.map fun user =>
      (completion (System.after 7 (.phone 1700000000) fetching).device .getSegments errorPage
        (.enter user (System.after 7 (.phone 1700000000) fetching).defaults)).memory.defaults.string
          "dateLastSync") = some (some "2023-11-14 22:13:20") := by
    decide +kernel
  rw [happ, Option.map_some, hdone, Option.some.injEq] at hstamped
  exact absurd (hstamped.symm.trans (hunchanged.storedDate.trans hbefore)) nofun
