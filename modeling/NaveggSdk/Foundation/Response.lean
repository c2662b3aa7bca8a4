import Mathlib.Data.Rat.Init
import NaveggSdk.Library.Dictionary

/-!
# What an answer of the server looks like to a completion handler

An Alamofire 5 completion handler is given a `DataResponse`: the body, if one arrived, and a
`result` that the serializer of the request computed from status and body. The serializers are not
part of this repository; `responseJSON` and `responseString` state what they do:

* a request that ended without an HTTP answer is a `.failure`;
* after `validate()`, so is every status outside `200..<300`;
* a missing or empty body is a `.failure`, except under status 204 and 205;
* any other body is a `.success` when it parses (as JSON, or as text) and a `.failure` otherwise.

The status has no say in the last rule unless `validate()` was called.

A body is described by what the two parsers of Foundation make of it, which is all that the
serializers and the handlers look at.
-/

/-- A JSON value, as `JSONSerialization` returns it. -/
inductive JSON where
  | null
  | bool (b : Bool)
  | number (n : ℚ)
  | string (s : String)
  | array (l : List JSON)
  | object (fields : List (String × JSON))

namespace JSON

/-- `as? String`. -/
def asString : JSON → Option String
  | .string s => some s
  | _ => none

/-- `as? [String:Any]`. -/
def asDictionary : JSON → Option (List (String × JSON))
  | .object fields => some fields
  | _ => none

def stringPairs : List (String × JSON) → Option (List (Sigma fun _ : String => String))
  | [] => some []
  | (key, value) :: fields =>
    match value.asString, stringPairs fields with
    | some s, some pairs => some (⟨key, s⟩ :: pairs)
    | _, _ => none

/-- `as? [String:String]`: an object all of whose values are strings. -/
def asStringDictionary : JSON → Option (Dictionary String String)
  | .object fields => (stringPairs fields).map List.toAList
  | _ => none

end JSON

/-- A response body. -/
structure Data where
  isEmpty : Bool
  /-- `JSONSerialization.jsonObject(with:options: .allowFragments)`; `none` when it throws. -/
  jsonObject : Option JSON
  /-- The text of the body under its character encoding; `none` when it has none. -/
  string : Option String
  /-- There is no JSON in an empty body. -/
  jsonObject_of_isEmpty : isEmpty = true → jsonObject = none

namespace Data

def empty : Data := ⟨true, none, some "", fun _ => rfl⟩

/-- A body that is the JSON text `s` of the value `v`. -/
def json (v : JSON) (s : String) : Data := ⟨false, some v, some s, nofun⟩

/-- A non-empty body that is text, but not JSON. -/
def text (s : String) : Data := ⟨false, none, some s, nofun⟩

end Data

/-- Alamofire's `DataResponse`, without its result. -/
structure DataResponse where
  /-- `none` when the request ended without an HTTP answer. -/
  statusCode : Option Nat
  data : Option Data

/-- Alamofire's `Result`, without what it carries: the handlers only look at the case. -/
inductive AFResult where
  | success
  | failure
  deriving DecidableEq

namespace DataResponse

/-- The network failed. -/
def lost : DataResponse := ⟨none, none⟩

def ok (data : Data) : DataResponse := ⟨some 200, some data⟩

/-- `200..<300`, the statuses that `validate()` accepts. -/
def acceptable (statusCode : Nat) : Bool := 200 ≤ statusCode && statusCode < 300

/-- The statuses whose answers may come without a body. -/
def emptyResponseCodes : List Nat := [204, 205]

/-- A response serializer: `parses` says which non-empty bodies it can read. -/
def serialize (parses : Data → Bool) (validate : Bool) (response : DataResponse) : AFResult :=
  match response.statusCode with
  | none => .failure
  | some statusCode =>
    if validate && !acceptable statusCode then .failure
    else
      match response.data with
      | none => if statusCode ∈ emptyResponseCodes then .success else .failure
      | some data =>
        if data.isEmpty then
          if statusCode ∈ emptyResponseCodes then .success else .failure
        else if parses data then .success else .failure

/-- `responseJSON`, after `validate()` or not. -/
def responseJSON (validate : Bool) (response : DataResponse) : AFResult :=
  serialize (fun data => data.jsonObject.isSome) validate response

/-- `responseString`, after `validate()` or not. -/
def responseString (validate : Bool) (response : DataResponse) : AFResult :=
  serialize (fun data => data.string.isSome) validate response

/-- **What `validate()` is for**: no status outside `200..<300` is a success. -/
theorem responseJSON_of_not_acceptable {response : DataResponse} {statusCode : Nat}
    (hstatus : response.statusCode = some statusCode) (h : acceptable statusCode = false) :
    responseJSON true response = .failure := by
  simp [responseJSON, serialize, hstatus, h]

/-- Outside `200..<300` an unvalidated serializer succeeds on exactly the bodies it can read: no
such status may come without a body. -/
theorem serialize_of_not_acceptable (parses : Data → Bool) {response : DataResponse}
    {statusCode : Nat} (hstatus : response.statusCode = some statusCode)
    (h : acceptable statusCode = false) :
    serialize parses false response = .success ↔
      ∃ data, response.data = some data ∧ data.isEmpty = false ∧ parses data = true := by
  have hempty : statusCode ∉ emptyResponseCodes := by
    intro hmem
    have hcases : statusCode = 204 ∨ statusCode = 205 := by simpa [emptyResponseCodes] using hmem
    rcases hcases with rfl | rfl <;> simp [acceptable] at h
  cases hdata : response.data with
  | none => simp [serialize, hstatus, hdata, hempty]
  | some data =>
      cases hemptyBody : data.isEmpty
      · simp [serialize, hstatus, hdata, hemptyBody]
      · simp [serialize, hstatus, hdata, hempty, hemptyBody]

end DataResponse
