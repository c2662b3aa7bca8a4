import NaveggSdk.Library.QueryString
import NaveggSdk.Sdk.WebService

/-!
# `URLEncoding`: how the parameters get into the URL

`AF.request` is called with a URL, parameters and headers, so the method is `GET` and the encoding
`URLEncoding.default`: the parameters become the query of the URL. This is Alamofire's
`ParameterEncoding.swift` as checked out under `Carthage`.

A parameter value is `Any` there. `queryComponents` tells dictionaries, arrays and booleans apart;
every other value it interpolates into a text, and that text is all a `ParameterValue` keeps of it.

`URLComponents` refuses a query that is not percent-encoded by ending the process, which is the
outcome `trapped`. A URL has no fragment here; the SDK's have none.
-/

inductive HTTPMethod where
  | options
  | get
  | head
  | post
  | put
  | patch
  | delete
  | trace
  | connect
  deriving DecidableEq

def HTTPMethod.rawValue : HTTPMethod → String
  | .options => "OPTIONS"
  | .get => "GET"
  | .head => "HEAD"
  | .post => "POST"
  | .put => "PUT"
  | .patch => "PATCH"
  | .delete => "DELETE"
  | .trace => "TRACE"
  | .connect => "CONNECT"

def HTTPMethod.ofRawValue (rawValue : String) : Option HTTPMethod :=
  [HTTPMethod.options, .get, .head, .post, .put, .patch, .delete, .trace, .connect].find?
    (·.rawValue = rawValue)

/-- A value of `Parameters`. -/
inductive ParameterValue where
  | dictionary (entries : List (String × ParameterValue))
  | array (elements : List ParameterValue)
  | bool (value : Bool)
  /-- A number that is no boolean, a string, or anything else, as `"\(value)"`. -/
  | text (description : String)

/-- A URL: what stands before its query, and the query. -/
structure URL where
  base : String
  percentEncodedQuery : Option String

structure URLRequest where
  url : Option URL
  httpMethod : Option String
  headers : List (String × String)
  httpBody : Option String

/-- `value(forHTTPHeaderField:)`, which does not tell upper case from lower case. -/
def URLRequest.value (request : URLRequest) (forHTTPHeaderField : String) : Option String :=
  (request.headers.find? fun header => header.1.toLower = forHTTPHeaderField.toLower).map (·.2)

def urlQueryAllowed (c : Char) : Bool :=
  c.isAlphanum || "!$&'()*+,-./:;=?@_~".toList.contains c

namespace URLEncoding

inductive Destination where
  | methodDependent
  | queryString
  | httpBody

/-- The characters that `escape` leaves alone. -/
def allowedCharacterSet (c : Char) : Bool :=
  urlQueryAllowed c && !":#[]@".toList.contains c && !"!$&'()*+,;=".toList.contains c

/-- `escape`. A text can always be encoded, so the fallback is never taken. -/
def escape (string : String) : String := Percent.encode allowedCharacterSet string

mutual

def queryComponents (key : String) : ParameterValue → List (String × String)
  | .dictionary entries => dictionaryComponents key entries
  | .array elements => arrayComponents key elements
  | .bool value => [(escape key, escape (if value then "1" else "0"))]
  | .text description => [(escape key, escape description)]

def dictionaryComponents (key : String) : List (String × ParameterValue) → List (String × String)
  | [] => []
  | (nestedKey, value) :: entries =>
    queryComponents (key ++ "[" ++ nestedKey ++ "]") value ++ dictionaryComponents key entries

def arrayComponents (key : String) : List ParameterValue → List (String × String)
  | [] => []
  | value :: elements => queryComponents (key ++ "[]") value ++ arrayComponents key elements

end

/-- `query`. The keys are compared by their scalars, as Swift compares keys in ASCII; each of them
has a value. -/
def query (parameters : Dictionary String ParameterValue) : String :=
  let components := (parameters.keys.mergeSort fun a b => a ≤ b).flatMap fun key =>
    (parameters.lookup key).elim [] (queryComponents key)
  Components.joined '&' (components.map fun p => p.1 ++ "=" ++ p.2)

def encodesParametersInURL (destination : Destination) (method : HTTPMethod) : Bool :=
  match destination with
  | .queryString => true
  | .httpBody => false
  | .methodDependent =>
    match method with
    | .get | .head | .delete => true
    | _ => false

/-- How `encode` ends. -/
inductive Encoded where
  | done (urlRequest : URLRequest)
  /-- `AFError.parameterEncodingFailed(reason: .missingURL)`. -/
  | missingURL
  /-- The setter of `percentEncodedQuery` has ended the process. -/
  | trapped

def encode (destination : Destination) (urlRequest : URLRequest)
    (parameters : Option (Dictionary String ParameterValue)) : Encoded :=
  match parameters with
  | none => .done urlRequest
  | some parameters =>
    if (HTTPMethod.ofRawValue (urlRequest.httpMethod.getD "GET")).any
        (encodesParametersInURL destination) then
      match urlRequest.url with
      | none => .missingURL
      | some url =>
        if parameters.entries.isEmpty then .done urlRequest
        else
          let percentEncodedQuery :=
            (url.percentEncodedQuery.map (· ++ "&")).getD "" ++ query parameters
          if Percent.wellFormed urlQueryAllowed percentEncodedQuery.toList then
            .done { urlRequest with
              url := some { url with percentEncodedQuery := some percentEncodedQuery } }
          else .trapped
    else
      let headers :=
        if (urlRequest.value "Content-Type").isNone then
          urlRequest.headers ++
            [("Content-Type", "application/x-www-form-urlencoded; charset=utf-8")]
        else urlRequest.headers
      .done { urlRequest with headers := headers, httpBody := some (query parameters) }

end URLEncoding

/-! ## The requests of the SDK -/

/-- A parameter of the SDK, as `queryComponents` sees it. -/
def Parameter.value : Parameter → ParameterValue
  | .int n => .text (toString n)
  | .uint32 n => .text (toString n.toNat)
  | .string s => .text s
  | .emptyArray => .array []
  | .dictionary d => .dictionary (d.entries.map fun e => (e.1, .text e.2))

/-- `AF.request(url, parameters:, headers:)`: the request that is handed to the session. -/
def Request.encoded (r : Request) : URLEncoding.Encoded :=
  URLEncoding.encode .methodDependent
    { url := some ⟨r.url, none⟩
      httpMethod := some HTTPMethod.get.rawValue
      headers := r.headers
      httpBody := none }
    (some (r.parameters.mapValues Parameter.value))
