import NaveggSdk.Sdk.ParameterEncoding

/-!
# What a reader of the URL gets

`fields` is `queryComponents` without the escaping: the pairs that the parameters stand for, nested
keys spelled out. Escaping is done at the very end, pair by pair (`queryComponents_eq`), so the
query is the line of these pairs, and reading the line gives them back (`read_query`).

`encode_readable` says it of the whole encoder, and that its one way to end the process is never
taken.
-/

namespace URLEncoding

mutual

def fields (key : String) : ParameterValue → List (String × String)
  | .dictionary entries => dictionaryFields key entries
  | .array elements => arrayFields key elements
  | .bool value => [(key, if value then "1" else "0")]
  | .text description => [(key, description)]

def dictionaryFields (key : String) : List (String × ParameterValue) → List (String × String)
  | [] => []
  | (nestedKey, value) :: entries =>
    fields (key ++ "[" ++ nestedKey ++ "]") value ++ dictionaryFields key entries

def arrayFields (key : String) : List ParameterValue → List (String × String)
  | [] => []
  | value :: elements => fields (key ++ "[]") value ++ arrayFields key elements

end

/-- The pairs that parameters stand for, in the order of the keys. -/
def flatten (parameters : Dictionary String ParameterValue) : List (String × String) :=
  (parameters.keys.mergeSort fun a b => a ≤ b).flatMap fun key =>
    (parameters.lookup key).elim [] (fields key)

/-! ## Escaping comes last -/

mutual

/-- **The components are the pairs, escaped.** -/
theorem queryComponents_eq (key : String) :
    ∀ value, queryComponents key value =
      (fields key value).map (QueryString.encoded allowedCharacterSet)
  | .dictionary entries => by
      rw [queryComponents, fields]
      exact dictionaryComponents_eq key entries
  | .array elements => by
      rw [queryComponents, fields]
      exact arrayComponents_eq key elements
  | .bool value => rfl
  | .text description => rfl

theorem dictionaryComponents_eq (key : String) :
    ∀ entries, dictionaryComponents key entries =
      (dictionaryFields key entries).map (QueryString.encoded allowedCharacterSet)
  | [] => rfl
  | (nestedKey, value) :: entries => by
      rw [dictionaryComponents, dictionaryFields, List.map_append, queryComponents_eq,
        dictionaryComponents_eq key entries]

theorem arrayComponents_eq (key : String) :
    ∀ elements, arrayComponents key elements =
      (arrayFields key elements).map (QueryString.encoded allowedCharacterSet)
  | [] => rfl
  | value :: elements => by
      rw [arrayComponents, arrayFields, List.map_append, queryComponents_eq,
        arrayComponents_eq key elements]

end

/-- **The query is the line of the pairs.** -/
theorem query_eq (parameters : Dictionary String ParameterValue) :
    query parameters =
      QueryString.write ((flatten parameters).map (QueryString.encoded allowedCharacterSet)) := by
  have hcomponents : ∀ key, (parameters.lookup key).elim [] (queryComponents key) =
      ((parameters.lookup key).elim [] (fields key)).map
        (QueryString.encoded allowedCharacterSet) := by
    intro key
    cases parameters.lookup key with
    | none => rfl
    | some value => exact queryComponents_eq key value
  unfold query QueryString.write flatten
  rw [List.map_flatMap]
  simp only [hcomponents]

/-! ## Reading -/

theorem spares_allowedCharacterSet : QueryString.Spares allowedCharacterSet where
  percent := by decide
  equals := by decide
  ampersand := by decide

/-- `escape` leaves only characters alone that may stand in a query. -/
theorem urlQueryAllowed_of_allowed (c : Char) (h : allowedCharacterSet c = true) :
    urlQueryAllowed c = true := by
  unfold allowedCharacterSet at h
  exact (Bool.and_eq_true_iff.mp (Bool.and_eq_true_iff.mp h).1).1

/-- **A reader gets the pairs of the parameters.** -/
theorem read_query (parameters : Dictionary String ParameterValue) :
    QueryString.read (query parameters) = some (flatten parameters) := by
  rw [query_eq]
  exact QueryString.read_write spares_allowedCharacterSet _

/-- A query is percent-encoded. -/
theorem wellFormed_query (parameters : Dictionary String ParameterValue) :
    Percent.wellFormed urlQueryAllowed (query parameters).toList = true := by
  rw [query_eq]
  exact QueryString.wellFormed_write spares_allowedCharacterSet.percent urlQueryAllowed_of_allowed
    (by decide) (by decide) _

/-- A pair is in the list if it is one of the pairs of a parameter. -/
theorem mem_flatten {parameters : Dictionary String ParameterValue} {p : String × String} :
    p ∈ flatten parameters ↔
      ∃ key value, parameters.lookup key = some value ∧ p ∈ fields key value := by
  unfold flatten
  rw [List.mem_flatMap]
  constructor
  · rintro ⟨key, -, hp⟩
    cases hlookup : parameters.lookup key with
    | none => simp [hlookup] at hp
    | some value => exact ⟨key, value, hlookup, by simpa [hlookup] using hp⟩
  · rintro ⟨key, value, hlookup, hp⟩
    refine ⟨key, ?_, by simpa [hlookup] using hp⟩
    rw [List.mem_mergeSort]
    exact AList.lookup_isSome.mp (by rw [hlookup]; rfl)

def URL.appending (query : String) (url : URL) : URL :=
  { url with
    percentEncodedQuery := some ((url.percentEncodedQuery.map (· ++ "&")).getD "" ++ query) }

/-- What stands before the query of the parameters is percent-encoded if the old query was. -/
theorem wellFormed_appending {url : URL} (parameters : Dictionary String ParameterValue)
    (hold : ∀ old ∈ url.percentEncodedQuery, Percent.wellFormed urlQueryAllowed old.toList = true) :
    Percent.wellFormed urlQueryAllowed
      ((url.percentEncodedQuery.map (· ++ "&")).getD "" ++ query parameters).toList = true := by
  rw [String.toList_append]
  refine Percent.wellFormed_append ?_ (wellFormed_query parameters)
  cases hquery : url.percentEncodedQuery with
  | none => rfl
  | some old =>
      simp only [Option.map_some, Option.getD_some, String.toList_append]
      refine Percent.wellFormed_append (hold old hquery) ?_
      rw [show "&".toList = ['&'] from rfl, Percent.wellFormed_cons (by decide) (by decide)]
      rfl

/-- The encoder at work in a URL: the query is appended, and nothing else happens. -/
theorem encode_eq {destination : Destination} {urlRequest : URLRequest} {url : URL}
    {parameters : Dictionary String ParameterValue}
    (hmethod : (HTTPMethod.ofRawValue (urlRequest.httpMethod.getD "GET")).any
      (encodesParametersInURL destination) = true)
    (hurl : urlRequest.url = some url) (hne : parameters.entries ≠ [])
    (hold : ∀ old ∈ url.percentEncodedQuery, Percent.wellFormed urlQueryAllowed old.toList = true) :
    encode destination urlRequest (some parameters) =
      .done { urlRequest with url := some (URL.appending (query parameters) url) } := by
  have hempty : parameters.entries.isEmpty = false := by simpa using hne
  have hwell := wellFormed_appending parameters hold
  unfold encode URL.appending
  simp only [if_pos hmethod, hurl, hempty, Bool.false_eq_true, if_false]
  rw [if_pos hwell]

/-- **Parameters are readable in the URL.** Whatever the parameters say, at whatever depth, the
encoder does not end the process and changes nothing but the query; the query is percent-encoded (if
the old one was), and if there was none before, its pairs are those of the parameters. An empty
dictionary is not encoded at all. -/
theorem encode_readable (destination : Destination) (urlRequest : URLRequest) (url : URL)
    (parameters : Dictionary String ParameterValue)
    (hmethod : (HTTPMethod.ofRawValue (urlRequest.httpMethod.getD "GET")).any
      (encodesParametersInURL destination) = true)
    (hurl : urlRequest.url = some url) (hne : parameters.entries ≠ [])
    (hold : ∀ old ∈ url.percentEncodedQuery, Percent.wellFormed urlQueryAllowed old.toList = true) :
    ∃ query, encode destination urlRequest (some parameters) =
        .done { urlRequest with url := some ⟨url.base, some query⟩ } ∧
      Percent.wellFormed urlQueryAllowed query.toList = true ∧
      (url.percentEncodedQuery = none → QueryString.read query = some (flatten parameters)) := by
  refine ⟨(url.percentEncodedQuery.map (· ++ "&")).getD "" ++ query parameters,
    encode_eq hmethod hurl hne hold, wellFormed_appending parameters hold, ?_⟩
  intro hnone
  rw [hnone, Option.map_none, Option.getD_none, String.empty_append]
  exact read_query parameters

def bareRequest : URLRequest := ⟨some ⟨"https://cd.navdmp.com/cd", none⟩, none, [], none⟩

/-- A nested dictionary in its query. -/
theorem encode_readable_nested :
    ∃ query, encode .methodDependent bareRequest
        (some (AList.singleton "DATA" (.dictionary [("a", .text "b&c")]))) =
          .done { bareRequest with url := some ⟨"https://cd.navdmp.com/cd", some query⟩ } ∧
      Percent.wellFormed urlQueryAllowed query.toList = true ∧
      ((none : Option String) = none → QueryString.read query = some
        (flatten (AList.singleton "DATA" (.dictionary [("a", .text "b&c")])))) :=
  encode_readable .methodDependent bareRequest ⟨"https://cd.navdmp.com/cd", none⟩ _ (by decide) rfl
    (List.cons_ne_nil _ _) (by simp)

end URLEncoding
