import NaveggSdk.Delivery.Partition
import NaveggSdk.Library.Numeral
import NaveggSdk.Wire.Query

/-!
# What the server can read

A pair of the onboarding map travels under its own key, or inside `DATA` as `DATA[key]`. No two
pairs share a place, and none takes the place of `id` or `prtid` (`wireKey_injective`,
`wireKey_ne`), so the pairs that are read off the URL of a `sendOnBoarding` are the account, the
user and the map, each once and nothing else (`Served`). A map that differs in one pair gives
another URL.
-/

namespace URLEncoding

/-! ## The parameter a pair belongs to

What stands before the first bracket of a nested key is the name of the parameter. -/

/-- A text that starts with a bracket, or is empty. -/
def IsSuffix (s : String) : Prop := s = "" ∨ ∃ t, s = "[" ++ t

theorem isSuffix_bracket (t : String) : IsSuffix ("[" ++ t) := .inr ⟨t, rfl⟩

mutual

/-- The pairs of a parameter have its name, and then brackets. -/
theorem key_of_mem_fields (key : String) :
    ∀ (value : ParameterValue) (p : String × String), p ∈ fields key value →
      ∃ s, p.1 = key ++ s ∧ IsSuffix s
  | .dictionary entries, p, hp => by
      rw [fields] at hp
      exact key_of_mem_dictionaryFields key entries p hp
  | .array elements, p, hp => by
      rw [fields] at hp
      exact key_of_mem_arrayFields key elements p hp
  | .bool value, p, hp => by
      rw [fields, List.mem_singleton] at hp
      exact ⟨"", by rw [hp, String.append_empty], .inl rfl⟩
  | .text description, p, hp => by
      rw [fields, List.mem_singleton] at hp
      exact ⟨"", by rw [hp, String.append_empty], .inl rfl⟩

theorem key_of_mem_dictionaryFields (key : String) :
    ∀ (entries : List (String × ParameterValue)) (p : String × String),
      p ∈ dictionaryFields key entries → ∃ s, p.1 = key ++ s ∧ IsSuffix s
  | [], p, hp => by
      rw [dictionaryFields] at hp
      cases hp
  | (nestedKey, value) :: entries, p, hp => by
      rw [dictionaryFields, List.mem_append] at hp
      obtain hp | hp := hp
      · obtain ⟨s, hs, -⟩ := key_of_mem_fields _ value p hp
        refine ⟨"[" ++ (nestedKey ++ "]" ++ s), ?_, isSuffix_bracket _⟩
        simpa only [String.append_assoc] using hs
      · exact key_of_mem_dictionaryFields key entries p hp

theorem key_of_mem_arrayFields (key : String) :
    ∀ (elements : List ParameterValue) (p : String × String),
      p ∈ arrayFields key elements → ∃ s, p.1 = key ++ s ∧ IsSuffix s
  | [], p, hp => by
      rw [arrayFields] at hp
      cases hp
  | value :: elements, p, hp => by
      rw [arrayFields, List.mem_append] at hp
      obtain hp | hp := hp
      · obtain ⟨s, hs, -⟩ := key_of_mem_fields _ value p hp
        refine ⟨"[" ++ ("]" ++ s), ?_, isSuffix_bracket _⟩
        have hbracket : "[]" ++ s = "[" ++ ("]" ++ s) := by
          rw [← String.append_assoc]
          rfl
        rw [hs, String.append_assoc, hbracket]
      · exact key_of_mem_arrayFields key elements p hp

end

/-- The name of the parameter a pair belongs to. -/
def owner (p : String × String) : String := String.ofList (p.1.toList.takeWhile (· ≠ '['))

/-- **A pair tells which parameter it belongs to**, if no name has a bracket. -/
theorem owner_of_mem_fields {key : String} (hkey : '[' ∉ key.toList) {value : ParameterValue}
    {p : String × String} (hp : p ∈ fields key value) : owner p = key := by
  obtain ⟨s, hs, hsuffix⟩ := key_of_mem_fields key value p hp
  have hplain : ∀ c ∈ key.toList, (decide (c ≠ '[')) = true := by
    intro c hc
    rw [decide_eq_true_eq]
    rintro rfl
    exact hkey hc
  have hstop : s.toList.takeWhile (fun c => decide (c ≠ '[')) = [] := by
    obtain rfl | ⟨t, rfl⟩ := hsuffix
    · rfl
    · simp
  unfold owner
  rw [hs, String.toList_append, List.takeWhile_append_of_pos hplain, hstop, List.append_nil,
    String.ofList_toList]

/-- Pairs do not repeat if those of one parameter do not. -/
theorem nodup_flatten {parameters : Dictionary String ParameterValue}
    (hkeys : ∀ key ∈ parameters.keys, '[' ∉ key.toList)
    (hfields : ∀ key value, parameters.lookup key = some value → (fields key value).Nodup) :
    (flatten parameters).Nodup := by
  unfold flatten
  rw [List.nodup_flatMap]
  constructor
  · intro key _
    cases hlookup : parameters.lookup key with
    | none => exact List.nodup_nil
    | some value => exact hfields key value hlookup
  · have hnodup : (parameters.keys.mergeSort fun a b => a ≤ b).Nodup :=
      (List.mergeSort_perm _ _).nodup_iff.mpr parameters.keys_nodup
    have hmem : ∀ key ∈ parameters.keys.mergeSort fun a b => a ≤ b, ∀ p : String × String,
        p ∈ (parameters.lookup key).elim [] (fields key) → owner p = key := by
      intro key hkey p hp
      rw [List.mem_mergeSort] at hkey
      cases hlookup : parameters.lookup key with
      | none =>
          rw [hlookup] at hp
          cases hp
      | some value =>
          rw [hlookup] at hp
          exact owner_of_mem_fields (hkeys key hkey) hp
    refine hnodup.pairwise_of_forall_ne ?_
    intro a ha b hb hab p hpa hpb
    exact hab ((hmem a ha p hpa).symm.trans (hmem b hb p hpb))

end URLEncoding

namespace WebService

open URLEncoding

/-! ## The pairs of an onboarding request -/

/-- The key under which a pair of the onboarding map travels. -/
def wireKey (key : String) : String :=
  if defineParams.contains key then key else "DATA[" ++ key ++ "]"

/-- No parameter of its own looks like one inside `DATA`. -/
theorem take_ne_of_defineParams : ∀ key ∈ defineParams, key.toList.take 5 ≠ "DATA[".toList := by
  decide

theorem take_wireKey {key : String} (h : defineParams.contains key = false) :
    (wireKey key).toList.take 5 = "DATA[".toList := by
  rw [wireKey, if_neg (by simpa using h), String.toList_append, String.toList_append]
  rfl

/-- **No two pairs share a place.** -/
theorem wireKey_injective {key key' : String} (h : wireKey key = wireKey key') : key = key' := by
  cases hkey : defineParams.contains key with
  | true =>
      have hself : wireKey key = key := if_pos hkey
      cases hkey' : defineParams.contains key' with
      | true => rwa [hself, wireKey, if_pos hkey'] at h
      | false =>
          refine absurd ?_ (take_ne_of_defineParams key (by simpa using hkey))
          rw [← hself, h, take_wireKey hkey']
  | false =>
      cases hkey' : defineParams.contains key' with
      | true =>
          refine absurd ?_ (take_ne_of_defineParams key' (by simpa using hkey'))
          have hself : wireKey key' = key' := if_pos hkey'
          rw [← hself, ← h, take_wireKey hkey]
      | false =>
          rw [wireKey, wireKey, if_neg (by simpa using hkey), if_neg (by simpa using hkey')] at h
          exact (String.append_right_inj "DATA[").mp ((String.append_left_inj "]").mp h)

/-- No pair takes the place of a fixed parameter. -/
theorem wireKey_ne (key : String) : wireKey key ≠ "id" ∧ wireKey key ≠ "prtid" := by
  cases hkey : defineParams.contains key with
  | true =>
      have hfree : ∀ k ∈ defineParams, k ≠ "id" ∧ k ≠ "prtid" := by decide
      rw [wireKey, if_pos hkey]
      exact hfree key (by simpa using hkey)
  | false =>
      have htake := take_wireKey hkey
      constructor
      · intro h
        rw [h] at htake
        exact absurd htake (by decide)
      · intro h
        rw [h] at htake
        exact absurd htake (by decide)

/-- The pairs inside a dictionary of texts. -/
theorem dictionaryFields_text (key : String) (l : List (Sigma fun _ : String => String)) :
    dictionaryFields key (l.map fun e => (e.1, ParameterValue.text e.2)) =
      l.map fun e => (key ++ "[" ++ e.1 ++ "]", e.2) := by
  induction l with
  | nil => rfl
  | cons e l ih =>
      rw [List.map_cons, List.map_cons, dictionaryFields, ih]
      rfl

/-- A pair is in a dictionary if it is found under its key. -/
theorem mem_entries_iff {d : Dictionary String String} {key value : String} :
    (⟨key, value⟩ : Sigma fun _ : String => String) ∈ d.entries ↔ d.lookup key = some value :=
  (List.mem_dlookup_iff d.nodupKeys).symm

variable (acc : UInt32) (userId : String) (onBoarding : Dictionary String String)

def sentPairs : List (String × String) :=
  flatten ((sendOnBoardingRequest acc userId onBoarding).parameters.mapValues Parameter.value)

/-- **What the URL of an onboarding request says.** -/
theorem mem_sentPairs {p : String × String} :
    p ∈ sentPairs acc userId onBoarding ↔
      p = ("prtid", toString acc.toNat) ∨ p = ("id", userId) ∨
        ∃ key value, onBoarding.lookup key = some value ∧ p = (wireKey key, value) := by
  have h := partitioned acc userId onBoarding
  obtain ⟨data, hdata, hlookup⟩ := h.data
  unfold sentPairs
  rw [mem_flatten]
  simp only [Dictionary.lookup_mapValues, Option.map_eq_some_iff]
  constructor
  · rintro ⟨key, value, ⟨parameter, hparameter, rfl⟩, hp⟩
    by_cases hname : key ∈ sendOnBoardingNames
    · simp only [List.mem_cons, List.not_mem_nil, or_false] at hname
      obtain rfl | rfl | rfl := hname
      · -- inside `DATA`
        obtain rfl : Parameter.dictionary data = parameter := by
          rw [hdata] at hparameter
          exact Option.some.inj hparameter
        rw [Parameter.value, fields, dictionaryFields_text] at hp
        obtain ⟨e, he, rfl⟩ := List.mem_map.mp hp
        have hfound : data.lookup e.1 = some e.2 := mem_entries_iff.mp he
        rw [hlookup] at hfound
        cases hkey : defineParams.contains e.1 with
        | true => rw [hkey, if_pos rfl] at hfound; cases hfound
        | false =>
            rw [hkey, if_neg Bool.false_ne_true] at hfound
            refine .inr (.inr ⟨e.1, e.2, hfound, ?_⟩)
            rw [wireKey, if_neg (by simpa using hkey)]
            rfl
      · rw [h.id] at hparameter
        cases hparameter
        exact .inr (.inl (List.mem_singleton.mp hp))
      · rw [h.prtid] at hparameter
        cases hparameter
        exact .inl (List.mem_singleton.mp hp)
    · -- a pair of its own
      rw [h.top key hname] at hparameter
      cases hkey : defineParams.contains key with
      | false => rw [hkey, if_neg Bool.false_ne_true] at hparameter; cases hparameter
      | true =>
          rw [hkey, if_pos rfl] at hparameter
          obtain ⟨text, htext, rfl⟩ := Option.map_eq_some_iff.mp hparameter
          refine .inr (.inr ⟨key, text, htext, ?_⟩)
          rw [wireKey, if_pos hkey]
          exact List.mem_singleton.mp hp
  · rintro (rfl | rfl | ⟨key, value, hvalue, rfl⟩)
    · exact ⟨"prtid", _, ⟨_, h.prtid, rfl⟩, List.mem_singleton.mpr rfl⟩
    · exact ⟨"id", _, ⟨_, h.id, rfl⟩, List.mem_singleton.mpr rfl⟩
    · cases hkey : defineParams.contains key with
      | true =>
          have hfree := (not_mem_names key (by simpa using hkey)).1
          refine ⟨key, _, ⟨.string value, ?_, rfl⟩, ?_⟩
          · rw [h.top key hfree, hkey, if_pos rfl, hvalue]
            rfl
          · rw [wireKey, if_pos hkey]
            exact List.mem_singleton.mpr rfl
      | false =>
          refine ⟨"DATA", _, ⟨.dictionary data, hdata, rfl⟩, ?_⟩
          rw [Parameter.value, fields, dictionaryFields_text, wireKey,
            if_neg (by simpa using hkey)]
          refine List.mem_map.mpr ⟨⟨key, value⟩, ?_, rfl⟩
          rw [mem_entries_iff, hlookup, hkey, if_neg Bool.false_ne_true]
          exact hvalue

/-- The names of the parameters of an onboarding request have no bracket. -/
theorem bracket_not_mem {key : String}
    (h : key ∈ (sendOnBoardingRequest acc userId onBoarding).parameters) : '[' ∉ key.toList := by
  have hfree : ∀ k ∈ sendOnBoardingNames ++ defineParams, '[' ∉ k.toList := by decide
  apply hfree key
  rw [List.mem_append]
  by_cases hname : key ∈ sendOnBoardingNames
  · exact .inl hname
  · right
    have hsome := AList.lookup_isSome.mpr h
    rw [(partitioned acc userId onBoarding).top key hname] at hsome
    cases hkey : defineParams.contains key with
    | true => simpa using hkey
    | false =>
        rw [hkey] at hsome
        cases hsome

/-- The pairs of one parameter do not repeat. -/
theorem nodup_fields (key : String) (parameter : Parameter) :
    (fields key parameter.value).Nodup := by
  cases parameter with
  | int n => exact List.nodup_singleton _
  | uint32 n => exact List.nodup_singleton _
  | string s => exact List.nodup_singleton _
  | emptyArray => exact List.nodup_nil
  | dictionary d =>
      rw [Parameter.value, fields, dictionaryFields_text]
      refine List.Nodup.map ?_ (List.NodupKeys.nodup d.nodupKeys)
      rintro ⟨k, v⟩ ⟨k', v'⟩ heq
      obtain ⟨hkey, hvalue⟩ := Prod.mk.inj heq
      have hkey : k = k' :=
        (String.append_right_inj (key ++ "[")).mp ((String.append_left_inj "]").mp hkey)
      rw [hkey, show v = v' from hvalue]

theorem nodup_sentPairs : (sentPairs acc userId onBoarding).Nodup := by
  apply nodup_flatten
  · intro key hkey
    refine bracket_not_mem acc userId onBoarding ?_
    have hsome := AList.lookup_isSome.mpr (AList.mem_keys.mp hkey)
    rw [Dictionary.lookup_mapValues, Option.isSome_map] at hsome
    exact AList.lookup_isSome.mp hsome
  · intro key value hvalue
    rw [Dictionary.lookup_mapValues] at hvalue
    obtain ⟨parameter, -, rfl⟩ := Option.map_eq_some_iff.mp hvalue
    exact nodup_fields key parameter

/-- What is read off the URL of an onboarding request: the account, the user and the map, each pair
under one key, and nothing else. -/
structure Served (pairs : List (String × String)) : Prop where
  once : (pairs.map Prod.fst).Nodup
  prtid : ∀ text, ("prtid", text) ∈ pairs ↔ text = toString acc.toNat
  id : ∀ text, ("id", text) ∈ pairs ↔ text = userId
  pair : ∀ key value, (wireKey key, value) ∈ pairs ↔ onBoarding.lookup key = some value
  only : ∀ p ∈ pairs, p.1 = "prtid" ∨ p.1 = "id" ∨ ∃ key, p.1 = wireKey key

theorem served_sentPairs : Served acc userId onBoarding (sentPairs acc userId onBoarding) := by
  constructor
  case once =>
    refine (nodup_sentPairs acc userId onBoarding).map_on ?_
    -- A key belongs to one of the three kinds, and to one pair of it.
    intro p hp q hq hpq
    rw [mem_sentPairs] at hp hq
    obtain rfl | rfl | ⟨key, value, hvalue, rfl⟩ := hp
    · obtain rfl | rfl | ⟨key', value', hvalue', rfl⟩ := hq
      · rfl
      · simp at hpq
      · exact absurd hpq.symm (wireKey_ne key').2
    · obtain rfl | rfl | ⟨key', value', hvalue', rfl⟩ := hq
      · simp at hpq
      · rfl
      · exact absurd hpq.symm (wireKey_ne key').1
    · obtain rfl | rfl | ⟨key', value', hvalue', rfl⟩ := hq
      · exact absurd hpq (wireKey_ne key).2
      · exact absurd hpq (wireKey_ne key).1
      · obtain rfl := wireKey_injective hpq
        rw [hvalue] at hvalue'
        cases hvalue'
        rfl
  case prtid =>
    intro text
    rw [mem_sentPairs]
    constructor
    · rintro (h | h | ⟨key, value, -, h⟩)
      · exact (Prod.mk.inj h).2
      · exact absurd (Prod.mk.inj h).1 (by decide)
      · exact absurd (Prod.mk.inj h).1.symm (wireKey_ne key).2
    · rintro rfl
      exact .inl rfl
  case id =>
    intro text
    rw [mem_sentPairs]
    constructor
    · rintro (h | h | ⟨key, value, -, h⟩)
      · exact absurd (Prod.mk.inj h).1 (by decide)
      · exact (Prod.mk.inj h).2
      · exact absurd (Prod.mk.inj h).1.symm (wireKey_ne key).1
    · rintro rfl
      exact .inr (.inl rfl)
  case pair =>
    intro key value
    rw [mem_sentPairs]
    constructor
    · rintro (h | h | ⟨key', value', hvalue', h⟩)
      · exact absurd (Prod.mk.inj h).1 (wireKey_ne key).2
      · exact absurd (Prod.mk.inj h).1 (wireKey_ne key).1
      · obtain ⟨hkey, rfl⟩ := Prod.mk.inj h
        rwa [wireKey_injective hkey]
    · intro hvalue
      exact .inr (.inr ⟨key, value, hvalue, rfl⟩)
  case only =>
    intro p hp
    obtain rfl | rfl | ⟨key, value, -, rfl⟩ := (mem_sentPairs acc userId onBoarding).mp hp
    · exact .inl rfl
    · exact .inr (.inl rfl)
    · exact .inr (.inr ⟨key, rfl⟩)

end WebService

def Request.query? (r : Request) : Option String :=
  match r.encoded with
  | .done urlRequest => urlRequest.url.bind (·.percentEncodedQuery)
  | _ => none

/-- A request with parameters gets their query. -/
theorem Request.query?_eq {r : Request} (h : r.parameters.entries ≠ []) :
    r.query? = some (URLEncoding.query (r.parameters.mapValues Parameter.value)) := by
  have hne : (r.parameters.mapValues Parameter.value).entries ≠ [] := by
    simpa [Dictionary.mapValues] using h
  unfold Request.query? Request.encoded
  rw [URLEncoding.encode_eq rfl rfl hne (by simp)]
  simp [URLEncoding.URL.appending]

namespace WebService

variable (acc : UInt32) (userId : String) (onBoarding : Dictionary String String)

theorem query?_sendOnBoardingRequest :
    (sendOnBoardingRequest acc userId onBoarding).query? =
      some (URLEncoding.query
        ((sendOnBoardingRequest acc userId onBoarding).parameters.mapValues Parameter.value)) := by
  apply Request.query?_eq
  intro hempty
  have hid := sendOnBoardingRequest_id acc userId onBoarding
  rw [AList.lookup, hempty] at hid
  cases hid

/-- **The server can read the map off the URL.** The URL of an onboarding request says the account,
the user and the pairs of the map, each once and nothing else; so two requests with the same URL are
of one account and one user, and carry the same map. -/
theorem onBoarding_readable (acc : UInt32) (userId : String)
    (onBoarding : Dictionary String String) :
    (∃ query pairs, (sendOnBoardingRequest acc userId onBoarding).query? = some query ∧
        QueryString.read query = some pairs ∧ Served acc userId onBoarding pairs) ∧
      ∀ (acc' : UInt32) (userId' : String) (onBoarding' : Dictionary String String),
        (sendOnBoardingRequest acc userId onBoarding).query? =
            (sendOnBoardingRequest acc' userId' onBoarding').query? →
          acc = acc' ∧ userId = userId' ∧ onBoarding.Same onBoarding' := by
  constructor
  · exact ⟨_, _, query?_sendOnBoardingRequest acc userId onBoarding, URLEncoding.read_query _,
      served_sentPairs acc userId onBoarding⟩
  · intro acc' userId' onBoarding' hquery
    rw [query?_sendOnBoardingRequest, query?_sendOnBoardingRequest] at hquery
    have hread := congrArg QueryString.read (Option.some.inj hquery)
    rw [URLEncoding.read_query, URLEncoding.read_query] at hread
    have hpairs : sentPairs acc userId onBoarding = sentPairs acc' userId' onBoarding' :=
      Option.some.inj hread
    have h := served_sentPairs acc userId onBoarding
    have h' := served_sentPairs acc' userId' onBoarding'
    rw [hpairs] at h
    refine ⟨?_, (h'.id userId).mp ((h.id userId).mpr rfl), fun key => ?_⟩
    · have hprtid := (h'.prtid _).mp ((h.prtid _).mpr rfl)
      exact UInt32.toNat_inj.mp (Numeral.toString_injective hprtid)
    · apply Option.ext
      intro value
      exact (h.pair key value).symm.trans (h'.pair key value)

end WebService
