import NaveggSdk.Sdk.Parameters

/-!
# The onboarding map in the parameters

Both endpoints are sent the onboarding map: `sendOnBoarding` all of it, `getSegments` the pairs that
are parameters of their own. `lookup_sendOnBoarding` and `lookup_getSegments` say what is found
under every key of the two parameter lists, whatever the order in which the map was enumerated.
From these two everything else follows: nothing is lost, nothing is overwritten, the two lists
agree, and the map can be read back (`recover_eq`).

Two parameters are the same if they say the same; a dictionary among them does not depend on the
order of its pairs (`Parameter.Same`).
-/

namespace Parameter

def Same : Parameter → Parameter → Prop
  | .dictionary d, .dictionary d' => d.Same d'
  | p, p' => p = p'

theorem Same.refl (p : Parameter) : p.Same p := by
  cases p with
  | dictionary d => exact Dictionary.Same.refl d
  | int n => exact rfl
  | uint32 n => exact rfl
  | string s => exact rfl
  | emptyArray => exact rfl

theorem rel_refl (x : Option Parameter) : Option.Rel Same x x := by
  cases x with
  | none => exact .none
  | some p => exact .some (Same.refl p)

def string? : Parameter → Option String
  | .string s => some s
  | _ => none

/-- The value of a key inside a parameter, if that is a dictionary. -/
def pair? (key : String) : Parameter → Option String
  | .dictionary d => d.lookup key
  | _ => none

variable {p p' : Parameter}

theorem Same.string?_eq (h : p.Same p') : p.string? = p'.string? := by
  cases p <;> cases p' <;> simp_all [Same, string?]

theorem Same.pair?_eq (h : p.Same p') (key : String) : p.pair? key = p'.pair? key := by
  cases p <;> cases p' <;> simp_all [Same, pair?, Dictionary.Same]

end Parameter

def SameParameters (p p' : Dictionary String Parameter) : Prop :=
  ∀ k, Option.Rel Parameter.Same (p.lookup k) (p'.lookup k)

/-- What is read off the parameter of a name depends on what the parameters say only. -/
theorem SameParameters.bind_eq {α : Type} {p p' : Dictionary String Parameter}
    (h : SameParameters p p') {f : Parameter → Option α}
    (hf : ∀ a a' : Parameter, a.Same a' → f a = f a') (k : String) :
    (p.lookup k).bind f = (p'.lookup k).bind f := by
  have hk := h k
  generalize p.lookup k = x at hk ⊢
  generalize p'.lookup k = x' at hk ⊢
  cases hk with
  | none => rfl
  | some hsame => exact hf _ _ hsame

namespace WebService

variable (acc : UInt32) (userId : String) (onBoarding : Dictionary String String)

def inData (onBoarding : Dictionary String String) : Dictionary String String :=
  Dictionary.fill (fun key => !defineParams.contains key) id onBoarding ∅

theorem lookup_inData (k : String) :
    (inData onBoarding).lookup k =
      if defineParams.contains k then none else onBoarding.lookup k := by
  rw [inData, Dictionary.lookup_fill]
  cases defineParams.contains k with
  | true => simp
  | false => cases onBoarding.lookup k <;> rfl

/-- The pairs that travel as parameters of their own, over fixed ones with other names. -/
theorem lookup_fill_defineParams {fixed : Dictionary String Parameter} (k : String)
    (hfixed : k ∈ defineParams → fixed.lookup k = none) :
    (Dictionary.fill defineParams.contains Parameter.string onBoarding fixed).lookup k =
      if defineParams.contains k then (onBoarding.lookup k).map .string else fixed.lookup k := by
  rw [Dictionary.lookup_fill]
  cases hkey : defineParams.contains k with
  | false => rfl
  | true =>
      rw [hfixed (by simpa using hkey)]
      cases onBoarding.lookup k <;> rfl

abbrev sendOnBoardingNames : List String := ["DATA", "id", "prtid"]

abbrev getSegmentsNames : List String := ["wct", "id", "v", "wst", "acc"]

theorem sendOnBoardingFixed_none {k : String} (h : k ∉ sendOnBoardingNames) :
    (sendOnBoardingFixed acc userId).lookup k = none := by
  simp only [List.mem_cons, List.not_mem_nil, or_false, not_or] at h
  obtain ⟨hdata, hid, hprtid⟩ := h
  rw [sendOnBoardingFixed, AList.lookup_insert_ne hprtid, AList.lookup_insert_ne hid,
    AList.lookup_insert_ne hdata, AList.lookup_empty]

theorem getSegmentsFixed_none {k : String} (h : k ∉ getSegmentsNames) :
    (getSegmentsFixed acc userId).lookup k = none := by
  simp only [List.mem_cons, List.not_mem_nil, or_false, not_or] at h
  obtain ⟨hwct, hid, hv, hwst, hacc⟩ := h
  rw [getSegmentsFixed, AList.lookup_insert_ne hacc, AList.lookup_insert_ne hwst,
    AList.lookup_insert_ne hv, AList.lookup_insert_ne hid, AList.lookup_insert_ne hwct,
    AList.lookup_empty]

/-- No fixed parameter has a name that a pair of the map can travel under. -/
theorem not_mem_names : ∀ k ∈ defineParams, k ∉ sendOnBoardingNames ∧ k ∉ getSegmentsNames := by
  decide

/-- **What `sendOnBoarding` sends under a name.** -/
theorem lookup_sendOnBoarding (k : String) :
    (sendOnBoardingRequest acc userId onBoarding).parameters.lookup k =
      if k = "DATA" then some (.dictionary (inData onBoarding))
      else if defineParams.contains k then (onBoarding.lookup k).map .string
      else (sendOnBoardingFixed acc userId).lookup k := by
  unfold sendOnBoardingRequest
  simp only [sendOnBoardingLoop_eq]
  by_cases hk : k = "DATA"
  · rw [if_pos hk, hk]
    exact AList.lookup_insert _
  · rw [if_neg hk, AList.lookup_insert_ne hk]
    exact lookup_fill_defineParams onBoarding k fun hkey =>
      sendOnBoardingFixed_none acc userId (not_mem_names k hkey).1

/-- **What `getSegments` sends under a name.** -/
theorem lookup_getSegments (k : String) :
    (getSegmentsRequest acc userId onBoarding).parameters.lookup k =
      if defineParams.contains k then (onBoarding.lookup k).map .string
      else (getSegmentsFixed acc userId).lookup k := by
  rw [getSegmentsRequest_parameters]
  exact lookup_fill_defineParams onBoarding k fun hkey =>
    getSegmentsFixed_none acc userId (not_mem_names k hkey).2

/-! ## No loss, no overwriting -/

/-- The parameters of `sendOnBoarding` hold every pair of the map in its one place, and nothing
else. -/
structure Partitioned (p : Dictionary String Parameter) : Prop where
  prtid : p.lookup "prtid" = some (.uint32 acc)
  id : p.lookup "id" = some (.string userId)
  /-- Beside the three fixed ones: the pairs that are parameters of their own. -/
  top : ∀ k, k ∉ sendOnBoardingNames →
    p.lookup k = if defineParams.contains k then (onBoarding.lookup k).map .string else none
  /-- Inside `DATA`: the other pairs. -/
  data : ∃ data, p.lookup "DATA" = some (.dictionary data) ∧
    ∀ k, data.lookup k = if defineParams.contains k then none else onBoarding.lookup k

/-- The parameters `g` of `getSegments` are its fixed ones and the pairs that `sendOnBoarding` sends
as parameters of their own in `p`. -/
structure Agrees (p g : Dictionary String Parameter) : Prop where
  wct : g.lookup "wct" = some (.int 1)
  id : g.lookup "id" = some (.string userId)
  v : g.lookup "v" = some (.int 11)
  wst : g.lookup "wst" = some (.int 0)
  acc : g.lookup "acc" = some (.uint32 acc)
  top : ∀ k, k ∉ getSegmentsNames →
    g.lookup k = if defineParams.contains k then p.lookup k else none

theorem partitioned :
    Partitioned acc userId onBoarding (sendOnBoardingRequest acc userId onBoarding).parameters := by
  constructor
  case prtid =>
    rw [lookup_sendOnBoarding, if_neg (by decide), if_neg (by decide)]
    simp [sendOnBoardingFixed]
  case id =>
    exact sendOnBoardingRequest_id acc userId onBoarding
  case top =>
    intro k hk
    have hdata : k ≠ "DATA" := by
      rintro rfl
      exact hk (by decide)
    rw [lookup_sendOnBoarding, if_neg hdata, sendOnBoardingFixed_none acc userId hk]
  case data =>
    refine ⟨inData onBoarding, ?_, lookup_inData onBoarding⟩
    rw [lookup_sendOnBoarding, if_pos rfl]

theorem agrees :
    Agrees acc userId (sendOnBoardingRequest acc userId onBoarding).parameters
      (getSegmentsRequest acc userId onBoarding).parameters := by
  have hfixed : ∀ k, defineParams.contains k = false →
      (getSegmentsRequest acc userId onBoarding).parameters.lookup k =
        (getSegmentsFixed acc userId).lookup k := by
    intro k hk
    rw [lookup_getSegments, hk]
    rfl
  constructor
  case wct => exact (hfixed _ (by decide)).trans rfl
  case id => exact (hfixed _ (by decide)).trans rfl
  case v => exact (hfixed _ (by decide)).trans rfl
  case wst => exact (hfixed _ (by decide)).trans rfl
  case acc => exact (hfixed _ (by decide)).trans rfl
  case top =>
    intro k hk
    rw [lookup_getSegments, getSegmentsFixed_none acc userId hk]
    cases hkey : defineParams.contains k with
    | false => rfl
    | true =>
        have hmem : k ∈ defineParams := by simpa using hkey
        rw [(partitioned acc userId onBoarding).top k (not_mem_names k hmem).1, hkey]
        rfl

/-! ## Reading the map back -/

/-- The value of a key, read back from the parameters of `sendOnBoarding`. -/
def recover (p : Dictionary String Parameter) (key : String) : Option String :=
  if defineParams.contains key then (p.lookup key).bind Parameter.string?
  else (p.lookup "DATA").bind (Parameter.pair? key)

theorem recover_congr {p p' : Dictionary String Parameter} (h : SameParameters p p') (k : String) :
    recover p k = recover p' k := by
  unfold recover
  rw [h.bind_eq (fun _ _ hsame => hsame.string?_eq) k,
    h.bind_eq (fun _ _ hsame => hsame.pair?_eq k) "DATA"]

/-- **The map can be read back.** -/
theorem recover_eq (k : String) :
    recover (sendOnBoardingRequest acc userId onBoarding).parameters k = onBoarding.lookup k := by
  have h := partitioned acc userId onBoarding
  unfold recover
  cases hkey : defineParams.contains k with
  | true =>
      have hmem : k ∈ defineParams := by simpa using hkey
      rw [if_pos rfl, h.top k (not_mem_names k hmem).1, hkey]
      cases onBoarding.lookup k <;> rfl
  | false =>
      obtain ⟨data, hdata, hlookup⟩ := h.data
      rw [if_neg Bool.false_ne_true, hdata, Option.bind_some, Parameter.pair?, hlookup, hkey]
      rfl

/-! ## The order of the pairs -/

section
variable {onBoarding' : Dictionary String String}

theorem sameParameters_sendOnBoarding (h : onBoarding.Same onBoarding') :
    SameParameters (sendOnBoardingRequest acc userId onBoarding).parameters
      (sendOnBoardingRequest acc userId onBoarding').parameters := by
  intro k
  rw [lookup_sendOnBoarding, lookup_sendOnBoarding]
  by_cases hk : k = "DATA"
  · rw [if_pos hk, if_pos hk]
    refine .some fun key => ?_
    rw [lookup_inData, lookup_inData, h key]
  · rw [if_neg hk, if_neg hk, h k]
    exact Parameter.rel_refl _

theorem sameParameters_getSegments (h : onBoarding.Same onBoarding') :
    SameParameters (getSegmentsRequest acc userId onBoarding).parameters
      (getSegmentsRequest acc userId onBoarding').parameters := by
  intro k
  rw [lookup_getSegments, lookup_getSegments, h k]
  exact Parameter.rel_refl _

end

/-- **The map is partitioned without loss, and the endpoints agree.** Each pair is in its one place
and nothing takes the place of a fixed parameter; the map can be read back; the parameters say the
same exactly for maps with the same pairs. -/
theorem parameters_partition (acc : UInt32) (userId : String)
    (onBoarding : Dictionary String String) :
    Partitioned acc userId onBoarding (sendOnBoardingRequest acc userId onBoarding).parameters ∧
      Agrees acc userId (sendOnBoardingRequest acc userId onBoarding).parameters
        (getSegmentsRequest acc userId onBoarding).parameters ∧
      (∀ k, recover (sendOnBoardingRequest acc userId onBoarding).parameters k =
        onBoarding.lookup k) ∧
      ∀ onBoarding' : Dictionary String String,
        (SameParameters (sendOnBoardingRequest acc userId onBoarding).parameters
            (sendOnBoardingRequest acc userId onBoarding').parameters ↔
          onBoarding.Same onBoarding') ∧
        (onBoarding.Same onBoarding' →
          SameParameters (getSegmentsRequest acc userId onBoarding).parameters
            (getSegmentsRequest acc userId onBoarding').parameters) := by
  refine ⟨partitioned acc userId onBoarding, agrees acc userId onBoarding,
    recover_eq acc userId onBoarding, fun onBoarding' => ⟨⟨fun h k => ?_, ?_⟩, ?_⟩⟩
  · calc onBoarding.lookup k
        = recover (sendOnBoardingRequest acc userId onBoarding).parameters k :=
          (recover_eq acc userId onBoarding k).symm
      _ = recover (sendOnBoardingRequest acc userId onBoarding').parameters k := recover_congr h k
      _ = onBoarding'.lookup k := recover_eq acc userId onBoarding' k
  · exact sameParameters_sendOnBoarding acc userId onBoarding
  · exact sameParameters_getSegments acc userId onBoarding

end WebService
