import NaveggSdk.Sdk.WebService

/-!
# What a request carries

The onboarding map travels in two places: the keys of `defineParams` as parameters of their own,
the others inside `DATA`. The loop that builds both is two fills of one dictionary
(`sendOnBoardingLoop_eq`), so whatever the order in which the map is enumerated, no pair gets lost
on the way (`sendOnBoardingRequest_carries`).
-/

/-- The pair is in the place of the request where its key belongs. -/
def Request.Carries (r : Request) (key value : String) : Prop :=
  if WebService.defineParams.contains key then r.parameters.lookup key = some (.string value)
  else ∃ data, r.parameters.lookup "DATA" = some (.dictionary data) ∧ data.lookup key = some value

namespace WebService

/-- The loop over a bare list of pairs: its two accumulators do not see each other. -/
theorem foldl_sendOnBoardingLoop (l : List (Sigma fun _ : String => String))
    (parameters : Dictionary String Parameter) (valueData : Dictionary String String) :
    l.foldl
        (fun acc e =>
          if defineParams.contains e.1 then (acc.1.insert e.1 (.string e.2), acc.2)
          else (acc.1, acc.2.insert e.1 e.2))
        (parameters, valueData) =
      (l.foldl
        (fun acc e => if defineParams.contains e.1 then acc.insert e.1 (.string e.2) else acc)
        parameters,
      l.foldl (fun acc e => if !defineParams.contains e.1 then acc.insert e.1 e.2 else acc)
        valueData) := by
  induction l generalizing parameters valueData with
  | nil => rfl
  | cons e l ih =>
      simp only [List.foldl_cons]
      cases hkey : defineParams.contains e.1 with
      | true =>
          simp only [if_true, Bool.not_true, Bool.false_eq_true, if_false]
          exact ih _ _
      | false =>
          simp only [Bool.false_eq_true, if_false, Bool.not_false, if_true]
          exact ih _ _

/-- **The loop is two fills.** -/
theorem sendOnBoardingLoop_eq (onBoarding : Dictionary String String)
    (parameters : Dictionary String Parameter) :
    sendOnBoardingLoop onBoarding parameters =
      (Dictionary.fill defineParams.contains Parameter.string onBoarding parameters,
        Dictionary.fill (fun key => !defineParams.contains key) id onBoarding ∅) :=
  foldl_sendOnBoardingLoop onBoarding.entries parameters ∅

/-- **A send carries every pair of the map.** -/
theorem sendOnBoardingRequest_carries (acc : UInt32) (userId : String)
    {onBoarding : Dictionary String String} {key value : String}
    (h : onBoarding.lookup key = some value) :
    (sendOnBoardingRequest acc userId onBoarding).Carries key value := by
  unfold Request.Carries sendOnBoardingRequest
  simp only [sendOnBoardingLoop_eq]
  cases hkey : defineParams.contains key with
  | true =>
      have hdata : key ≠ "DATA" := by
        rintro rfl
        exact absurd hkey (by decide)
      rw [if_pos rfl, AList.lookup_insert_ne hdata]
      exact Dictionary.lookup_fill_of_keep hkey _ h _
  | false =>
      rw [if_neg Bool.false_ne_true]
      refine ⟨_, AList.lookup_insert _, ?_⟩
      exact Dictionary.lookup_fill_of_keep (by simpa using hkey) id h ∅

/-- The loop of `getSegments` is a fill as well. -/
theorem getSegmentsRequest_parameters (acc : UInt32) (userId : String)
    (onBoarding : Dictionary String String) :
    (getSegmentsRequest acc userId onBoarding).parameters =
      Dictionary.fill defineParams.contains Parameter.string onBoarding
        (getSegmentsFixed acc userId) := rfl

/-! ### Whose request it is

`id` is no key of `defineParams`, so no pair of the map can take its place. -/

theorem getSegmentsRequest_id (acc : UInt32) (userId : String)
    (onBoarding : Dictionary String String) :
    (getSegmentsRequest acc userId onBoarding).parameters.lookup "id" = some (.string userId) := by
  rw [getSegmentsRequest_parameters, Dictionary.lookup_fill_of_not_keep (by decide)]
  simp [getSegmentsFixed]

theorem sendOnBoardingRequest_id (acc : UInt32) (userId : String)
    (onBoarding : Dictionary String String) :
    (sendOnBoardingRequest acc userId onBoarding).parameters.lookup "id" =
      some (.string userId) := by
  unfold sendOnBoardingRequest
  simp only [sendOnBoardingLoop_eq]
  rw [AList.lookup_insert_ne (by decide), Dictionary.lookup_fill_of_not_keep (by decide)]
  simp [sendOnBoardingFixed]

end WebService
