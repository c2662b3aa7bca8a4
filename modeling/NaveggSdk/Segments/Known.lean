import NaveggSdk.System.Consistent
import NaveggSdk.System.Copies

/-!
# What the objects of an account answer

The segments are saved in the suite and in the object that asked for them. Other objects of the
account go on with theirs: `getSegments` answers from memory, and what brings an object a newer map
is an answer to a request of its own, or being built again. `segments_known` says how far behind an
answer can be. What is compared is the values of the segments, since each call takes the custom
entry apart and puts it together again, which no value shows as long as there are no permanent
segments; no code adds one.
-/

open WebService NaveggApi

def segmentValues (segments : Dictionary String String) (k : String) : String :=
  (segments.lookup k).getD ""

/-- The two places of the segments: in the object, and in the suite; if there are no permanent
ones. -/
def Memory.segments? (m : Memory) : Option ((String → String) × (String → String)) :=
  if m.user.customListPermanent = [] then
    some (m.user.segment, segmentValues (storedSegments m.defaults))
  else none

section
variable (device : Device) (m : Memory)

theorem spared_segments : Spared Memory.segments? where
  browsed m := by
    unfold Memory.segments?
    rw [User.browsed_customListPermanent, User.browsed_defaults]
    by_cases hnone : m.user.customListPermanent = []
    · rw [if_pos hnone, if_pos hnone, funext (User.browsed_segment m hnone)]
    · rw [if_neg hnone, if_neg hnone]
  issue _ _ := rfl

/-- A write to the suite under another key. -/
theorem Memory.segments?_congr {m m' : Memory}
    (hnone : m'.user.customListPermanent = m.user.customListPermanent)
    (hsegments : m'.user.jsonSegments = m.user.jsonSegments)
    (hstored : m'.defaults.dictionary "jsonSegments" = m.defaults.dictionary "jsonSegments") :
    m'.segments? = m.segments? := by
  have hsegment : m'.user.segment = m.user.segment := by
    funext k
    rw [User.segment, User.segment, hsegments]
  unfold Memory.segments? storedSegments
  rw [hnone, hsegment, hstored]

theorem WebService.segments_setToSendOnBoarding (status : Bool) :
    (setToSendOnBoarding status m).segments? = m.segments? :=
  Memory.segments?_congr rfl rfl (UserDefaults.dictionary_set_ne _ _ (by decide))

/-- No call saves segments. -/
theorem Call.segments_run (c : Call) : (c.run device m).memory.segments? = m.segments? := by
  apply spared_segments.run device m
  · exact fun status m => segments_setToSendOnBoarding m status
  · exact fun m => rfl
  · exact fun k v m => Memory.segments?_congr rfl rfl (UserDefaults.dictionary_set_ne _ _ (by simp))

/-- What the handler of `getSegments` saves. -/
def WebService.savedBy (call : WebCall) (response : DataResponse) : Option (String → String) :=
  match call, readSegments response with
  | .getSegments, .accepted segments => some (segmentValues segments)
  | _, _ => none

/-- **Of the handlers, that of segments does**, in both places. -/
theorem WebService.segments_completion (hnone : m.user.customListPermanent = []) (call : WebCall)
    (response : DataResponse) :
    (WebService.completion device call response m).memory.segments? =
      some (((savedBy call response).map fun v => (v, v)).getD
        (m.user.segment, segmentValues (storedSegments m.defaults))) := by
  have hm : m.segments? = some (m.user.segment, segmentValues (storedSegments m.defaults)) :=
    if_pos hnone
  cases call with
  | createUser =>
      have hnothing : savedBy .createUser response = none := by
        unfold savedBy
        cases readSegments response <;> rfl
      rw [hnothing, Option.map_none, Option.getD_none, ← hm]
      refine spared_segments.createUserCompletion device m response (fun userId => ?_) rfl
      refine Memory.segments?_congr rfl rfl ?_
      show (m.defaults.setOptional (some (.string userId)) "NVGSDK_USERID").dictionary _ = _
      exact UserDefaults.dictionary_setOptional_ne _ _ (by decide)
  | getSegments =>
      show (getSegmentsCompletion device response m).memory.segments? = _
      rw [getSegmentsCompletion_eq]
      unfold savedBy
      cases readSegments response with
      | accepted segments =>
          have hsaved : (User.saveSegments device segments m).defaults.dictionary "jsonSegments" =
              some segments := by
            simp [User.saveSegments]
          refine (if_pos hnone).trans (congrArg some (Prod.ext rfl ?_))
          show segmentValues (storedSegments _) = segmentValues segments
          rw [storedSegments, Outcome.memory_done, hsaved, Option.getD_some]
      | refused => exact hm
      | fatal why => exact hm
  | sendOnBoarding =>
      have hnothing : savedBy .sendOnBoarding response = none := by
        unfold savedBy
        cases readSegments response <;> rfl
      rw [hnothing, Option.map_none, Option.getD_none, ← hm]
      refine part_sendOnBoardingCompletion Memory.segments? device m response
        (fun status m => segments_setToSendOnBoarding m status) fun m => ?_
      exact Memory.segments?_congr rfl rfl (UserDefaults.dictionary_set_ne _ _ (by decide))

end

/-- What the two places are read off. -/
theorem Memory.places_of_segments? {m : Memory} {p : (String → String) × (String → String)}
    (h : m.segments? = some p) : m.user.customListPermanent = [] ∧
      (m.user.segment, segmentValues (storedSegments m.defaults)) = p := by
  unfold segments? at h
  split at h
  · exact ⟨‹_›, Option.some.inj h⟩
  · cases h

def Copied.segments : Copied (String → String) where
  stored defaults := segmentValues (storedSegments defaults)
  copy user := user.segment
  accepted _ call response := savedBy call response
  Fit user := user.customListPermanent = []
  fit_built _ _ := rfl
  fit_call device c m hnone :=
    (Memory.places_of_segments? ((Call.segments_run device m c).trans (if_pos hnone))).1
  fit_completion device call response m hnone :=
    (Memory.places_of_segments? (segments_completion device m hnone call response)).1
  copy_built _ _ := rfl
  stored_registered accountId idAppStore defaults := by
    rw [storedSegments, (registered_readers accountId idAppStore defaults "jsonSegments" (by decide)
      (by decide) (by decide)).2.2.2]
    rfl
  call device c m hnone :=
    (Memory.places_of_segments? ((Call.segments_run device m c).trans (if_pos hnone))).2
  completion device call response m hnone :=
    (Memory.places_of_segments? (segments_completion device m hnone call response)).2

/-- `getSegments` answers what the object has, if it answers. -/
theorem NaveggApi.answer_of_getSegments {device : Device} {k answer : String} {m m' : Memory}
    (hnone : m.user.customListPermanent = [])
    (h : NaveggApi.getSegments device k m = .done answer m') : answer = m.user.segment k := by
  rw [NaveggApi.getSegments, User.getSegments_eq] at h
  have hbrowsed := User.browsed_segment m hnone k
  split at h
  · have hfetch := fetch device (User.browsed m)
    generalize WebService.getSegments device (User.browsed m) = x at hfetch h
    cases hfetch with
    | idle hidle =>
        cases h
        exact hbrowsed
    | issue acc hid hconn hacc =>
        cases h
        exact hbrowsed
    | overflow hid hconn hacc => cases h
  · cases h
    exact hbrowsed

namespace Shared

/-- **The segments**, in every run of any number of objects: the suite has the ones that were saved
last. A call of `getSegments`, on any object and for any name, answers (if it does not trap) from
the ones that were saved last of those the object knows, and all it does not know was saved by
others. -/
theorem segments_known (accountId : Int) (device : Device) (actions : List Action) :
    let s := after accountId device actions
    let history := Copied.segments.history (installed accountId device) actions
    segmentValues (storedSegments s.defaults) = Replicas.last (fun _ => "") history ∧
      ∀ i user, s.apps[i]? = some user → ∃ known unknown, history = known ++ unknown ∧
        (∀ w ∈ unknown, w.1 ≠ i) ∧ ∀ k answer m,
          NaveggApi.getSegments s.device k (.enter user s.defaults) = .done answer m →
            answer = Replicas.last (fun _ => "") known k := by
  intro s history
  refine ⟨(Copied.segments.behind_after accountId device actions).store, fun i user huser => ?_⟩
  obtain ⟨known, unknown, hsplit, hcopy, hothers⟩ :=
    Copied.segments.knows_after accountId device actions huser
  have hfit := Copied.segments.allFit_after accountId device actions
  refine ⟨known, unknown, hsplit, hothers, fun k answer m hanswer => ?_⟩
  have hnone : user.customListPermanent = [] := hfit user (List.mem_of_getElem? huser)
  rw [answer_of_getSegments (m := .enter user s.defaults) hnone hanswer]
  exact congrFun hcopy k

end Shared
