import NaveggSdk.System.Copies

/-!
# Where the ids come from

The id that the requests of an object are made with is its copy of the one in the suite. Both were
named by a server, in an answer to one of the objects of the account (`ids_known`). But the copies
are behind: an object that was built before another one got an id does not learn of it, and if the
server has named two, the objects go on under different ids.
-/

open WebService NaveggApi

section
variable (device : Device) (m : Memory)

/-- The two places of the id: in the object, and in the suite. -/
def Memory.ids (m : Memory) : Option String × Option String :=
  (m.user.userId, m.defaults.string "NVGSDK_USERID")

theorem spared_ids : Spared Memory.ids where
  browsed _ := rfl
  issue _ _ := rfl

theorem WebService.ids_setToSendOnBoarding (status : Bool) :
    (setToSendOnBoarding status m).ids = m.ids :=
  Prod.ext rfl (UserDefaults.string_set_ne _ _ (by decide))

/-- No call takes over an id. -/
theorem Call.ids_run (c : Call) : (c.run device m).memory.ids = m.ids := by
  apply spared_ids.run device m
  · exact fun status m => ids_setToSendOnBoarding m status
  · exact fun m => rfl
  · exact fun k v m => Prod.ext rfl (UserDefaults.string_set_ne _ _ (by simp))

theorem Memory.ids_identify (userId : String) :
    (m.identify userId).ids = (some userId, some userId) := by
  simp [Memory.ids, Memory.identify, setRunningCreateUser, User.setUserId,
    UserDefaults.setOptional]

/-- **Of the handlers, that of an id does**, in both places. -/
theorem WebService.ids_completion (call : WebCall) (response : DataResponse) :
    (WebService.completion device call response m).memory.ids =
      match call, readUserId response with
      | .createUser, .accepted userId => (some userId, some userId)
      | _, _ => m.ids := by
  cases call with
  | createUser =>
      show (createUserCompletion device response m).memory.ids = _
      rw [createUserCompletion_eq]
      cases readUserId response with
      | accepted userId =>
          exact (spared_ids.getSegments device (m.identify userId)).trans (m.ids_identify userId)
      | refused => rfl
      | fatal why => rfl
  | getSegments =>
      refine part_getSegmentsCompletion Memory.ids device m response fun segments => ?_
      exact Prod.ext rfl ((UserDefaults.string_set_ne _ _ (by decide)).trans
        (UserDefaults.string_set_ne _ _ (by decide)))
  | sendOnBoarding =>
      refine part_sendOnBoardingCompletion Memory.ids device m response
        (fun status m => ids_setToSendOnBoarding m status) fun m => ?_
      exact Prod.ext rfl (UserDefaults.string_set_ne _ _ (by decide))

end

def Copied.ids : Copied (Option String) where
  stored defaults := defaults.string "NVGSDK_USERID"
  copy user := user.userId
  accepted _ call response :=
    match call, readUserId response with
    | .createUser, .accepted userId => some (some userId)
    | _, _ => none
  Fit _ := True
  fit_built _ _ := trivial
  fit_call _ _ _ _ := trivial
  fit_completion _ _ _ _ _ := trivial
  copy_built _ _ := rfl
  stored_registered accountId idAppStore defaults :=
    (registered_readers accountId idAppStore defaults "NVGSDK_USERID" (by decide) (by decide)
      (by decide)).1
  call device c m _ := Call.ids_run device m c
  completion device call response m _ := by
    refine (ids_completion device m call response).trans ?_
    cases call <;> cases readUserId response <;> rfl

namespace Shared

/-- The id of an object with one was accepted by an object. -/
theorem named_of_knows {history : List (Nat × Option String)} {i : Nat} {user : User}
    (h : Replicas.Knows none history i user.userId) (hid : user.getUserId ≠ "0") :
    ∃ j, (j, some user.getUserId) ∈ history := by
  have huserId : user.userId = some user.getUserId := by
    unfold User.getUserId at hid ⊢
    cases huserId : user.userId with
    | none =>
        rw [huserId] at hid
        exact absurd rfl hid
    | some userId => rfl
  obtain ⟨known, unknown, rfl, hcopy, -⟩ := h
  rw [huserId] at hcopy
  obtain ⟨-, hnone⟩ | ⟨j, hmem⟩ := Replicas.last_cases none known
  · rw [hnone] at hcopy
    cases hcopy
  · rw [← hcopy] at hmem
    exact ⟨j, List.mem_append_left unknown hmem⟩

/-- **The ids**, in every run of any number of objects: the suite has the one that was accepted
last, and each object the last one that it knows, where all it does not know was accepted by others.
Every request but the one for an id goes out under an id that some object of the account has
accepted from a server, in this step at the latest. -/
theorem ids_known (accountId : Int) (device : Device) (actions : List Action) :
    let s := after accountId device actions
    let history := Copied.ids.history (installed accountId device) actions
    s.defaults.string "NVGSDK_USERID" = Replicas.last none history ∧
      (∀ i user, s.apps[i]? = some user → ∃ known unknown, history = known ++ unknown ∧
        user.userId = Replicas.last none known ∧ ∀ w ∈ unknown, w.1 ≠ i) ∧
      ∀ a, ∀ r ∈ s.issuedBy a, r.call ≠ .createUser →
        ∃ userId i, r.parameters.lookup "id" = some (.string userId) ∧
          (i, some userId) ∈ history ++ (Copied.ids.written s a).toList := by
  intro s history
  have hknows : ∀ {i : Nat} {user : User}, s.apps[i]? = some user →
      Replicas.Knows none history i user.userId :=
    fun huser => Copied.ids.knows_after accountId device actions huser
  refine ⟨(Copied.ids.behind_after accountId device actions).store, fun i user huser => hknows huser,
    fun a r hr hcall => ?_⟩
  have hissues := mem_issuedBy_iff.mp hr
  cases hissues with
  | create idAppStore hmissing hconn => exact absurd rfl hcall
  | fetch owner user k acc huser hdue hid hconn hacc =>
      obtain ⟨j, hmem⟩ := named_of_knows (hknows huser) hid
      exact ⟨_, j, getSegmentsRequest_id _ _ _, List.mem_append_left _ hmem⟩
  | send owner user k v acc huser hsup hid hconn hacc =>
      obtain ⟨j, hmem⟩ := named_of_knows (hknows huser) hid
      exact ⟨_, j, sendOnBoardingRequest_id _ _ _, List.mem_append_left _ hmem⟩
  | flush owner user acc huser hflag hid hconn hacc =>
      obtain ⟨j, hmem⟩ := named_of_knows (hknows huser) hid
      exact ⟨_, j, sendOnBoardingRequest_id _ _ _, List.mem_append_left _ hmem⟩
  | named id response p user userId acc hp huser hnamed hread hne hconn hacc =>
      refine ⟨userId, p.owner, getSegmentsRequest_id _ _ _, List.mem_append_right _ ?_⟩
      rw [Copied.written, hp, Option.bind_some, huser, Option.bind_some, hnamed, Option.mem_toList]
      show Option.map _ (match WebCall.createUser, readUserId response with
        | .createUser, .accepted userId => some (some userId)
        | _, _ => none) = _
      rw [hread]
      rfl

end Shared
