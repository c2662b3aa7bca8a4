import NaveggSdk.System.Sound

/-!
# What a malformed answer does

Both JSON handlers read the body inside a `do`/`catch`. What is caught there is a body that does not
parse; a missing body, a body of another shape, and a member of another type end the process in a
force-unwrap or a forced cast, which no `catch` sees. `answer_right_iff` lists the answers that end
well, by the shape of the body.

An accepted id is not the end of it: the handler goes on to fetch the segments, and that traps for
an account number that is no `UInt32`.
-/

open WebService NaveggApi

/-- The body of an answer has the shape that its handler is made for: an object whose `nvgid` is a
string, or an object of strings. -/
def DataResponse.WellShaped (response : DataResponse) (call : WebCall) : Prop :=
  ∃ data json, response.data = some data ∧ data.jsonObject = some json ∧
    match call with
    | .createUser => ∃ fields userId, json.asDictionary = some fields ∧
      fields.lookup "nvgid" = some (.string userId)
    | .getSegments => ∃ segments, json.asStringDictionary = some segments
    | .sendOnBoarding => True

/-- What a handler of a JSON answer should do: end, and change nothing on account of a body that has
not the shape it is made for. The lock of `createUser` is then down: given back by the handler of
`createUser`, and never taken or given back before in the handler of `getSegments`. -/
def AnswerRight (m : Memory) (call : WebCall) (response : DataResponse) (x : Outcome Unit) : Prop :=
  ∃ m', x = .done () m' ∧
    (¬ response.WellShaped call →
      m'.user.userId = m.user.userId ∧
      m'.defaults.string "NVGSDK_USERID" = m.defaults.string "NVGSDK_USERID" ∧
      m'.user.jsonSegments = m.user.jsonSegments ∧
      m'.defaults.dictionary "jsonSegments" = m.defaults.dictionary "jsonSegments" ∧
      m'.user.dateLastSync = m.user.dateLastSync ∧
      m'.defaults.string "dateLastSync" = m.defaults.string "dateLastSync" ∧
      m'.user.ws.runningCreateUser ≠ some true ∧
      (call = .createUser → m'.user.ws.runningCreateUser = some false))

/-- The answers that end well.

* There is a body (it may be empty, as far as the serializer lets it).
* If it is JSON, it is an object. For `getSegments`, all its values are strings.
* For `createUser`, if it has an `nvgid`, that is a string, and the account number fits a `UInt32`
  unless the fetch that follows is not made at all. -/
def EndsWell (s : System) (call : WebCall) (response : DataResponse) : Prop :=
  ∃ data, response.data = some data ∧ ∀ json, data.jsonObject = some json →
    match call with
    | .createUser => ∃ fields, json.asDictionary = some fields ∧
      ∀ v, fields.lookup "nvgid" = some v → ∃ userId, v = .string userId ∧
        (userId ≠ "0" → s.device.connected = true → AccountFits s.accountId)
    | .getSegments => ∃ segments, json.asStringDictionary = some segments
    | .sendOnBoarding => True

namespace AnswerRight

variable {m : Memory} {call : WebCall} {response : DataResponse}

theorem not_trap {why : Trap} {m' : Memory} : ¬ AnswerRight m call response (.trap why m') := by
  rintro ⟨m'', heq, -⟩
  cases heq

/-- Nothing is asked of the answers of the right shape, besides an end. -/
theorem done_of_wellShaped {m' : Memory} (h : response.WellShaped call) :
    AnswerRight m call response (.done () m') :=
  ⟨m', rfl, fun hnot => absurd h hnot⟩

theorem done_of_unchanged {m' : Memory} (huserId : m'.user.userId = m.user.userId)
    (hstoredUserId : m'.defaults.string "NVGSDK_USERID" = m.defaults.string "NVGSDK_USERID")
    (hsegments : m'.user.jsonSegments = m.user.jsonSegments)
    (hstored : m'.defaults.dictionary "jsonSegments" = m.defaults.dictionary "jsonSegments")
    (hdate : m'.user.dateLastSync = m.user.dateLastSync)
    (hstoredDate : m'.defaults.string "dateLastSync" = m.defaults.string "dateLastSync")
    (hlock : m'.user.ws.runningCreateUser ≠ some true)
    (hfreed : call = .createUser → m'.user.ws.runningCreateUser = some false) :
    AnswerRight m call response (.done () m') :=
  ⟨m', rfl, fun _ =>
    ⟨huserId, hstoredUserId, hsegments, hstored, hdate, hstoredDate, hlock, hfreed⟩⟩

end AnswerRight

theorem JSON.eq_string_of_asString {v : JSON} {s : String} (h : v.asString = some s) :
    v = .string s := by
  cases v with
  | string s' =>
      rw [JSON.asString, Option.some.injEq] at h
      rw [h]
  | _ => cases h

namespace System

/-! ## The lock is only held while an id is missing -/

def LockedWhileMissing (s : System) : Prop :=
  ∀ user, s.app = some user → user.ws.runningCreateUser = some true → missing s.defaults = true

/-- A call that touches neither. -/
theorem locked_settle {s s' : System} (h : LockedWhileMissing s) {user : User}
    (happ : s.app = some user) {es : List Event} {m : Memory} (hws : m.user.ws = user.ws)
    (hmissing : missing m.defaults = missing s.defaults) :
    LockedWhileMissing (s'.settle es (.done () m)) := by
  intro user' huser' hlock
  cases huser'
  show missing m.defaults = true
  rw [hmissing]
  exact h user happ (by rw [← hws]; exact hlock)

/-- A handler that gives the lock back. -/
theorem locked_freed {s' : System} {es : List Event} {m : Memory}
    (hlock : m.user.ws.runningCreateUser = some false) :
    LockedWhileMissing (s'.settle es (.done () m)) := by
  intro user' huser' htaken
  cases huser'
  exact absurd (hlock.symm.trans htaken) nofun

theorem locked_dead {s : System} (h : s.app = none) : LockedWhileMissing s := by
  intro user huser
  simp [h] at huser

theorem locked_step {s t : System} {a : Action} (hstep : Step s a t) (h : LockedWhileMissing s) :
    LockedWhileMissing t := by
  cases hstep with
  | dead c hdead => exact h
  | unasked id response hnone => exact h
  | connectivity connected => exact h
  | clock now => exact h
  | restart idAppStore =>
      intro user huser hlock
      cases huser
      -- the constructor takes the lock only where it finds no id
      show missing (registered s.accountId idAppStore s.defaults) = true
      rw [missing_registered]
      by_contra hid
      simp [built, hid] at hlock
  | browse user k happ hidle => exact locked_settle h happ rfl rfl
  | fetch user k acc happ hdue hid hconn hacc => exact locked_settle h happ rfl rfl
  | suppressed user k v happ hsup => exact locked_settle h happ rfl rfl
  | storeMissing user k v happ hsup hid =>
      exact locked_settle h happ rfl (Sound.missing_store user k v s.defaults)
  | storeOffline user k v happ hsup hid hconn =>
      refine locked_settle h happ rfl ((Sound.missing_setToSendOnBoarding _ _).trans ?_)
      exact Sound.missing_store user k v s.defaults
  | storeSend user k v acc happ hsup hid hconn hacc =>
      exact locked_settle h happ rfl (Sound.missing_store user k v s.defaults)
  | flushIdle user happ hidle => exact locked_settle h happ rfl rfl
  | flush user acc happ hflag hid hconn hacc => exact locked_settle h happ rfl rfl
  | userId user f response userId happ hf hcall hread hidle => exact locked_freed rfl
  | userIdFetch user f response userId acc happ hf hcall hread hid hconn hacc =>
      exact locked_freed rfl
  | userIdRefused user f response happ hf hcall hread => exact locked_freed rfl
  | segments user f response segments happ hf hcall hread =>
      exact locked_settle h happ rfl (Sound.missing_saveSegments _ _ _)
  | segmentsRefused user f response happ hf hcall hread => exact locked_settle h happ rfl rfl
  | delivered user f response happ hf hcall hread =>
      refine locked_settle h happ rfl ((Sound.missing_setDateLastSync _ _).trans ?_)
      exact Sound.missing_setToSendOnBoarding _ _
  | undelivered user f response happ hf hcall hread =>
      exact locked_settle h happ rfl (Sound.missing_setToSendOnBoarding _ _)
  | _ => exact locked_dead rfl

theorem locked_after (accountId : Int) (device : Device) (actions : List Action) :
    LockedWhileMissing (after accountId device actions) :=
  Runs.run_invariant (I := LockedWhileMissing) (locked_dead rfl)
    (fun s a h => locked_step (step_step s a) h) actions

end System

/-! ## Reading a successful answer, shape by shape -/

/-- After an accepted id, only the fetch of the segments is left to go wrong. -/
theorem accepted_right_iff {s : System} (hsound : System.Sound s) {user : User}
    (happ : s.app = some user) {response : DataResponse} (userId : String)
    (hshape : response.WellShaped .createUser) :
    AnswerRight (.enter user s.defaults) .createUser response
        (WebService.getSegments s.device (Memory.identify userId (.enter user s.defaults))) ↔
      (userId ≠ "0" → s.device.connected = true → AccountFits s.accountId) := by
  have hfetch := WebService.fetch s.device (Memory.identify userId (.enter user s.defaults))
  generalize WebService.getSegments s.device (Memory.identify userId (.enter user s.defaults)) = x
    at hfetch ⊢
  cases hfetch with
  | idle hidle =>
      refine iff_of_true (AnswerRight.done_of_wellShaped hshape) fun hid hconn => ?_
      rcases hidle with hzero | hoff
      · exact absurd hzero hid
      · simp [hconn] at hoff
  | issue acc hid hconn hacc =>
      exact iff_of_true (AnswerRight.done_of_wellShaped hshape)
        fun _ _ => hsound.fits happ hacc
  | overflow hid hconn hacc =>
      exact iff_of_false AnswerRight.not_trap
        fun hall => hsound.not_fits happ hacc (hall hid hconn)

theorem createUser_right_iff {s : System} (hsound : System.Sound s) {user : User}
    (happ : s.app = some user) {response : DataResponse}
    (hsuccess : response.responseJSON true = .success) :
    AnswerRight (.enter user s.defaults) .createUser response
        (createUserCompletion s.device response (.enter user s.defaults)) ↔
      EndsWell s .createUser response := by
  have hrefused : AnswerRight (.enter user s.defaults) .createUser response
      (.done () (setRunningCreateUser false (.enter user s.defaults))) :=
    .done_of_unchanged rfl rfl rfl rfl rfl rfl nofun fun _ => rfl
  rw [createUserCompletion_eq]
  unfold readUserId
  rw [hsuccess]
  cases hdata : response.data with
  | none => exact iff_of_false AnswerRight.not_trap (by simp [EndsWell, hdata])
  | some data =>
      dsimp only
      cases hjson : data.jsonObject with
      | none =>
          refine iff_of_true hrefused ⟨data, hdata, ?_⟩
          intro json hsome
          simp [hjson] at hsome
      | some json =>
          dsimp only
          cases hobject : json.asDictionary with
          | none =>
              exact iff_of_false AnswerRight.not_trap (by simp [EndsWell, hdata, hjson, hobject])
          | some fields =>
              have hends : EndsWell s .createUser response ↔
                  ∀ v, fields.lookup "nvgid" = some v → ∃ userId, v = .string userId ∧
                    (userId ≠ "0" → s.device.connected = true → AccountFits s.accountId) := by
                simp [EndsWell, hdata, hjson, hobject]
              rw [hends]
              dsimp only
              cases hlookup : fields.lookup "nvgid" with
              | none => exact iff_of_true hrefused nofun
              | some v =>
                  dsimp only
                  cases hstring : v.asString with
                  | none =>
                      refine iff_of_false AnswerRight.not_trap fun hall => ?_
                      obtain ⟨userId, rfl, -⟩ := hall v rfl
                      cases hstring
                  | some userId =>
                      obtain rfl := JSON.eq_string_of_asString hstring
                      refine (accepted_right_iff hsound happ userId
                        ⟨data, json, hdata, hjson, fields, userId, hobject, hlookup⟩).trans ?_
                      simp

theorem getSegments_right_iff {device : Device} {m : Memory} {response : DataResponse}
    (hlock : m.user.ws.runningCreateUser ≠ some true)
    (hsuccess : response.responseJSON false = .success) (s : System) :
    AnswerRight m .getSegments response (getSegmentsCompletion device response m) ↔
      EndsWell s .getSegments response := by
  rw [getSegmentsCompletion_eq]
  unfold readSegments
  rw [hsuccess]
  cases hdata : response.data with
  | none => exact iff_of_false AnswerRight.not_trap (by simp [EndsWell, hdata])
  | some data =>
      dsimp only
      cases hjson : data.jsonObject with
      | none =>
          refine iff_of_true (AnswerRight.done_of_unchanged rfl rfl rfl rfl rfl rfl hlock nofun) ?_
          refine ⟨data, hdata, ?_⟩
          intro json hsome
          simp [hjson] at hsome
      | some json =>
          dsimp only
          cases hshape : json.asStringDictionary with
          | none =>
              exact iff_of_false AnswerRight.not_trap (by simp [EndsWell, hdata, hjson, hshape])
          | some segments =>
              refine iff_of_true (AnswerRight.done_of_wellShaped ?_) ?_
              · exact ⟨data, json, hdata, hjson, segments, hshape⟩
              · refine ⟨data, hdata, ?_⟩
                intro json' hsome
                rw [hjson, Option.some.injEq] at hsome
                rw [← hsome]
                exact ⟨segments, hshape⟩

/-! ## Every answer, in every reachable state -/

namespace System

/-- **A successful answer ends well in exactly the listed cases**, whenever it arrives. -/
theorem answer_right_iff (accountId : Int) (device : Device) (actions : List Action) (user : User)
    (happ : (after accountId device actions).app = some user) (f : Flight)
    (hf : f ∈ (after accountId device actions).inFlight)
    (hcall : f.request.call ≠ .sendOnBoarding) (response : DataResponse)
    (hsuccess : response.responseJSON (decide (f.request.call = .createUser)) = .success) :
    AnswerRight (.enter user (after accountId device actions).defaults) f.request.call response
        (completion (after accountId device actions).device f.request.call response
          (.enter user (after accountId device actions).defaults)) ↔
      EndsWell (after accountId device actions) f.request.call response := by
  have hsound := sound_after accountId device actions
  have hlocked := locked_after accountId device actions
  generalize after accountId device actions = s at *
  cases hkind : f.request.call with
  | createUser =>
      rw [hkind] at hsuccess
      exact createUser_right_iff hsound happ hsuccess
  | getSegments =>
      rw [hkind] at hsuccess
      -- A fetch in flight carries an id, so nobody is waiting for one.
      have hidentified : missing s.defaults = false := (hsound.identified f hf (by simp [hkind])).1
      refine getSegments_right_iff (fun htaken => ?_) hsuccess s
      have hmissing := hlocked user happ htaken
      simp [hidentified] at hmissing
  | sendOnBoarding => exact absurd hkind hcall

def asking : List Action := [.restart none]

/-- The user, the suite and the flight of that process. -/
theorem asking_live : ∃ user f, (after 7 (.phone 1700000000) asking).app = some user ∧
    (after 7 (.phone 1700000000) asking).flight? 0 = some f ∧ f.request.call = .createUser := by
  have hlive : (after 7 (.phone 1700000000) asking).app.isSome = true := by decide +kernel
  have hasked : ((after 7 (.phone 1700000000) asking).flight? 0).map
      (fun f => f.request.call) = some .createUser := by
    decide +kernel
  obtain ⟨user, happ⟩ := Option.isSome_iff_exists.mp hlive
  obtain ⟨f, hf, hcall⟩ := Option.map_eq_some_iff.mp hasked
  exact ⟨user, f, happ, hf, hcall⟩

theorem answer_right_iff_named :
    ∃ user f, (after 7 (.phone 1700000000) asking).app = some user ∧
      f ∈ (after 7 (.phone 1700000000) asking).inFlight ∧
      (AnswerRight (.enter user (after 7 (.phone 1700000000) asking).defaults) f.request.call
          (named "u1")
          (completion (after 7 (.phone 1700000000) asking).device f.request.call (named "u1")
            (.enter user (after 7 (.phone 1700000000) asking).defaults)) ↔
        EndsWell (after 7 (.phone 1700000000) asking) f.request.call (named "u1")) := by
  obtain ⟨user, f, happ, hf, hcall⟩ := asking_live
  have hmem := (mem_of_flight? hf).1
  refine ⟨user, f, happ, hmem, ?_⟩
  exact answer_right_iff 7 _ asking user happ f hmem (by simp [hcall]) (named "u1")
    (by rw [hcall]; rfl)

/-- An answer whose body is the JSON text of an empty array. -/
def emptyArray : DataResponse := .ok (.json (.array []) "[]")

theorem array_traps : ∃ user f, (after 7 (.phone 1700000000) asking).app = some user ∧
    f ∈ (after 7 (.phone 1700000000) asking).inFlight ∧ f.request.call = .createUser ∧
    emptyArray.responseJSON true = .success ∧
    ¬ AnswerRight (.enter user (after 7 (.phone 1700000000) asking).defaults) f.request.call
        emptyArray
        (completion (after 7 (.phone 1700000000) asking).device f.request.call emptyArray
          (.enter user (after 7 (.phone 1700000000) asking).defaults)) := by
  obtain ⟨user, f, happ, hf, hcall⟩ := asking_live
  refine ⟨user, f, happ, (mem_of_flight? hf).1, hcall, rfl, ?_⟩
  rw [hcall]
  exact AnswerRight.not_trap

end System
