import NaveggSdk.Identity.Account
import NaveggSdk.System.Requests

/-!
# The life of an object

Seen from outside, an object is in one of three phases. It is *named* when it has an id, *waiting*
when a request for one is in flight, and *mute* otherwise. Nothing but the answer to its own
request takes an object from one phase to another (`Phase.next`), whatever the other objects, the
suite, the connection and the clock do meanwhile: `phase_step` says that the object does what the
three phases say, and `speaks_step` that it asks for an id when it is built and at no other time,
and for anything else only under its name.

So an object that is mute once stays mute (`mute_forever`). One that is built without a connection
and finds no id in the suite is mute from the start.
-/

open WebService NaveggApi

inductive Phase where
  | named (userId : String)
  | waiting
  | mute
  deriving DecidableEq

namespace Phase

/-- The phase after an answer to the request for an id, if there is one. -/
def next : Phase → Option (Reading String) → Phase
  | .waiting, some (.accepted userId) => if userId = "0" then .mute else .named userId
  | .waiting, some .refused => .mute
  | phase, _ => phase

/-- The phase of an object that waits for an id, or does not. -/
def of (user : User) (waits : Bool) : Phase :=
  if user.getUserId ≠ "0" then .named user.getUserId else if waits then .waiting else .mute

theorem of_named {user : User} {waits : Bool} (h : user.getUserId ≠ "0") :
    of user waits = .named user.getUserId := if_pos h

theorem of_unnamed {user : User} {waits : Bool} (h : user.getUserId = "0") :
    of user waits = if waits then .waiting else .mute := if_neg (not_not.mpr h)

theorem next_mute (reading : Option (Reading String)) : next .mute reading = .mute := by
  unfold next
  split <;> simp_all

/-- Only the id matters. -/
theorem of_congr {user user' : User} (h : user'.userId = user.userId) (waits : Bool) :
    of user' waits = of user waits := by
  have hid : user'.getUserId = user.getUserId := by
    unfold User.getUserId
    rw [h]
  rw [of, of, hid]

end Phase

namespace Shared

def awaiting (s : Shared) (i : Nat) : List Posted :=
  s.inFlight.filter fun p => p.owner = i ∧ p.flight.request.call = .createUser

theorem mem_awaiting {s : Shared} {i : Nat} {p : Posted} :
    p ∈ s.awaiting i ↔ p ∈ s.inFlight ∧ p.owner = i ∧ p.flight.request.call = .createUser := by
  simp [awaiting]

def phase (s : Shared) (i : Nat) : Option Phase :=
  s.apps[i]?.map fun user => .of user !(s.awaiting i).isEmpty

/-- The answer to its request for an id that an object gets in a step. -/
def heard (s : Shared) (i : Nat) : Action → Option (Reading String)
  | .complete id response => (s.posted? id).bind fun p =>
    if p.owner = i ∧ p.flight.request.call = .createUser then some (readUserId response) else none
  | _ => none

theorem heard_eq_some {s : Shared} {i : Nat} {a : Action} {reading : Reading String}
    (h : s.heard i a = some reading) :
    ∃ id response p, a = .complete id response ∧ s.posted? id = some p ∧ p.owner = i ∧
      p.flight.request.call = .createUser ∧ reading = readUserId response := by
  cases a with
  | complete id response =>
      obtain ⟨p, hp, hif⟩ := Option.bind_eq_some_iff.mp h
      split at hif
      · rename_i hp'
        cases hif
        exact ⟨id, response, p, rfl, hp, hp'.1, hp'.2, rfl⟩
      · cases hif
  | construct idAppStore => cases h
  | call owner c => cases h
  | connectivity connected => cases h
  | clock now => cases h
  | restart => cases h

/-! ## What is known of the requests in flight -/

/-- The requests in flight, and what the objects wait for. -/
structure Posts (s : Shared) : Prop where
  bound : ∀ p ∈ s.inFlight, p.flight.id < s.issued
  unique : ∀ p ∈ s.inFlight, ∀ q ∈ s.inFlight, p.flight.id = q.flight.id → p = q
  there : ∀ p ∈ s.inFlight, p.owner < s.apps.length
  one : ∀ i, (s.awaiting i).length ≤ 1
  unnamed : ∀ (i : Nat) (user : User), s.apps[i]? = some user → user.getUserId ≠ "0" →
    s.awaiting i = []

theorem posted?_spec {s : Shared} {id : Nat} {p : Posted} (h : s.posted? id = some p) :
    p ∈ s.inFlight ∧ p.flight.id = id :=
  ⟨List.mem_of_find?_eq_some h, by simpa using List.find?_some h⟩

namespace Posts

variable {s : Shared} (h : s.Posts)
include h

/-- An object waits for one answer at most. -/
theorem awaiting_eq {i : Nat} {p : Posted} (hp : p ∈ s.awaiting i) : s.awaiting i = [p] := by
  have hone := h.one i
  match hlist : s.awaiting i with
  | [] =>
      rw [hlist] at hp
      cases hp
  | [q] =>
      rw [hlist, List.mem_singleton] at hp
      rw [hp]
  | q :: q' :: rest =>
      rw [hlist] at hone
      simp at hone

/-- A new object has no request yet. -/
theorem awaiting_length : s.awaiting s.apps.length = [] := by
  rw [List.eq_nil_iff_forall_not_mem]
  intro p hp
  obtain ⟨hmem, howner, -⟩ := mem_awaiting.mp hp
  exact absurd (h.there p hmem) (by rw [howner]; exact lt_irrefl _)

/-- Of the requests for an id, the one that is answered is taken, and the others remain. -/
theorem filter_remaining (i : Nat) (a : Action) :
    ((s.remaining a).filter fun p => p.owner = i ∧ p.flight.request.call = .createUser) =
      if (s.heard i a).isSome then [] else s.awaiting i := by
  cases a with
  | complete id response =>
      cases hp : s.posted? id with
      | none => simp [remaining, ran, hp, heard, awaiting]
      | some p =>
          obtain ⟨hmem, rfl⟩ := posted?_spec hp
          obtain ⟨user, huser⟩ : ∃ user, s.apps[p.owner]? = some user :=
            ⟨_, List.getElem?_eq_getElem (h.there p hmem)⟩
          have hremaining : s.remaining (.complete p.flight.id response) =
              (s.drop p.flight.id).inFlight := by
            simp [remaining, ran, hp, huser]
          rw [hremaining, drop, List.filter_filter]
          by_cases hmine : p.owner = i ∧ p.flight.request.call = .createUser
          · -- it is the one request that the object waits for
            have hheard : (s.heard i (.complete p.flight.id response)).isSome = true := by
              simp [heard, hp, hmine]
            rw [if_pos hheard, List.filter_eq_nil_iff]
            intro q hq hkept
            simp only [ne_eq, decide_not, Bool.and_eq_true, decide_eq_true_eq,
              Bool.not_eq_true', decide_eq_false_iff_not] at hkept
            have hone := h.awaiting_eq (mem_awaiting.mpr ⟨hmem, hmine⟩)
            have hq' : q ∈ s.awaiting i := mem_awaiting.mpr ⟨hq, hkept.1⟩
            rw [hone, List.mem_singleton] at hq'
            exact hkept.2 (by rw [hq'])
          · -- it is none of them, and no two have one number
            have hheard : (s.heard i (.complete p.flight.id response)).isSome ≠ true := by
              simp only [heard, hp, Option.bind_some, if_neg hmine]
              exact Bool.false_ne_true
            rw [if_neg hheard]
            apply List.filter_congr
            intro q hq
            by_cases hq' : q.owner = i ∧ q.flight.request.call = .createUser
            · have hne : q.flight.id ≠ p.flight.id := by
                intro heq
                obtain rfl := h.unique q hq p hmem heq
                exact hmine hq'
              simp [hq', hne]
            · simp [hq']
  | construct idAppStore => simp [remaining, heard, awaiting]
  | call owner c => simp [remaining, heard, awaiting]
  | connectivity connected => simp [remaining, heard, awaiting]
  | clock now => simp [remaining, heard, awaiting]
  | restart => simp [remaining, heard, awaiting]

/-- **What an object waits for after a step**: it asks for nothing, and waits for nothing any more
once it has its answer. -/
theorem awaiting_step {a : Action} (hlives : s.Lives a) {i : Nat} (hi : i < s.apps.length) :
    (s.step a).awaiting i = if (s.heard i a).isSome then [] else s.awaiting i := by
  rw [awaiting, inFlight_step hlives, List.filter_append, h.filter_remaining i a]
  have hnew : (((Flight.number s.issued (s.issuedBy a)).map
      (Posted.mk ((s.actor a).getD 0))).filter
        fun p => p.owner = i ∧ p.flight.request.call = .createUser) = [] := by
    rw [List.filter_eq_nil_iff]
    intro p hp hmine
    obtain ⟨f, hf, rfl⟩ := List.mem_map.mp hp
    simp only [decide_eq_true_eq] at hmine
    obtain ⟨howner, hcall⟩ := hmine
    have hissues := mem_issuedBy_iff.mp (Flight.mem_number hf)
    generalize f.request = r at hcall hissues
    cases hissues with
    | create idAppStore hmissing hconn => exact absurd howner hi.ne'
    | fetch owner user k acc huser hdue hid hconn hacc => cases hcall
    | send owner user k v acc huser hsup hid hconn hacc => cases hcall
    | flush owner user acc huser hflag hid hconn hacc => cases hcall
    | named id response p user userId acc hp huser hcall' hread hne hconn hacc => cases hcall
  rw [hnew, List.append_nil]

end Posts

/-! ## The id in memory -/

/-- **The id of an object after a step** is the one it heard, if it did. -/
theorem userId_step {s : Shared} {a : Action} (hlives : s.Lives a) {i : Nat} {user : User}
    (huser : s.apps[i]? = some user) :
    ∃ user', (s.step a).apps[i]? = some user' ∧ user'.userId =
      match s.heard i a with
      | some (.accepted userId) => some userId
      | _ => user.userId := by
  apply object_step hlives huser
  · intro hactor
    have hheard : s.heard i a = none := by
      by_contra hsome
      obtain ⟨reading, hreading⟩ := Option.ne_none_iff_exists'.mp hsome
      obtain ⟨id, response, p, rfl, hp, rfl, -⟩ := heard_eq_some hreading
      exact hactor (by rw [actor, hp, Option.map_some])
    rw [hheard]
  · rintro c rfl
    exact (KeepsId.call s.device c (.enter user s.defaults)).cached
  · rintro id response p rfl hp rfl
    by_cases hcall : p.flight.request.call = .createUser
    · have hheard : s.heard p.owner (.complete id response) = some (readUserId response) := by
        simp [heard, hp, hcall]
      rw [hheard, hcall]
      cases hread : readUserId response with
      | accepted userId =>
          exact (KeepsId.accepted s.device hread (.enter user s.defaults)).cached
      | refused =>
          refine (KeepsId.completion s.device .createUser ?_ (.enter user s.defaults)).cached
          simp [hread]
      | fatal why =>
          refine (KeepsId.completion s.device .createUser ?_ (.enter user s.defaults)).cached
          simp [hread]
    · have hheard : s.heard p.owner (.complete id response) = none := by
        simp [heard, hp, hcall]
      rw [hheard]
      refine (KeepsId.completion s.device _ ?_ (.enter user s.defaults)).cached
      exact fun hcreate => absurd hcreate hcall

/-! ## The phases -/

/-- An answer that ends the process is heard by nobody. -/
theorem not_fatal_of_lives {s : Shared} {a : Action} (hlives : s.Lives a) {i : Nat}
    (hi : i < s.apps.length) (why : Trap) : s.heard i a ≠ some (.fatal why) := by
  intro hheard
  obtain ⟨id, response, p, rfl, hp, rfl, hcall, hread⟩ := heard_eq_some hheard
  have huser : s.apps[p.owner]? = some s.apps[p.owner] := List.getElem?_eq_getElem hi
  have hdone := hlives.1 _ (by rw [ran, hp, Option.bind_some, huser, Option.map_some])
  rw [hcall] at hdone
  have htrap : WebService.completion s.device .createUser response
      (.enter s.apps[p.owner] s.defaults) = .trap why (.enter s.apps[p.owner] s.defaults) := by
    show createUserCompletion _ _ _ = _
    rw [createUserCompletion_eq, ← hread]
  rw [htrap] at hdone
  cases hdone

/-- **An object does what its phase says.** -/
theorem phase_step {s : Shared} (h : s.Posts) {a : Action} (hlives : s.Lives a) {i : Nat}
    {phase : Phase} (hphase : s.phase i = some phase) :
    (s.step a).phase i = some (phase.next (s.heard i a)) := by
  obtain ⟨user, huser, rfl⟩ := Option.map_eq_some_iff.mp hphase
  have hi : i < s.apps.length := (List.getElem?_eq_some_iff.mp huser).1
  obtain ⟨user', huser', hid⟩ := userId_step hlives huser
  rw [Shared.phase, huser', Option.map_some, h.awaiting_step hlives hi]
  cases hheard : s.heard i a with
  | none =>
      rw [hheard] at hid
      rw [Phase.of_congr hid]
      simp only [Option.isSome_none, Bool.false_eq_true, if_false]
      unfold Phase.next
      split <;> simp_all
  | some reading =>
      -- an answer was heard, so the object was waiting
      rw [hheard] at hid
      have hfatal := not_fatal_of_lives hlives hi
      obtain ⟨id, response, p, rfl, hp, howner, hcall, -⟩ := heard_eq_some hheard
      have hwaits : p ∈ s.awaiting i := mem_awaiting.mpr ⟨(posted?_spec hp).1, howner, hcall⟩
      have hzero : user.getUserId = "0" := by
        by_contra hne
        rw [h.unnamed i user huser hne] at hwaits
        cases hwaits
      have hwaiting : Phase.of user (!(s.awaiting i).isEmpty) = .waiting := by
        rw [Phase.of_unnamed hzero, h.awaiting_eq hwaits]
        rfl
      rw [hwaiting]
      simp only [Option.isSome_some, if_true, List.isEmpty_nil, Bool.not_true]
      cases reading with
      | accepted userId =>
          have hname : user'.getUserId = userId := by
            unfold User.getUserId
            rw [hid]
          by_cases hne : userId = "0"
          · rw [Phase.of_unnamed (hname.trans hne), Phase.next, if_pos hne]
            rfl
          · rw [Phase.of_named (by rwa [hname]), Phase.next, if_neg hne, hname]
      | refused =>
          rw [Phase.of_congr hid, Phase.of_unnamed hzero]
          rfl
      | fatal why => exact absurd hheard (hfatal why)

/-! ## What an object says -/

/-- The constructor always returns. -/
theorem lives_construct (s : Shared) (idAppStore : Option Int) :
    s.Lives (.construct idAppStore) := by
  constructor
  · intro x hx
    cases hx
    rfl
  · intro h
    cases h

/-- A new object waits for an id, or has one, or neither. -/
theorem awaiting_construct {s : Shared} (h : s.Posts) (idAppStore : Option Int) :
    (s.step (.construct idAppStore)).awaiting s.apps.length =
      if missing s.defaults && s.device.connected then
        [⟨s.apps.length, s.issued, createUserRequest s.device s.accountId⟩]
      else [] := by
  rw [awaiting, inFlight_step (lives_construct s idAppStore), List.filter_append]
  have hold : ((s.remaining (.construct idAppStore)).filter fun p =>
      p.owner = s.apps.length ∧ p.flight.request.call = .createUser) = [] := h.awaiting_length
  rw [hold, List.nil_append]
  by_cases hask : (missing s.defaults && s.device.connected) = true
  · simp [issuedBy, ran, init_eq, hask, Flight.number, actor, createUserRequest]
  · simp [issuedBy, ran, init_eq, hask, Flight.number]

/-- **An object asks for an id when it is built, and for anything else under its name.** -/
def Speaks (s : Shared) (a : Action) : Prop :=
  ∀ r ∈ s.issuedBy a, ∃ i, s.actor a = some i ∧
    ((r.call = .createUser ∧ i = s.apps.length ∧ (s.step a).phase i = some .waiting) ∨
      (r.call ≠ .createUser ∧ ∃ userId, (s.step a).phase i = some (.named userId) ∧
        r.parameters.lookup "id" = some (.string userId)))

/-- A named object that hears nothing is named afterwards. -/
theorem phase_step_of_named {s : Shared} (h : s.Posts) {a : Action} (hlives : s.Lives a) {i : Nat}
    {user : User} (huser : s.apps[i]? = some user) (hid : user.getUserId ≠ "0") :
    (s.step a).phase i = some (.named user.getUserId) := by
  have hphase : s.phase i = some (.named user.getUserId) := by
    rw [phase, huser, Option.map_some, Phase.of_named hid]
  rw [phase_step h hlives hphase]
  rfl

theorem speaks_step {s : Shared} (h : s.Posts) (a : Action) : s.Speaks a := by
  intro r hr
  have hissues := mem_issuedBy_iff.mp hr
  have hlives := lives_of_issues hissues
  cases hissues with
  | create idAppStore hmissing hconn =>
      refine ⟨s.apps.length, rfl, .inl ⟨rfl, rfl, ?_⟩⟩
      have huser : (s.step (.construct idAppStore)).apps[s.apps.length]? =
          some (built s.accountId s.defaults) := by
        rw [apps_step hlives, actor, if_pos rfl]
        simp [ran, init_eq]
      rw [phase, huser, Option.map_some, awaiting_construct h, hmissing, hconn,
        Phase.of_unnamed ((built_getUserId s.accountId s.defaults).mpr hmissing)]
      rfl
  | fetch owner user k acc huser hdue hid hconn hacc =>
      exact ⟨owner, rfl, .inr ⟨by simp, user.getUserId, phase_step_of_named h hlives huser hid,
        getSegmentsRequest_id _ _ _⟩⟩
  | send owner user k v acc huser hsup hid hconn hacc =>
      exact ⟨owner, rfl, .inr ⟨by simp, user.getUserId, phase_step_of_named h hlives huser hid,
        sendOnBoardingRequest_id _ _ _⟩⟩
  | flush owner user acc huser hflag hid hconn hacc =>
      exact ⟨owner, rfl, .inr ⟨by simp, user.getUserId, phase_step_of_named h hlives huser hid,
        sendOnBoardingRequest_id _ _ _⟩⟩
  | named id response p user userId acc hp huser hcall hread hne hconn hacc =>
      refine ⟨p.owner, by rw [actor, hp, Option.map_some], .inr ⟨by simp, userId, ?_,
        getSegmentsRequest_id _ _ _⟩⟩
      have hheard : s.heard p.owner (.complete id response) = some (.accepted userId) := by
        simp [heard, hp, hcall, hread]
      have hwaits : p ∈ s.awaiting p.owner :=
        mem_awaiting.mpr ⟨(posted?_spec hp).1, rfl, hcall⟩
      have hzero : user.getUserId = "0" := by
        by_contra hnamed
        rw [h.unnamed p.owner user huser hnamed] at hwaits
        cases hwaits
      have hphase : s.phase p.owner = some .waiting := by
        rw [phase, huser, Option.map_some, Phase.of_unnamed hzero, h.awaiting_eq hwaits]
        rfl
      rw [phase_step h hlives hphase, hheard, Phase.next, if_neg hne]

/-! ## Every run -/

theorem mem_remaining {s : Shared} {a : Action} {p : Posted} (h : p ∈ s.remaining a) :
    p ∈ s.inFlight := by
  cases a with
  | complete id response =>
      rw [remaining] at h
      by_cases hran : (s.ran (.complete id response)).isSome = true
      · rw [if_pos hran] at h
        exact (List.mem_filter.mp h).1
      · rwa [if_neg hran] at h
  | construct idAppStore => exact h
  | call owner c => exact h
  | connectivity connected => exact h
  | clock now => exact h
  | restart => exact h

/-- What a step puts in flight: one request of its actor at most, under the next number. -/
theorem posted_step (s : Shared) (a : Action) :
    (Flight.number s.issued (s.issuedBy a)).map (Posted.mk ((s.actor a).getD 0)) = [] ∨
      ∃ i r, s.actor a = some i ∧ (s.step a).apps[i]?.isSome = true ∧ (s.issuedBy a) = [r] ∧
        (Flight.number s.issued (s.issuedBy a)).map (Posted.mk ((s.actor a).getD 0)) =
          [⟨i, s.issued, r⟩] := by
  obtain hnil | ⟨r, hone, hissues⟩ := s.listed_step a
  · rw [hnil]
    exact .inl rfl
  · right
    have happs := apps_step (lives_of_issues hissues)
    obtain ⟨m, hran, -⟩ := ran_of_issues hissues
    obtain ⟨i, hactor⟩ : ∃ i, s.actor a = some i := by
      cases hissues with
      | create idAppStore hmissing hconn => exact ⟨_, rfl⟩
      | fetch owner user k acc huser hdue hid hconn hacc => exact ⟨owner, rfl⟩
      | send owner user k v acc huser hsup hid hconn hacc => exact ⟨owner, rfl⟩
      | flush owner user acc huser hflag hid hconn hacc => exact ⟨owner, rfl⟩
      | named id response p user userId acc hp huser hcall hread hne hconn hacc =>
          exact ⟨p.owner, by rw [actor, hp, Option.map_some]⟩
    refine ⟨i, r, hactor, ?_, hone, ?_⟩
    · rw [happs, if_pos hactor, hran]
      rfl
    · rw [hone, hactor]
      rfl

/-- **Every step keeps what is known of the requests in flight.** -/
theorem Posts.step {s : Shared} (h : s.Posts) (a : Action) : (s.step a).Posts := by
  by_cases hlives : s.Lives a
  · have hinFlight := inFlight_step hlives
    have hposted := s.posted_step a
    have hissued := s.issued_step a
    -- what is in flight is old, or it is the one new request
    have hcases : ∀ p ∈ (s.step a).inFlight, p ∈ s.inFlight ∨
        p.flight.id = s.issued ∧ (s.step a).issued = s.issued + 1 ∧
          (s.step a).apps[p.owner]?.isSome = true ∧
          ∀ q ∈ (s.step a).inFlight, q.flight.id = s.issued → q = p := by
      intro p hp
      rw [hinFlight] at hp
      obtain hold | hnew := List.mem_append.mp hp
      · exact .inl (mem_remaining hold)
      · obtain hnil | ⟨i, r, hactor, hthere, hone, hlist⟩ := hposted
        · rw [hnil] at hnew
          cases hnew
        · rw [hlist, List.mem_singleton] at hnew
          subst hnew
          refine .inr ⟨rfl, by rw [hissued, hone]; rfl, hthere, fun q hq hid => ?_⟩
          rw [hinFlight, hlist] at hq
          obtain hold | hnew := List.mem_append.mp hq
          · exact absurd (h.bound q (mem_remaining hold)) (by rw [hid]; exact lt_irrefl _)
          · exact List.mem_singleton.mp hnew
    constructor
    case bound =>
      intro p hp
      obtain hold | ⟨hid, hnext, -⟩ := hcases p hp
      · have hlt := h.bound p hold
        omega
      · omega
    case unique =>
      intro p hp q hq hid
      obtain hold | ⟨hpid, -, -, hpnew⟩ := hcases p hp
      · obtain hold' | ⟨hqid, -, -, hqnew⟩ := hcases q hq
        · exact h.unique p hold q hold' hid
        · exact hqnew p hp (hid.trans hqid)
      · exact (hpnew q hq (hid.symm.trans hpid)).symm
    case there =>
      intro p hp
      have hsome : (s.step a).apps[p.owner]?.isSome = true := by
        obtain hold | ⟨-, -, hthere, -⟩ := hcases p hp
        · obtain ⟨user', huser', -⟩ :=
            userId_step hlives (List.getElem?_eq_getElem (h.there p hold))
          rw [huser']
          rfl
        · exact hthere
      obtain ⟨user, huser⟩ := Option.isSome_iff_exists.mp hsome
      exact (List.getElem?_eq_some_iff.mp huser).1
    case one =>
      intro i
      by_cases hi : i < s.apps.length
      · rw [h.awaiting_step hlives hi]
        split
        · exact Nat.zero_le 1
        · exact h.one i
      · -- nothing that remains is of an object that was not there
        have hremaining : ((s.remaining a).filter fun p =>
            p.owner = i ∧ p.flight.request.call = .createUser) = [] := by
          rw [List.filter_eq_nil_iff]
          intro p hp hmine
          have howner : p.owner = i := (of_decide_eq_true hmine).1
          exact hi (howner ▸ h.there p (mem_remaining hp))
        rw [awaiting, hinFlight, List.filter_append, hremaining, List.nil_append]
        refine (List.length_filter_le _ _).trans ?_
        obtain hnil | ⟨j, r, -, -, -, hlist⟩ := hposted
        · rw [hnil]
          exact Nat.zero_le 1
        · rw [hlist]
          exact le_refl 1
    case unnamed =>
      intro i user' huser' hid
      by_cases hi : i < s.apps.length
      · rw [h.awaiting_step hlives hi]
        obtain ⟨user'', huser'', hname⟩ :=
          userId_step hlives (List.getElem?_eq_getElem hi)
        obtain rfl : user' = user'' := Option.some.inj (huser'.symm.trans huser'')
        cases hheard : s.heard i a with
        | some reading => rfl
        | none =>
            rw [hheard] at hname
            have hbefore : s.apps[i].getUserId ≠ "0" := by
              unfold User.getUserId at hid ⊢
              rwa [hname] at hid
            rw [h.unnamed i s.apps[i] (List.getElem?_eq_getElem hi) hbefore]
            rfl
      · -- the object is new
        have hnone : s.apps[i]? = none := List.getElem?_eq_none (Nat.not_lt.mp hi)
        rw [apps_step hlives, hnone, Option.or_none] at huser'
        by_cases hactor : s.actor a = some i
        · rw [if_pos hactor] at huser'
          cases a with
          | construct idAppStore =>
              obtain rfl := Option.some.inj hactor
              simp only [ran, Option.map_some, Outcome.memory_done, init_eq,
                Option.some.injEq] at huser'
              subst huser'
              have hmissing : missing s.defaults = false := by
                rw [← Bool.not_eq_true, ← built_getUserId s.accountId s.defaults]
                exact hid
              rw [awaiting_construct h, hmissing]
              rfl
          | call owner c =>
              cases hactor
              simp [ran, hnone] at huser'
          | complete id response =>
              obtain ⟨p, hp, rfl⟩ := Option.map_eq_some_iff.mp hactor
              simp [ran, hp, hnone] at huser'
          | connectivity connected => cases hactor
          | clock now => cases hactor
          | restart => cases hactor
        · rw [if_neg hactor] at huser'
          cases huser'
  · obtain ⟨happs, hinFlight⟩ := dead_step hlives
    have hawaiting : ∀ i, (s.step a).awaiting i = [] := by
      intro i
      rw [awaiting, hinFlight]
      rfl
    constructor
    · simp [hinFlight]
    · simp [hinFlight]
    · simp [hinFlight]
    · simp [hawaiting]
    · simp [hawaiting]

theorem posts_installed (accountId : Int) (device : Device) :
    (installed accountId device).Posts := by
  have hnone : ∀ i, (installed accountId device).awaiting i = [] := fun _ => rfl
  constructor
  · simp [installed]
  · simp [installed]
  · simp [installed]
  · simp [hnone]
  · simp [hnone]

/-- The phase of a new object: named by the suite, waiting if it could ask, mute if it could not. -/
def firstPhase (s : Shared) : Phase :=
  if missing s.defaults then if s.device.connected then .waiting else .mute
  else .named (built s.accountId s.defaults).getUserId

theorem phase_construct {s : Shared} (h : s.Posts) (idAppStore : Option Int) :
    (s.step (.construct idAppStore)).phase s.apps.length = some s.firstPhase := by
  have huser : (s.step (.construct idAppStore)).apps[s.apps.length]? =
      some (built s.accountId s.defaults) := by
    rw [apps_step (lives_construct s idAppStore), actor, if_pos rfl]
    simp [ran, init_eq]
  rw [phase, huser, Option.map_some, awaiting_construct h, firstPhase]
  cases hmissing : missing s.defaults with
  | true =>
      rw [Phase.of_unnamed ((built_getUserId s.accountId s.defaults).mpr hmissing)]
      cases s.device.connected <;> rfl
  | false =>
      have hid : (built s.accountId s.defaults).getUserId ≠ "0" := by
        rw [ne_eq, built_getUserId, hmissing]
        exact Bool.false_ne_true
      rw [Phase.of_named hid]
      rfl

/-- The step is one that the phases of the objects allow. -/
structure FollowsPhases (s : Shared) (a : Action) : Prop where
  speaks : s.Speaks a
  first : ∀ idAppStore, a = .construct idAppStore →
    (s.step a).phase s.apps.length = some s.firstPhase
  next : s.Lives a → ∀ i phase, s.phase i = some phase →
    (s.step a).phase i = some (phase.next (s.heard i a))

/-- **Every object lives by its phases**, in every run of any number of objects. It is named,
waiting or mute from the start; only the answer to its own request takes it from waiting to named or
to mute; and it asks for an id when it is built, and for anything else only while it is named, and
under that name. -/
theorem follows_phases (accountId : Int) (device : Device) (actions : List Action) :
    Runs.Each step FollowsPhases (installed accountId device) actions := by
  refine Runs.each_of_invariant (posts_installed accountId device) (fun s a h => h.step a) ?_ actions
  intro s a h
  constructor
  case speaks => exact speaks_step h a
  case first =>
    rintro idAppStore rfl
    exact phase_construct h idAppStore
  case next => exact fun hlives i phase hphase => phase_step h hlives hphase

/-- A mute object says nothing. -/
theorem silent_of_mute {s : Shared} (h : s.Posts) {i : Nat} (hmute : s.phase i = some .mute)
    {a : Action} (hactor : s.actor a = some i) : s.issuedBy a = [] := by
  rw [List.eq_nil_iff_forall_not_mem]
  intro r hr
  obtain ⟨j, hj, hspeaks⟩ := speaks_step h a r hr
  obtain rfl : i = j := Option.some.inj (hactor.symm.trans hj)
  obtain ⟨user, huser, -⟩ := Option.map_eq_some_iff.mp hmute
  obtain ⟨-, hnew, -⟩ | ⟨-, userId, hnamed, -⟩ := hspeaks
  · exact absurd (List.getElem?_eq_some_iff.mp huser).1 (by rw [hnew]; exact lt_irrefl _)
  · have hlives := lives_of_issues (mem_issuedBy_iff.mp hr)
    rw [phase_step h hlives hmute, Phase.next_mute] at hnamed
    cases hnamed

/-- **A mute object stays mute**, as long as its process lives: no connection, no other object, no id
that is stored meanwhile and no call makes it issue a request again. -/
theorem mute_forever (accountId : Int) (device : Device) (before : List Action) {i : Nat}
    (hmute : (Runs.run step (installed accountId device) before).phase i = some .mute)
    (later : List Action)
    (hlives : Runs.Each step Lives (Runs.run step (installed accountId device) before) later) :
    Runs.Each step (fun s a => s.actor a = some i → s.issuedBy a = [])
        (Runs.run step (installed accountId device) before) later ∧
      (Runs.run step (Runs.run step (installed accountId device) before) later).phase i =
        some .mute := by
  have hposts : (Runs.run step (installed accountId device) before).Posts :=
    Runs.run_invariant (posts_installed accountId device) (fun s a h => h.step a) before
  generalize Runs.run step (installed accountId device) before = s at hposts hmute hlives ⊢
  induction later generalizing s with
  | nil => exact ⟨trivial, hmute⟩
  | cons a as ih =>
      have hnext : (s.step a).phase i = some .mute := by
        rw [phase_step hposts hlives.1 hmute, Phase.next_mute]
      obtain ⟨hsilent, hlast⟩ := ih (s.step a) (hposts.step a) hnext hlives.2
      exact ⟨⟨fun hactor => silent_of_mute hposts hmute hactor, hsilent⟩, hlast⟩

/-- An object is built offline. Then the connection comes up, another object gets an id, which is
stored, and a pair is set through the first one. -/
def builtOffline : List Action :=
  [.connectivity true, .construct none, .complete 0 (named "u1"),
    .call 0 (.setOnboarding "a" "1"), .call 0 (.getSegments "gender")]

theorem mute_forever_builtOffline :
    (Runs.run step (Runs.run step (installed 7 (.phone 1700000000))
      [.connectivity false, .construct none]) builtOffline).phase 0 = some .mute :=
  (mute_forever 7 _ _ (by decide +kernel) _ (by decide +kernel)).2

end Shared
