import NaveggSdk.Library.Runs
import NaveggSdk.System.Frame
import NaveggSdk.System.Shared

/-!
# Does one account keep one user identity?

Every object that finds no user id in the suite asks for one. The lock that is meant to prevent a
second request is the object's own, so two objects built one after the other both ask, and the
handler of the later answer writes its id over the one that is already there. The objects keep what
they have in memory, and their requests go on under different names.

This is the only way to lose an identity: an answer that names another user than the one already
stored (`IdentitySafe`, `identity_kept_iff`).
-/

open WebService NaveggApi

def UserDefaults.userId (d : UserDefaults) : Option String := d.string "NVGSDK_USERID"

theorem UserDefaults.userId_set_ne (d : UserDefaults) (v : PropertyList) {key : String}
    (h : "NVGSDK_USERID" ≠ key) : (d.set v key).userId = d.userId :=
  UserDefaults.string_set_ne d v h

/-- The request is under the name that is persisted. -/
def Request.Signed (r : Request) (userId : Option String) : Prop :=
  ∃ id, userId = some id ∧ r.parameters.lookup "id" = some (.string id)

/-! ## What a call does to the identity -/

/-- A call that leaves the identity alone, in the suite and in memory, and issues requests only
under the name in memory. -/
structure KeepsId (m : Memory) (x : Outcome Unit) : Prop where
  persisted : x.memory.defaults.userId = m.defaults.userId
  cached : x.memory.user.userId = m.user.userId
  requests : ∀ r ∈ x.memory.requests, r ∈ m.requests ∨
    m.user.getUserId ≠ "0" ∧ r.parameters.lookup "id" = some (.string m.user.getUserId)

namespace KeepsId

/-- Of three memories, if the identity stays the same all the way. -/
theorem trans {m m' m'' : Memory} (h : KeepsId m (.done () m')) (h' : KeepsId m' (.done () m'')) :
    KeepsId m (.done () m'') := by
  refine ⟨h'.persisted.trans h.persisted, h'.cached.trans h.cached, fun r hr => ?_⟩
  have hcached : m'.user.userId = m.user.userId := h.cached
  have hid : m'.user.getUserId = m.user.getUserId := by
    unfold User.getUserId
    rw [hcached]
  rcases h'.requests r hr with hold | hnew
  · exact h.requests r hold
  · rw [hid] at hnew
    exact .inr hnew

/-- A write that issues nothing. -/
theorem of_silent {m m' : Memory} (hpersisted : m'.defaults.userId = m.defaults.userId)
    (hcached : m'.user.userId = m.user.userId) (hrequests : m'.requests = m.requests) :
    KeepsId m (.done () m') := by
  refine ⟨hpersisted, hcached, fun r hr => .inl ?_⟩
  rw [← hrequests]
  exact hr

theorem frame (device : Device) : Frame device fun m m' => KeepsId m (.done () m') where
  refl _ := of_silent rfl rfl rfl
  trans := trans
  browsed _ := of_silent rfl rfl rfl
  reread _ := of_silent rfl rfl rfl
  issue m r hid hsigned := by
    refine ⟨rfl, rfl, fun r' hr' => ?_⟩
    rcases List.mem_append.mp hr' with hold | hnew
    · exact .inl hold
    · rw [List.mem_singleton.mp hnew]
      exact .inr ⟨hid, hsigned⟩
  setToSendOnBoarding _ _ := of_silent (UserDefaults.userId_set_ne _ _ (by decide)) rfl rfl
  setDateLastSync _ _ := of_silent (UserDefaults.userId_set_ne _ _ (by decide)) rfl rfl
  setRunningCreateUser _ _ := of_silent rfl rfl rfl
  saveSegments _ _ :=
    of_silent ((UserDefaults.userId_set_ne _ _ (by decide)).trans
      (UserDefaults.userId_set_ne _ _ (by decide))) rfl rfl

/-- **No public call touches the identity.** -/
theorem call (device : Device) (c : Call) (m : Memory) : KeepsId m (c.run device m) := by
  have hstore : ∀ k v, c = .setOnboarding k v → KeepsId m (.done () (store k v m)) :=
    fun k v _ => of_silent (UserDefaults.userId_set_ne _ _ (by simp)) rfl rfl
  obtain ⟨hpersisted, hcached, hrequests⟩ := (frame device).call c m hstore
  exact ⟨hpersisted, hcached, hrequests⟩

/-- A handler that accepts an id takes it over, in the suite and in memory. -/
theorem accepted (device : Device) {response : DataResponse} {userId : String}
    (hread : readUserId response = .accepted userId) (m : Memory) :
    KeepsId (m.identify userId) (completion device .createUser response m) := by
  show KeepsId _ (createUserCompletion device response m)
  rw [createUserCompletion_eq, hread]
  obtain ⟨hpersisted, hcached, hrequests⟩ := (frame device).getSegments (m.identify userId)
  exact ⟨hpersisted, hcached, hrequests⟩

/-- Every other handler leaves the identity alone. -/
theorem completion (device : Device) (call : WebCall) {response : DataResponse}
    (h : call = .createUser → ∀ userId, readUserId response ≠ .accepted userId) (m : Memory) :
    KeepsId m (WebService.completion device call response m) := by
  obtain ⟨hpersisted, hcached, hrequests⟩ := (frame device).completion call response m
    fun userId hcall hread => absurd hread (h hcall userId)
  exact ⟨hpersisted, hcached, hrequests⟩

end KeepsId

namespace Shared

/-! ## The objects agree on the identity -/

/-- What holds as long as the identity was never replaced: an id in memory is the persisted one. -/
structure OneIdentity (s : Shared) : Prop where
  cached : ∀ user ∈ s.apps, user.getUserId ≠ "0" → s.defaults.userId = some user.getUserId
  bound : ∀ p ∈ s.inFlight, p.flight.id < s.issued

/-- The step does not replace the persisted id, and every request for segments or of onboarding that
it issues is under the persisted id. -/
def KeepsIdentity (s : Shared) (a : Action) : Prop :=
  (missing s.defaults = false → (s.step a).defaults.userId = s.defaults.userId) ∧
    ∀ p ∈ (s.step a).inFlight, s.issued ≤ p.flight.id → p.flight.request.call ≠ .createUser →
      p.flight.request.Signed (s.step a).defaults.userId

/-- The steps that cannot replace an id: an answer of `createUser` that is accepted finds no id in
the suite, or the same one. -/
def IdentitySafe (s : Shared) : Action → Prop
  | .complete id response => ∀ p user userId, s.posted? id = some p →
    p.flight.request.call = .createUser → s.apps[p.owner]? = some user →
      readUserId response = .accepted userId →
        missing s.defaults = true ∨ s.defaults.userId = some userId
  | _ => True

/-- An id in memory that is no `"0"` is what the memory holds. -/
theorem userId_of_getUserId {user : User} {userId : Option String} (h : user.userId = userId)
    (hid : user.getUserId ≠ "0") : userId = some user.getUserId := by
  subst h
  unfold User.getUserId at hid ⊢
  cases huser : user.userId with
  | none => simp [huser] at hid
  | some id => rfl

/-- A suite without an id agrees with no object that has one. -/
theorem not_missing_of_cached {d : UserDefaults} {id : String} (h : d.userId = some id)
    (hid : id ≠ "0") : missing d = false := by
  unfold missing
  rw [show d.string "NVGSDK_USERID" = some id from h]
  simpa using hid

namespace OneIdentity

variable {s : Shared}

/-- The end of a call that leaves the objects in agreement. -/
theorem settle (h : s.OneIdentity) {owner : Nat} {x : Outcome Unit}
    (hothers : ∀ user ∈ s.apps, user.getUserId ≠ "0" →
      x.memory.defaults.userId = some user.getUserId)
    (hcaller : x.memory.user.getUserId ≠ "0" →
      x.memory.defaults.userId = some x.memory.user.getUserId) :
    (s.settle owner x).OneIdentity := by
  constructor
  · intro user huser hid
    rcases mem_apps_settle s owner x huser with hold | rfl
    · exact hothers user hold hid
    · exact hcaller hid
  · intro p hp
    unfold Shared.settle at hp ⊢
    cases x with
    | trap why m => simp at hp
    | done value m =>
        rcases List.mem_append.mp hp with hold | hnew
        · exact Nat.lt_add_right _ (h.bound p hold)
        · obtain ⟨f, hf, rfl⟩ := List.mem_map.mp hnew
          exact ((Flight.number_ordered _ _).2 f hf).2

theorem drop (h : s.OneIdentity) (id : Nat) : (s.drop id).OneIdentity :=
  ⟨h.cached, fun p hp => h.bound p (List.mem_filter.mp hp).1⟩

/-- The requests of a call that ends are signed, if the call signs them. -/
theorem signed_settle (h : s.OneIdentity) {owner : Nat} {x : Outcome Unit}
    (hx : ∀ r ∈ x.memory.requests, r.call ≠ .createUser → r.Signed x.memory.defaults.userId) :
    ∀ p ∈ (s.settle owner x).inFlight, s.issued ≤ p.flight.id →
      p.flight.request.call ≠ .createUser →
        p.flight.request.Signed (s.settle owner x).defaults.userId := by
  intro p hp hnew hcall
  rcases mem_inFlight_settle s owner x hp with hold | ⟨-, -, hr⟩
  · exact absurd (h.bound p hold) (Nat.not_lt.mpr hnew)
  · exact hx _ hr hcall

/-- The memory a call of one of the objects starts from. -/
theorem enter (h : s.OneIdentity) {owner : Nat} {user : User} (huser : s.apps[owner]? = some user)
    (hid : user.getUserId ≠ "0") : s.defaults.userId = some user.getUserId :=
  h.cached user (List.mem_of_getElem? huser) hid

/-- **A call that leaves the identity alone** issues signed requests. -/
theorem signed_of_keepsId (h : s.OneIdentity) {owner : Nat} {user : User}
    (huser : s.apps[owner]? = some user) {x : Outcome Unit}
    (hx : KeepsId (.enter user s.defaults) x) :
    ∀ r ∈ x.memory.requests, r.call ≠ .createUser → r.Signed x.memory.defaults.userId := by
  intro r hr _
  rcases hx.requests r hr with hold | ⟨hid, hsigned⟩
  · simp at hold
  · exact ⟨user.getUserId, hx.persisted.trans (h.enter huser hid), hsigned⟩

/-- … and leaves the objects in agreement. -/
theorem settle_of_keepsId (h : s.OneIdentity) {owner : Nat} {user : User}
    (huser : s.apps[owner]? = some user) {x : Outcome Unit}
    (hx : KeepsId (.enter user s.defaults) x) : (s.settle owner x).OneIdentity := by
  have hid : x.memory.user.getUserId = user.getUserId := by
    unfold User.getUserId
    rw [hx.cached, Memory.enter_user]
  apply h.settle
  · intro other hother hne
    rw [hx.persisted]
    exact h.cached other hother hne
  · intro hne
    rw [hid] at hne ⊢
    rw [hx.persisted]
    exact h.enter huser hne

end OneIdentity

/-- What one answer of `createUser` does, once it is accepted. -/
theorem accepted_spec (device : Device) {response : DataResponse} {userId : String}
    (hread : readUserId response = .accepted userId) (user : User) (defaults : UserDefaults) :
    let x := WebService.completion device .createUser response (.enter user defaults)
    x.memory.defaults.userId = some userId ∧ x.memory.user.userId = some userId ∧
      ∀ r ∈ x.memory.requests, r.call ≠ .createUser → r.Signed (some userId) := by
  have hx := KeepsId.accepted device hread (.enter user defaults)
  have hpersisted : (Memory.identify userId (.enter user defaults)).defaults.userId = some userId :=
    UserDefaults.string_setOptional _ (some userId)
  refine ⟨hx.persisted.trans hpersisted, hx.cached, fun r hr _ => ?_⟩
  rcases hx.requests r hr with hold | ⟨-, hsigned⟩
  · simp at hold
  · exact ⟨userId, rfl, hsigned⟩

/-! ## The steps -/

section
variable {s : Shared} (h : s.OneIdentity)
include h

/-- A step that neither writes to the suite nor issues a request. -/
theorem keepsIdentity_quiet {a : Action} (hdefaults : (s.step a).defaults = s.defaults)
    (hinFlight : (s.step a).inFlight = s.inFlight) : s.KeepsIdentity a := by
  rw [KeepsIdentity, hdefaults, hinFlight]
  exact ⟨fun _ => rfl, fun p hp hnew => absurd (h.bound p hp) (Nat.not_lt.mpr hnew)⟩

/-- A new object takes the id from the suite, and asks for one if there is none. -/
theorem construct_spec (idAppStore : Option Int) :
    s.KeepsIdentity (.construct idAppStore) ∧ (s.step (.construct idAppStore)).OneIdentity := by
  have hpersisted : (registered s.accountId idAppStore s.defaults).userId = s.defaults.userId :=
    (registered_readers _ _ _ _ (by decide) (by decide) (by decide)).1
  have hnew : ∀ user ∈ s.apps ++ [built s.accountId s.defaults], user.getUserId ≠ "0" →
      s.defaults.userId = some user.getUserId := by
    intro user huser hid
    rcases List.mem_append.mp huser with hold | hbuilt
    · exact h.cached user hold hid
    · rw [List.mem_singleton.mp hbuilt] at hid ⊢
      exact userId_of_getUserId rfl hid
  have hwith : OneIdentity { s with apps := s.apps ++ [built s.accountId s.defaults] } :=
    ⟨hnew, h.bound⟩
  have hstep : s.step (.construct idAppStore) =
      { s with
        apps := s.apps ++ [(init s.device s.accountId idAppStore s.defaults).user] }.settle
          s.apps.length (.done () (init s.device s.accountId idAppStore s.defaults)) := rfl
  rw [init_eq] at hstep
  rw [KeepsIdentity, hstep]
  constructor
  · refine ⟨fun _ => hpersisted, hwith.signed_settle fun r hr hcall => ?_⟩
    by_cases hask : (missing s.defaults && s.device.connected) = true
    · have heq : r = createUserRequest s.device s.accountId := by simpa [hask] using hr
      rw [heq] at hcall
      exact absurd rfl hcall
    · simp [hask] at hr
  · apply hwith.settle
    · intro user huser hid
      exact hpersisted.trans (hnew user huser hid)
    · intro hid
      exact hpersisted.trans (hnew _ (by simp) hid)

/-- A public call of one of the objects. -/
theorem call_spec (owner : Nat) (c : Call) :
    s.KeepsIdentity (.call owner c) ∧ (s.step (.call owner c)).OneIdentity := by
  cases huser : s.apps[owner]? with
  | none =>
      have hidle : s.step (.call owner c) = s := by simp only [step, huser]
      exact ⟨keepsIdentity_quiet h (by rw [hidle]) (by rw [hidle]), by rwa [hidle]⟩
  | some user =>
      have hx := KeepsId.call s.device c (.enter user s.defaults)
      have hstep : s.step (.call owner c) =
          s.settle owner (c.run s.device (.enter user s.defaults)) := by
        simp only [step, huser]
      rw [KeepsIdentity, hstep]
      exact ⟨⟨fun _ => hx.persisted, h.signed_settle (h.signed_of_keepsId huser hx)⟩,
        h.settle_of_keepsId huser hx⟩

/-- An answer that no object waits for. -/
theorem complete_idle {id : Nat} {response : DataResponse}
    (hidle : s.step (.complete id response) = s)
    (hnone : ∀ p, s.posted? id = some p → s.apps[p.owner]? = none) :
    (s.KeepsIdentity (.complete id response) ↔ s.IdentitySafe (.complete id response)) ∧
      (s.step (.complete id response)).OneIdentity := by
  refine ⟨iff_of_true (keepsIdentity_quiet h (by rw [hidle]) (by rw [hidle])) ?_, by rwa [hidle]⟩
  intro p user userId hp _ huser
  simp [hnone p hp] at huser

/-- An answer: it keeps the identity exactly if it is safe. -/
theorem complete_spec (id : Nat) (response : DataResponse) :
    (s.KeepsIdentity (.complete id response) ↔ s.IdentitySafe (.complete id response)) ∧
      (s.IdentitySafe (.complete id response) →
        (s.step (.complete id response)).OneIdentity) := by
  cases hp : s.posted? id with
  | none =>
      have hidle : s.step (.complete id response) = s := by simp only [step, hp]
      have hspec := complete_idle h hidle (by simp [hp])
      exact ⟨hspec.1, fun _ => hspec.2⟩
  | some p =>
      cases huser : s.apps[p.owner]? with
      | none =>
          have hidle : s.step (.complete id response) = s := by simp only [step, hp, huser]
          have hspec := complete_idle h hidle (by
            intro q hq
            rw [hp, Option.some.injEq] at hq
            rw [← hq, huser])
          exact ⟨hspec.1, fun _ => hspec.2⟩
      | some user =>
          have hdrop := h.drop id
          have hstep : s.step (.complete id response) = (s.drop id).settle p.owner
              (WebService.completion s.device p.flight.request.call response
                (.enter user s.defaults)) := by
            simp only [step, hp, huser]
          by_cases haccept : p.flight.request.call = .createUser ∧
              ∃ userId, readUserId response = .accepted userId
          · obtain ⟨hcall, userId, hread⟩ := haccept
            obtain ⟨hpersisted, hcached, hsigned⟩ :=
              accepted_spec s.device hread user s.defaults
            have hsafe : s.IdentitySafe (.complete id response) ↔
                (missing s.defaults = true ∨ s.defaults.userId = some userId) := by
              constructor
              · intro hall
                exact hall p user userId hp hcall huser hread
              · intro hone q user' userId' hq _ _ hread'
                rw [hread, Reading.accepted.injEq] at hread'
                rwa [← hread']
            rw [KeepsIdentity, hsafe, hstep, hcall]
            refine ⟨?_, fun hone => ?_⟩
            · constructor
              · rintro ⟨hkeep, -⟩
                cases hmissing : missing s.defaults with
                | true => exact .inl rfl
                | false => exact .inr ((hkeep hmissing).symm.trans hpersisted)
              · intro hone
                refine ⟨fun hmissing => ?_, hdrop.signed_settle ?_⟩
                · rcases hone with htrue | hsame
                  · simp [hmissing] at htrue
                  · exact hpersisted.trans hsame.symm
                · rw [hpersisted]
                  exact hsigned
            · -- whoever has an id in memory has the persisted one, which the answer repeats
              apply hdrop.settle
              · intro other hother hid
                have hcache : s.defaults.userId = some other.getUserId := h.cached other hother hid
                rcases hone with hmissing | hsame
                · simp [not_missing_of_cached hcache hid] at hmissing
                · rw [hpersisted, ← hsame]
                  exact hcache
              · intro hid
                exact hpersisted.trans (userId_of_getUserId hcached hid)
          · have hx := KeepsId.completion s.device p.flight.request.call
              (fun hcall userId hread => haccept ⟨hcall, userId, hread⟩) (.enter user s.defaults)
            rw [KeepsIdentity, hstep]
            refine ⟨iff_of_true ⟨fun _ => hx.persisted, ?_⟩ ?_, fun _ => ?_⟩
            · exact hdrop.signed_settle (hdrop.signed_of_keepsId huser hx)
            · intro q user' userId hq hcall _ hread
              rw [hp, Option.some.injEq] at hq
              rw [← hq] at hcall
              exact absurd ⟨hcall, userId, hread⟩ haccept
            · exact hdrop.settle_of_keepsId huser hx

/-- **One step**: it keeps the identity exactly if it is safe. -/
theorem keepsIdentity_iff (a : Action) : s.KeepsIdentity a ↔ s.IdentitySafe a := by
  cases a with
  | construct idAppStore => exact iff_of_true (construct_spec h idAppStore).1 trivial
  | call owner c => exact iff_of_true (call_spec h owner c).1 trivial
  | complete id response => exact (complete_spec h id response).1
  | connectivity connected => exact iff_of_true (keepsIdentity_quiet h rfl rfl) trivial
  | clock now => exact iff_of_true (keepsIdentity_quiet h rfl rfl) trivial
  | restart =>
      refine iff_of_true ⟨fun _ => rfl, ?_⟩ trivial
      intro p hp
      simp [step] at hp

/-- A safe step leaves the objects in agreement. -/
theorem oneIdentity_step {a : Action} (hsafe : s.IdentitySafe a) : (s.step a).OneIdentity := by
  cases a with
  | construct idAppStore => exact (construct_spec h idAppStore).2
  | call owner c => exact (call_spec h owner c).2
  | complete id response => exact (complete_spec h id response).2 hsafe
  | connectivity connected => exact ⟨h.cached, h.bound⟩
  | clock now => exact ⟨h.cached, h.bound⟩
  | restart =>
      constructor
      · intro user huser
        simp [step] at huser
      · intro p hp
        simp [step] at hp

end

/-- **The identity is kept in exactly the runs in which no accepted answer names another user than
the one already stored.** -/
theorem identity_kept_iff (accountId : Int) (device : Device) (actions : List Action) :
    Runs.Each step KeepsIdentity (installed accountId device) actions ↔
      Runs.Each step IdentitySafe (installed accountId device) actions := by
  apply Runs.each_iff_each (I := OneIdentity)
  · constructor
    · intro user huser
      simp [installed] at huser
    · intro p hp
      simp [installed] at hp
  · exact fun s a h => keepsIdentity_iff h a
  · exact fun s a h hsafe => oneIdentity_step h hsafe

/-! ### Two objects, two users

Both objects are built before the first answer, so both ask for an id, and the second answer
replaces the first. -/

def twins : List Action :=
  [.construct none, .construct none, .complete 0 (named "u1"), .complete 1 (named "u2")]

theorem identity_lost :
    ¬ Runs.Each step KeepsIdentity (installed 7 (.phone 1700000000)) twins := by
  rintro ⟨-, -, -, ⟨hkeep, -⟩, -⟩
  have hfirst : missing (Runs.run step (installed 7 (.phone 1700000000))
      [.construct none, .construct none, .complete 0 (named "u1")]).defaults = false := by
    decide +kernel
  have hsecond : (Runs.run step (installed 7 (.phone 1700000000)) twins).defaults.userId ≠
      (Runs.run step (installed 7 (.phone 1700000000))
        [.construct none, .construct none, .complete 0 (named "u1")]).defaults.userId := by
    decide +kernel
  exact hsecond (hkeep hfirst)

end Shared
