import NaveggSdk.System.Consistent

/-!
# What holds in every reachable state

`Sound` collects it, in three parts.

* **The objects**: the live `NaveggApi` agrees with the suite; a dead process has nothing in flight.
* **The requests**: those in flight stand in the order of their numbers; a `createUser` in flight
  means that no id is stored, and there is at most one; any other request in flight means that an id
  is stored and that the account number fits a `UInt32` (both were checked when the request was
  built, and neither can be undone).
* **The suite mirrors the history** (`Mirror`): the two dates and the segments are those of the
  newest recorded send and the newest saved answer, and the flag is the outcome of the newest
  attempt to send.

`sound_after` is the induction over a run.
-/

open WebService NaveggApi

/-- `UInt32(accountId)` does not trap. -/
def AccountFits (accountId : Int) : Prop := 0 ≤ accountId ∧ accountId < 2 ^ 32

instance (accountId : Int) : Decidable (AccountFits accountId) :=
  inferInstanceAs (Decidable (_ ∧ _))

theorem User.getAccountId_isSome {user : User} :
    user.getAccountId.isSome = true ↔ AccountFits user.accountId := by
  unfold User.getAccountId AccountFits
  split <;> simp_all

theorem User.accountFits_of_some {user : User} {acc : UInt32} (h : user.getAccountId = some acc) :
    AccountFits user.accountId :=
  User.getAccountId_isSome.mp (by rw [h]; rfl)

theorem User.not_accountFits_of_none {user : User} (h : user.getAccountId = none) :
    ¬ AccountFits user.accountId := by
  rw [← User.getAccountId_isSome, h]
  simp

/-- For consistent objects the two ways to miss a user id agree. -/
theorem Memory.Consistent.getUserId {accountId : Int} {m : Memory} (h : m.Consistent accountId) :
    m.user.getUserId = "0" ↔ missing m.defaults = true := by
  unfold User.getUserId missing
  rw [h.userId]
  cases m.defaults.string "NVGSDK_USERID" <;> simp

namespace History

structure Mirror (defaults : UserDefaults) (log : List Event) : Prop where
  dateOnBoarding : defaults.string "dateLastSyncOnBoarding" =
    (recorded log).head?.map fun p => Util.dateToString p.2
  dateLastSync : defaults.string "dateLastSync" =
    (saved log).head?.map fun p => Util.dateToString p.date
  jsonSegments : defaults.dictionary "jsonSegments" = (saved log).head?.map Saved.segments
  toSend : defaults.bool "toSendOnBoarding" = (outcomes log).head?.getD false

namespace Mirror

variable {defaults : UserDefaults} {log : List Event}

/-- Writes and events of which the mirror shows nothing. -/
theorem quiet (h : Mirror defaults log) (es : List Event) {d : UserDefaults}
    (hdate : d.string "dateLastSyncOnBoarding" = defaults.string "dateLastSyncOnBoarding")
    (hsync : d.string "dateLastSync" = defaults.string "dateLastSync")
    (hsegments : d.dictionary "jsonSegments" = defaults.dictionary "jsonSegments")
    (hflag : d.bool "toSendOnBoarding" = defaults.bool "toSendOnBoarding")
    (hrecorded : recorded es = []) (hsaved : saved es = []) (houtcomes : outcomes es = []) :
    Mirror d (es ++ log) := by
  unfold recorded at hrecorded
  unfold saved at hsaved
  unfold outcomes at houtcomes
  constructor
  · rw [hdate, h.dateOnBoarding, recorded, recorded, List.filterMap_append, hrecorded]
    rfl
  · rw [hsync, h.dateLastSync, saved, saved, List.filterMap_append, hsaved]
    rfl
  · rw [hsegments, h.jsonSegments, saved, saved, List.filterMap_append, hsaved]
    rfl
  · rw [hflag, h.toSend, outcomes, outcomes, List.filterMap_append, houtcomes]
    rfl

/-- An attempt that issued nothing leaves the flag down. -/
theorem skipped (h : Mirror defaults log) (hflag : defaults.bool "toSendOnBoarding" = false) :
    Mirror defaults (.skipped :: log) :=
  ⟨h.dateOnBoarding, h.dateLastSync, h.jsonSegments, hflag⟩

/-- A failed attempt takes the flag down. -/
theorem failed (h : Mirror defaults log) {e : Event} (hrecorded : e.recorded? = none)
    (hsaved : e.saved? = none) (houtcome : e.outcome? = some false) :
    Mirror (OnBoarding.setToSendOnBoarding false defaults) (e :: log) := by
  unfold OnBoarding.setToSendOnBoarding
  constructor
  case dateOnBoarding =>
    rw [recorded, List.filterMap_cons_none hrecorded, UserDefaults.string_set_ne _ _ (by decide)]
    exact h.dateOnBoarding
  case dateLastSync =>
    rw [saved, List.filterMap_cons_none hsaved, UserDefaults.string_set_ne _ _ (by decide)]
    exact h.dateLastSync
  case jsonSegments =>
    rw [saved, List.filterMap_cons_none hsaved, UserDefaults.dictionary_set_ne _ _ (by decide)]
    exact h.jsonSegments
  case toSend =>
    rw [outcomes, List.filterMap_cons_some houtcome, UserDefaults.bool_set]
    rfl

/-- A successful send puts it up and stamps the date. -/
theorem delivered (h : Mirror defaults log) {f : Flight} {response : DataResponse} {date : Date}
    (hcall : f.request.call = .sendOnBoarding) (hread : recordsSuccess response = true) :
    Mirror ((OnBoarding.setToSendOnBoarding true defaults).set
      (.string (Util.dateToString date)) "dateLastSyncOnBoarding")
      (.answered f response date :: log) := by
  obtain ⟨hdate, hsync, hsegments, hflag⟩ := h
  constructor <;>
    simp_all [OnBoarding.setToSendOnBoarding, recorded, saved, outcomes, Event.recorded?,
      Event.saved?, Event.outcome?]

/-- A saved answer replaces the segments and stamps their date. -/
theorem segments (h : Mirror defaults log) {f : Flight} {response : DataResponse}
    {segments : Dictionary String String} {date : Date} (hcall : f.request.call = .getSegments)
    (hread : readSegments response = .accepted segments) :
    Mirror ((defaults.set (.dictionary segments) "jsonSegments").set
      (.string (Util.dateToString date)) "dateLastSync") (.answered f response date :: log) := by
  obtain ⟨hdate, hsync, hsegments, hflag⟩ := h
  constructor <;>
    simp_all [recorded, saved, outcomes, Event.recorded?, Event.saved?, Event.outcome?]

end Mirror

/-- An attempt that succeeded was recorded. -/
theorem recorded_ne_nil_of_outcome {log : List Event} (h : true ∈ outcomes log) :
    recorded log ≠ [] := by
  obtain ⟨e, he, hout⟩ := List.mem_filterMap.mp h
  intro hnil
  have hnone : e.recorded? = none := List.filterMap_eq_nil_iff.mp hnil e he
  cases e with
  | answered flight response date =>
      by_cases hcall : flight.request.call = .sendOnBoarding
      · simp only [Event.outcome?, if_pos hcall, Option.some.injEq] at hout
        simp [Event.recorded?, hcall, hout] at hnone
      · simp [Event.outcome?, hcall] at hout
  | skipped => simp [Event.outcome?] at hout
  | launched segments => simp [Event.outcome?] at hout
  | stored key value => simp [Event.outcome?] at hout
  | issued flight => simp [Event.outcome?] at hout

/-- The flag is only up after a recorded success. -/
theorem Mirror.recorded_ne_nil {defaults : UserDefaults} {log : List Event}
    (h : Mirror defaults log) (hflag : defaults.bool "toSendOnBoarding" = true) :
    recorded log ≠ [] := by
  apply recorded_ne_nil_of_outcome
  rw [h.toSend] at hflag
  cases hout : outcomes log with
  | nil => simp [hout] at hflag
  | cons b bs =>
      have hb : b = true := by simpa [hout] using hflag
      simp [hb]

end History

namespace System

open History

/-- What holds in every reachable state. -/
structure Sound (s : System) : Prop where
  consistent : ∀ user, s.app = some user → (Memory.enter user s.defaults).Consistent s.accountId
  dead : s.app = none → s.inFlight = []
  oneCreateUser : (s.inFlight.filter Flight.isCreateUser).length ≤ 1
  unidentified : ∀ f ∈ s.inFlight, f.request.call = .createUser → missing s.defaults = true
  identified : ∀ f ∈ s.inFlight, f.request.call ≠ .createUser →
    missing s.defaults = false ∧ AccountFits s.accountId
  recorded : recorded s.log ≠ [] → missing s.defaults = false ∧ AccountFits s.accountId
  mirror : Mirror s.defaults s.log
  numbered : Numbered s

namespace Sound

variable {s : System}

theorem installed (accountId : Int) (device : Device) : Sound (installed accountId device) where
  consistent user h := by simp [System.installed] at h
  dead _ := rfl
  oneCreateUser := Nat.zero_le _
  unidentified f hf := by simp [System.installed] at hf
  identified f hf := by simp [System.installed] at hf
  recorded h := absurd rfl h
  mirror := ⟨rfl, rfl, rfl, rfl⟩
  numbered := .of_idle rfl

/-- Forgetting a request in flight. -/
theorem drop (h : Sound s) (id : Nat) (hlive : s.app ≠ none) : Sound (s.drop id) where
  consistent := h.consistent
  dead hdead := absurd hdead hlive
  oneCreateUser := by
    refine Nat.le_trans (List.Sublist.length_le ?_) h.oneCreateUser
    exact List.Sublist.filter _ List.filter_sublist
  unidentified f hf := h.unidentified f (List.mem_filter.mp hf).1
  identified f hf := h.identified f (List.mem_filter.mp hf).1
  recorded := h.recorded
  mirror := h.mirror
  numbered := h.numbered.drop id

/-- A change of the device. -/
theorem device (h : Sound s) (device : Device) : Sound { s with device := device } :=
  ⟨h.consistent, h.dead, h.oneCreateUser, h.unidentified, h.identified, h.recorded, h.mirror,
    ⟨h.numbered.ordered, h.numbered.bound⟩⟩

/-- The requests of a call do not change what the suite has to say. -/
theorem mirror_settle {es : List Event} {x : Outcome Unit}
    (h : Mirror x.memory.defaults (es.reverse ++ s.log)) :
    Mirror (s.settle es x).defaults (s.settle es x).log := by
  obtain ⟨hdate, hsync, hsegments, hflag⟩ := h
  constructor
  case dateOnBoarding => rw [recorded_settle]; simpa [History.recorded] using hdate
  case dateLastSync => rw [saved_settle]; simpa [History.saved] using hsync
  case jsonSegments => rw [saved_settle]; simpa [History.saved] using hsegments
  case toSend => rw [outcomes_settle]; simpa [History.outcomes] using hflag

/-- **A call that ends.** It must keep the objects consistent and the mirror true, must not touch
the stored id, and may issue only requests that carry one. -/
theorem done (h : Sound s) {es : List Event} {m : Memory} (hm : m.Consistent s.accountId)
    (hmissing : missing m.defaults = missing s.defaults)
    (hrequests : ∀ r ∈ m.requests, r.call ≠ .createUser ∧ missing s.defaults = false ∧
      AccountFits s.accountId)
    (hrecorded : History.recorded es.reverse ≠ [] →
      missing s.defaults = false ∧ AccountFits s.accountId)
    (hmirror : Mirror m.defaults (es.reverse ++ s.log)) :
    Sound (s.settle es (.done () m)) where
  consistent user huser := by
    cases huser
    exact hm.enter
  dead hdead := by simp at hdead
  oneCreateUser := by
    have hnone : (Flight.number s.issued m.requests).filter Flight.isCreateUser = [] := by
      rw [List.filter_eq_nil_iff]
      intro f hf
      have hcall := (hrequests _ (Flight.mem_number hf)).1
      simp [Flight.isCreateUser, hcall]
    rw [settle_inFlight_done, List.filter_append, hnone, List.append_nil]
    exact h.oneCreateUser
  unidentified f hf hcall := by
    show missing m.defaults = true
    rw [hmissing]
    rcases List.mem_append.mp hf with hf | hf
    · exact h.unidentified f hf hcall
    · exact absurd hcall (hrequests _ (Flight.mem_number hf)).1
  identified f hf hcall := by
    show missing m.defaults = false ∧ _
    rw [hmissing]
    rcases List.mem_append.mp hf with hf | hf
    · exact h.identified f hf hcall
    · exact (hrequests _ (Flight.mem_number hf)).2
  recorded hne := by
    show missing m.defaults = false ∧ _
    rw [hmissing]
    rw [recorded_settle] at hne
    by_cases hold : History.recorded s.log = []
    · rw [hold, List.append_nil] at hne
      exact hrecorded hne
    · exact h.recorded hold
  mirror := mirror_settle hmirror
  numbered := h.numbered.settle es _

/-- **A call that traps.** Only the suite and the history are left. -/
theorem trap (h : Sound s) {es : List Event} {m : Memory} {why : Trap}
    (hmissing : missing s.defaults = false → missing m.defaults = false)
    (hrecorded : History.recorded es.reverse = [])
    (hmirror : Mirror m.defaults (es.reverse ++ s.log)) :
    Sound (s.settle es (.trap why m)) where
  consistent user huser := by simp at huser
  dead _ := rfl
  oneCreateUser := Nat.zero_le _
  unidentified f hf := by simp at hf
  identified f hf := by simp at hf
  recorded hne := by
    rw [recorded_settle, hrecorded, List.nil_append] at hne
    exact ⟨hmissing (h.recorded hne).1, (h.recorded hne).2⟩
  mirror := mirror_settle hmirror
  numbered := h.numbered.settle es _

/-- **A call that ends with nothing else in flight.** The stored id may change, and the requests
may be of either kind. -/
theorem fresh {es : List Event} {m : Memory} (hnone : s.inFlight = [])
    (hm : m.Consistent s.accountId) (hone : m.requests.length ≤ 1)
    (hunidentified : ∀ r ∈ m.requests, r.call = .createUser → missing m.defaults = true)
    (hidentified : ∀ r ∈ m.requests, r.call ≠ .createUser →
      missing m.defaults = false ∧ AccountFits s.accountId)
    (hrecorded : History.recorded (es.reverse ++ s.log) ≠ [] →
      missing m.defaults = false ∧ AccountFits s.accountId)
    (hmirror : Mirror m.defaults (es.reverse ++ s.log)) :
    Sound (s.settle es (.done () m)) where
  consistent user huser := by
    cases huser
    exact hm.enter
  dead hdead := by simp at hdead
  oneCreateUser := by
    rw [settle_inFlight_done, hnone, List.nil_append]
    refine Nat.le_trans (List.length_filter_le _ _) ?_
    have hlength : ∀ (n : Nat) (rs : List Request), (Flight.number n rs).length = rs.length := by
      intro n rs
      induction rs generalizing n with
      | nil => rfl
      | cons r rs ih => simp [Flight.number, ih]
    rw [hlength]
    exact hone
  unidentified f hf hcall := by
    rw [settle_inFlight_done, hnone, List.nil_append] at hf
    exact hunidentified _ (Flight.mem_number hf) hcall
  identified f hf hcall := by
    rw [settle_inFlight_done, hnone, List.nil_append] at hf
    exact hidentified _ (Flight.mem_number hf) hcall
  recorded hne := by
    apply hrecorded
    rw [recorded_settle] at hne
    simpa [History.recorded] using hne
  mirror := mirror_settle hmirror
  numbered := (Numbered.of_idle hnone).settle es _

/-- There is nothing to answer in a dead process. -/
theorem not_asked (h : Sound s) {id : Nat} (hnone : s.app = none ∨ s.flight? id = none) :
    s.flight? id = none := by
  rcases hnone with hdead | hf
  · simp [flight?, h.dead hdead]
  · exact hf

/-- A `createUser` in flight is the only request in flight. -/
theorem drop_createUser (h : Sound s) {f : Flight} (hf : f ∈ s.inFlight)
    (hcall : f.request.call = .createUser) : (s.drop f.id).inFlight = [] := by
  have hall : ∀ g ∈ s.inFlight, g.request.call = .createUser := by
    intro g hg
    by_contra hne
    have hcarries := (h.identified g hg hne).1
    simp [h.unidentified f hf hcall] at hcarries
  rw [← filter_drop_createUser h.oneCreateUser hf hcall, eq_comm, List.filter_eq_self]
  intro g hg
  simp [Flight.isCreateUser, hall g (List.mem_filter.mp hg).1]

/-! ### The steps -/

/-- A call that ends, having issued nothing and recorded nothing. -/
theorem done_silent (h : Sound s) {es : List Event} {m : Memory} (hm : m.Consistent s.accountId)
    (hmissing : missing m.defaults = missing s.defaults) (hrequests : m.requests = [])
    (hrecorded : History.recorded es.reverse = [])
    (hmirror : Mirror m.defaults (es.reverse ++ s.log)) : Sound (s.settle es (.done () m)) :=
  h.done hm hmissing (by simp [hrequests]) (fun hne => absurd hrecorded hne) hmirror

section
variable {user : User} (h : Sound s) (happ : s.app = some user)
include h happ

/-- Whoever got past the test of the user id has one in the suite. -/
theorem not_missing (hid : user.getUserId ≠ "0") : missing s.defaults = false := by
  have hzero := (h.consistent user happ).getUserId
  cases hmissing : missing s.defaults with
  | false => rfl
  | true => exact absurd (hzero.mpr hmissing) hid

theorem fits {acc : UInt32} (hacc : user.getAccountId = some acc) : AccountFits s.accountId := by
  have haccount : user.accountId = s.accountId := (h.consistent user happ).account
  rw [← haccount]
  exact User.accountFits_of_some hacc

theorem not_fits (hacc : user.getAccountId = none) : ¬ AccountFits s.accountId := by
  have haccount : user.accountId = s.accountId := (h.consistent user happ).account
  rw [← haccount]
  exact User.not_accountFits_of_none hacc

/-- A call that ends with one request, which carries the stored id. -/
theorem done_issue {es : List Event} {m : Memory} {r : Request} {acc : UInt32}
    (hm : m.Consistent s.accountId) (hmissing : missing m.defaults = missing s.defaults)
    (hrequests : m.requests = []) (hcall : r.call ≠ .createUser)
    (hid : user.getUserId ≠ "0") (hacc : user.getAccountId = some acc)
    (hrecorded : History.recorded es.reverse = [])
    (hmirror : Mirror m.defaults (es.reverse ++ s.log)) :
    Sound (s.settle es (.done () (m.issue r))) := by
  refine h.done (hm.issue r) hmissing ?_ (fun hne => absurd hrecorded hne) hmirror
  intro r' hr'
  have heq : r' = r := by simpa [Memory.issue, hrequests] using hr'
  subst heq
  exact ⟨hcall, h.not_missing happ hid, h.fits happ hacc⟩

end

/-- Nothing was ever recorded while a `createUser` is in flight. -/
theorem recorded_eq_nil (h : Sound s) {f : Flight} (hf : s.flight? f.id = some f)
    (hcall : f.request.call = .createUser) : History.recorded s.log = [] := by
  by_contra hne
  have hmissing := h.unidentified f (mem_of_flight? hf).1 hcall
  have hcarries := (h.recorded hne).1
  simp [hmissing] at hcarries

/-- The flag is down where no send ever got through. -/
theorem flag_down (h : Sound s) (hnot : ¬ (missing s.defaults = false ∧ AccountFits s.accountId)) :
    s.defaults.bool "toSendOnBoarding" = false := by
  cases hflag : s.defaults.bool "toSendOnBoarding" with
  | false => rfl
  | true => exact absurd (h.recorded (h.mirror.recorded_ne_nil hflag)) hnot

/-- A new process finds the suite as the old one left it. -/
theorem restart (h : Sound s) (idAppStore : Option Int) :
    Sound ({ s with inFlight := [] }.settle [.launched (s.defaults.dictionary "jsonSegments")]
      (.done ()
        { user := built s.accountId s.defaults
          defaults := registered s.accountId idAppStore s.defaults
          requests :=
            if missing s.defaults && s.device.connected then
              [createUserRequest s.device s.accountId]
            else [] })) := by
  have hmissing : missing (registered s.accountId idAppStore s.defaults) = missing s.defaults :=
    missing_registered _ _ _
  have hmirror : Mirror (registered s.accountId idAppStore s.defaults)
      ([.launched (s.defaults.dictionary "jsonSegments")] ++ s.log) := by
    apply h.mirror.quiet [_]
    · exact (registered_readers _ _ _ _ (by decide) (by decide) (by decide)).1
    · exact (registered_readers _ _ _ _ (by decide) (by decide) (by decide)).1
    · exact (registered_readers _ _ _ _ (by decide) (by decide) (by decide)).2.2.2
    · exact (registered_readers _ _ _ _ (by decide) (by decide) (by decide)).2.1
    · rfl
    · rfl
    · rfl
  refine fresh rfl (Memory.Consistent.built _ _ _ _) ?_ ?_ ?_ ?_ hmirror
  · show (if _ then _ else _ : List Request).length ≤ 1
    split <;> simp
  · intro r hr _
    show missing (registered s.accountId idAppStore s.defaults) = true
    rw [hmissing]
    by_cases hm : missing s.defaults = true
    · exact hm
    · simp [hm] at hr
  · intro r hr hcall
    by_cases hgo : (missing s.defaults && s.device.connected) = true
    · have heq : r = createUserRequest s.device s.accountId := by simpa [hgo] using hr
      exact absurd (by rw [heq]; rfl) hcall
    · simp [hgo] at hr
  · intro hne
    show missing (registered s.accountId idAppStore s.defaults) = false ∧ _
    rw [hmissing]
    exact h.recorded hne

/-- `addInfo` has stored a pair. -/
theorem mirror_store (h : Sound s) {user : User} (k v : String) :
    Mirror (store k v (.enter user s.defaults)).defaults (.stored k v :: s.log) := by
  refine h.mirror.quiet [.stored k v] ?_ ?_ ?_ ?_ rfl rfl rfl <;>
    simp [store, Memory.enter]

theorem missing_store (user : User) (k v : String) (defaults : UserDefaults) :
    missing (store k v (.enter user defaults)).defaults = missing defaults := by
  simp [missing, store, Memory.enter]

theorem missing_setToSendOnBoarding (status : Bool) (m : Memory) :
    missing (setToSendOnBoarding status m).defaults = missing m.defaults := by
  simp [missing, setToSendOnBoarding, OnBoarding.setToSendOnBoarding]

theorem missing_setDateLastSync (date : Date) (m : Memory) :
    missing (setDateLastSync date m).defaults = missing m.defaults := by
  simp [missing, setDateLastSync, OnBoarding.setDateLastSync]

theorem missing_saveSegments (device : Device) (segments : Dictionary String String) (m : Memory) :
    missing (User.saveSegments device segments m).defaults = missing m.defaults := by
  simp [missing, User.saveSegments]

/-- The handler of `createUser` has accepted an id. -/
theorem mirror_identify (h : Sound s) {f : Flight} (hcall : f.request.call = .createUser)
    (user : User) (userId : String) (response : DataResponse) (date : Date) :
    Mirror (Memory.identify userId (.enter user s.defaults)).defaults
      (.answered f response date :: s.log) := by
  refine h.mirror.quiet [.answered f response date] ?_ ?_ ?_ ?_ ?_ ?_ ?_ <;>
    simp [Memory.identify, setRunningCreateUser, User.setUserId, Memory.enter,
      History.recorded, saved, outcomes, Event.recorded?, Event.saved?, Event.outcome?, hcall]

theorem missing_identify (user : User) (userId : String) (defaults : UserDefaults) :
    missing (Memory.identify userId (.enter user defaults)).defaults = decide (userId = "0") := by
  simp [missing, Memory.identify, setRunningCreateUser, User.setUserId, UserDefaults.setOptional]

/-- An answer of which the suite shows nothing. -/
theorem mirror_answered (h : Sound s) {f : Flight} {response : DataResponse} {date : Date}
    (hrecorded : (Event.answered f response date).recorded? = none)
    (houtcome : (Event.answered f response date).outcome? = none)
    (hsaved : (Event.answered f response date).saved? = none) :
    Mirror s.defaults (.answered f response date :: s.log) := by
  refine h.mirror.quiet [.answered f response date] rfl rfl rfl rfl ?_ ?_ ?_ <;>
    simp [History.recorded, saved, outcomes, hrecorded, houtcome, hsaved]

section
variable {user : User} (h : Sound s) (happ : s.app = some user) {f : Flight}
  {response : DataResponse}
  (hrecorded : (Event.answered f response s.device.now).recorded? = none)
  (houtcome : (Event.answered f response s.device.now).outcome? = none)
  (hsaved : (Event.answered f response s.device.now).saved? = none)
include h happ hrecorded houtcome hsaved

/-- The handler of such an answer ends and writes nothing. -/
theorem done_answered {m : Memory} (hm : m.Consistent s.accountId)
    (hdefaults : m.defaults = s.defaults) (hrequests : m.requests = []) :
    Sound ((s.drop f.id).settle [.answered f response s.device.now] (.done () m)) := by
  have hmissing : missing m.defaults = missing (s.drop f.id).defaults := by
    rw [hdefaults]
    rfl
  refine (h.drop f.id (by simp [happ])).done_silent hm hmissing hrequests ?_ ?_
  · simp [History.recorded, hrecorded]
  · rw [hdefaults]
    exact h.mirror_answered hrecorded houtcome hsaved

/-- The handler of such an answer traps. -/
theorem trap_answered (why : Trap) :
    Sound ((s.drop f.id).settle [.answered f response s.device.now]
      (.trap why (.enter user s.defaults))) := by
  refine (h.drop f.id (by simp [happ])).trap id ?_ ?_
  · simp [History.recorded, hrecorded]
  · exact h.mirror_answered hrecorded houtcome hsaved

end

/-- **Every step keeps it.** -/
theorem step (h : Sound s) {a : Action} {t : System} (hstep : Step s a t) : Sound t := by
  cases hstep with
  | dead c hdead => exact h
  | unasked id response hnone => exact h
  | connectivity connected => exact h.device _
  | clock now => exact h.device _
  | restart idAppStore => exact h.restart idAppStore
  | browse user k happ hidle =>
      exact h.done_silent (h.consistent user happ).browsed rfl rfl rfl h.mirror
  | fetch user k acc happ hdue hid hconn hacc =>
      exact h.done_issue happ (h.consistent user happ).browsed rfl rfl (by simp) hid hacc rfl
        h.mirror
  | fetchOverflow user k happ hdue hid hconn hacc => exact h.trap id rfl h.mirror
  | suppressed user k v happ hsup =>
      exact h.done_silent (h.consistent user happ).reread rfl rfl rfl h.mirror
  | storeMissing user k v happ hsup hid =>
      have hflag : s.defaults.bool "toSendOnBoarding" = false := by
        have hmissing : missing s.defaults = true := (h.consistent user happ).getUserId.mp hid
        apply h.flag_down
        simp [hmissing]
      refine h.done_silent ((h.consistent user happ).store k v) (missing_store _ _ _ _) rfl rfl ?_
      refine (h.mirror_store k v).skipped ?_
      simpa [store, Memory.enter] using hflag
  | storeOffline user k v happ hsup hid hconn =>
      have hmissing :
          missing (setToSendOnBoarding false (store k v (.enter user s.defaults))).defaults
          = missing s.defaults := by
        rw [missing_setToSendOnBoarding, missing_store]
      refine h.done_silent (((h.consistent user happ).store k v).setToSendOnBoarding false)
        hmissing rfl rfl ?_
      exact (h.mirror_store k v).failed rfl rfl rfl
  | storeSend user k v acc happ hsup hid hconn hacc =>
      exact h.done_issue happ ((h.consistent user happ).store k v) (missing_store _ _ _ _) rfl
        (by simp) hid hacc rfl (h.mirror_store k v)
  | storeOverflow user k v happ hsup hid hconn hacc =>
      -- the process ends with the flag as it was, which a number that does not fit never put up
      have hflag : s.defaults.bool "toSendOnBoarding" = false :=
        h.flag_down fun hboth => h.not_fits happ hacc hboth.2
      refine h.trap (fun hmissing => ?_) rfl ?_
      · rw [missing_store]
        exact hmissing
      · refine (h.mirror_store k v).skipped ?_
        simpa [store, Memory.enter] using hflag
  | flushIdle user happ hidle =>
      exact h.done_silent (h.consistent user happ) rfl rfl rfl h.mirror
  | flush user acc happ hflag hid hconn hacc =>
      exact h.done_issue happ (h.consistent user happ) rfl rfl (by simp) hid hacc rfl
        h.mirror
  | flushOverflow user happ hflag hid hconn hacc => exact h.trap id rfl h.mirror
  | userId user f response userId happ hf hcall hread hidle =>
      -- the id changes, so the requests in flight must be none: this answer was the only one due
      have hnil : History.recorded s.log = [] := h.recorded_eq_nil hf hcall
      refine fresh (h.drop_createUser (mem_of_flight? hf).1 hcall)
        ((h.consistent user happ).identify userId) (Nat.zero_le _) (by simp) (by simp) ?_
        (h.mirror_identify hcall user userId response s.device.now)
      intro hne
      have hskip : (Event.answered f response s.device.now).recorded? = none := by
        simp [Event.recorded?, hcall]
      exact absurd ((List.filterMap_cons_none hskip).trans hnil) hne
  | userIdFetch user f response userId acc happ hf hcall hread hid hconn hacc =>
      have hnil : History.recorded s.log = [] := h.recorded_eq_nil hf hcall
      have hmissing :
          missing (Memory.identify userId (.enter user s.defaults)).defaults = false := by
        simp [missing_identify, hid]
      refine fresh (h.drop_createUser (mem_of_flight? hf).1 hcall)
        (((h.consistent user happ).identify userId).issue _) (Nat.le_refl 1) ?_ ?_ ?_
        (h.mirror_identify hcall user userId response s.device.now)
      · intro r hr hcall'
        have heq : r = getSegmentsRequest acc userId user.onBoarding.valueData := by
          simpa [Memory.issue] using hr
        simp [heq] at hcall'
      · intro r _ _
        exact ⟨hmissing, h.fits happ hacc⟩
      · intro _
        exact ⟨hmissing, h.fits happ hacc⟩
  | userIdOverflow user f response userId happ hf hcall hread hid hconn hacc =>
      refine (h.drop f.id (by simp [happ])).trap (fun hmissing => ?_) ?_
        (h.mirror_identify hcall user userId response s.device.now)
      · simp [missing_identify, hid]
      · simp [History.recorded, Event.recorded?, hcall]
  | userIdRefused user f response happ hf hcall hread =>
      exact h.done_answered happ (by simp [Event.recorded?, hcall])
        (by simp [Event.outcome?, hcall]) (by simp [Event.saved?, hcall])
        ((h.consistent user happ).setRunningCreateUser false) rfl rfl
  | userIdFatal user f response why happ hf hcall hread =>
      exact h.trap_answered happ (by simp [Event.recorded?, hcall])
        (by simp [Event.outcome?, hcall]) (by simp [Event.saved?, hcall]) why
  | segments user f response segments happ hf hcall hread =>
      exact (h.drop f.id (by simp [happ])).done_silent
        ((h.consistent user happ).saveSegments s.device segments) (missing_saveSegments _ _ _) rfl
        (by simp [History.recorded, Event.recorded?, hcall]) (h.mirror.segments hcall hread)
  | segmentsRefused user f response happ hf hcall hread =>
      exact h.done_answered happ (by simp [Event.recorded?, hcall])
        (by simp [Event.outcome?, hcall]) (by simp [Event.saved?, hread]) (h.consistent user happ)
        rfl rfl
  | segmentsFatal user f response why happ hf hcall hread =>
      exact h.trap_answered happ (by simp [Event.recorded?, hcall])
        (by simp [Event.outcome?, hcall]) (by simp [Event.saved?, hread]) why
  | delivered user f response happ hf hcall hread =>
      have hmissing : missing (WebService.setDateLastSync s.device.now
          (setToSendOnBoarding true (.enter user s.defaults))).defaults = missing s.defaults := by
        rw [missing_setDateLastSync, missing_setToSendOnBoarding]
        rfl
      refine (h.drop f.id (by simp [happ])).done
        (((h.consistent user happ).setToSendOnBoarding true).setDateLastSync s.device.now)
        hmissing (by simp [WebService.setDateLastSync, setToSendOnBoarding, Memory.enter]) ?_
        (h.mirror.delivered hcall hread)
      -- a send in flight was built with an id and a number that fits
      intro _
      exact h.identified f (mem_of_flight? hf).1 (by simp [hcall])
  | undelivered user f response happ hf hcall hread =>
      have hfailed : Mirror (OnBoarding.setToSendOnBoarding false s.defaults)
          (.answered f response s.device.now :: s.log) := by
        apply h.mirror.failed <;>
          simp [Event.recorded?, Event.outcome?, Event.saved?, hcall, hread]
      exact (h.drop f.id (by simp [happ])).done_silent
        ((h.consistent user happ).setToSendOnBoarding false) (missing_setToSendOnBoarding _ _) rfl
        (by simp [History.recorded, Event.recorded?, hcall, hread]) hfailed

end Sound

/-- **Every reachable state is sound.** -/
theorem sound_after (accountId : Int) (device : Device) (actions : List Action) :
    Sound (after accountId device actions) :=
  Runs.run_invariant (Sound.installed accountId device)
    (fun s a h => h.step (step_step s a)) actions

end System
