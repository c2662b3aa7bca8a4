import NaveggSdk.Library.Runs
import NaveggSdk.System.Sound

/-!
# A restart is not seen

Beside the suite an object keeps a user id, an onboarding map, the segments with their custom entry
rewritten, two dates and a lock. `Like` relates the objects of two memories over one suite: the user
id and the map are equal, the segments read alike, and nothing is asked of the dates and the lock,
which nobody looks at again. Every call and every handler keeps the relation and does the same on
both sides (`Outcome.Like`), so two systems that are alike stay alike (`System.Like.step`).

A new object is like the one it replaces as soon as that one agrees with the suite
(`like_restart`). The rest is `restart_transparent`.
-/

open WebService NaveggApi

/-! ## Objects that cannot be told apart -/

structure User.Like (u u' : User) : Prop where
  accountId : u.accountId = u'.accountId
  userId : u.userId = u'.userId
  mapAccount : u.onBoarding.accountId = u'.onBoarding.accountId
  valueData : u.onBoarding.valueData = u'.onBoarding.valueData
  noPermanent : u.customListPermanent = []
  noPermanent' : u'.customListPermanent = []
  segment : ∀ k, u.segment k = u'.segment k

namespace User.Like

variable {u u' : User} (h : u.Like u')

include h

theorem getUserId : u.getUserId = u'.getUserId := by
  unfold User.getUserId
  rw [h.userId]

theorem getAccountId : u.getAccountId = u'.getAccountId := by
  unfold User.getAccountId
  rw [h.accountId]

end User.Like

/-- The two memories share the suite and the requests, and their users are alike. -/
structure Memory.Like (m m' : Memory) : Prop where
  user : m.user.Like m'.user
  defaults : m.defaults = m'.defaults
  requests : m.requests = m'.requests

inductive Outcome.Like {α : Type} : Outcome α → Outcome α → Prop
  | done (a : α) {m m' : Memory} (h : m.Like m') : Like (.done a m) (.done a m')
  | trap (why : Trap) {m m' : Memory} (h : m.Like m') : Like (.trap why m) (.trap why m')

def Outcome.value? {α : Type} : Outcome α → Option α
  | .done a _ => some a
  | .trap _ _ => none

theorem Outcome.Like.value?_eq {α : Type} {x y : Outcome α} (h : x.Like y) :
    x.value? = y.value? := by
  cases h with
  | done a h => rfl
  | trap why h => rfl

namespace Memory.Like

variable {m m' : Memory} (h : m.Like m')

include h

theorem browsed : (User.browsed m).Like (User.browsed m') where
  user :=
    { h.user with
      segment := fun k => by
        rw [User.browsed_segment m h.user.noPermanent, User.browsed_segment m' h.user.noPermanent']
        exact h.user.segment k }
  defaults := h.defaults
  requests := h.requests

theorem issue (r : Request) : (m.issue r).Like (m'.issue r) where
  user := h.user
  defaults := h.defaults
  requests := by rw [Memory.issue, Memory.issue, h.requests]

theorem setToSendOnBoarding (status : Bool) :
    (setToSendOnBoarding status m).Like (setToSendOnBoarding status m') where
  user := h.user
  defaults := by rw [WebService.setToSendOnBoarding, WebService.setToSendOnBoarding, h.defaults]
  requests := h.requests

theorem setDateLastSync (date : Date) :
    (setDateLastSync date m).Like (setDateLastSync date m') where
  user := { h.user with }
  defaults := by
    simp only [WebService.setDateLastSync, OnBoarding.setDateLastSync, h.defaults]
  requests := h.requests

theorem setRunningCreateUser (value : Bool) :
    (setRunningCreateUser value m).Like (setRunningCreateUser value m') where
  user := { h.user with }
  defaults := h.defaults
  requests := h.requests

theorem identify (userId : String) : (m.identify userId).Like (m'.identify userId) where
  user := { h.user with userId := rfl }
  defaults := by
    simp only [Memory.identify, WebService.setRunningCreateUser, User.setUserId, h.defaults]
  requests := h.requests

theorem saveSegments (device : Device) (segments : Dictionary String String) :
    (User.saveSegments device segments m).Like (User.saveSegments device segments m') where
  user := { h.user with segment := fun _ => rfl }
  defaults := by simp only [User.saveSegments, h.defaults]
  requests := h.requests

theorem reread : (reread m).Like (reread m') where
  user :=
    { h.user with
      valueData := by simp only [NaveggApi.reread, h.user.mapAccount, h.defaults] }
  defaults := h.defaults
  requests := h.requests

theorem store (k v : String) : (store k v m).Like (store k v m') where
  user :=
    { h.user with
      valueData := by simp only [NaveggApi.store, h.user.mapAccount, h.defaults] }
  defaults := by simp only [NaveggApi.store, h.user.mapAccount, h.defaults]
  requests := h.requests

/-! ## The code does the same to both -/

theorem getSegments (device : Device) :
    (WebService.getSegments device m).Like (WebService.getSegments device m') := by
  unfold WebService.getSegments
  rw [h.user.getUserId, h.user.getAccountId]
  split
  · exact .done () h
  · split
    · split
      · exact .trap _ h
      · rw [User.getOnBoarding, User.getOnBoarding, OnBoarding.getHashMap, OnBoarding.getHashMap,
          h.user.valueData]
        exact .done () (h.issue _)
    · exact .done () h

theorem sendOnBoarding (device : Device) {onBoarding onBoarding' : OnBoarding}
    (hmap : onBoarding.valueData = onBoarding'.valueData) :
    (WebService.sendOnBoarding device onBoarding m).Like
      (WebService.sendOnBoarding device onBoarding' m') := by
  unfold WebService.sendOnBoarding
  rw [h.user.getUserId, h.user.getAccountId]
  split
  · exact .done () h
  · split
    · split
      · exact .trap _ h
      · rw [OnBoarding.getHashMap, OnBoarding.getHashMap, hmap]
        exact .done () (h.issue _)
    · exact .done () (h.setToSendOnBoarding false)

/-- `getSegments` gives the same answer. -/
theorem answer (device : Device) (k : String) :
    (NaveggApi.getSegments device k m).Like (NaveggApi.getSegments device k m') := by
  have hanswer : ∀ {x y : Outcome Unit}, x.Like y →
      (x.bind fun _ m => .done (m.user.segment k) m).Like
        (y.bind fun _ m => .done (m.user.segment k) m) := by
    intro x y hxy
    cases hxy with
    | done a h =>
        rw [Outcome.bind_done, Outcome.bind_done, h.user.segment k]
        exact .done _ h
    | trap why h => exact .trap why h
  unfold NaveggApi.getSegments
  rw [User.getSegments_eq, User.getSegments_eq, h.defaults]
  cases User.refreshDue device m'.defaults with
  | true => exact hanswer (h.browsed.getSegments device)
  | false => exact hanswer (.done () h.browsed)

/-- **A call** ends alike. -/
theorem call (device : Device) (c : Call) : (c.run device m).Like (c.run device m') := by
  cases c with
  | getSegments k =>
      rw [Call.run_getSegments, Call.run_getSegments, h.defaults]
      cases User.refreshDue device m'.defaults with
      | true => exact h.browsed.getSegments device
      | false => exact .done () h.browsed
  | setOnboarding k v =>
      have hsup : suppresses device k v m = suppresses device k v m' := by
        unfold suppresses
        rw [h.user.mapAccount, h.defaults]
      show (setOnboarding device k v m).Like (setOnboarding device k v m')
      rw [setOnboarding_eq, setOnboarding_eq, hsup]
      cases suppresses device k v m' with
      | true => exact .done () h.reread
      | false => exact (h.store k v).sendOnBoarding device (h.store k v).user.valueData
  | sendDataSaveInDefault =>
      show (User.sendDataSaveInDefault device m).Like (User.sendDataSaveInDefault device m')
      rw [User.sendDataSaveInDefault_eq, User.sendDataSaveInDefault_eq, h.defaults]
      cases device.connected && m'.defaults.bool "toSendOnBoarding" with
      | true => exact h.sendOnBoarding device h.user.valueData
      | false => exact .done () h

/-- **A handler** ends alike: it never looks at the lock. -/
theorem completion (device : Device) (call : WebCall) (response : DataResponse) :
    (WebService.completion device call response m).Like
      (WebService.completion device call response m') := by
  cases call with
  | createUser =>
      show (createUserCompletion device response m).Like (createUserCompletion device response m')
      rw [createUserCompletion_eq, createUserCompletion_eq]
      cases readUserId response with
      | accepted userId => exact (h.identify userId).getSegments device
      | refused => exact .done () (h.setRunningCreateUser false)
      | fatal why => exact .trap why h
  | getSegments =>
      show (getSegmentsCompletion device response m).Like
        (getSegmentsCompletion device response m')
      rw [getSegmentsCompletion_eq, getSegmentsCompletion_eq]
      cases readSegments response with
      | accepted segments => exact .done () (h.saveSegments device segments)
      | refused => exact .done () h
      | fatal why => exact .trap why h
  | sendOnBoarding =>
      show (Outcome.done () (sendOnBoardingCompletion device response m)).Like
        (.done () (sendOnBoardingCompletion device response m'))
      rw [sendOnBoardingCompletion_eq, sendOnBoardingCompletion_eq]
      cases recordsSuccess response with
      | true => exact .done () ((h.setToSendOnBoarding true).setDateLastSync device.now)
      | false => exact .done () (h.setToSendOnBoarding false)

end Memory.Like

/-! ## Systems that cannot be told apart -/

def Event.request? : Event → Option Flight
  | .issued flight => some flight
  | _ => none

/-- All requests ever issued, with their numbers, newest first. -/
def History.requests (log : List Event) : List Flight := log.filterMap Event.request?

/-- The events of a call are no requests. -/
theorem History.requests_events (device : Device) (c : Call) (m : Memory) :
    requests (c.events device m).reverse = [] := by
  cases c with
  | getSegments k => rfl
  | sendDataSaveInDefault => rfl
  | setOnboarding k v =>
      unfold Call.events
      simp only
      split
      · split <;> rfl
      · rfl

namespace System

open History

/-- Two systems with the same device, suite and requests, whose objects are alike. -/
structure Like (s t : System) : Prop where
  accountId : s.accountId = t.accountId
  device : s.device = t.device
  defaults : s.defaults = t.defaults
  app : Option.Rel User.Like s.app t.app
  inFlight : s.inFlight = t.inFlight
  issued : s.issued = t.issued
  requests : requests s.log = requests t.log

namespace Like

variable {s t : System} (h : s.Like t)

include h

/-- Two pieces of code that end alike leave alike systems. -/
theorem settle {x y : Outcome Unit} (hxy : x.Like y) {es es' : List Event}
    (hes : History.requests es.reverse = []) (hes' : History.requests es'.reverse = []) :
    (s.settle es x).Like (t.settle es' y) := by
  have hmemory : x.memory.Like y.memory := by
    cases hxy with
    | done a h => exact h
    | trap why h => exact h
  have hdone : x.isDone = y.isDone := by
    cases hxy with
    | done a h => rfl
    | trap why h => rfl
  constructor
  case accountId => exact h.accountId
  case device => exact h.device
  case defaults => exact hmemory.defaults
  case app =>
    cases hxy with
    | done a h => exact .some h.user
    | trap why h => exact .none
  case inFlight =>
    simp only [System.settle, hdone, h.inFlight, h.issued, hmemory.requests]
  case issued => rw [settle_issued, settle_issued, h.issued, hmemory.requests]
  case requests =>
    rw [settle_log, settle_log, h.issued, hmemory.requests]
    simp only [History.requests, List.filterMap_append] at hes hes' ⊢
    rw [hes, hes', List.nil_append, List.nil_append]
    exact congrArg (_ ++ ·) h.requests

theorem drop (id : Nat) : (s.drop id).Like (t.drop id) :=
  ⟨h.accountId, h.device, h.defaults, h.app, by rw [drop_inFlight, drop_inFlight, h.inFlight],
    h.issued, h.requests⟩

theorem setDevice (device : Device) :
    Like { s with device := device } { t with device := device } :=
  ⟨h.accountId, rfl, h.defaults, h.app, h.inFlight, h.issued, h.requests⟩

/-- Both systems have an object, or none has. -/
theorem apps :
    (s.app = none ∧ t.app = none) ∨ ∃ u u', s.app = some u ∧ t.app = some u' ∧ u.Like u' := by
  have happ := h.app
  cases hs : s.app with
  | none =>
      cases ht : t.app with
      | none => exact .inl ⟨rfl, rfl⟩
      | some u' => simp [hs, ht] at happ
  | some u =>
      cases ht : t.app with
      | none => simp [hs, ht] at happ
      | some u' => exact .inr ⟨u, u', rfl, rfl, by simpa [hs, ht] using happ⟩

/-- New objects are alike, because they are built from the same suite. -/
theorem launch (idAppStore : Option Int) : (s.launch idAppStore).Like (t.launch idAppStore) := by
  have hidle : Like { s with inFlight := [] } { t with inFlight := [] } :=
    ⟨h.accountId, h.device, h.defaults, h.app, rfl, h.issued, h.requests⟩
  have hinit : Outcome.Like (.done () (init s.device s.accountId idAppStore s.defaults))
      (.done () (init t.device t.accountId idAppStore t.defaults)) := by
    rw [h.device, h.accountId, h.defaults, init_eq]
    refine .done () ⟨?_, rfl, rfl⟩
    exact ⟨rfl, rfl, rfl, rfl, rfl, rfl, fun _ => rfl⟩
  exact hidle.settle hinit rfl rfl

/-- **Every step keeps two systems alike.** -/
theorem step (a : Action) : (s.step a).Like (t.step a) := by
  have henter : ∀ {u u' : User}, u.Like u' →
      (Memory.enter u s.defaults).Like (Memory.enter u' t.defaults) :=
    fun hlike => ⟨hlike, h.defaults, rfl⟩
  cases a with
  | call c =>
      rcases h.apps with ⟨hs, ht⟩ | ⟨u, u', hs, ht, hlike⟩
      · simpa only [System.step, hs, ht] using h
      · simp only [System.step, hs, ht]
        rw [h.device]
        exact h.settle ((henter hlike).call _ c) (requests_events _ _ _) (requests_events _ _ _)
  | complete id response =>
      have hflight : s.flight? id = t.flight? id := by
        rw [flight?, flight?, h.inFlight]
      rcases h.apps with ⟨hs, ht⟩ | ⟨u, u', hs, ht, hlike⟩
      · simpa only [System.step, hs, ht] using h
      · cases hf : t.flight? id with
        | none => simpa only [System.step, hs, ht, hflight, hf] using h
        | some f =>
            simp only [System.step, hs, ht, hflight, hf]
            rw [h.device]
            exact (h.drop id).settle ((henter hlike).completion _ _ response) rfl rfl
  | connectivity connected =>
      simp only [System.step]
      rw [h.device]
      exact h.setDevice _
  | clock now =>
      simp only [System.step]
      rw [h.device]
      exact h.setDevice _
  | restart idAppStore => exact h.launch idAppStore

end Like

end System

/-! ## What only the constructor writes -/

/-- The keys that the constructor writes. -/
abbrev constructorKeys : List String := ["NVGSDK_CODCONTA", "NVGSDK_IDAPPSTORE", "accounts"]

/-- The suite is one that a constructor with these arguments has written. -/
structure Opened (accountId : Int) (idAppStore : Option Int) (d : UserDefaults) : Prop where
  codConta : d.value "NVGSDK_CODCONTA" = some (.int accountId)
  idAppStore : d.value "NVGSDK_IDAPPSTORE" = idAppStore.map .int
  accounts : ∃ l, d.value "accounts" = some (.array l) ∧ accountId ∈ l

namespace Opened

variable {accountId : Int} {idAppStore : Option Int} {d d' : UserDefaults}

theorem congr (h : Opened accountId idAppStore d)
    (hvalue : ∀ key ∈ constructorKeys, d'.value key = d.value key) :
    Opened accountId idAppStore d' where
  codConta := (hvalue _ (by decide)).trans h.codConta
  idAppStore := (hvalue _ (by decide)).trans h.idAppStore
  accounts := by
    rw [hvalue "accounts" (by decide)]
    exact h.accounts

/-- What the readers of the accounts make of the suite. -/
theorem mem_accounts {d : UserDefaults} (h : accountId ∈ (d.array "accounts").getD []) :
    ∃ l, d.value "accounts" = some (.array l) ∧ accountId ∈ l := by
  unfold UserDefaults.array at h
  cases hvalue : d.value "accounts" with
  | none => simp [hvalue] at h
  | some v =>
      cases v with
      | array l => exact ⟨l, rfl, by simpa [hvalue] using h⟩
      | _ => simp [hvalue] at h

theorem value_idAppStore (d : UserDefaults) (idAppStore : Option Int) :
    (d.setOptional (idAppStore.map .int) "NVGSDK_IDAPPSTORE").value "NVGSDK_IDAPPSTORE" =
      idAppStore.map .int := by
  cases idAppStore <;> simp [UserDefaults.setOptional]

/-- The constructor opens the suite. -/
theorem registered (accountId : Int) (idAppStore : Option Int) (d : UserDefaults) :
    Opened accountId idAppStore (registered accountId idAppStore d) := by
  unfold NaveggApi.registered registerReceiverAndAccountSdk
  simp only
  split
  · next hmem =>
      refine ⟨?_, value_idAppStore _ _, mem_accounts (by simpa using hmem)⟩
      rw [UserDefaults.value_setOptional_ne _ _ (by decide), UserDefaults.value_set]
  · refine ⟨?_, ?_, _, UserDefaults.value_set _ _ _, by simp⟩
    · rw [UserDefaults.value_set_ne _ _ (by decide),
        UserDefaults.value_setOptional_ne _ _ (by decide), UserDefaults.value_set]
    · rw [UserDefaults.value_set_ne _ _ (by decide), value_idAppStore]

theorem set_eq_self {d : UserDefaults} {v : PropertyList} {key : String}
    (h : d.value key = some v) : d.set v key = d := by
  obtain ⟨value⟩ := d
  simp only [UserDefaults.set] at h ⊢
  rw [← h, Function.update_eq_self]

theorem removeObject_eq_self {d : UserDefaults} {key : String} (h : d.value key = none) :
    d.removeObject key = d := by
  obtain ⟨value⟩ := d
  simp only [UserDefaults.removeObject] at h ⊢
  rw [← h, Function.update_eq_self]

/-- **A second constructor writes nothing new.** -/
theorem registered_eq (h : Opened accountId idAppStore d) :
    NaveggApi.registered accountId idAppStore d = d := by
  have hsame : (d.set (.int accountId) "NVGSDK_CODCONTA").setOptional (idAppStore.map .int)
      "NVGSDK_IDAPPSTORE" = d := by
    have hid := h.idAppStore
    rw [set_eq_self h.codConta]
    cases idAppStore with
    | none => exact removeObject_eq_self hid
    | some n => exact set_eq_self hid
  obtain ⟨l, haccounts, hmem⟩ := h.accounts
  unfold NaveggApi.registered registerReceiverAndAccountSdk
  rw [hsame]
  simp [UserDefaults.array, haccounts, hmem]

end Opened

namespace System

/-- The keys of the constructor are no keys of anything else. -/
theorem constructorKeys_ne : ∀ key ∈ constructorKeys,
    key ∉ ["NVGSDK_USERID", "jsonSegments", "dateLastSync", "toSendOnBoarding",
      "dateLastSyncOnBoarding"] ∧ key ∈ OnBoarding.fixedKeys := by
  decide

/-- **Only a constructor writes its keys.** -/
theorem value_step {s t : System} {a : Action} (h : Step s a t)
    (hno : ∀ idAppStore, a ≠ .restart idAppStore) {key : String} (hkey : key ∈ constructorKeys) :
    t.defaults.value key = s.defaults.value key := by
  obtain ⟨hother, hfixed⟩ := constructorKeys_ne key hkey
  simp only [List.mem_cons, List.not_mem_nil, or_false, not_or] at hother
  obtain ⟨huser, hsegments, hdate, hflag, hsent⟩ := hother
  have hstore : ∀ (k v : String) (m : Memory),
      (store k v m).defaults.value key = m.defaults.value key := by
    intro k v m
    exact UserDefaults.value_set_ne _ _ (OnBoarding.mapKey_ne hfixed _).symm
  have hstatus : ∀ (status : Bool) (m : Memory),
      (setToSendOnBoarding status m).defaults.value key = m.defaults.value key :=
    fun status m => UserDefaults.value_set_ne _ _ hflag
  have hidentify : ∀ (userId : String) (m : Memory),
      (m.identify userId).defaults.value key = m.defaults.value key :=
    fun userId m => UserDefaults.value_setOptional_ne m.defaults (some (.string userId)) huser
  cases h with
  | restart idAppStore => exact absurd rfl (hno idAppStore)
  | storeMissing user k v happ hsup hid => exact hstore k v _
  | storeOffline user k v happ hsup hid hconn => exact (hstatus _ _).trans (hstore k v _)
  | storeSend user k v acc happ hsup hid hconn hacc => exact hstore k v _
  | storeOverflow user k v happ hsup hid hconn hacc => exact hstore k v _
  | userId user f response userId happ hf hcall hread hidle =>
      exact hidentify userId _
  | userIdFetch user f response userId acc happ hf hcall hread hid hconn hacc =>
      exact hidentify userId _
  | userIdOverflow user f response userId happ hf hcall hread hid hconn hacc =>
      exact hidentify userId _
  | segments user f response segments happ hf hcall hread =>
      exact (UserDefaults.value_set_ne _ _ hdate).trans (UserDefaults.value_set_ne _ _ hsegments)
  | delivered user f response happ hf hcall hread =>
      exact (UserDefaults.value_set_ne _ _ hsent).trans (hstatus _ _)
  | undelivered user f response happ hf hcall hread => exact hstatus _ _
  | _ => rfl

/-- In the process that a constructor started, the suite stays the one it opened. -/
theorem opened_run {idAppStore : Option Int} {s : System}
    (h : Opened s.accountId idAppStore s.defaults) (actions : List Action)
    (hno : ∀ a ∈ actions, ∀ idAppStore', a ≠ .restart idAppStore') :
    Opened s.accountId idAppStore (Runs.run step s actions).defaults := by
  induction actions generalizing s with
  | nil => exact h
  | cons a as ih =>
      have hstep := step_step s a
      have haccount := step_accountId hstep
      have hnext : Opened (s.step a).accountId idAppStore (s.step a).defaults := by
        rw [haccount]
        exact h.congr fun key hkey => value_step hstep (hno a List.mem_cons_self) hkey
      rw [← haccount]
      exact ih hnext fun a' ha' => hno a' (List.mem_cons_of_mem a ha')

theorem opened_after (accountId : Int) (device : Device) (before rest : List Action)
    (idAppStore : Option Int) (hrest : ∀ a ∈ rest, ∀ idAppStore', a ≠ .restart idAppStore') :
    Opened (after accountId device (before ++ .restart idAppStore :: rest)).accountId idAppStore
      (after accountId device (before ++ .restart idAppStore :: rest)).defaults := by
  have hsplit : after accountId device (before ++ .restart idAppStore :: rest) =
      Runs.run step ((after accountId device before).step (.restart idAppStore)) rest :=
    List.foldl_append
  have hlaunch : Opened ((after accountId device before).step (.restart idAppStore)).accountId
      idAppStore ((after accountId device before).step (.restart idAppStore)).defaults := by
    show Opened _ idAppStore (init _ _ idAppStore _).defaults
    rw [init_eq]
    exact Opened.registered _ _ _
  have haccount := step_accountId (step_step (after accountId device before) (.restart idAppStore))
  have hrun := opened_run hlaunch rest hrest
  rw [after_accountId, hsplit]
  rwa [haccount, after_accountId] at hrun

/-! ## The restart -/

/-- The answer of `getSegments`, if it were called now: none from a dead process, and none from one
that the call would end. -/
def answer (s : System) (k : String) : Option String :=
  s.app.bind fun user => (NaveggApi.getSegments s.device k (.enter user s.defaults)).value?

theorem Like.answer {s t : System} (h : s.Like t) (k : String) : s.answer k = t.answer k := by
  rcases h.apps with ⟨hs, ht⟩ | ⟨u, u', hs, ht, hlike⟩
  · simp [System.answer, hs, ht]
  · have henter : (Memory.enter u s.defaults).Like (.enter u' t.defaults) :=
      ⟨hlike, h.defaults, rfl⟩
    simp only [System.answer, hs, ht, Option.bind_some, ← h.device]
    exact (henter.answer s.device k).value?_eq

/-- **A new object is like the one it replaces**, if that one agrees with the suite. -/
theorem like_restart {s : System} (hsound : Sound s) {user : User} (happ : s.app = some user)
    (hid : user.getUserId ≠ "0") (hidle : s.inFlight = []) {idAppStore : Option Int}
    (hopened : Opened s.accountId idAppStore s.defaults) :
    s.Like (s.step (.restart idAppStore)) := by
  have hmissing := hsound.not_missing happ hid
  have hconsistent := hsound.consistent user happ
  have hinit : init s.device s.accountId idAppStore s.defaults =
      ⟨built s.accountId s.defaults, s.defaults, []⟩ := by
    rw [init_eq, hopened.registered_eq]
    simp [hmissing]
  have hstep : s.step (.restart idAppStore) =
      { s with inFlight := [] }.settle [.launched (s.defaults.dictionary "jsonSegments")]
        (.done () ⟨built s.accountId s.defaults, s.defaults, []⟩) := by
    show s.launch idAppStore = _
    unfold launch
    rw [hinit]
  rw [hstep]
  constructor
  case accountId => rfl
  case device => rfl
  case defaults => rfl
  case app =>
    rw [happ]
    refine .some ?_
    exact ⟨hconsistent.account, hconsistent.userId, hconsistent.mapAccount, hconsistent.valueData,
      hconsistent.noPermanent, rfl, hconsistent.segment⟩
  case inFlight => exact hidle
  case issued => rfl
  case requests => rfl

/-- Whatever happens from here, the two systems issue the same requests in the same order, answer
`getSegments` alike, and leave the same suite. -/
def Indistinguishable (s t : System) : Prop :=
  ∀ continuation : List Action,
    History.requests (Runs.run step s continuation).log =
        History.requests (Runs.run step t continuation).log ∧
      (∀ k, (Runs.run step s continuation).answer k = (Runs.run step t continuation).answer k) ∧
      (Runs.run step s continuation).defaults = (Runs.run step t continuation).defaults

theorem Like.indistinguishable {s t : System} (h : s.Like t) : s.Indistinguishable t := by
  intro continuation
  have hruns := Runs.run_related h (fun s t a h => h.step a) continuation
  exact ⟨hruns.requests, hruns.answer, hruns.defaults⟩

/-- **A restart is not seen.** Take any state of a process in which the object has a user id and
no request is in flight, and build the object anew with the arguments it was built with. -/
theorem restart_transparent (accountId : Int) (device : Device) (before rest : List Action)
    (idAppStore : Option Int) (hrest : ∀ a ∈ rest, ∀ idAppStore', a ≠ .restart idAppStore')
    (user : User)
    (happ : (after accountId device (before ++ .restart idAppStore :: rest)).app = some user)
    (hid : user.getUserId ≠ "0")
    (hidle : (after accountId device (before ++ .restart idAppStore :: rest)).inFlight = []) :
    (after accountId device (before ++ .restart idAppStore :: rest)).Indistinguishable
      ((after accountId device (before ++ .restart idAppStore :: rest)).step
        (.restart idAppStore)) := by
  have hsound := sound_after accountId device (before ++ .restart idAppStore :: rest)
  have hopened := opened_after accountId device before rest idAppStore hrest
  exact (like_restart hsound happ hid hidle hopened).indistinguishable

def served : List Action := [.complete 0 (named "u1"), .complete 1 (listed "1")]

theorem restart_transparent_served :
    (after 7 (.phone 1700000000) ([] ++ .restart (some 3) :: served)).Indistinguishable
      ((after 7 (.phone 1700000000) ([] ++ .restart (some 3) :: served)).step
        (.restart (some 3))) := by
  have hlive : ((after 7 (.phone 1700000000) ([] ++ .restart (some 3) :: served)).app.map
      fun user => decide (user.getUserId ≠ "0")) = some true := by
    decide +kernel
  have hidle : (after 7 (.phone 1700000000) ([] ++ .restart (some 3) :: served)).inFlight.length =
      0 := by
    decide +kernel
  obtain ⟨user, happ, hid⟩ := Option.map_eq_some_iff.mp hlive
  exact restart_transparent 7 _ [] served (some 3) (by simp [served]) user happ
    (of_decide_eq_true hid) (List.eq_nil_of_length_eq_zero hidle)

end System
