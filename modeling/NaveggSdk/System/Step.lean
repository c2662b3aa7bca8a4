import NaveggSdk.System.History

/-!
# What a step of the system can do

`Step s a t` lists the ways in which the system can get from `s` to `t` by the action `a`, one
constructor for each ending of each call and each handler; `step_step` says that the list is
complete. Every invariant of the system is proved by going through it once.
-/

open WebService NaveggApi

/-- The memory after the handler of `createUser` has accepted an id. -/
def Memory.identify (userId : String) (m : Memory) : Memory :=
  setRunningCreateUser false (User.setUserId (some userId) m)

@[simp] theorem Memory.identify_requests (userId : String) (m : Memory) :
    (m.identify userId).requests = m.requests := rfl

/-- `getSegments` as a call: its value is dropped. -/
theorem Call.run_getSegments (device : Device) (k : String) (m : Memory) :
    (Call.getSegments k).run device m =
      if User.refreshDue device m.defaults then WebService.getSegments device (User.browsed m)
      else .done () (User.browsed m) := by
  show (User.getSegments device k m).bind _ = _
  rw [User.getSegments_eq]
  cases User.refreshDue device m.defaults with
  | false => rfl
  | true =>
      simp only [if_true]
      cases WebService.getSegments device (User.browsed m) <;> rfl

namespace System

inductive Step (s : System) : Action → System → Prop
  -- nothing there to run the call, or nothing to answer
  | dead (c : Call) (h : s.app = none) : Step s (.call c) s
  | unasked (id : Nat) (response : DataResponse) (h : s.app = none ∨ s.flight? id = none) :
      Step s (.complete id response) s
  -- the device
  | connectivity (connected : Bool) :
      Step s (.connectivity connected) { s with device := { s.device with connected := connected } }
  | clock (now : Date) : Step s (.clock now) { s with device := { s.device with now := now } }
  -- a new process
  | restart (idAppStore : Option Int) : Step s (.restart idAppStore)
      ({ s with inFlight := [] }.settle [.launched (s.defaults.dictionary "jsonSegments")]
        (.done ()
          { user := built s.accountId s.defaults
            defaults := registered s.accountId idAppStore s.defaults
            requests :=
              if missing s.defaults && s.device.connected then
                [createUserRequest s.device s.accountId]
              else [] }))
  -- `getSegments`
  | browse (user : User) (k : String) (happ : s.app = some user)
      (h : User.refreshDue s.device s.defaults = false ∨ user.getUserId = "0" ∨
        s.device.connected = false) :
      Step s (.call (.getSegments k))
        (s.settle [] (.done () (User.browsed (.enter user s.defaults))))
  | fetch (user : User) (k : String) (acc : UInt32) (happ : s.app = some user)
      (hdue : User.refreshDue s.device s.defaults = true)
      (hid : user.getUserId ≠ "0") (hconn : s.device.connected = true)
      (hacc : user.getAccountId = some acc) :
      Step s (.call (.getSegments k))
        (s.settle [] (.done () ((User.browsed (.enter user s.defaults)).issue
          (getSegmentsRequest acc user.getUserId user.onBoarding.valueData))))
  | fetchOverflow (user : User) (k : String) (happ : s.app = some user)
      (hdue : User.refreshDue s.device s.defaults = true)
      (hid : user.getUserId ≠ "0") (hconn : s.device.connected = true)
      (hacc : user.getAccountId = none) :
      Step s (.call (.getSegments k))
        (s.settle [] (.trap .overflow (User.browsed (.enter user s.defaults))))
  -- `setOnboarding`
  | suppressed (user : User) (k v : String) (happ : s.app = some user)
      (h : suppresses s.device k v (.enter user s.defaults) = true) :
      Step s (.call (.setOnboarding k v))
        (s.settle [] (.done () (reread (.enter user s.defaults))))
  | storeMissing (user : User) (k v : String) (happ : s.app = some user)
      (h : suppresses s.device k v (.enter user s.defaults) = false)
      (hid : user.getUserId = "0") :
      Step s (.call (.setOnboarding k v))
        (s.settle [.stored k v, .skipped] (.done () (store k v (.enter user s.defaults))))
  | storeOffline (user : User) (k v : String) (happ : s.app = some user)
      (h : suppresses s.device k v (.enter user s.defaults) = false)
      (hid : user.getUserId ≠ "0") (hconn : s.device.connected = false) :
      Step s (.call (.setOnboarding k v))
        (s.settle [.stored k v, .skipped]
          (.done () (setToSendOnBoarding false (store k v (.enter user s.defaults)))))
  | storeSend (user : User) (k v : String) (acc : UInt32) (happ : s.app = some user)
      (h : suppresses s.device k v (.enter user s.defaults) = false)
      (hid : user.getUserId ≠ "0") (hconn : s.device.connected = true)
      (hacc : user.getAccountId = some acc) :
      Step s (.call (.setOnboarding k v))
        (s.settle [.stored k v] (.done () ((store k v (.enter user s.defaults)).issue
          (sendOnBoardingRequest acc user.getUserId
            (store k v (.enter user s.defaults)).user.onBoarding.valueData))))
  | storeOverflow (user : User) (k v : String) (happ : s.app = some user)
      (h : suppresses s.device k v (.enter user s.defaults) = false)
      (hid : user.getUserId ≠ "0") (hconn : s.device.connected = true)
      (hacc : user.getAccountId = none) :
      Step s (.call (.setOnboarding k v))
        (s.settle [.stored k v, .skipped]
          (.trap .overflow (store k v (.enter user s.defaults))))
  -- `sendDataSaveInDefault`
  | flushIdle (user : User) (happ : s.app = some user)
      (h : s.device.connected = false ∨ s.defaults.bool "toSendOnBoarding" = false ∨
        user.getUserId = "0") :
      Step s (.call .sendDataSaveInDefault) (s.settle [] (.done () (.enter user s.defaults)))
  | flush (user : User) (acc : UInt32) (happ : s.app = some user)
      (hflag : s.defaults.bool "toSendOnBoarding" = true)
      (hid : user.getUserId ≠ "0") (hconn : s.device.connected = true)
      (hacc : user.getAccountId = some acc) :
      Step s (.call .sendDataSaveInDefault)
        (s.settle [] (.done () ((Memory.enter user s.defaults).issue
          (sendOnBoardingRequest acc user.getUserId user.onBoarding.valueData))))
  | flushOverflow (user : User) (happ : s.app = some user)
      (hflag : s.defaults.bool "toSendOnBoarding" = true)
      (hid : user.getUserId ≠ "0") (hconn : s.device.connected = true)
      (hacc : user.getAccountId = none) :
      Step s (.call .sendDataSaveInDefault)
        (s.settle [] (.trap .overflow (.enter user s.defaults)))
  -- the handler of `createUser`
  | userId (user : User) (f : Flight) (response : DataResponse) (userId : String)
      (happ : s.app = some user) (hf : s.flight? f.id = some f)
      (hcall : f.request.call = .createUser) (hread : readUserId response = .accepted userId)
      (h : userId = "0" ∨ s.device.connected = false) :
      Step s (.complete f.id response)
        ((s.drop f.id).settle [.answered f response s.device.now]
          (.done () (Memory.identify userId (.enter user s.defaults))))
  | userIdFetch (user : User) (f : Flight) (response : DataResponse) (userId : String)
      (acc : UInt32) (happ : s.app = some user) (hf : s.flight? f.id = some f)
      (hcall : f.request.call = .createUser) (hread : readUserId response = .accepted userId)
      (hid : userId ≠ "0") (hconn : s.device.connected = true)
      (hacc : user.getAccountId = some acc) :
      Step s (.complete f.id response)
        ((s.drop f.id).settle [.answered f response s.device.now]
          (.done () ((Memory.identify userId (.enter user s.defaults)).issue
            (getSegmentsRequest acc userId user.onBoarding.valueData))))
  | userIdOverflow (user : User) (f : Flight) (response : DataResponse) (userId : String)
      (happ : s.app = some user) (hf : s.flight? f.id = some f)
      (hcall : f.request.call = .createUser) (hread : readUserId response = .accepted userId)
      (hid : userId ≠ "0") (hconn : s.device.connected = true)
      (hacc : user.getAccountId = none) :
      Step s (.complete f.id response)
        ((s.drop f.id).settle [.answered f response s.device.now]
          (.trap .overflow (Memory.identify userId (.enter user s.defaults))))
  | userIdRefused (user : User) (f : Flight) (response : DataResponse)
      (happ : s.app = some user) (hf : s.flight? f.id = some f)
      (hcall : f.request.call = .createUser) (hread : readUserId response = .refused) :
      Step s (.complete f.id response)
        ((s.drop f.id).settle [.answered f response s.device.now]
          (.done () (setRunningCreateUser false (.enter user s.defaults))))
  | userIdFatal (user : User) (f : Flight) (response : DataResponse) (why : Trap)
      (happ : s.app = some user) (hf : s.flight? f.id = some f)
      (hcall : f.request.call = .createUser) (hread : readUserId response = .fatal why) :
      Step s (.complete f.id response)
        ((s.drop f.id).settle [.answered f response s.device.now]
          (.trap why (.enter user s.defaults)))
  -- the handler of `getSegments`
  | segments (user : User) (f : Flight) (response : DataResponse)
      (segments : Dictionary String String) (happ : s.app = some user)
      (hf : s.flight? f.id = some f) (hcall : f.request.call = .getSegments)
      (hread : readSegments response = .accepted segments) :
      Step s (.complete f.id response)
        ((s.drop f.id).settle [.answered f response s.device.now]
          (.done () (User.saveSegments s.device segments (.enter user s.defaults))))
  | segmentsRefused (user : User) (f : Flight) (response : DataResponse)
      (happ : s.app = some user) (hf : s.flight? f.id = some f)
      (hcall : f.request.call = .getSegments) (hread : readSegments response = .refused) :
      Step s (.complete f.id response)
        ((s.drop f.id).settle [.answered f response s.device.now]
          (.done () (.enter user s.defaults)))
  | segmentsFatal (user : User) (f : Flight) (response : DataResponse) (why : Trap)
      (happ : s.app = some user) (hf : s.flight? f.id = some f)
      (hcall : f.request.call = .getSegments) (hread : readSegments response = .fatal why) :
      Step s (.complete f.id response)
        ((s.drop f.id).settle [.answered f response s.device.now]
          (.trap why (.enter user s.defaults)))
  -- the handler of `sendOnBoarding`
  | delivered (user : User) (f : Flight) (response : DataResponse) (happ : s.app = some user)
      (hf : s.flight? f.id = some f) (hcall : f.request.call = .sendOnBoarding)
      (hread : recordsSuccess response = true) :
      Step s (.complete f.id response)
        ((s.drop f.id).settle [.answered f response s.device.now]
          (.done () (WebService.setDateLastSync s.device.now
            (setToSendOnBoarding true (.enter user s.defaults)))))
  | undelivered (user : User) (f : Flight) (response : DataResponse) (happ : s.app = some user)
      (hf : s.flight? f.id = some f) (hcall : f.request.call = .sendOnBoarding)
      (hread : recordsSuccess response = false) :
      Step s (.complete f.id response)
        ((s.drop f.id).settle [.answered f response s.device.now]
          (.done () (setToSendOnBoarding false (.enter user s.defaults))))

/-! ## The list is complete -/

variable (s : System)

theorem step_call_getSegments {user : User} (happ : s.app = some user) (k : String) :
    Step s (.call (.getSegments k)) (s.step (.call (.getSegments k))) := by
  have hfetch := WebService.fetch s.device (User.browsed (.enter user s.defaults))
  have hrun := Call.run_getSegments s.device k (.enter user s.defaults)
  rw [Memory.enter_defaults] at hrun
  simp only [step, happ, hrun, Call.events]
  cases hdue : User.refreshDue s.device s.defaults with
  | false => exact .browse user k happ (.inl hdue)
  | true =>
      generalize WebService.getSegments s.device (User.browsed (.enter user s.defaults)) = x
        at hfetch ⊢
      cases hfetch with
      | idle h => exact .browse user k happ (.inr h)
      | issue acc hid hconn hacc => exact .fetch user k acc happ hdue hid hconn hacc
      | overflow hid hconn hacc => exact .fetchOverflow user k happ hdue hid hconn hacc

theorem step_call_setOnboarding {user : User} (happ : s.app = some user) (k v : String) :
    Step s (.call (.setOnboarding k v)) (s.step (.call (.setOnboarding k v))) := by
  have hsend := WebService.send s.device (store k v (.enter user s.defaults)).user.onBoarding
    (store k v (.enter user s.defaults))
  simp only [step, happ, Call.run, Call.events, setOnBoarding_eq, setOnboarding_eq]
  cases hsup : suppresses s.device k v (.enter user s.defaults) with
  | true => exact .suppressed user k v happ hsup
  | false =>
      simp only [Bool.false_eq_true, if_false, if_true]
      generalize sendOnBoarding s.device (store k v (.enter user s.defaults)).user.onBoarding
        (store k v (.enter user s.defaults)) = x at hsend ⊢
      cases hsend with
      | missing hid => exact .storeMissing user k v happ hsup hid
      | offline hid hconn => exact .storeOffline user k v happ hsup hid hconn
      | issue acc hid hconn hacc => exact .storeSend user k v acc happ hsup hid hconn hacc
      | overflow hid hconn hacc => exact .storeOverflow user k v happ hsup hid hconn hacc

theorem step_call_sendDataSaveInDefault {user : User} (happ : s.app = some user) :
    Step s (.call .sendDataSaveInDefault) (s.step (.call .sendDataSaveInDefault)) := by
  have hsend := WebService.send s.device user.onBoarding (.enter user s.defaults)
  simp only [step, happ, Call.run, Call.events, User.sendDataSaveInDefault_eq]
  have hdefaults : (Memory.enter user s.defaults).defaults = s.defaults := rfl
  have huser : (Memory.enter user s.defaults).user = user := rfl
  rw [hdefaults, huser]
  by_cases hgo : (s.device.connected && s.defaults.bool "toSendOnBoarding") = true
  · rw [if_pos hgo]
    obtain ⟨hconn, hflag⟩ := Bool.and_eq_true_iff.mp hgo
    generalize sendOnBoarding s.device user.onBoarding (.enter user s.defaults) = x at hsend ⊢
    cases hsend with
    | missing hid => exact .flushIdle user happ (.inr (.inr hid))
    | offline hid hoff => exact absurd hconn (by simp [hoff])
    | issue acc hid hconn hacc => exact .flush user acc happ hflag hid hconn hacc
    | overflow hid hconn hacc => exact .flushOverflow user happ hflag hid hconn hacc
  · rw [if_neg hgo]
    have hidle : s.device.connected = false ∨ s.defaults.bool "toSendOnBoarding" = false := by
      cases hconn : s.device.connected with
      | false => exact .inl rfl
      | true => exact .inr (by simpa [hconn] using hgo)
    exact .flushIdle user happ (hidle.imp_right .inl)

theorem step_complete {user : User} {f : Flight} (happ : s.app = some user)
    (hf : s.flight? f.id = some f) (response : DataResponse) :
    Step s (.complete f.id response) (s.step (.complete f.id response)) := by
  simp only [step, happ, hf]
  cases hcall : f.request.call with
  | createUser =>
      simp only [completion, createUserCompletion_eq]
      cases hread : readUserId response with
      | refused => exact .userIdRefused user f response happ hf hcall hread
      | fatal why => exact .userIdFatal user f response why happ hf hcall hread
      | accepted userId =>
          have hfetch := WebService.fetch s.device (Memory.identify userId (.enter user s.defaults))
          show Step s _ (settle _ (WebService.getSegments s.device
            (Memory.identify userId (.enter user s.defaults))) _)
          generalize WebService.getSegments s.device
            (Memory.identify userId (.enter user s.defaults)) = x at hfetch ⊢
          cases hfetch with
          | idle h => exact .userId user f response userId happ hf hcall hread h
          | issue acc hid hconn hacc =>
              exact .userIdFetch user f response userId acc happ hf hcall hread hid hconn hacc
          | overflow hid hconn hacc =>
              exact .userIdOverflow user f response userId happ hf hcall hread hid hconn hacc
  | getSegments =>
      simp only [completion, getSegmentsCompletion_eq]
      cases hread : readSegments response with
      | refused => exact .segmentsRefused user f response happ hf hcall hread
      | fatal why => exact .segmentsFatal user f response why happ hf hcall hread
      | accepted segments => exact .segments user f response segments happ hf hcall hread
  | sendOnBoarding =>
      simp only [completion, sendOnBoardingCompletion_eq]
      cases hread : recordsSuccess response with
      | true => exact .delivered user f response happ hf hcall hread
      | false => exact .undelivered user f response happ hf hcall hread

/-- **Every step is in the list.** -/
theorem step_step (a : Action) : Step s a (s.step a) := by
  cases a with
  | call c =>
      cases happ : s.app with
      | none =>
          have hidle : s.step (.call c) = s := by simp only [step, happ]
          rw [hidle]
          exact .dead c happ
      | some user =>
          cases c with
          | getSegments k => exact step_call_getSegments s happ k
          | setOnboarding k v => exact step_call_setOnboarding s happ k v
          | sendDataSaveInDefault => exact step_call_sendDataSaveInDefault s happ
  | complete id response =>
      cases happ : s.app with
      | none =>
          have hidle : s.step (.complete id response) = s := by simp only [step, happ]
          rw [hidle]
          exact .unasked id response (.inl happ)
      | some user =>
          cases hf : s.flight? id with
          | none =>
              have hidle : s.step (.complete id response) = s := by simp only [step, happ, hf]
              rw [hidle]
              exact .unasked id response (.inr hf)
          | some f =>
              obtain ⟨-, rfl⟩ := mem_of_flight? hf
              exact step_complete s happ hf response
  | connectivity connected => exact .connectivity connected
  | clock now => exact .clock now
  | restart idAppStore =>
      simp only [step, launch, init_eq]
      exact .restart idAppStore

/-- The account of a system never changes. -/
theorem step_accountId {s t : System} {a : Action} (h : Step s a t) :
    t.accountId = s.accountId := by
  cases h <;> rfl

theorem after_accountId (accountId : Int) (device : Device) (actions : List Action) :
    (after accountId device actions).accountId = accountId :=
  Runs.run_invariant (I := fun s => s.accountId = accountId) rfl
    (fun s a h => (step_accountId (step_step s a)).trans h) actions

end System
