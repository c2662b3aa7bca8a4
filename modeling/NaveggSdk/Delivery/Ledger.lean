import NaveggSdk.System.Sound

/-!
# The ledger: what matters for the delivery of the onboarding map

A `Ledger` is the system as seen by somebody who waits for the onboarding map to arrive: the stored
pairs, the flag, the sends whose success was recorded, and the sends still in flight. A `Deed` is
what an action of the system amounts to in these terms.

`System.deed` reads the deed off the state before the step, and `ledger_step` says that the ledger
is all there is to it: a step of the system is its deed, applied to the ledger. The properties of
the delivery are proved of deeds.
-/

open WebService NaveggApi

/-- A send in flight: its number and the map it carries. -/
structure Parcel where
  id : Nat
  map : Dictionary String String

/-- The delivery of the onboarding map. -/
structure Ledger where
  stored : Dictionary String String
  /-- `toSendOnBoarding`; up after a success, whatever its name says. -/
  flag : Bool
  /-- The sends whose success was recorded, newest first. -/
  recorded : List (Dictionary String String × Date)
  sends : List Parcel

inductive Deed where
  | nothing
  /-- A pair is stored and not sent. -/
  | keep (key value : String)
  /-- A pair is stored, and the map is sent. -/
  | send (key value : String) (id : Nat)
  /-- The map is sent again. -/
  | resend (id : Nat)
  | confirm (parcel : Parcel) (date : Date)
  | fail (id : Nat)
  /-- The process ends, and with it the sends in flight. -/
  | lose

namespace Ledger

def apply (l : Ledger) : Deed → Ledger
  | .nothing => l
  | .keep key value => { l with stored := l.stored.insert key value, flag := false }
  | .send key value id =>
    let stored := l.stored.insert key value
    { l with stored := stored, sends := l.sends ++ [⟨id, stored⟩] }
  | .resend id => { l with sends := l.sends ++ [⟨id, l.stored⟩] }
  | .confirm parcel date =>
    { l with
      flag := true
      recorded := (parcel.map, date) :: l.recorded
      sends := l.sends.filter (·.id ≠ parcel.id) }
  | .fail id => { l with flag := false, sends := l.sends.filter (·.id ≠ id) }
  | .lose => { l with sends := [] }

/-- A pair was contained in a send whose success was recorded. -/
def Delivered (l : Ledger) (key value : String) : Prop :=
  ∃ p ∈ l.recorded, p.1.lookup key = some value

theorem delivered_confirm {l : Ledger} {parcel : Parcel} {date : Date} {key value : String} :
    (l.apply (.confirm parcel date)).Delivered key value ↔
      parcel.map.lookup key = some value ∨ l.Delivered key value := by
  simp [Delivered, apply]

end Ledger

def Flight.parcel? (f : Flight) : Option Parcel :=
  if f.request.call = .sendOnBoarding then some ⟨f.id, f.request.onBoarding⟩ else none

namespace System

def ledger (s : System) : Ledger where
  stored := OnBoarding.storedMap s.accountId s.defaults
  flag := s.defaults.bool "toSendOnBoarding"
  recorded := History.recorded s.log
  sends := s.inFlight.filterMap Flight.parcel?

/-- The user can send: there is an id, a connection, and an account number that fits. -/
def canSend (s : System) (user : User) : Bool :=
  user.getUserId ≠ "0" && s.device.connected && user.getAccountId.isSome

def deed (s : System) : Action → Deed
  | .call c =>
    match s.app with
    | none => .nothing
    | some user =>
      match c with
      | .getSegments _ => .nothing
      | .setOnboarding key value =>
        if suppresses s.device key value (.enter user s.defaults) then .nothing
        else if s.canSend user then .send key value s.issued
        else .keep key value
      | .sendDataSaveInDefault =>
        if s.defaults.bool "toSendOnBoarding" && s.canSend user then .resend s.issued
        else .nothing
  | .complete id response =>
    match s.flight? id with
    | none => .nothing
    | some f =>
      match f.request.call with
      | .createUser => .nothing
      | .getSegments =>
        match readSegments response with
        | .fatal _ => .lose
        | _ => .nothing
      | .sendOnBoarding =>
        if recordsSuccess response then .confirm ⟨f.id, f.request.onBoarding⟩ s.device.now
        else .fail f.id
  | .connectivity _ => .nothing
  | .clock _ => .nothing
  | .restart _ => .lose

/-! ## The ledger after each kind of step -/

/-- The ledger after a call that ended. -/
theorem ledger_done {s : System} {es : List Event} {m : Memory} {l : Ledger}
    (hstored : OnBoarding.storedMap s.accountId m.defaults = l.stored)
    (hflag : m.defaults.bool "toSendOnBoarding" = l.flag)
    (hrecorded : History.recorded es.reverse ++ s.ledger.recorded = l.recorded)
    (hsends : s.ledger.sends ++ (Flight.number s.issued m.requests).filterMap Flight.parcel? =
      l.sends) : (s.settle es (.done () m)).ledger = l := by
  have hlog : History.recorded (s.settle es (.done () m)).log = l.recorded := by
    rw [recorded_settle]
    exact hrecorded
  have hinFlight : (s.settle es (.done () m)).inFlight.filterMap Flight.parcel? = l.sends := by
    rw [settle_inFlight_done, List.filterMap_append]
    exact hsends
  show Ledger.mk _ _ _ _ = Ledger.mk _ _ _ _
  rw [hlog, hinFlight]
  exact congrArg₂ (fun stored flag => Ledger.mk stored flag l.recorded l.sends) hstored hflag

/-- The ledger after a call that trapped: the sends are gone. -/
theorem ledger_trap {s : System} {es : List Event} {why : Trap} {m : Memory} {l : Ledger}
    (hstored : OnBoarding.storedMap s.accountId m.defaults = l.stored)
    (hflag : m.defaults.bool "toSendOnBoarding" = l.flag)
    (hrecorded : History.recorded es.reverse ++ s.ledger.recorded = l.recorded)
    (hsends : l.sends = []) : (s.settle es (.trap why m)).ledger = l := by
  have hlog : History.recorded (s.settle es (.trap why m)).log = l.recorded := by
    rw [recorded_settle]
    exact hrecorded
  show Ledger.mk _ _ _ _ = Ledger.mk _ _ _ _
  rw [hlog, hsends]
  exact congrArg₂ (fun stored flag => Ledger.mk stored flag l.recorded []) hstored hflag

/-- A dropped flight is dropped from the sends. -/
theorem sends_drop (s : System) (id : Nat) :
    (s.drop id).ledger.sends = s.ledger.sends.filter (·.id ≠ id) := by
  show (s.inFlight.filter (·.id ≠ id)).filterMap Flight.parcel? =
    (s.inFlight.filterMap Flight.parcel?).filter (·.id ≠ id)
  rw [List.filterMap_filter, List.filter_filterMap]
  congr 1
  funext f
  by_cases hcall : f.request.call = .sendOnBoarding <;> by_cases hid : f.id = id <;>
    simp [Flight.parcel?, hcall, hid, Option.filter]

/-- A flight that is no send is not among them. -/
theorem sends_drop_of_not_send {s : System} (h : Numbered s) {f : Flight} (hf : f ∈ s.inFlight)
    (hcall : f.request.call ≠ .sendOnBoarding) : (s.drop f.id).ledger.sends = s.ledger.sends :=
  h.filterMap_drop hf (by simp [Flight.parcel?, hcall])

/-- Where no id is stored, or the account number does not fit, nothing is sent. -/
theorem sends_eq_nil {s : System} (h : Sound s)
    (hnot : ¬ (missing s.defaults = false ∧ AccountFits s.accountId)) : s.ledger.sends = [] := by
  apply List.filterMap_eq_nil_iff.mpr
  intro f hf
  by_cases hcall : f.request.call = .sendOnBoarding
  · exact absurd (h.identified f hf (by simp [hcall])) hnot
  · simp [Flight.parcel?, hcall]

/-- The map of a consistent object is the stored one. -/
theorem valueData_eq {s : System} (h : Sound s) {user : User} (happ : s.app = some user) :
    user.onBoarding.valueData = s.ledger.stored :=
  (h.consistent user happ).valueData

/-- The map after a pair was stored. -/
theorem valueData_store {s : System} (h : Sound s) {user : User} (happ : s.app = some user)
    (k v : String) : (store k v (.enter user s.defaults)).user.onBoarding.valueData =
      s.ledger.stored.insert k v := by
  have haccount : user.onBoarding.accountId = s.accountId := (h.consistent user happ).mapAccount
  simp [store, ledger, haccount]

theorem storedMap_store {s : System} (h : Sound s) {user : User} (happ : s.app = some user)
    (k v : String) :
    OnBoarding.storedMap s.accountId (store k v (.enter user s.defaults)).defaults =
      s.ledger.stored.insert k v := by
  have haccount : user.onBoarding.accountId = s.accountId := (h.consistent user happ).mapAccount
  simp [store, ledger, OnBoarding.storedMap, haccount]

theorem flag_store (s : System) (user : User) (k v : String) :
    (store k v (.enter user s.defaults)).defaults.bool "toSendOnBoarding" = s.ledger.flag := by
  simp [store, ledger]

theorem storedMap_setToSendOnBoarding (accountId : Int) (status : Bool) (m : Memory) :
    OnBoarding.storedMap accountId (setToSendOnBoarding status m).defaults =
      OnBoarding.storedMap accountId m.defaults := by
  simp [setToSendOnBoarding, OnBoarding.setToSendOnBoarding, OnBoarding.storedMap]

theorem storedMap_setDateLastSync (accountId : Int) (date : Date) (m : Memory) :
    OnBoarding.storedMap accountId (setDateLastSync date m).defaults =
      OnBoarding.storedMap accountId m.defaults := by
  simp [setDateLastSync, OnBoarding.setDateLastSync, OnBoarding.storedMap]

theorem storedMap_identify (accountId : Int) (userId : String) (m : Memory) :
    OnBoarding.storedMap accountId (m.identify userId).defaults =
      OnBoarding.storedMap accountId m.defaults := by
  simp [Memory.identify, setRunningCreateUser, User.setUserId, OnBoarding.storedMap]

theorem storedMap_saveSegments (accountId : Int) (device : Device)
    (segments : Dictionary String String) (m : Memory) :
    OnBoarding.storedMap accountId (User.saveSegments device segments m).defaults =
      OnBoarding.storedMap accountId m.defaults := by
  simp [User.saveSegments, OnBoarding.storedMap]

theorem flag_setDateLastSync (date : Date) (m : Memory) :
    (setDateLastSync date m).defaults.bool "toSendOnBoarding" =
      m.defaults.bool "toSendOnBoarding" := by
  simp [setDateLastSync, OnBoarding.setDateLastSync]

theorem flag_identify (userId : String) (m : Memory) :
    (m.identify userId).defaults.bool "toSendOnBoarding" =
      m.defaults.bool "toSendOnBoarding" := by
  simp [Memory.identify, setRunningCreateUser, User.setUserId]

theorem flag_saveSegments (device : Device) (segments : Dictionary String String) (m : Memory) :
    (User.saveSegments device segments m).defaults.bool "toSendOnBoarding" =
      m.defaults.bool "toSendOnBoarding" := by
  simp [User.saveSegments]

/-! ## The step -/

/-- The event of an answer to a request that is no send. -/
theorem recorded_answered {f : Flight} (hcall : f.request.call ≠ .sendOnBoarding)
    (response : DataResponse) (date : Date) :
    History.recorded [Event.answered f response date].reverse = [] := by
  simp [History.recorded, Event.recorded?, hcall]

/-- An answer to a request that is no send leaves the ledger alone. -/
theorem ledger_answered {s : System} (h : Numbered s) {f : Flight} (hf : s.flight? f.id = some f)
    (hcall : f.request.call ≠ .sendOnBoarding) {response : DataResponse} {m : Memory}
    (hstored : OnBoarding.storedMap s.accountId m.defaults = s.ledger.stored)
    (hflag : m.defaults.bool "toSendOnBoarding" = s.ledger.flag)
    (hrequests : (Flight.number s.issued m.requests).filterMap Flight.parcel? = []) :
    ((s.drop f.id).settle [.answered f response s.device.now] (.done () m)).ledger = s.ledger := by
  refine ledger_done hstored hflag ?_ ?_
  · rw [recorded_answered hcall]
    rfl
  · rw [sends_drop_of_not_send h (mem_of_flight? hf).1 hcall, drop_issued, hrequests,
      List.append_nil]

/-- **A step of the system is its deed, applied to the ledger.** -/
theorem ledger_step {s : System} (h : Sound s) (a : Action) :
    (s.step a).ledger = s.ledger.apply (s.deed a) := by
  have hstep := step_step s a
  generalize s.step a = t at hstep ⊢
  cases hstep with
  | dead c hdead => simp [deed, hdead, Ledger.apply]
  | unasked id response hnone =>
      simp [deed, h.not_asked hnone, Ledger.apply]
  | connectivity connected => rfl
  | clock now => rfl
  | restart idAppStore =>
      have hstored := (registered_readers s.accountId idAppStore s.defaults
        (OnBoarding.mapKey s.accountId) (by simp) (by simp) (by simp)).2.2.2
      have hflag := (registered_readers s.accountId idAppStore s.defaults
        "toSendOnBoarding" (by decide) (by decide) (by decide)).2.1
      -- the only request of a new process is a `createUser`, which is no parcel
      refine ledger_done ?_ hflag rfl ?_
      · exact congrArg (fun map => map.getD ∅) hstored
      · show [] ++ (Flight.number s.issued (if _ then _ else _)).filterMap Flight.parcel? = []
        cases missing s.defaults && s.device.connected <;> rfl
  | browse user k happ hidle =>
      have hdeed : s.deed (.call (.getSegments k)) = .nothing := by simp [deed, happ]
      rw [hdeed]
      exact ledger_done rfl rfl rfl (List.append_nil _)
  | fetch user k acc happ hdue hid hconn hacc =>
      have hdeed : s.deed (.call (.getSegments k)) = .nothing := by simp [deed, happ]
      rw [hdeed]
      exact ledger_done rfl rfl rfl (List.append_nil _)
  | fetchOverflow user k happ hdue hid hconn hacc =>
      have hdeed : s.deed (.call (.getSegments k)) = .nothing := by simp [deed, happ]
      -- the number never fitted, so the trap loses no send
      have hidle : s.ledger.sends = [] := sends_eq_nil h fun hboth => h.not_fits happ hacc hboth.2
      rw [hdeed]
      exact ledger_trap rfl rfl rfl hidle
  | suppressed user k v happ hsup =>
      have hdeed : s.deed (.call (.setOnboarding k v)) = .nothing := by simp [deed, happ, hsup]
      rw [hdeed]
      exact ledger_done rfl rfl rfl (List.append_nil _)
  | storeMissing user k v happ hsup hid =>
      have hdeed : s.deed (.call (.setOnboarding k v)) = .keep k v := by
        simp [deed, happ, hsup, canSend, hid]
      -- `sendOnBoarding` returns at once and leaves the flag; it was never up without an id
      have hmissing : missing s.defaults = true := (h.consistent user happ).getUserId.mp hid
      have hflag : s.ledger.flag = false := h.flag_down (by simp [hmissing])
      rw [hdeed]
      exact ledger_done (storedMap_store h happ k v) ((flag_store s user k v).trans hflag) rfl
        (List.append_nil _)
  | storeOffline user k v happ hsup hid hconn =>
      have hdeed : s.deed (.call (.setOnboarding k v)) = .keep k v := by
        simp [deed, happ, hsup, canSend, hconn]
      rw [hdeed]
      refine ledger_done ?_ (UserDefaults.bool_set _ _) rfl (List.append_nil _)
      exact (storedMap_setToSendOnBoarding _ _ _).trans (storedMap_store h happ k v)
  | storeSend user k v acc happ hsup hid hconn hacc =>
      have hdeed : s.deed (.call (.setOnboarding k v)) = .send k v s.issued := by
        simp [deed, happ, hsup, canSend, hid, hconn, hacc]
      rw [hdeed, valueData_store h happ]
      exact ledger_done (storedMap_store h happ k v) (flag_store s user k v) rfl rfl
  | storeOverflow user k v happ hsup hid hconn hacc =>
      have hdeed : s.deed (.call (.setOnboarding k v)) = .keep k v := by
        simp [deed, happ, hsup, canSend, hacc]
      have hnot : ¬ (missing s.defaults = false ∧ AccountFits s.accountId) :=
        fun hboth => h.not_fits happ hacc hboth.2
      have hflag : s.ledger.flag = false := h.flag_down hnot
      rw [hdeed]
      exact ledger_trap (storedMap_store h happ k v) ((flag_store s user k v).trans hflag) rfl
        (sends_eq_nil h hnot)
  | flushIdle user happ hidle =>
      have hdeed : s.deed (.call .sendDataSaveInDefault) = .nothing := by
        rcases hidle with hoff | hflag | hid
        · simp [deed, happ, canSend, hoff]
        · simp [deed, happ, hflag]
        · simp [deed, happ, canSend, hid]
      rw [hdeed]
      exact ledger_done rfl rfl rfl (List.append_nil _)
  | flush user acc happ hflag hid hconn hacc =>
      have hdeed : s.deed (.call .sendDataSaveInDefault) = .resend s.issued := by
        simp [deed, happ, canSend, hflag, hid, hconn, hacc]
      rw [hdeed, valueData_eq h happ]
      exact ledger_done rfl rfl rfl rfl
  | flushOverflow user happ hflag hid hconn hacc =>
      have hdeed : s.deed (.call .sendDataSaveInDefault) = .nothing := by
        simp [deed, happ, canSend, hacc]
      rw [hdeed]
      exact ledger_trap rfl rfl rfl (sends_eq_nil h fun hboth => h.not_fits happ hacc hboth.2)
  | userId user f response userId happ hf hcall hread hidle =>
      have hdeed : s.deed (.complete f.id response) = .nothing := by simp [deed, hf, hcall]
      rw [hdeed]
      exact ledger_answered h.numbered hf (by simp [hcall]) (storedMap_identify _ _ _)
        (flag_identify _ _) rfl
  | userIdFetch user f response userId acc happ hf hcall hread hid hconn hacc =>
      have hdeed : s.deed (.complete f.id response) = .nothing := by simp [deed, hf, hcall]
      rw [hdeed]
      exact ledger_answered h.numbered hf (by simp [hcall]) (storedMap_identify _ _ _)
        (flag_identify _ _) rfl
  | userIdOverflow user f response userId happ hf hcall hread hid hconn hacc =>
      have hdeed : s.deed (.complete f.id response) = .nothing := by simp [deed, hf, hcall]
      rw [hdeed]
      refine ledger_trap (storedMap_identify _ _ _) (flag_identify _ _) ?_ ?_
      · rw [recorded_answered (by simp [hcall])]
        rfl
      · exact sends_eq_nil h fun hboth => h.not_fits happ hacc hboth.2
  | userIdRefused user f response happ hf hcall hread =>
      have hdeed : s.deed (.complete f.id response) = .nothing := by simp [deed, hf, hcall]
      rw [hdeed]
      exact ledger_answered h.numbered hf (by simp [hcall]) rfl rfl rfl
  | userIdFatal user f response why happ hf hcall hread =>
      have hdeed : s.deed (.complete f.id response) = .nothing := by simp [deed, hf, hcall]
      have hmissing : missing s.defaults = true := h.unidentified f (mem_of_flight? hf).1 hcall
      rw [hdeed]
      refine ledger_trap rfl rfl ?_ (sends_eq_nil h (by simp [hmissing]))
      rw [recorded_answered (by simp [hcall])]
      rfl
  | segments user f response segments happ hf hcall hread =>
      have hdeed : s.deed (.complete f.id response) = .nothing := by simp [deed, hf, hcall, hread]
      rw [hdeed]
      exact ledger_answered h.numbered hf (by simp [hcall]) (storedMap_saveSegments _ _ _ _)
        (flag_saveSegments _ _ _) rfl
  | segmentsRefused user f response happ hf hcall hread =>
      have hdeed : s.deed (.complete f.id response) = .nothing := by simp [deed, hf, hcall, hread]
      rw [hdeed]
      exact ledger_answered h.numbered hf (by simp [hcall]) rfl rfl rfl
  | segmentsFatal user f response why happ hf hcall hread =>
      have hdeed : s.deed (.complete f.id response) = .lose := by simp [deed, hf, hcall, hread]
      rw [hdeed]
      refine ledger_trap rfl rfl ?_ rfl
      rw [recorded_answered (by simp [hcall])]
      rfl
  | delivered user f response happ hf hcall hread =>
      have hdeed : s.deed (.complete f.id response) =
          .confirm ⟨f.id, f.request.onBoarding⟩ s.device.now := by
        simp [deed, hf, hcall, hread]
      rw [hdeed]
      refine ledger_done ?_ ?_ ?_ ?_
      · exact (storedMap_setDateLastSync _ _ _).trans (storedMap_setToSendOnBoarding _ _ _)
      · exact (flag_setDateLastSync _ _).trans (UserDefaults.bool_set _ _)
      · simp [History.recorded, Event.recorded?, hcall, hread, Ledger.apply, ledger]
      · exact (List.append_nil _).trans (sends_drop s f.id)
  | undelivered user f response happ hf hcall hread =>
      have hdeed : s.deed (.complete f.id response) = .fail f.id := by
        simp [deed, hf, hcall, hread]
      rw [hdeed]
      refine ledger_done (storedMap_setToSendOnBoarding _ _ _) (UserDefaults.bool_set _ _) ?_ ?_
      · simp [History.recorded, Event.recorded?, hcall, hread, Ledger.apply, ledger]
      · exact (List.append_nil _).trans (sends_drop s f.id)

end System
