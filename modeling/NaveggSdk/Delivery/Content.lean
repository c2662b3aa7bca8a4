import NaveggSdk.Delivery.Ledger
import NaveggSdk.Delivery.Persistence
import NaveggSdk.Identity.Account
import NaveggSdk.Identity.Number
import NaveggSdk.Wire.Requests

/-!
# What was sent

The history holds every request that was ever issued, and each of them was made from three things:
the account, the one user id, and the pairs stored before it (`MadeFrom`, `truthful_after`). Hence a
later request of onboarding carries all that an earlier one carried and what was stored in between
(`send_makes_up`): a send that got lost is made up for by the next one that arrives. And what the
server reads off its URL is all the writes before it, the last one of each key winning
(`onboarding_on_the_wire`).

All this is said of one live object at a time, the setting of `System`.
-/

open WebService NaveggApi

def Event.stored? : Event → Option (String × String)
  | .stored key value => some (key, value)
  | _ => none

def Event.isIssued : Event → Bool
  | .issued _ => true
  | _ => false

namespace History

def stored (log : List Event) : List (String × String) := (log.filterMap Event.stored?).reverse

def map (log : List Event) : Dictionary String String := Dictionary.overwrite ∅ (stored log)

@[simp] theorem map_nil : map [] = ∅ := rfl

/-- What a newer history adds is written over the older map. -/
theorem map_append (newer older : List Event) :
    map (newer ++ older) = Dictionary.overwrite (map older) (stored newer) := by
  unfold map stored
  rw [List.filterMap_append, List.reverse_append, Dictionary.overwrite_append]

/-- A history without a write adds nothing. -/
theorem map_append_of_quiet {newer : List Event} (h : stored newer = []) (older : List Event) :
    map (newer ++ older) = map older := by
  rw [map_append, h, Dictionary.overwrite_nil]

theorem map_cons_stored (key value : String) (older : List Event) :
    map (.stored key value :: older) = (map older).insert key value :=
  map_append [.stored key value] older

/-- Requests are no writes. -/
theorem stored_issued (flights : List Flight) : stored (flights.map Event.issued).reverse = [] := by
  unfold stored
  rw [List.reverse_eq_nil_iff, List.filterMap_eq_nil_iff]
  intro e he
  obtain ⟨f, -, rfl⟩ := List.mem_map.mp (List.mem_reverse.mp he)
  rfl

/-- Every request of the history satisfies `P` of the map stored before it. -/
def EachIssued (P : Dictionary String String → Request → Prop) : List Event → Prop
  | [] => True
  | .issued f :: older => P (map older) f.request ∧ EachIssued P older
  | _ :: older => EachIssued P older

namespace EachIssued

variable {P Q : Dictionary String String → Request → Prop} {log : List Event}

/-- Events that are no requests may follow. -/
theorem append (h : EachIssued P log) {es : List Event} (hes : ∀ e ∈ es, e.isIssued = false) :
    EachIssued P (es ++ log) := by
  induction es with
  | nil => exact h
  | cons e es ih =>
      have hrest := ih fun e' he' => hes e' (List.mem_cons_of_mem e he')
      have hquiet := hes e List.mem_cons_self
      cases e with
      | issued f => cases hquiet
      | launched segments => exact hrest
      | stored key value => exact hrest
      | skipped => exact hrest
      | answered f response date => exact hrest

/-- Requests may follow that satisfy it of the map of the moment. -/
theorem issue (h : EachIssued P log) {flights : List Flight}
    (hflights : ∀ f ∈ flights, P (map log) f.request) :
    EachIssued P (flights.map Event.issued ++ log) := by
  induction flights with
  | nil => exact h
  | cons f flights ih =>
      have hrest := ih fun g hg => hflights g (List.mem_cons_of_mem f hg)
      have hquiet : stored (flights.map Event.issued) = [] := by
        have hreversed := stored_issued flights.reverse
        rwa [List.map_reverse, List.reverse_reverse] at hreversed
      refine ⟨?_, hrest⟩
      show P (map (flights.map Event.issued ++ log)) f.request
      rw [map_append_of_quiet hquiet]
      exact hflights f List.mem_cons_self

/-- What holds of each request may be weakened. -/
theorem imp (h : EachIssued P log) (hPQ : ∀ map r, P map r → Q map r) : EachIssued Q log := by
  induction log with
  | nil => trivial
  | cons e log ih =>
      cases e with
      | issued f => exact ⟨hPQ _ _ h.1, ih h.2⟩
      | launched segments => exact ih h
      | stored key value => exact ih h
      | skipped => exact ih h
      | answered f response date => exact ih h

/-- **Any request of the history**, with what was stored before it. -/
theorem of_eq_append (h : EachIssued P log) {newer older : List Event} {f : Flight}
    (heq : log = newer ++ .issued f :: older) : P (map older) f.request := by
  subst heq
  induction newer with
  | nil => exact h.1
  | cons e newer ih =>
      cases e with
      | issued g => exact ih h.2
      | launched segments => exact ih h
      | stored key value => exact ih h
      | skipped => exact ih h
      | answered g response date => exact ih h

end EachIssued

end History

open History

/-- The request is made from the account, the user id of the suite and the map. -/
inductive Request.MadeFrom (accountId : Int) (userId : Option String)
    (map : Dictionary String String) : Request → Prop
  | createUser (device : Device) : MadeFrom accountId userId map (createUserRequest device accountId)
  | getSegments (acc : UInt32) (id : String) (hacc : (acc.toNat : Int) = accountId)
      (hid : userId = some id) (hne : id ≠ "0") :
      MadeFrom accountId userId map (getSegmentsRequest acc id map)
  | sendOnBoarding (acc : UInt32) (id : String) (hacc : (acc.toNat : Int) = accountId)
      (hid : userId = some id) (hne : id ≠ "0") :
      MadeFrom accountId userId map (sendOnBoardingRequest acc id map)

namespace System

/-- The suite holds the map of the history, and every request was made from what the history held
then and from the id the suite holds now. -/
structure Truthful (s : System) : Prop where
  stored : OnBoarding.storedMap s.accountId s.defaults = map s.log
  issued : EachIssued (Request.MadeFrom s.accountId s.defaults.userId) s.log

namespace Truthful

variable {s : System}

/-- The end of some code. -/
theorem settle (h : Truthful s) {es : List Event} {x : Outcome Unit}
    (hes : ∀ e ∈ es, e.isIssued = false)
    (hstored : OnBoarding.storedMap s.accountId x.memory.defaults = map (es.reverse ++ s.log))
    (hid : x.memory.defaults.userId = s.defaults.userId)
    (hrequests : ∀ r ∈ x.memory.requests,
      Request.MadeFrom s.accountId s.defaults.userId (map (es.reverse ++ s.log)) r) :
    Truthful (s.settle es x) := by
  have hquiet : ∀ e ∈ es.reverse, e.isIssued = false :=
    fun e he => hes e (List.mem_reverse.mp he)
  have hissued := h.issued.append hquiet
  constructor
  case stored =>
    show OnBoarding.storedMap s.accountId x.memory.defaults = _
    rw [settle_log, map_append_of_quiet (stored_issued _)]
    exact hstored
  case issued =>
    show EachIssued (Request.MadeFrom s.accountId x.memory.defaults.userId) _
    rw [settle_log, hid, ← List.map_reverse]
    apply hissued.issue
    intro f hf
    exact hrequests _ (Flight.mem_number (List.mem_reverse.mp hf))

/-- The end of some code that issues nothing and stores nothing. -/
theorem settle_quiet (h : Truthful s) {es : List Event} {x : Outcome Unit}
    (hes : ∀ e ∈ es, e.isIssued = false) (hquiet : History.stored es.reverse = [])
    (hstored : OnBoarding.storedMap s.accountId x.memory.defaults =
      OnBoarding.storedMap s.accountId s.defaults)
    (hid : x.memory.defaults.userId = s.defaults.userId) (hrequests : x.memory.requests = []) :
    Truthful (s.settle es x) := by
  refine h.settle hes ?_ hid ?_
  · rw [hstored, h.stored, map_append_of_quiet hquiet]
  · simp [hrequests]

/-- Without an id there was no request but for one. -/
theorem identify (h : Truthful s) (hmissing : missing s.defaults = true) (userId : Option String) :
    EachIssued (Request.MadeFrom s.accountId userId) s.log := by
  refine h.issued.imp fun map r hr => ?_
  cases hr with
  | createUser device => exact .createUser device
  | getSegments acc id hacc hid hne =>
      rw [Shared.not_missing_of_cached hid hne] at hmissing
      cases hmissing
  | sendOnBoarding acc id hacc hid hne =>
      rw [Shared.not_missing_of_cached hid hne] at hmissing
      cases hmissing

end Truthful

/-! ## The steps -/

section
variable {s : System} {user : User} (hsound : Sound s) (happ : s.app = some user)
include hsound happ

/-- An id in memory is the one of the suite. -/
theorem userId_eq (hid : user.getUserId ≠ "0") : s.defaults.userId = some user.getUserId :=
  Shared.userId_of_getUserId (hsound.consistent user happ).userId hid

/-- The number that is sent is the account's. -/
theorem toNat_acc {acc : UInt32} (hacc : user.getAccountId = some acc) :
    (acc.toNat : Int) = s.accountId :=
  (User.toNat_getAccountId hacc).trans (hsound.consistent user happ).account

variable (h : Truthful s)
include h

/-- The map in memory is the one of the history. -/
theorem valueData_eq_map : user.onBoarding.valueData = map s.log :=
  (hsound.consistent user happ).valueData.trans h.stored

theorem madeFrom_getSegments {acc : UInt32} (hid : user.getUserId ≠ "0")
    (hacc : user.getAccountId = some acc) :
    Request.MadeFrom s.accountId s.defaults.userId (map s.log)
      (getSegmentsRequest acc user.getUserId user.onBoarding.valueData) := by
  rw [valueData_eq_map hsound happ h]
  exact .getSegments acc _ (toNat_acc hsound happ hacc) (userId_eq hsound happ hid) hid

theorem madeFrom_sendOnBoarding {acc : UInt32} (hid : user.getUserId ≠ "0")
    (hacc : user.getAccountId = some acc) :
    Request.MadeFrom s.accountId s.defaults.userId (map s.log)
      (sendOnBoardingRequest acc user.getUserId user.onBoarding.valueData) := by
  rw [valueData_eq_map hsound happ h]
  exact .sendOnBoarding acc _ (toNat_acc hsound happ hacc) (userId_eq hsound happ hid) hid

/-- The map after a pair was stored. -/
theorem storedMap_store_eq (k v : String) :
    OnBoarding.storedMap s.accountId (store k v (.enter user s.defaults)).defaults =
      map (.stored k v :: s.log) := by
  rw [storedMap_store hsound happ k v, map_cons_stored, ← h.stored]
  rfl

end

/-- A write of another key keeps the id. -/
theorem userId_store (user : User) (defaults : UserDefaults) (k v : String) :
    (store k v (.enter user defaults)).defaults.userId = defaults.userId :=
  UserDefaults.userId_set_ne _ _ (by simp)

theorem userId_setToSendOnBoarding (status : Bool) (m : Memory) :
    (setToSendOnBoarding status m).defaults.userId = m.defaults.userId :=
  UserDefaults.userId_set_ne _ _ (by decide)

theorem userId_setDateLastSync (date : Date) (m : Memory) :
    (setDateLastSync date m).defaults.userId = m.defaults.userId :=
  UserDefaults.userId_set_ne _ _ (by decide)

theorem userId_saveSegments (device : Device) (segments : Dictionary String String) (m : Memory) :
    (User.saveSegments device segments m).defaults.userId = m.defaults.userId :=
  (UserDefaults.userId_set_ne _ _ (by decide)).trans (UserDefaults.userId_set_ne _ _ (by decide))

theorem userId_identify (userId : String) (m : Memory) :
    (m.identify userId).defaults.userId = some userId :=
  UserDefaults.string_setOptional _ (some userId)

/-- A request in flight is forgotten; the history is not. -/
theorem Truthful.drop {s : System} (h : Truthful s) (id : Nat) : Truthful (s.drop id) :=
  ⟨h.stored, h.issued⟩

/-- The suite has a new id, and nothing was issued under another. -/
theorem Truthful.settle_identify {s : System} (h : Truthful s) (hsound : Sound s) {user : User}
    {f : Flight} (hf : s.flight? f.id = some f) (hcall : f.request.call = .createUser)
    (response : DataResponse) (userId : String) {x : Outcome Unit}
    (hdefaults : x.memory.defaults = (Memory.identify userId (.enter user s.defaults)).defaults)
    (hrequests : ∀ r ∈ x.memory.requests,
      Request.MadeFrom s.accountId (some userId) (map s.log) r) :
    Truthful ((s.drop f.id).settle [.answered f response s.device.now] x) := by
  have hmissing : missing s.defaults = true := hsound.unidentified f (mem_of_flight? hf).1 hcall
  -- the history judged by the id that is about to be stored
  have hnamed : Truthful { s.drop f.id with
      defaults := (Memory.identify userId (.enter user s.defaults)).defaults } := by
    constructor
    · exact (storedMap_identify _ _ _).trans h.stored
    · show EachIssued (Request.MadeFrom s.accountId
        (Memory.identify userId (.enter user s.defaults)).defaults.userId) s.log
      rw [userId_identify]
      exact h.identify hmissing (some userId)
  have hsettled : Truthful (({ s.drop f.id with
      defaults := (Memory.identify userId (.enter user s.defaults)).defaults }).settle
        [.answered f response s.device.now] x) := by
    apply hnamed.settle (by simp [Event.isIssued])
    · show OnBoarding.storedMap s.accountId x.memory.defaults = _
      rw [hdefaults]
      exact (storedMap_identify _ _ _).trans h.stored
    · rw [hdefaults]
    · show ∀ r ∈ x.memory.requests, Request.MadeFrom s.accountId
        (Memory.identify userId (.enter user s.defaults)).defaults.userId (map s.log) r
      rw [userId_identify]
      exact hrequests
  -- settling overwrites the suite, so it does not matter which one it starts from
  exact hsettled

/-- **Every step keeps the history truthful.** -/
theorem Truthful.step {s t : System} (h : Truthful s) (hsound : Sound s) {a : Action}
    (hstep : Step s a t) : Truthful t := by
  cases hstep with
  | dead c hdead => exact h
  | unasked id response hnone => exact h
  | connectivity connected => exact ⟨h.stored, h.issued⟩
  | clock now => exact ⟨h.stored, h.issued⟩
  | restart idAppStore =>
      have hidle : Truthful { s with inFlight := [] } := ⟨h.stored, h.issued⟩
      refine hidle.settle (by simp [Event.isIssued]) ?_ ?_ ?_
      · exact (OnBoarding.storedMap_registered _ _ _).trans h.stored
      · exact (registered_readers _ _ _ _ (by decide) (by decide) (by decide)).1
      · intro r hr
        by_cases hask : (missing s.defaults && s.device.connected) = true
        · have heq : r = createUserRequest s.device s.accountId := by simpa [hask] using hr
          rw [heq]
          exact .createUser s.device
        · simp [hask] at hr
  | browse user k happ hidle => exact h.settle_quiet (by simp) rfl rfl rfl rfl
  | fetch user k acc happ hdue hid hconn hacc =>
      refine h.settle (by simp) h.stored rfl ?_
      intro r hr
      rw [List.mem_singleton.mp hr]
      exact madeFrom_getSegments hsound happ h hid hacc
  | fetchOverflow user k happ hdue hid hconn hacc => exact h.settle_quiet (by simp) rfl rfl rfl rfl
  | suppressed user k v happ hsup => exact h.settle_quiet (by simp) rfl rfl rfl rfl
  | storeMissing user k v happ hsup hid =>
      refine h.settle (by simp [Event.isIssued]) (storedMap_store_eq hsound happ h k v)
        (userId_store _ _ _ _) ?_
      exact fun r hr => absurd hr List.not_mem_nil
  | storeOffline user k v happ hsup hid hconn =>
      refine h.settle (by simp [Event.isIssued]) ?_ ?_ ?_
      · exact (storedMap_setToSendOnBoarding _ _ _).trans (storedMap_store_eq hsound happ h k v)
      · exact (userId_setToSendOnBoarding _ _).trans (userId_store _ _ _ _)
      · exact fun r hr => absurd hr List.not_mem_nil
  | storeSend user k v acc happ hsup hid hconn hacc =>
      refine h.settle (by simp [Event.isIssued]) (storedMap_store_eq hsound happ h k v)
        (userId_store _ _ _ _) ?_
      intro r hr
      have hvalue : (store k v (.enter user s.defaults)).user.onBoarding.valueData =
          map (.stored k v :: s.log) := by
        rw [valueData_store hsound happ k v, map_cons_stored, ← h.stored]
        rfl
      rw [List.mem_singleton.mp hr, hvalue]
      exact .sendOnBoarding acc _ (toNat_acc hsound happ hacc) (userId_eq hsound happ hid) hid
  | storeOverflow user k v happ hsup hid hconn hacc =>
      refine h.settle (by simp [Event.isIssued]) (storedMap_store_eq hsound happ h k v)
        (userId_store _ _ _ _) ?_
      exact fun r hr => absurd hr List.not_mem_nil
  | flushIdle user happ hidle => exact h.settle_quiet (by simp) rfl rfl rfl rfl
  | flush user acc happ hflag hid hconn hacc =>
      refine h.settle (by simp) h.stored rfl ?_
      intro r hr
      rw [List.mem_singleton.mp hr]
      exact madeFrom_sendOnBoarding hsound happ h hid hacc
  | flushOverflow user happ hflag hid hconn hacc => exact h.settle_quiet (by simp) rfl rfl rfl rfl
  | userId user f response userId happ hf hcall hread hidle =>
      exact h.settle_identify hsound hf hcall response userId rfl
        fun r hr => absurd hr List.not_mem_nil
  | userIdFetch user f response userId acc happ hf hcall hread hid hconn hacc =>
      refine h.settle_identify hsound hf hcall response userId rfl ?_
      intro r hr
      rw [List.mem_singleton.mp hr, valueData_eq_map hsound happ h]
      exact .getSegments acc _ (toNat_acc hsound happ hacc) rfl hid
  | userIdOverflow user f response userId happ hf hcall hread hid hconn hacc =>
      exact h.settle_identify hsound hf hcall response userId rfl
        fun r hr => absurd hr List.not_mem_nil
  | userIdRefused user f response happ hf hcall hread =>
      exact (h.drop f.id).settle_quiet (by simp [Event.isIssued]) rfl rfl rfl rfl
  | userIdFatal user f response why happ hf hcall hread =>
      exact (h.drop f.id).settle_quiet (by simp [Event.isIssued]) rfl rfl rfl rfl
  | segments user f response segments happ hf hcall hread =>
      exact (h.drop f.id).settle_quiet (by simp [Event.isIssued]) rfl
        (storedMap_saveSegments _ _ _ _) (userId_saveSegments _ _ _) rfl
  | segmentsRefused user f response happ hf hcall hread =>
      exact (h.drop f.id).settle_quiet (by simp [Event.isIssued]) rfl rfl rfl rfl
  | segmentsFatal user f response why happ hf hcall hread =>
      exact (h.drop f.id).settle_quiet (by simp [Event.isIssued]) rfl rfl rfl rfl
  | delivered user f response happ hf hcall hread =>
      refine (h.drop f.id).settle_quiet (by simp [Event.isIssued]) rfl ?_ ?_ rfl
      · exact (storedMap_setDateLastSync _ _ _).trans (storedMap_setToSendOnBoarding _ _ _)
      · exact (userId_setDateLastSync _ _).trans (userId_setToSendOnBoarding _ _)
  | undelivered user f response happ hf hcall hread =>
      exact (h.drop f.id).settle_quiet (by simp [Event.isIssued]) rfl
        (storedMap_setToSendOnBoarding _ _ _) (userId_setToSendOnBoarding _ _) rfl

/-- **Every reachable history is truthful.** -/
theorem truthful_after (accountId : Int) (device : Device) (actions : List Action) :
    Truthful (after accountId device actions) := by
  have hboth : Sound (after accountId device actions) ∧
      Truthful (after accountId device actions) := by
    refine Runs.run_invariant (I := fun s => Sound s ∧ Truthful s)
      ⟨Sound.installed accountId device, rfl, trivial⟩ ?_ actions
    intro s a h
    exact ⟨h.1.step (step_step s a), h.2.step h.1 (step_step s a)⟩
  exact hboth.2

/-! ## The requests of a whole history -/

/-- **Every request was made from the account, the one id, and the writes before it**, however the
calls, the answers, the losses of connection and the restarts came about; and the stored map is all
the writes. -/
theorem requests_made_from (accountId : Int) (device : Device) (actions : List Action) :
    OnBoarding.storedMap accountId (after accountId device actions).defaults =
        map (after accountId device actions).log ∧
      EachIssued (Request.MadeFrom accountId (after accountId device actions).defaults.userId)
        (after accountId device actions).log := by
  obtain ⟨hstored, hissued⟩ := truthful_after accountId device actions
  rw [after_accountId] at hstored hissued
  exact ⟨hstored, hissued⟩

/-- A request of onboarding carries the map it was made from. -/
theorem onBoarding_of_madeFrom {accountId : Int} {userId : Option String}
    {map : Dictionary String String} {r : Request} (h : r.MadeFrom accountId userId map)
    (hcall : r.call = .sendOnBoarding) : r.onBoarding = map := by
  cases h with
  | createUser device => cases hcall
  | getSegments acc id hacc hid hne => cases hcall
  | sendOnBoarding acc id hacc hid hne => rfl

/-- The map of a send in the history is that of the writes before it. -/
theorem onBoarding_of_log {accountId : Int} {device : Device} {actions : List Action}
    {newer older : List Event} {f : Flight}
    (hlog : (after accountId device actions).log = newer ++ .issued f :: older)
    (hcall : f.request.call = .sendOnBoarding) : f.request.onBoarding = map older :=
  onBoarding_of_madeFrom ((truthful_after accountId device actions).issued.of_eq_append hlog) hcall

/-- A send whose success is in the history has delivered what it carried. -/
theorem delivered_of_answered {log : List Event} {f : Flight} {response : DataResponse} {date : Date}
    (hanswered : .answered f response date ∈ log) (hcall : f.request.call = .sendOnBoarding)
    (hread : recordsSuccess response = true) {key value : String}
    (hlookup : f.request.onBoarding.lookup key = some value) : Delivered log key value := by
  refine ⟨(f.request.onBoarding, date), ?_, hlookup⟩
  exact List.mem_filterMap.mpr ⟨_, hanswered, by simp [Event.recorded?, hcall, hread]⟩

/-- **One send that arrives makes up for all that were lost before it.** Take any send of the
history. It carries what any earlier send carried, with the writes between the two on top; and once
it is recorded as a success, every pair stored before it has been delivered, which is every stored
pair if nothing was stored since. -/
theorem send_makes_up (accountId : Int) (device : Device) (actions : List Action)
    {newer older : List Event} {g : Flight}
    (hlog : (after accountId device actions).log = newer ++ .issued g :: older)
    (hcall : g.request.call = .sendOnBoarding) :
    (∀ between oldest f, older = between ++ .issued f :: oldest →
        f.request.call = .sendOnBoarding →
          g.request.onBoarding = Dictionary.overwrite f.request.onBoarding (stored between)) ∧
      ∀ response date, .answered g response date ∈ newer → recordsSuccess response = true →
        (∀ key value, (map older).lookup key = some value →
          Delivered (after accountId device actions).log key value) ∧
        (stored newer = [] → ∀ key value,
          (OnBoarding.storedMap accountId (after accountId device actions).defaults).lookup key =
              some value →
            Delivered (after accountId device actions).log key value) := by
  have hmap := onBoarding_of_log hlog hcall
  constructor
  · intro between oldest f holder hfcall
    have hflog : (after accountId device actions).log =
        (newer ++ .issued g :: between) ++ .issued f :: oldest := by
      rw [hlog, holder]
      simp
    have hissued : map (.issued f :: oldest) = map oldest := rfl
    rw [hmap, onBoarding_of_log hflog hfcall, holder, map_append, hissued]
  · intro response date hanswered hread
    have hdelivered : ∀ key value, (map older).lookup key = some value →
        Delivered (after accountId device actions).log key value := by
      intro key value hlookup
      rw [← hmap] at hlookup
      have hmem : .answered g response date ∈ (after accountId device actions).log := by
        rw [hlog]
        exact List.mem_append_left _ hanswered
      exact delivered_of_answered hmem hcall hread hlookup
    refine ⟨hdelivered, fun hquiet key value hlookup => hdelivered key value ?_⟩
    have hstored := (truthful_after accountId device actions).stored
    have hissued : map (.issued g :: older) = map older := rfl
    rw [after_accountId, hlog, map_append_of_quiet hquiet, hissued] at hstored
    rwa [hstored] at hlookup

def resent : List Action :=
  [.restart none, .complete 0 (named "u1"), .call (.setOnboarding "a" "1"),
    .call (.setOnboarding "b" "2"), .complete 3 (.ok (.text "1"))]

def isSend : Event → Bool
  | .issued f => f.request.call = .sendOnBoarding
  | _ => false

theorem send_makes_up_resent :
    ∃ newer g older, (after 7 (.phone 1700000000) resent).log = newer ++ .issued g :: older ∧
      ∀ between oldest f, older = between ++ .issued f :: oldest →
        f.request.call = .sendOnBoarding →
          g.request.onBoarding = Dictionary.overwrite f.request.onBoarding (stored between) := by
  have hsend : (after 7 (.phone 1700000000) resent).log.any isSend = true := by decide +kernel
  obtain ⟨e, hmem, he⟩ := List.any_eq_true.mp hsend
  cases e with
  | issued g =>
      obtain ⟨newer, older, hlog⟩ := List.append_of_mem hmem
      exact ⟨newer, g, older, hlog, (send_makes_up 7 _ resent hlog (by simpa [isSend] using he)).1⟩
  | launched segments => cases he
  | stored key value => cases he
  | skipped => cases he
  | answered f response date => cases he

/-- **What the server can read of a history.** The URL of every request of onboarding that was ever
issued says the number of the account, the one user id, and exactly the pairs stored before it, the
last one of each key. -/
theorem onboarding_on_the_wire (accountId : Int) (device : Device) (actions : List Action) :
    EachIssued
      (fun map r => r.call = .sendOnBoarding → ∃ acc id query pairs,
        (acc.toNat : Int) = accountId ∧
          (after accountId device actions).defaults.userId = some id ∧ id ≠ "0" ∧
          r.query? = some query ∧ QueryString.read query = some pairs ∧ Served acc id map pairs)
      (after accountId device actions).log := by
  have hissued := (truthful_after accountId device actions).issued
  rw [after_accountId] at hissued
  refine hissued.imp fun map r hr hcall => ?_
  cases hr with
  | createUser device => cases hcall
  | getSegments acc id hacc hid hne => cases hcall
  | sendOnBoarding acc id hacc hid hne =>
      exact ⟨acc, id, _, _, hacc, hid, hne, query?_sendOnBoardingRequest acc id map,
        URLEncoding.read_query _, served_sentPairs acc id map⟩

end System
