import NaveggSdk.Delivery.Ledger
import NaveggSdk.Sdk.Parameters

/-!
# What does the background flush re-send?

`sendDataSaveInDefault` is there to send the map again when the last attempt to send it failed or
was skipped. It looks at the flag through two negations and ends up sending when the flag is *up*,
that is, when the last outcome that was recorded is a success (`flush_of_flag_up`,
`flush_of_flag_down`, `Mirror.toSend`). So it does the right thing in one case only: when the
outcome recorded last is not the one of the last attempt, but the opposite one of an earlier attempt
whose answer overtook it (`flush_right_iff`).
-/

open WebService NaveggApi

namespace Event

/-- An attempt to send the stored map: the number of its request, if it got as far as that. -/
def attempt? : Event → Option (Option Nat)
  | .skipped => some none
  | .issued flight => if flight.request.call = .sendOnBoarding then some (some flight.id) else none
  | _ => none

def outcomeOf? (id : Nat) : Event → Option Bool
  | .answered flight response _ =>
    if flight.request.call = .sendOnBoarding ∧ flight.id = id then some (recordsSuccess response)
    else none
  | _ => none

def isStored : Event → Bool
  | .stored _ _ => true
  | _ => false

end Event

namespace History

/-- How the last attempt to send ended. An attempt that was skipped has failed; one that was never
answered has no outcome. -/
def lastOutcome (log : List Event) : Option Bool :=
  match log.findSome? Event.attempt? with
  | none => none
  | some none => some false
  | some (some id) => log.findSome? (Event.outcomeOf? id)

/-- A pair was stored after the last attempt to send. -/
def storedSince (log : List Event) : Bool :=
  (log.takeWhile fun e => e.attempt?.isNone).any Event.isStored

/-- The outcome of the last attempt is one of the recorded outcomes. -/
theorem lastOutcome_mem {log : List Event} {outcome : Bool} (h : lastOutcome log = some outcome) :
    outcome ∈ outcomes log := by
  unfold lastOutcome at h
  split at h
  · cases h
  · rename_i hattempt
    obtain ⟨e, he, hskipped⟩ := List.exists_of_findSome?_eq_some hattempt
    refine List.mem_filterMap.mpr ⟨e, he, ?_⟩
    cases e with
    | skipped => exact h
    | issued flight =>
        by_cases hcall : flight.request.call = .sendOnBoarding <;>
          simp [Event.attempt?, hcall] at hskipped
    | launched segments => cases hskipped
    | stored key value => cases hskipped
    | answered flight response date => cases hskipped
  · rename_i id _
    obtain ⟨e, he, hanswer⟩ := List.exists_of_findSome?_eq_some h
    refine List.mem_filterMap.mpr ⟨e, he, ?_⟩
    cases e with
    | answered flight response date =>
        by_cases hid : flight.request.call = .sendOnBoarding ∧ flight.id = id
        · rw [Event.outcomeOf?, if_pos hid] at hanswer
          rw [Event.outcome?, if_pos hid.1]
          exact hanswer
        · simp [Event.outcomeOf?, hid] at hanswer
    | skipped => cases hanswer
    | issued flight => cases hanswer
    | launched segments => cases hanswer
    | stored key value => cases hanswer

/-! ### Nothing is stored without an attempt to send it -/

theorem storedSince_cons (e : Event) (log : List Event) :
    storedSince (e :: log) =
      if e.attempt?.isNone then e.isStored || storedSince log else false := by
  unfold storedSince
  rw [List.takeWhile_cons]
  split
  · rw [List.any_cons]
  · rfl

/-- Events other than a stored pair change nothing. -/
theorem storedSince_append {es log : List Event} (hes : ∀ e ∈ es, e.isStored = false)
    (h : storedSince log = false) : storedSince (es ++ log) = false := by
  induction es with
  | nil => exact h
  | cons e es ih =>
      have hrest : storedSince (es ++ log) = false :=
        ih fun e' he' => hes e' (List.mem_cons_of_mem e he')
      rw [List.cons_append, storedSince_cons, hes e List.mem_cons_self, hrest]
      simp

end History

namespace System

open History

/-- The end of a call in which no pair was stored. -/
theorem storedSince_settle {s : System} {es : List Event} {x : Outcome Unit}
    (hes : ∀ e ∈ es, e.isStored = false) (h : storedSince s.log = false) :
    storedSince (s.settle es x).log = false := by
  obtain ⟨new, hlog, hnew⟩ := settle_log_forall s es x (fun _ => rfl) hes
  rw [hlog]
  exact storedSince_append hnew h

theorem storedSince_step {s t : System} {a : Action} (hstep : Step s a t)
    (h : storedSince s.log = false) : storedSince t.log = false := by
  cases hstep with
  | dead c hdead => exact h
  | unasked id response hnone => exact h
  | connectivity connected => exact h
  | clock now => exact h
  | storeMissing user k v happ hsup hid =>
      rw [settle_log]
      rfl
  | storeOffline user k v happ hsup hid hconn =>
      rw [settle_log]
      rfl
  | storeSend user k v acc happ hsup hid hconn hacc =>
      rw [settle_log]
      rfl
  | storeOverflow user k v happ hsup hid hconn hacc =>
      rw [settle_log]
      rfl
  | restart idAppStore =>
      exact storedSince_settle (s := { s with inFlight := [] }) (by simp [Event.isStored]) h
  | _ => exact storedSince_settle (by simp [Event.isStored]) h

/-- **Every stored pair is followed by an attempt to send it**, successful or not. -/
theorem storedSince_after (accountId : Int) (device : Device) (actions : List Action) :
    storedSince (after accountId device actions).log = false :=
  Runs.run_invariant (I := fun s => storedSince s.log = false) rfl
    (fun s a h => storedSince_step (step_step s a) h) actions

/-! ## The flush -/

def flushRequests (s : System) (user : User) : List Request :=
  (User.sendDataSaveInDefault s.device (.enter user s.defaults)).memory.requests

/-- The flush re-sends what was not delivered, all of it, and nothing else. -/
def FlushRight (s : System) (user : User) : Prop :=
  (lastOutcome s.log = some false →
    ∃ r, s.flushRequests user = [r] ∧ r.call = .sendOnBoarding ∧
      ∀ k v, (OnBoarding.storedMap s.accountId s.defaults).lookup k = some v → r.Carries k v) ∧
  (lastOutcome s.log = some true → storedSince s.log = false → s.flushRequests user = [])

theorem flush_of_flag_down {s : System} {user : User}
    (hflag : s.defaults.bool "toSendOnBoarding" = false) : s.flushRequests user = [] := by
  rw [flushRequests, User.sendDataSaveInDefault_eq]
  simp [hflag]

/-- **With the flag up the whole stored map is sent**, to a device that is connected. -/
theorem flush_of_flag_up {s : System} (h : Sound s) {user : User} (happ : s.app = some user)
    (hid : user.getUserId ≠ "0") (hconn : s.device.connected = true)
    (hflag : s.defaults.bool "toSendOnBoarding" = true) :
    ∃ acc, s.flushRequests user =
      [sendOnBoardingRequest acc user.getUserId (OnBoarding.storedMap s.accountId s.defaults)] := by
  have hfits : AccountFits s.accountId := (h.recorded (h.mirror.recorded_ne_nil hflag)).2
  have hsend := WebService.send s.device user.onBoarding (.enter user s.defaults)
  have hmap : user.onBoarding.valueData = OnBoarding.storedMap s.accountId s.defaults :=
    valueData_eq h happ
  rw [flushRequests, User.sendDataSaveInDefault_eq, Memory.enter_defaults, Memory.enter_user, hconn,
    hflag, Bool.and_self, if_pos rfl]
  generalize sendOnBoarding s.device user.onBoarding (.enter user s.defaults) = x at hsend ⊢
  cases hsend with
  | missing hzero => exact absurd hzero hid
  | offline hid hoff => simp [hconn] at hoff
  | issue acc hid hconn hacc => exact ⟨acc, by simp [Memory.issue, hmap]⟩
  | overflow hid hconn hacc => exact absurd hfits (h.not_fits happ hacc)

/-- **What the flush does**: it sends if the outcome recorded last is a success. -/
theorem flushRequests_eq_nil_iff {s : System} (h : Sound s) {user : User}
    (happ : s.app = some user) (hid : user.getUserId ≠ "0") (hconn : s.device.connected = true) :
    s.flushRequests user = [] ↔ (outcomes s.log).head? ≠ some true := by
  have hflag : s.defaults.bool "toSendOnBoarding" = true ↔ (outcomes s.log).head? = some true := by
    rw [h.mirror.toSend]
    cases (outcomes s.log).head? <;> simp
  rw [ne_eq, ← hflag]
  constructor
  · intro hnil hup
    obtain ⟨acc, hsend⟩ := flush_of_flag_up h happ hid hconn hup
    simp [hnil] at hsend
  · intro hdown
    exact flush_of_flag_down (by simpa using hdown)

/-- If it sends, it sends everything. -/
theorem flushRequests_of_ne_nil {s : System} (h : Sound s) {user : User} (happ : s.app = some user)
    (hid : user.getUserId ≠ "0") (hconn : s.device.connected = true)
    (hne : s.flushRequests user ≠ []) : ∃ r, s.flushRequests user = [r] ∧
      r.call = .sendOnBoarding ∧
        ∀ k v, (OnBoarding.storedMap s.accountId s.defaults).lookup k = some v → r.Carries k v := by
  cases hflag : s.defaults.bool "toSendOnBoarding" with
  | false => exact absurd (flush_of_flag_down hflag) hne
  | true =>
      obtain ⟨acc, hsend⟩ := flush_of_flag_up h happ hid hconn hflag
      exact ⟨_, hsend, rfl, fun k v => sendOnBoardingRequest_carries acc user.getUserId⟩

/-- **The flush is right exactly where the outcome recorded last is the opposite of the outcome of
the last attempt** (or that attempt has no outcome). -/
theorem flush_right_iff (accountId : Int) (device : Device) (actions : List Action) (user : User)
    (happ : (after accountId device actions).app = some user) (hid : user.getUserId ≠ "0")
    (hconn : (after accountId device actions).device.connected = true) :
    (after accountId device actions).FlushRight user ↔
      ∀ outcome, lastOutcome (after accountId device actions).log = some outcome →
        (outcomes (after accountId device actions).log).head? = some (!outcome) := by
  have hsound := sound_after accountId device actions
  have hsince := storedSince_after accountId device actions
  generalize after accountId device actions = s at *
  have hnil := flushRequests_eq_nil_iff hsound happ hid hconn
  have hsend := flushRequests_of_ne_nil hsound happ hid hconn
  unfold FlushRight
  cases hlast : lastOutcome s.log with
  | none => simp
  | some outcome =>
      -- some outcome was recorded, because the last attempt has one
      obtain ⟨b, hhead⟩ : ∃ b, (outcomes s.log).head? = some b := by
        cases hout : outcomes s.log with
        | nil => simpa [hout] using lastOutcome_mem hlast
        | cons b rest => exact ⟨b, rfl⟩
      rw [hhead] at hnil ⊢
      cases outcome with
      | false =>
          -- the last attempt failed: the flush should send, and does so after a success only
          cases b with
          | true => simpa using hsend (by simp [hnil])
          | false => simp [hnil.mpr (by simp)]
      | true =>
          -- it succeeded: the flush should be silent, as it is after a failure
          cases b with
          | true => simp [hsince, hnil]
          | false => simp [hnil]

/-! ### A failed send that is never repeated -/

def undelivered : List Action :=
  [.restart none, .complete 0 (named "u1"), .call (.setOnboarding "age" "30"), .complete 2 .lost]

/-- The run ends with a user that could send. -/
theorem ready_undelivered : ∃ user, (after 7 (.phone 1700000000) undelivered).app = some user ∧
    user.getUserId ≠ "0" ∧
      (after 7 (.phone 1700000000) undelivered).flushRequests user = [] := by
  have hlive : ((after 7 (.phone 1700000000) undelivered).app.map fun user =>
      (user.getUserId, ((after 7 (.phone 1700000000) undelivered).flushRequests user).length)) =
        some ("u1", 0) := by
    decide +kernel
  obtain ⟨user, happ, hpair⟩ := Option.map_eq_some_iff.mp hlive
  rw [Prod.mk.injEq] at hpair
  refine ⟨user, happ, ?_, List.length_eq_zero_iff.mp hpair.2⟩
  rw [hpair.1]
  decide

theorem flush_right_iff_undelivered : ∃ user,
    (after 7 (.phone 1700000000) undelivered).app = some user ∧
      ((after 7 (.phone 1700000000) undelivered).FlushRight user ↔
        ∀ outcome, lastOutcome (after 7 (.phone 1700000000) undelivered).log = some outcome →
          (outcomes (after 7 (.phone 1700000000) undelivered).log).head? = some (!outcome)) := by
  obtain ⟨user, happ, hid, -⟩ := ready_undelivered
  exact ⟨user, happ, flush_right_iff 7 _ undelivered user happ hid (by decide +kernel)⟩

theorem flush_forgets : ∃ user, (after 7 (.phone 1700000000) undelivered).app = some user ∧
    user.getUserId ≠ "0" ∧
      (after 7 (.phone 1700000000) undelivered).device.connected = true ∧
        (∀ f ∈ (after 7 (.phone 1700000000) undelivered).inFlight,
          f.request.call ≠ .sendOnBoarding) ∧
          ¬ (after 7 (.phone 1700000000) undelivered).FlushRight user := by
  obtain ⟨user, happ, hid, hnothing⟩ := ready_undelivered
  refine ⟨user, happ, hid, by decide +kernel, by decide +kernel, fun h => ?_⟩
  have hfailed : lastOutcome (after 7 (.phone 1700000000) undelivered).log = some false := by
    decide +kernel
  obtain ⟨r, hr, -⟩ := h.1 hfailed
  simp [hnothing] at hr

end System
