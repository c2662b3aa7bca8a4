import NaveggSdk.Library.Runs
import NaveggSdk.System.Clock
import NaveggSdk.System.Sound

/-!
# Do the cached segments reflect what was delivered?

`getSegments` fetches again when the last recorded send is later than the last save. What matters is
whether the segments were *asked for* after the send was recorded; the code compares the dates of
two *answers*, in whole seconds. `Fresh` says that segments that pass for fresh were asked for after
the last recorded send. Two steps can break it (`freshSafe`): saving an answer whose request is
older than the last recorded send, and recording a send in the second of the last save.
-/

open WebService NaveggApi

namespace History

def sinceRecorded (log : List Event) : List Event := log.takeWhile fun e => e.recorded?.isNone

/-- The request with a given number was issued after the last recorded send. -/
def issuedSince (log : List Event) (id : Nat) : Bool :=
  (sinceRecorded log).any fun e =>
    match e with
    | .issued flight => flight.id = id
    | _ => false

/-- Segments saved no earlier than the last recorded send, to the second, were asked for after
it. -/
def Fresh (log : List Event) : Prop :=
  ∀ p sv, (recorded log).head? = some p → (saved log).head? = some sv → ⌊p.2⌋ ≤ ⌊sv.date⌋ →
    issuedSince log sv.id = true

/-- An event that is no recorded send moves nothing out of reach. -/
theorem issuedSince_cons {e : Event} (he : e.recorded? = none) {log : List Event} {id : Nat}
    (h : issuedSince log id = true) : issuedSince (e :: log) id = true := by
  unfold issuedSince sinceRecorded at h ⊢
  rw [List.takeWhile_cons_of_pos (by simp [he]), List.any_cons, h, Bool.or_true]

/-- Events of which neither the recorded sends nor the saved answers say anything. -/
theorem Fresh.quiet {es log : List Event} (h : Fresh log)
    (hes : ∀ e ∈ es, e.recorded? = none ∧ e.saved? = none) : Fresh (es ++ log) := by
  induction es with
  | nil => exact h
  | cons e es ih =>
      obtain ⟨hrecorded, hsaved⟩ := hes e List.mem_cons_self
      have hrest : Fresh (es ++ log) := ih fun e' he' => hes e' (List.mem_cons_of_mem e he')
      intro p sv hp hsv hle
      rw [List.cons_append, recorded, List.filterMap_cons_none hrecorded] at hp
      rw [List.cons_append, saved, List.filterMap_cons_none hsaved] at hsv
      exact issuedSince_cons hrecorded (hrest p sv hp hsv hle)

/-- **A saved answer**: its request is the one that matters from now on. -/
theorem fresh_saved {e : Event} {sv : Saved} (hsaved : e.saved? = some sv)
    (hrecorded : e.recorded? = none) (hissued : ∀ flight, e ≠ .issued flight) {log : List Event}
    (hpast : ∀ p ∈ recorded log, p.2 ≤ sv.date) :
    Fresh (e :: log) ↔ recorded log = [] ∨ issuedSince log sv.id = true := by
  -- an answer is no request, so it does not count as issued since
  have hsame : issuedSince (e :: log) sv.id = issuedSince log sv.id := by
    unfold issuedSince sinceRecorded
    rw [List.takeWhile_cons_of_pos (by simp [hrecorded]), List.any_cons]
    cases e with
    | issued flight => exact absurd rfl (hissued flight)
    | _ => rfl
  unfold Fresh
  rw [recorded, saved, List.filterMap_cons_none hrecorded, List.filterMap_cons_some hsaved]
  cases hlast : recorded log with
  | nil =>
      refine iff_of_true (fun p sv' hp => ?_) (.inl rfl)
      rw [recorded] at hlast
      simp [hlast] at hp
  | cons p rest =>
      have hfloor : ⌊p.2⌋ ≤ ⌊sv.date⌋ := Int.floor_mono (hpast p (by simp [hlast]))
      rw [recorded] at hlast
      rw [hlast]
      constructor
      · intro h
        exact .inr (hsame ▸ h p sv rfl rfl hfloor)
      · rintro (hnil | hissued) p' sv' hp' hsv' -
        · cases hnil
        · cases hsv'
          rw [hsame]
          exact hissued

/-- **A recorded send**: nothing was asked for after it yet, so the segments must look older. -/
theorem fresh_recorded {e : Event} {p : Dictionary String String × Date}
    (hrecorded : e.recorded? = some p) (hsaved : e.saved? = none) (log : List Event) :
    Fresh (e :: log) ↔ ∀ sv, (saved log).head? = some sv → ⌊sv.date⌋ < ⌊p.2⌋ := by
  -- the stretch since the last recorded send is empty
  have hnone : ∀ id, issuedSince (e :: log) id = false := by
    intro id
    unfold issuedSince sinceRecorded
    rw [List.takeWhile_cons_of_neg (by simp [hrecorded])]
    rfl
  unfold Fresh
  rw [recorded, saved, List.filterMap_cons_some hrecorded, List.filterMap_cons_none hsaved]
  constructor
  · intro h sv hsv
    by_contra hle
    have hissued := h p sv rfl hsv (not_lt.mp hle)
    simp [hnone] at hissued
  · rintro h p' sv hp' hsv hle
    cases hp'
    exact absurd (h sv hsv) (not_lt.mpr hle)

end History

namespace System

open History

/-- The steps after which the segments are still what they pass for.

* Segments are saved: their request was issued after the last recorded send, if there was one.
* A send is recorded: not in the second in which the segments were saved. -/
def freshSafe (s : System) : Action → Bool
  | .complete id response =>
    match s.flight? id with
    | none => true
    | some f =>
      match (Event.answered f response s.device.now).saved?,
        (Event.answered f response s.device.now).recorded? with
      | some sv, _ => (recorded s.log).isEmpty || issuedSince s.log sv.id
      | none, some p =>
        match (saved s.log).head? with
        | none => true
        | some sv => ⌊sv.date⌋ < ⌊p.2⌋
      | none, none => true
  | _ => true

/-- The end of a call that neither records a send nor saves segments. -/
theorem fresh_settle {s : System} {es : List Event} {x : Outcome Unit}
    (hes : ∀ e ∈ es, e.recorded? = none ∧ e.saved? = none) (h : Fresh s.log) :
    Fresh (s.settle es x).log := by
  obtain ⟨new, hlog, hnew⟩ := settle_log_forall s es x (fun _ => ⟨rfl, rfl⟩) hes
  rw [hlog]
  exact h.quiet hnew

/-- The recorded sends lie in the past. -/
theorem Timely.recorded_le {s : System} (h : Timely s) :
    ∀ p ∈ History.recorded s.log, p.2 ≤ s.device.now := fun _ hp =>
  List.rel_of_pairwise_cons (Timely.recorded h) (List.mem_map_of_mem hp)

/-- An answer of another kind is safe. -/
theorem fresh_other {s : System} {f : Flight} {response : DataResponse}
    (hf : s.flight? f.id = some f)
    (hrecorded : (Event.answered f response s.device.now).recorded? = none)
    (hsaved : (Event.answered f response s.device.now).saved? = none) (h : Fresh s.log)
    (x : Outcome Unit) :
    Fresh ((s.drop f.id).settle [.answered f response s.device.now] x).log ↔
      s.freshSafe (.complete f.id response) = true := by
  refine iff_of_true (fresh_settle (s := s.drop f.id) ?_ h) ?_
  · simp [hrecorded, hsaved]
  · simp [freshSafe, hf, hrecorded, hsaved]

/-- An answer to `createUser` is of that kind, however it ends. -/
theorem fresh_createUser {s : System} {f : Flight} {response : DataResponse}
    (hf : s.flight? f.id = some f) (hcall : f.request.call = .createUser) (h : Fresh s.log)
    (x : Outcome Unit) :
    Fresh ((s.drop f.id).settle [.answered f response s.device.now] x).log ↔
      s.freshSafe (.complete f.id response) = true :=
  fresh_other hf (by simp [Event.recorded?, hcall]) (by simp [Event.saved?, hcall]) h x

/-- **One step.** -/
theorem fresh_step {s t : System} {a : Action} (hsound : Sound s) (htimely : Timely s)
    (hstep : Step s a t) (h : Fresh s.log) : Fresh t.log ↔ s.freshSafe a = true := by
  cases hstep with
  | dead c hdead => exact iff_of_true h rfl
  | unasked id response hnone =>
      exact iff_of_true h (by simp [freshSafe, hsound.not_asked hnone])
  | connectivity connected => exact iff_of_true h rfl
  | clock now => exact iff_of_true h rfl
  | restart idAppStore =>
      refine iff_of_true (fresh_settle (s := { s with inFlight := [] }) ?_ h) rfl
      simp [Event.recorded?, Event.saved?]
  | segments user f response segments happ hf hcall hread =>
      have hsaved : (Event.answered f response s.device.now).saved? =
          some ⟨f.id, segments, s.device.now⟩ := by
        simp [Event.saved?, hcall, hread]
      have hrecorded : (Event.answered f response s.device.now).recorded? = none := by
        simp [Event.recorded?, hcall]
      have hsafe : s.freshSafe (.complete f.id response) =
          ((recorded s.log).isEmpty || issuedSince s.log f.id) := by
        simp [freshSafe, hf, hsaved]
      rw [hsafe, Bool.or_eq_true, List.isEmpty_iff]
      exact fresh_saved hsaved hrecorded (by simp) htimely.recorded_le
  | delivered user f response happ hf hcall hread =>
      have hrecorded : (Event.answered f response s.device.now).recorded? =
          some (f.request.onBoarding, s.device.now) := by
        simp [Event.recorded?, hcall, hread]
      have hsaved : (Event.answered f response s.device.now).saved? = none := by
        simp [Event.saved?, hcall]
      refine (fresh_recorded hrecorded hsaved s.log).trans ?_
      cases hlast : (saved s.log).head? <;> simp [freshSafe, hf, hsaved, hrecorded, hlast]
  | segmentsRefused user f response happ hf hcall hread =>
      exact fresh_other hf (by simp [Event.recorded?, hcall]) (by simp [Event.saved?, hread]) h _
  | segmentsFatal user f response why happ hf hcall hread =>
      exact fresh_other hf (by simp [Event.recorded?, hcall]) (by simp [Event.saved?, hread]) h _
  | undelivered user f response happ hf hcall hread =>
      exact fresh_other hf (by simp [Event.recorded?, hread]) (by simp [Event.saved?, hcall]) h _
  | userId user f response userId happ hf hcall hread hidle =>
      exact fresh_createUser hf hcall h _
  | userIdFetch user f response userId acc happ hf hcall hread hid hconn hacc =>
      exact fresh_createUser hf hcall h _
  | userIdOverflow user f response userId happ hf hcall hread hid hconn hacc =>
      exact fresh_createUser hf hcall h _
  | userIdRefused user f response happ hf hcall hread =>
      exact fresh_createUser hf hcall h _
  | userIdFatal user f response why happ hf hcall hread =>
      exact fresh_createUser hf hcall h _
  | _ => exact iff_of_true (fresh_settle (by simp [Event.recorded?, Event.saved?]) h) rfl

/-- **The segments are what they pass for in exactly the runs whose steps are all safe.** -/
theorem always_fresh_iff {accountId : Int} {device : Device} {actions : List Action}
    (hforward : Runs.Each step Forward (installed accountId device) actions) :
    Runs.Always step (fun s => Fresh s.log) (installed accountId device) actions ↔
      Runs.Each step (fun s a => s.freshSafe a = true) (installed accountId device) actions := by
  apply Runs.always_iff_each (fun s => Sound s ∧ Timely s) Forward
  · exact ⟨Sound.installed accountId device, timely_installed accountId device⟩
  · exact fun p sv hp => by simp [installed, recorded] at hp
  · exact hforward
  · exact fun s a h hforward => ⟨h.1.step (step_step s a), h.2.step hforward⟩
  · exact fun s a h _ hgood => fresh_step h.1 h.2 (step_step s a) hgood

/-! ## What the app sees -/

/-- Where a call of `getSegments` could fetch and does not, with nothing in flight, the cached
segments are the body of a request that was issued after the last recorded send, if there was
one. -/
def FreshView (s : System) : Prop :=
  ∀ user k, s.app = some user → user.getUserId ≠ "0" → s.device.connected = true →
    s.inFlight = [] →
      ((Call.getSegments k).run s.device (.enter user s.defaults)).memory.requests = [] →
        recorded s.log ≠ [] →
          ∃ sv, (saved s.log).head? = some sv ∧
            s.defaults.dictionary "jsonSegments" = some sv.segments ∧
            (∀ name, user.segment name = (sv.segments.lookup name).getD "") ∧
            issuedSince s.log sv.id = true

/-- A call that could fetch and does not was told that no refresh is due. -/
theorem refreshDue_of_no_request {s : System} (h : Sound s) {user : User} (happ : s.app = some user)
    (hid : user.getUserId ≠ "0") (hconn : s.device.connected = true)
    (hfits : AccountFits s.accountId)
    {k : String}
    (hnone : ((Call.getSegments k).run s.device (.enter user s.defaults)).memory.requests = []) :
    User.refreshDue s.device s.defaults = false := by
  by_contra hdue
  rw [Bool.not_eq_false] at hdue
  have hfetch := WebService.fetch s.device (User.browsed (.enter user s.defaults))
  rw [Call.run_getSegments, Memory.enter_defaults, if_pos hdue] at hnone
  generalize WebService.getSegments s.device (User.browsed (.enter user s.defaults)) = x
    at hfetch hnone
  cases hfetch with
  | idle hidle =>
      rcases hidle with hzero | hoff
      · exact hid hzero
      · simp [hconn] at hoff
  | issue acc hid hconn hacc => simp [Memory.issue] at hnone
  | overflow hid hconn hacc => exact h.not_fits happ hacc hfits

/-- No refresh is due: the segments were saved no earlier than the last recorded send. -/
theorem saved_of_not_due {s : System} (h : Sound s)
    (hdue : User.refreshDue s.device s.defaults = false) {p : Dictionary String String × Date}
    (hp : (recorded s.log).head? = some p) :
    ∃ sv, (saved s.log).head? = some sv ∧ ⌊p.2⌋ ≤ ⌊sv.date⌋ := by
  unfold User.refreshDue at hdue
  rw [h.mirror.dateLastSync, h.mirror.dateOnBoarding, hp] at hdue
  cases hsv : (saved s.log).head? with
  | none => simp [hsv] at hdue
  | some sv =>
      refine ⟨sv, rfl, ?_⟩
      simp only [hsv, Option.map_some, Util.stringToDate_dateToString] at hdue
      split at hdue
      · cases hdue
      · simpa using hdue

theorem freshView_of_fresh {s : System} (h : Sound s) (hfresh : Fresh s.log) : s.FreshView := by
  intro user k happ hid hconn _ hnone hrecorded
  obtain ⟨p, rest, hp⟩ := List.exists_cons_of_ne_nil hrecorded
  have hhead : (recorded s.log).head? = some p := by rw [hp]; rfl
  have hdue := refreshDue_of_no_request h happ hid hconn (h.recorded hrecorded).2 hnone
  obtain ⟨sv, hsv, hle⟩ := saved_of_not_due h hdue hhead
  have hstored : s.defaults.dictionary "jsonSegments" = some sv.segments := by
    rw [h.mirror.jsonSegments, hsv]
    rfl
  refine ⟨sv, hsv, hstored, fun name => ?_, hfresh p sv hhead hsv hle⟩
  have hsegment := (h.consistent user happ).segment name
  rw [Memory.enter_user, Memory.enter_defaults, storedSegments, hstored] at hsegment
  exact hsegment

/-- **In a run whose steps are all safe, an app never sees segments that are out of date.** -/
theorem fresh_view (accountId : Int) (device : Device) (actions : List Action)
    (hforward : Runs.Each step Forward (installed accountId device) actions)
    (hsafe : Runs.Each step (fun s a => s.freshSafe a = true) (installed accountId device)
      actions) : Runs.Always step FreshView (installed accountId device) actions := by
  have hfresh := (always_fresh_iff hforward).mpr hsafe
  have hsound : Runs.Always step Sound (installed accountId device) actions :=
    Runs.always_of_invariant (Sound.installed accountId device)
      (fun s a h => h.step (step_step s a)) actions
  exact (hsound.and hfresh).imp fun s h => freshView_of_fresh h.1 h.2

def refreshed : List Action :=
  [.restart none, .complete 0 (named "u1"), .complete 1 (listed "1"), .clock 1700000060,
    .call (.setOnboarding "age" "30"), .complete 2 (.ok (.text "ok")),
    .call (.getSegments "gender"),
    .clock 1700000120, .complete 3 (listed "2")]

theorem fresh_view_refreshed :
    Runs.Always step FreshView (installed 7 (.phone 1700000000)) refreshed :=
  fresh_view 7 _ refreshed (by decide +kernel) (by decide +kernel)

/-! ### Segments that are out of date

The first fetch is still in flight when a pair is sent and recorded. Its answer arrives last, so the
segments look newer than the send, but they were asked for before it. -/

def overtaken : List Action :=
  [.restart none, .complete 0 (named "u1"), .call (.setOnboarding "age" "30"),
    .complete 2 (.ok (.text "ok")), .clock 1700000005, .complete 1 (listed "1")]

theorem view_out_of_date :
    Runs.Each step Forward (installed 7 (.phone 1700000000)) overtaken ∧
      ¬ Runs.Always step FreshView (installed 7 (.phone 1700000000)) overtaken := by
  refine ⟨by decide +kernel, fun h => ?_⟩
  have hlive : ((after 7 (.phone 1700000000) overtaken).app.map fun user =>
      (user.getUserId,
        ((Call.getSegments "gender").run (after 7 (.phone 1700000000) overtaken).device
          (.enter user (after 7 (.phone 1700000000) overtaken).defaults)).memory.requests.length)) =
        some ("u1", 0) := by
    decide +kernel
  obtain ⟨user, happ, hpair⟩ := Option.map_eq_some_iff.mp hlive
  rw [Prod.mk.injEq] at hpair
  have hid : user.getUserId ≠ "0" := by
    rw [hpair.1]
    decide
  have hidle : (after 7 (.phone 1700000000) overtaken).inFlight = [] :=
    List.isEmpty_iff.mp (by decide +kernel)
  have hrecorded : recorded (after 7 (.phone 1700000000) overtaken).log ≠ [] :=
    List.isEmpty_eq_false_iff.mp (by decide +kernel)
  obtain ⟨sv, hsv, -, -, hissued⟩ := h.last user "gender" happ hid (by decide +kernel) hidle
    (List.length_eq_zero_iff.mp hpair.2) hrecorded
  have hstale : ((saved (after 7 (.phone 1700000000) overtaken).log).head?.map fun sv =>
      issuedSince (after 7 (.phone 1700000000) overtaken).log sv.id) = some false := by
    decide +kernel
  rw [show (saved (after 7 (.phone 1700000000) overtaken).log).head? = some sv from hsv,
    Option.map_some, Option.some.injEq] at hstale
  exact Bool.false_ne_true (hstale.symm.trans hissued)

end System
