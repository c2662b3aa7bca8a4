import NaveggSdk.Library.Runs
import NaveggSdk.System.Sound

/-!
# Which answer do the stored segments come from?

Any number of fetches can be in flight, and every successful answer replaces the segments. So the
stored segments are those of the answer that was *processed last* (`LastProcessed`), in every state
of every run. They are those of the *request issued last* (`LatestIssued`), of all that were
answered, as long as an answer that comes after the one to that request says the same (`InOrder`).
-/

open WebService NaveggApi

namespace Event

/-- The stored map a new process loaded. -/
def launched? : Event → Option (Option (Dictionary String String))
  | .launched segments => some segments
  | _ => none

end Event

namespace History

/-- What happened in the current process. -/
def process (log : List Event) : List Event := log.takeWhile fun e => e.launched?.isNone

/-- The `getSegments` requests of this process that have completed successfully, the one processed
last first. -/
def completed (log : List Event) : List Saved := saved (process log)

/-- The map this process found when it started. -/
def loaded (log : List Event) : Option (Dictionary String String) :=
  (log.findSome? Event.launched?).getD none

def latestIssued : List Saved → Option Saved
  | [] => none
  | sv :: rest =>
    match latestIssued rest with
    | none => some sv
    | some later => if sv.id < later.id then some later else some sv

/-- The body of that request, or the map the process loaded. -/
def latestSegments (log : List Event) : Dictionary String String :=
  match latestIssued (completed log) with
  | some sv => sv.segments
  | none => (loaded log).getD ∅

theorem completed_cons {e : Event} (he : e.launched? = none) (log : List Event) :
    completed (e :: log) = saved [e] ++ completed log := by
  unfold completed process
  rw [List.takeWhile_cons_of_pos (by simp [he]), saved, saved, saved, ← List.filterMap_append]
  rfl

theorem loaded_cons {e : Event} (he : e.launched? = none) (log : List Event) :
    loaded (e :: log) = loaded log := by
  unfold loaded
  rw [List.findSome?_cons_of_isNone (by simp [he])]

/-- Events of which neither says anything. -/
theorem process_quiet {es : List Event} (hes : ∀ e ∈ es, e.launched? = none ∧ e.saved? = none)
    (log : List Event) :
    completed (es ++ log) = completed log ∧ loaded (es ++ log) = loaded log := by
  induction es with
  | nil => exact ⟨rfl, rfl⟩
  | cons e es ih =>
      obtain ⟨hlaunched, hsaved⟩ := hes e List.mem_cons_self
      obtain ⟨hcompleted, hloaded⟩ := ih fun e' he' => hes e' (List.mem_cons_of_mem e he')
      rw [List.cons_append, completed_cons hlaunched, loaded_cons hlaunched, hcompleted, hloaded]
      simp [saved, hsaved]

end History

namespace System

open History

def savedBy (s : System) : Action → Option Saved
  | .complete id response =>
    (s.flight? id).bind fun f => (Event.answered f response s.device.now).saved?
  | _ => none

/-- The ways a step can change the segments. -/
inductive SegmentsStep (s t : System) (a : Action) : Prop
  | same (hsaved : s.savedBy a = none) (hcompleted : completed t.log = completed s.log)
      (hloaded : loaded t.log = loaded s.log)
      (hstored : t.defaults.dictionary "jsonSegments" = s.defaults.dictionary "jsonSegments")
  | launch (hsaved : s.savedBy a = none) (hcompleted : completed t.log = [])
      (hloaded : loaded t.log = s.defaults.dictionary "jsonSegments")
      (hstored : t.defaults.dictionary "jsonSegments" = s.defaults.dictionary "jsonSegments")
  | save (sv : Saved) (hsaved : s.savedBy a = some sv)
      (hcompleted : completed t.log = sv :: completed s.log)
      (hloaded : loaded t.log = loaded s.log)
      (hstored : t.defaults.dictionary "jsonSegments" = some sv.segments)

/-- Where nothing was saved, nothing changes in the store. -/
theorem stored_eq {s t : System} (hs : Sound s) (ht : Sound t)
    (hsaved : saved t.log = saved s.log) :
    t.defaults.dictionary "jsonSegments" = s.defaults.dictionary "jsonSegments" := by
  rw [hs.mirror.jsonSegments, ht.mirror.jsonSegments, hsaved]

/-- A step that adds nothing to either list. -/
theorem segments_quiet {s t : System} (hs : Sound s) (ht : Sound t) {new : List Event}
    (hlog : t.log = new ++ s.log) (hnew : ∀ e ∈ new, e.launched? = none ∧ e.saved? = none)
    {a : Action} (hsaved : s.savedBy a = none) : SegmentsStep s t a := by
  obtain ⟨hcompleted, hloaded⟩ := process_quiet hnew s.log
  rw [← hlog] at hcompleted hloaded
  refine .same hsaved hcompleted hloaded (stored_eq hs ht ?_)
  have hnil : new.filterMap Event.saved? = [] :=
    List.filterMap_eq_nil_iff.mpr fun e he => (hnew e he).2
  rw [hlog, saved, List.filterMap_append, hnil, List.nil_append]
  rfl

/-- The end of a call that saves nothing. -/
theorem segments_settle {s s' : System} (hs : Sound s) (hsame : s'.log = s.log) {es : List Event}
    {x : Outcome Unit} (ht : Sound (s'.settle es x))
    (hes : ∀ e ∈ es, e.launched? = none ∧ e.saved? = none) {a : Action}
    (hsaved : s.savedBy a = none) : SegmentsStep s (s'.settle es x) a := by
  obtain ⟨new, hlog, hnew⟩ := settle_log_forall s' es x (fun _ => ⟨rfl, rfl⟩) hes
  rw [hsame] at hlog
  exact segments_quiet hs ht hlog hnew hsaved

/-- An answer that saves nothing. -/
theorem segments_other {s : System} (hs : Sound s) {f : Flight} {response : DataResponse}
    {x : Outcome Unit} (hf : s.flight? f.id = some f)
    (hsaved : (Event.answered f response s.device.now).saved? = none)
    (ht : Sound ((s.drop f.id).settle [.answered f response s.device.now] x)) :
    SegmentsStep s ((s.drop f.id).settle [.answered f response s.device.now] x)
      (.complete f.id response) := by
  apply segments_settle hs (drop_log s f.id) ht
  · simp [hsaved, Event.launched?]
  · simp [savedBy, hf, hsaved]

/-- **Every step is one of these.** -/
theorem segments_step {s t : System} {a : Action} (hs : Sound s) (hstep : Step s a t) :
    SegmentsStep s t a := by
  have ht : Sound t := hs.step hstep
  cases hstep with
  | dead c hdead => exact .same rfl rfl rfl rfl
  | unasked id response hnone =>
      exact .same (by simp [savedBy, hs.not_asked hnone]) rfl rfl rfl
  | connectivity connected => exact .same rfl rfl rfl rfl
  | clock now => exact .same rfl rfl rfl rfl
  | restart idAppStore =>
      have hstored : (registered s.accountId idAppStore s.defaults).dictionary "jsonSegments" =
          s.defaults.dictionary "jsonSegments" :=
        (registered_readers _ _ _ _ (by decide) (by decide) (by decide)).2.2.2
      -- the requests of the new process are issued after its launch
      obtain ⟨new, hlog, hnew⟩ := settle_log_forall
        { s with log := .launched (s.defaults.dictionary "jsonSegments") :: s.log } []
        (P := fun e => e.launched? = none ∧ e.saved? = none)
        (.done () ⟨_, _, _⟩) (fun _ => ⟨rfl, rfl⟩) nofun
      obtain ⟨hcompleted, hloaded⟩ := process_quiet hnew
        (.launched (s.defaults.dictionary "jsonSegments") :: s.log)
      exact .launch rfl ((congrArg completed hlog).trans hcompleted)
        ((congrArg loaded hlog).trans hloaded) hstored
  | segments user f response segments happ hf hcall hread =>
      have hsaved : (Event.answered f response s.device.now).saved? =
          some ⟨f.id, segments, s.device.now⟩ := by
        simp [Event.saved?, hcall, hread]
      refine .save ⟨f.id, segments, s.device.now⟩ (by simp [savedBy, hf, hsaved]) ?_ ?_ ?_
      · refine (completed_cons (e := .answered f response s.device.now) rfl s.log).trans ?_
        simp [saved, hsaved]
      · exact loaded_cons (e := .answered f response s.device.now) rfl s.log
      · simp [User.saveSegments]
  | segmentsRefused user f response happ hf hcall hread =>
      exact segments_other hs hf (by simp [Event.saved?, hread]) ht
  | segmentsFatal user f response why happ hf hcall hread =>
      exact segments_other hs hf (by simp [Event.saved?, hread]) ht
  | delivered user f response happ hf hcall hread =>
      exact segments_other hs hf (by simp [Event.saved?, hcall]) ht
  | undelivered user f response happ hf hcall hread =>
      exact segments_other hs hf (by simp [Event.saved?, hcall]) ht
  | userId user f response userId happ hf hcall hread hidle =>
      exact segments_other hs hf (by simp [Event.saved?, hcall]) ht
  | userIdFetch user f response userId acc happ hf hcall hread hid hconn hacc =>
      exact segments_other hs hf (by simp [Event.saved?, hcall]) ht
  | userIdOverflow user f response userId happ hf hcall hread hid hconn hacc =>
      exact segments_other hs hf (by simp [Event.saved?, hcall]) ht
  | userIdRefused user f response happ hf hcall hread =>
      exact segments_other hs hf (by simp [Event.saved?, hcall]) ht
  | userIdFatal user f response why happ hf hcall hread =>
      exact segments_other hs hf (by simp [Event.saved?, hcall]) ht
  | _ => exact segments_settle hs rfl ht (by simp [Event.launched?, Event.saved?]) rfl

/-! ## The answer processed last -/

/-- The stored segments are the body of the answer that was processed last in this process, or the
map the process loaded. -/
def LastProcessed (s : System) : Prop :=
  s.defaults.dictionary "jsonSegments" =
    match (completed s.log).head? with
    | some sv => some sv.segments
    | none => loaded s.log

theorem lastProcessed_step {s t : System} {a : Action} (hs : Sound s) (hstep : Step s a t)
    (h : LastProcessed s) : LastProcessed t := by
  unfold LastProcessed at h ⊢
  cases segments_step hs hstep with
  | same hsaved hcompleted hloaded hstored =>
      rw [hcompleted, hloaded, hstored]
      exact h
  | launch hsaved hcompleted hloaded hstored =>
      rw [hcompleted, hloaded, hstored]
      rfl
  | save sv hsaved hcompleted hloaded hstored =>
      rw [hcompleted, hstored]
      rfl

/-- **In every state of every run.** -/
theorem always_lastProcessed (accountId : Int) (device : Device) (actions : List Action) :
    Runs.Always step LastProcessed (installed accountId device) actions := by
  have hboth : Runs.Always step (fun s => Sound s ∧ LastProcessed s) (installed accountId device)
      actions :=
    Runs.always_of_invariant ⟨Sound.installed accountId device, rfl⟩
      (fun s a h => ⟨h.1.step (step_step s a), lastProcessed_step h.1 (step_step s a) h.2⟩) actions
  exact hboth.imp fun s h => h.2

/-! ## The request issued last -/

/-- The stored segments are the body of the request that was issued last among those of this process
that have completed successfully, or the map the process loaded. -/
def LatestIssued (s : System) : Prop :=
  Dictionary.Same (storedSegments s.defaults) (latestSegments s.log)

/-- If `latestIssued` of the answers saved before was issued later than the request that the new one
answers, the two say the same. Earlier answers to other requests do not matter. -/
def InOrder (s : System) (a : Action) : Prop :=
  ∀ sv, s.savedBy a = some sv → ∀ later, latestIssued (completed s.log) = some later →
    sv.id < later.id → Dictionary.Same sv.segments later.segments

theorem latestIssued_step {s t : System} {a : Action} (hs : Sound s) (hstep : Step s a t)
    (h : LatestIssued s) : LatestIssued t ↔ InOrder s a := by
  cases segments_step hs hstep with
  | same hsaved hcompleted hloaded hstored =>
      have hnothing : InOrder s a := by
        intro sv hsv
        simp [hsaved] at hsv
      refine iff_of_true ?_ hnothing
      unfold LatestIssued storedSegments latestSegments at h ⊢
      rw [hcompleted, hloaded, hstored]
      exact h
  | launch hsaved hcompleted hloaded hstored =>
      have hnothing : InOrder s a := by
        intro sv hsv
        simp [hsaved] at hsv
      refine iff_of_true ?_ hnothing
      unfold LatestIssued storedSegments latestSegments
      rw [hcompleted, hloaded, hstored]
      exact Dictionary.Same.refl _
  | save sv hsaved hcompleted hloaded hstored =>
      have horder : InOrder s a ↔ ∀ later, latestIssued (completed s.log) = some later →
          sv.id < later.id → Dictionary.Same sv.segments later.segments := by
        simp [InOrder, hsaved]
      unfold LatestIssued storedSegments latestSegments
      rw [horder, hcompleted, hstored, latestIssued]
      cases hlater : latestIssued (completed s.log) with
      | none => exact iff_of_true (Dictionary.Same.refl _) (by simp)
      | some later =>
          -- the store has the body of `sv`; the newest request is `later` if it is newer
          by_cases hlt : sv.id < later.id
          · simp [hlt]
          · simp [hlt, Dictionary.Same.refl]

/-- **The stored segments are those of the answer processed last, always; and those of the request
issued last in exactly the runs whose late answers say what the newest one said.** -/
theorem stored_segments (accountId : Int) (device : Device) (actions : List Action) :
    Runs.Always step LastProcessed (installed accountId device) actions ∧
      (Runs.Always step LatestIssued (installed accountId device) actions ↔
        Runs.Each step InOrder (installed accountId device) actions) := by
  refine ⟨always_lastProcessed accountId device actions, ?_⟩
  apply Runs.always_iff_each Sound fun _ _ => True
  · exact Sound.installed accountId device
  · exact Dictionary.Same.refl _
  · exact Runs.each_of_forall (fun _ _ => trivial) _ _
  · exact fun s a h _ => h.step (step_step s a)
  · exact fun s a h _ hgood => latestIssued_step h (step_step s a) hgood

/-! ### An answer that comes late -/

def crossed : List Action :=
  [.restart none, .complete 0 (named "u1"), .call (.getSegments "gender"),
    .complete 2 (listed "2"), .complete 1 (listed "1")]

theorem late_answer_wins :
    ¬ Runs.Always step LatestIssued (installed 7 (.phone 1700000000)) crossed := by
  intro h
  have hstored : (storedSegments (after 7 (.phone 1700000000) crossed).defaults).lookup "gender" =
      some "1" := by
    decide +kernel
  have hlatest : (latestSegments (after 7 (.phone 1700000000) crossed).log).lookup "gender" =
      some "2" := by
    decide +kernel
  have hsame : some "1" = some "2" := hstored.symm.trans ((h.last "gender").trans hlatest)
  exact absurd hsame (by decide)

end System
