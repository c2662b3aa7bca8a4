import Mathlib.Data.List.Basic

/-!
# Runs of a deterministic machine

A machine is a step function `step : σ → α → σ`: whatever is left open (which event comes next,
what an answer says) is part of the action, so a *run* is a start state and a list of actions.

Three ways to talk about a run:

* `run step s as` — the state it ends in.
* `Always step P s as` — `P` holds in every state the run goes through.
* `Each step Q s as` — `Q` holds of every step of the run, judged in the state before the step.

The rules below are the induction over a run, stated once: `run_invariant` for a property every
step keeps, `always_iff_each` for a property that is kept by exactly the steps that satisfy a
condition. Nothing here knows what a state or an action is.
-/

namespace Runs

variable {σ α : Type*} (step : σ → α → σ)

def run (s : σ) (as : List α) : σ := as.foldl step s

/-- `P` holds in every state of the run, the first and the last included. -/
def Always (P : σ → Prop) : σ → List α → Prop
  | s, []      => P s
  | s, a :: as => P s ∧ Always P (step s a) as

/-- `Q` holds of every step of the run. -/
def Each (Q : σ → α → Prop) : σ → List α → Prop
  | _, []      => True
  | s, a :: as => Q s a ∧ Each Q (step s a) as

/-- A condition on steps that can be checked can be checked along a run. -/
instance decidableEach (Q : σ → α → Prop) [∀ s a, Decidable (Q s a)] :
    ∀ (s : σ) (as : List α), Decidable (Each step Q s as)
  | _, [] => isTrue trivial
  | s, a :: as =>
    have := decidableEach Q (step s a) as
    inferInstanceAs (Decidable (Q s a ∧ Each step Q (step s a) as))

@[simp] theorem run_nil (s : σ) : run step s [] = s := rfl

@[simp] theorem run_cons (s : σ) (a : α) (as : List α) :
    run step s (a :: as) = run step (step s a) as := rfl

theorem run_append (s : σ) (as bs : List α) :
    run step s (as ++ bs) = run step (run step s as) bs := List.foldl_append

variable {step}

theorem Always.head {P : σ → Prop} {s : σ} {as : List α} (h : Always step P s as) : P s := by
  cases as with
  | nil => exact h
  | cons a as => exact h.1

/-- The last state of a run is one of its states. -/
theorem Always.last {P : σ → Prop} {s : σ} {as : List α} (h : Always step P s as) :
    P (run step s as) := by
  induction as generalizing s with
  | nil => exact h
  | cons a as ih => exact ih h.2

theorem Always.and {P R : σ → Prop} {s : σ} {as : List α} (hP : Always step P s as)
    (hR : Always step R s as) : Always step (fun s => P s ∧ R s) s as := by
  induction as generalizing s with
  | nil => exact ⟨hP, hR⟩
  | cons a as ih => exact ⟨⟨hP.1, hR.1⟩, ih hP.2 hR.2⟩

theorem Always.imp {P R : σ → Prop} (h : ∀ s, P s → R s) {s : σ} {as : List α}
    (hP : Always step P s as) : Always step R s as := by
  induction as generalizing s with
  | nil => exact h s hP
  | cons a as ih => exact ⟨h s hP.1, ih hP.2⟩

/-! ## Invariants -/

/-- **A property every step keeps holds after every run.** -/
theorem run_invariant {I : σ → Prop} {s : σ} (h0 : I s) (hstep : ∀ s a, I s → I (step s a))
    (as : List α) : I (run step s as) := by
  induction as generalizing s with
  | nil => exact h0
  | cons a as ih => exact ih (hstep s a h0)

/-- A property every step keeps holds in every state of a run. -/
theorem always_of_invariant {I : σ → Prop} {s : σ} (h0 : I s)
    (hstep : ∀ s a, I s → I (step s a)) (as : List α) : Always step I s as := by
  induction as generalizing s with
  | nil => exact h0
  | cons a as ih => exact ⟨h0, ih (hstep s a h0)⟩

/-- A condition met in every state is met by every step. -/
theorem each_of_forall {Q : σ → α → Prop} (h : ∀ s a, Q s a) (s : σ) (as : List α) :
    Each step Q s as := by
  induction as generalizing s with
  | nil => trivial
  | cons a as ih => exact ⟨h s a, ih _⟩

/-- A condition met by every step from the states of an invariant is met along every run. -/
theorem each_of_invariant {I : σ → Prop} {Q : σ → α → Prop} {s : σ} (h0 : I s)
    (hstep : ∀ s a, I s → I (step s a)) (hQ : ∀ s a, I s → Q s a) (as : List α) :
    Each step Q s as := by
  induction as generalizing s with
  | nil => trivial
  | cons a as ih => exact ⟨hQ s a h0, ih (hstep s a h0)⟩

theorem Each.and {Q R : σ → α → Prop} {s : σ} {as : List α} (hQ : Each step Q s as)
    (hR : Each step R s as) : Each step (fun s a => Q s a ∧ R s a) s as := by
  induction as generalizing s with
  | nil => trivial
  | cons a as ih => exact ⟨⟨hQ.1, hR.1⟩, ih hQ.2 hR.2⟩

/-- A condition on actions alone. -/
theorem each_of_mem {A : α → Prop} (s : σ) {as : List α} (h : ∀ a ∈ as, A a) :
    Each step (fun _ a => A a) s as := by
  induction as generalizing s with
  | nil => trivial
  | cons a as ih =>
      have hrest : ∀ a' ∈ as, A a' := fun a' ha' => h a' (List.mem_cons_of_mem a ha')
      exact ⟨h a List.mem_cons_self, ih (step s a) hrest⟩

/-! ## What a run can spend

Every action brings in a credit. A machine that has never spent and put by more than came in cannot
spend without end. -/

/-- What the actions of a run bring in, each judged in the state before it. -/
def credits (step : σ → α → σ) (credit : σ → α → Nat) : σ → List α → Nat
  | _, [] => 0
  | s, a :: as => credit s a + credits step credit (step s a) as

/-- **What every step pays for, every run has paid for.** -/
theorem spent_le_credits (spent reserve : σ → Nat) {credit : σ → α → Nat}
    (hstep : ∀ s a, spent (step s a) + reserve (step s a) ≤ spent s + reserve s + credit s a)
    (s : σ) (as : List α) :
    spent (run step s as) + reserve (run step s as) ≤
      spent s + reserve s + credits step credit s as := by
  induction as generalizing s with
  | nil => exact Nat.le_refl _
  | cons a as ih =>
      have hone := hstep s a
      have hrest := ih (step s a)
      rw [run_cons, credits]
      omega

/-! ## Two machines

`R` relates the states of two machines that take the same actions. -/

/-- **A relation that every step keeps** relates the ends of two runs. -/
theorem run_related {τ : Type*} {step' : τ → α → τ} {R : σ → τ → Prop} {s : σ} {t : τ}
    (h0 : R s t) (hstep : ∀ s t a, R s t → R (step s a) (step' t a)) (as : List α) :
    R (run step s as) (run step' t as) := by
  induction as generalizing s t with
  | nil => exact h0
  | cons a as ih => exact ih (hstep s t a h0)

/-! ## Runs in rounds

Some actions are the machine's own (`internal`), and in some states it has none left to take
(`rest`). In a *round* something happens to the machine, and then it acts until it is at rest. -/

/-- A run in rounds, each given by what happens and by what the machine does then. -/
def Rounds (step : σ → α → σ) (internal : α → Prop) (rest : σ → Prop) :
    σ → List (α × List α) → Prop
  | _, [] => True
  | s, (a, as) :: rounds =>
    (∀ b ∈ as, internal b) ∧ rest (run step (step s a) as) ∧
      Rounds step internal rest (run step (step s a) as) rounds

/-- Whether a run is one in rounds can be computed. -/
instance decidableRounds (internal : α → Prop) (rest : σ → Prop) [DecidablePred internal]
    [DecidablePred rest] :
    ∀ (s : σ) (rounds : List (α × List α)), Decidable (Rounds step internal rest s rounds)
  | _, [] => isTrue trivial
  | s, (a, as) :: rounds =>
    have := decidableRounds internal rest (run step (step s a) as) rounds
    inferInstanceAs (Decidable (_ ∧ _ ∧ Rounds step internal rest (run step (step s a) as) rounds))

def round (step : σ → α → σ) (s : σ) (r : α × List α) : σ := run step (step s r.1) r.2

/-- What is asked of a run in rounds is asked of each round. -/
theorem Rounds.each {internal : α → Prop} {rest : σ → Prop} {s : σ} {rounds : List (α × List α)}
    (h : Rounds step internal rest s rounds) :
    Each (round step) (fun s r => (∀ b ∈ r.2, internal b) ∧ rest (round step s r)) s rounds := by
  induction rounds generalizing s with
  | nil => trivial
  | cons r rounds ih =>
      obtain ⟨hinternal, hrest, h⟩ := h
      exact ⟨⟨hinternal, hrest⟩, ih h⟩

def ofRounds (rounds : List (α × List α)) : List α := rounds.flatMap fun r => r.1 :: r.2

theorem run_ofRounds_cons (s : σ) (a : α) (as : List α) (rounds : List (α × List α)) :
    run step s (ofRounds ((a, as) :: rounds)) =
      run step (run step (step s a) as) (ofRounds rounds) := by
  rw [ofRounds, List.flatMap_cons, List.cons_append, run_cons, run_append]
  rfl

/-- **A machine in rounds does in one step what the other does in one round**, if this holds of one
round. -/
theorem Rounds.related {τ : Type*} {internal : α → Prop} {rest : σ → Prop} {next : τ → α → τ}
    {R : σ → τ → Prop} {s : σ} {t : τ} (h0 : R s t)
    (hround : ∀ s t a as, R s t → (∀ b ∈ as, internal b) → rest (run step (step s a) as) →
      R (run step (step s a) as) (next t a))
    {rounds : List (α × List α)} (h : Rounds step internal rest s rounds) :
    R (run step s (ofRounds rounds)) (run next t (rounds.map Prod.fst)) := by
  induction rounds generalizing s t with
  | nil => exact h0
  | cons r rounds ih =>
      obtain ⟨a, as⟩ := r
      obtain ⟨has, hrest, h⟩ := h
      rw [run_ofRounds_cons]
      exact ih (hround s t a as h0 has hrest) h

/-- If the machine can always come to rest, whatever happens can happen in rounds. -/
theorem exists_rounds {internal : α → Prop} {rest : σ → Prop}
    (h : ∀ s, ∃ as, (∀ b ∈ as, internal b) ∧ rest (run step s as)) (s : σ) (events : List α) :
    ∃ rounds, Rounds step internal rest s rounds ∧ rounds.map Prod.fst = events := by
  induction events generalizing s with
  | nil => exact ⟨[], trivial, rfl⟩
  | cons a events ih =>
      obtain ⟨as, has, hrest⟩ := h (step s a)
      obtain ⟨rounds, hrounds, rfl⟩ := ih (run step (step s a) as)
      exact ⟨(a, as) :: rounds, ⟨has, hrest, hrounds⟩, rfl⟩

/-! ## Exact conditions

`base` is what is known of every state of the run anyway (`Q` is the assumption on the steps that
keeps it). `good` is the property under study. If, from a state where both hold, a step leads to a
good state *exactly* when it is `safe`, then the good runs are exactly the runs of safe steps: the
first bad state of a run is reached by an unsafe step, and the first unsafe step reaches a bad
state. -/

/-- **The good runs are the runs whose steps are all safe.** -/
theorem always_iff_each (base : σ → Prop) (Q : σ → α → Prop) {good : σ → Prop}
    {safe : σ → α → Prop} {s : σ} {as : List α}
    (hbase : base s) (hgood : good s) (hQ : Each step Q s as)
    (hkeep : ∀ s a, base s → Q s a → base (step s a))
    (hstep : ∀ s a, base s → Q s a → good s → (good (step s a) ↔ safe s a)) :
    Always step good s as ↔ Each step safe s as := by
  induction as generalizing s with
  | nil => exact ⟨fun _ => trivial, fun _ => hgood⟩
  | cons a as ih =>
      have hbase' : base (step s a) := hkeep s a hbase hQ.1
      have hone := hstep s a hbase hQ.1 hgood
      constructor
      · rintro ⟨_, h⟩
        have hgood' : good (step s a) := h.head
        exact ⟨hone.mp hgood', (ih hbase' hgood' hQ.2).mp h⟩
      · rintro ⟨hsafe, h⟩
        have hgood' : good (step s a) := hone.mpr hsafe
        exact ⟨hgood, (ih hbase' hgood' hQ.2).mpr h⟩

/-- The same for two conditions on steps: where they agree, and the second keeps the invariant under
which they do, the runs that meet one are the runs that meet the other. -/
theorem each_iff_each {I : σ → Prop} {Q R : σ → α → Prop} {s : σ} {as : List α} (h0 : I s)
    (hstep : ∀ s a, I s → (Q s a ↔ R s a)) (hkeep : ∀ s a, I s → R s a → I (step s a)) :
    Each step Q s as ↔ Each step R s as := by
  induction as generalizing s with
  | nil => exact Iff.rfl
  | cons a as ih =>
      constructor
      · rintro ⟨hq, hrest⟩
        have hr : R s a := (hstep s a h0).mp hq
        exact ⟨hr, (ih (hkeep s a h0 hr)).mp hrest⟩
      · rintro ⟨hr, hrest⟩
        exact ⟨(hstep s a h0).mpr hr, (ih (hkeep s a h0 hr)).mpr hrest⟩

/-- The same under an assumption on the steps. -/
theorem each_iff_each_of {I : σ → Prop} {A Q R : σ → α → Prop} {s : σ} {as : List α} (h0 : I s)
    (hA : Each step A s as) (hstep : ∀ s a, I s → A s a → (Q s a ↔ R s a))
    (hkeep : ∀ s a, I s → A s a → I (step s a)) : Each step Q s as ↔ Each step R s as := by
  induction as generalizing s with
  | nil => exact Iff.rfl
  | cons a as ih => exact and_congr (hstep s a h0 hA.1) (ih (hkeep s a h0 hA.1) hA.2)

end Runs
