import NaveggSdk.Library.Runs

/-!
# A store and copies of it

A value is kept in a store, and any number of owners have a copy. A copy is read off the store when
it is made; its owner can write a new value, through its copy, to the store; and nobody is told of
the writes of others. All copies can be given up at once.

The owners are told apart by the index of their copy. `history` is the list of all writes so far,
with the index of the writer. `Behind` is what can be said of the copies then: each is the last
value of a first part of the history, and the rest of the history was written by others.
-/

/-- A store, and the copies of it. -/
structure Replicas (V : Type*) where
  store : V
  copies : List V

namespace Replicas

variable {V : Type*}

inductive Event (V : Type*) where
  /-- A new owner makes a copy. -/
  | make
  | write (i : Nat) (v : V)
  /-- The copies are given up. -/
  | drop

def step (r : Replicas V) : Event V → Replicas V
  | .make => { r with copies := r.copies ++ [r.store] }
  | .write i v => ⟨v, r.copies.set i v⟩
  | .drop => { r with copies := [] }

def Event.written : Event V → Option (Nat × V)
  | .write i v => some (i, v)
  | .make | .drop => none

/-- The last value of a history that started from a given value. -/
def last (initial : V) (history : List (Nat × V)) : V :=
  (history.getLast?.map Prod.snd).getD initial

@[simp] theorem last_nil (initial : V) : last initial [] = initial := rfl

@[simp] theorem last_concat (initial : V) (history : List (Nat × V)) (w : Nat × V) :
    last initial (history ++ [w]) = w.2 := by
  rw [last, List.getLast?_concat]
  rfl

/-- The last value is the first one, or was written. -/
theorem last_cases (initial : V) (history : List (Nat × V)) :
    (history = [] ∧ last initial history = initial) ∨
      ∃ i, (i, last initial history) ∈ history := by
  rcases List.eq_nil_or_concat history with rfl | ⟨before, w, rfl⟩
  · exact .inl ⟨rfl, rfl⟩
  · refine .inr ⟨w.1, ?_⟩
    rw [List.concat_eq_append, last_concat]
    exact List.mem_concat_self

/-- An owner knows a first part of the history: its copy is the last value of this part, and the
rest was written by others. -/
def Knows (initial : V) (history : List (Nat × V)) (i : Nat) (copy : V) : Prop :=
  ∃ known unknown, history = known ++ unknown ∧ copy = last initial known ∧
    ∀ w ∈ unknown, w.1 ≠ i

/-- Who knows all is up to date. -/
theorem knows_all (initial : V) (history : List (Nat × V)) (i : Nat) :
    Knows initial history i (last initial history) :=
  ⟨history, [], (List.append_nil history).symm, rfl, List.forall_mem_nil _⟩

/-- A write of somebody else does not change what an owner knows. -/
theorem Knows.concat {initial : V} {history : List (Nat × V)} {i : Nat} {copy : V}
    (h : Knows initial history i copy) {w : Nat × V} (hw : w.1 ≠ i) :
    Knows initial (history ++ [w]) i copy := by
  obtain ⟨known, unknown, rfl, hcopy, hothers⟩ := h
  refine ⟨known, unknown ++ [w], List.append_assoc _ _ _, hcopy, fun w' hw' => ?_⟩
  rcases List.mem_append.mp hw' with hold | hnew
  · exact hothers w' hold
  · rwa [List.mem_singleton.mp hnew]

/-- If nobody else writes, an owner is up to date. -/
theorem Knows.eq_last {initial : V} {history : List (Nat × V)} {i : Nat} {copy : V}
    (h : Knows initial history i copy) (hown : ∀ w ∈ history, w.1 = i) :
    copy = last initial history := by
  obtain ⟨known, unknown, rfl, hcopy, hothers⟩ := h
  have hnone : unknown = [] := by
    refine List.eq_nil_iff_forall_not_mem.mpr fun w hw => hothers w hw ?_
    exact hown w (List.mem_append_right known hw)
  rw [hnone, List.append_nil]
  exact hcopy

/-- **The copies are behind**: the store has the last value, and each owner knows a part. -/
structure Behind (initial : V) (history : List (Nat × V)) (r : Replicas V) : Prop where
  store : r.store = last initial history
  copies : ∀ i copy, r.copies[i]? = some copy → Knows initial history i copy

namespace Behind

variable {initial : V} {history : List (Nat × V)} {r : Replicas V}

theorem start (initial : V) : Behind initial [] ⟨initial, []⟩ := ⟨rfl, nofun⟩

/-- **One event.** -/
theorem step (h : Behind initial history r) (e : Event V) :
    Behind initial (history ++ e.written.toList) (r.step e) := by
  cases e with
  | make =>
      rw [show (Event.make : Event V).written.toList = [] from rfl, List.append_nil]
      refine ⟨h.store, fun i copy hcopy => ?_⟩
      have hcopy : (r.copies ++ [r.store])[i]? = some copy := hcopy
      rcases Nat.lt_or_ge i r.copies.length with hold | hnew
      · rw [List.getElem?_append_left hold] at hcopy
        exact h.copies i copy hcopy
      · rw [List.getElem?_append_right hnew, List.getElem?_singleton] at hcopy
        split at hcopy
        · cases hcopy
          rw [h.store]
          exact knows_all initial history i
        · cases hcopy
  | write j v =>
      refine ⟨(last_concat initial history (j, v)).symm, fun i copy hcopy => ?_⟩
      have hcopy : (r.copies.set j v)[i]? = some copy := hcopy
      by_cases hi : j = i
      · subst hi
        rw [List.getElem?_set_self'] at hcopy
        obtain ⟨old, -, rfl⟩ := Option.map_eq_some_iff.mp hcopy
        have hknows := knows_all initial (history ++ [(j, v)]) j
        rwa [last_concat] at hknows
      · rw [List.getElem?_set_ne hi] at hcopy
        exact (h.copies i copy hcopy).concat hi
  | drop =>
      rw [show (Event.drop : Event V).written.toList = [] from rfl, List.append_nil]
      exact ⟨h.store, nofun⟩

/-- **Any events.** -/
theorem run (h : Behind initial history r) (events : List (Event V)) :
    Behind initial (history ++ events.filterMap Event.written)
      (Runs.run Replicas.step r events) := by
  induction events generalizing history r with
  | nil =>
      rw [List.filterMap_nil, List.append_nil]
      exact h
  | cons e events ih =>
      have hrest := ih (h.step e)
      have hhistory : history ++ e.written.toList ++ events.filterMap Event.written =
          history ++ (e :: events).filterMap Event.written := by
        rw [List.append_assoc, List.filterMap_cons]
        cases e.written <;> rfl
      rw [hhistory] at hrest
      exact hrest

end Behind

end Replicas
