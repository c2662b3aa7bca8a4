import Mathlib.Data.List.AList

/-!
# Dictionaries and loops over them

A dictionary holds at most one value per key and enumerates its pairs in *some* order. `AList` is
exactly that: a list of pairs without a repeated key. A statement about every `Dictionary` is
therefore a statement about every order of enumeration, and `lookup` is the order-free view.

Nothing is used of a key but whether it equals another. So a `String` as a key stands for a Swift
`String` up to Swift's `==`, by which its `Dictionary` tells keys apart: canonical equivalence.

The loop of interest walks one dictionary and updates another by key. `fill` is that loop and
`lookup_fill` its meaning: whatever the order, the pairs that are kept end up in the result, and
every other key of the result is untouched.
-/

/-- Pairs without a repeated key, in some order. -/
abbrev Dictionary (κ α : Type) := AList fun _ : κ => α

namespace Dictionary

variable {κ α β : Type} [DecidableEq κ]

/-- The same values under the same keys, in whatever order. -/
def Same (d d' : Dictionary κ α) : Prop := ∀ k, d.lookup k = d'.lookup k

theorem Same.refl (d : Dictionary κ α) : Same d d := fun _ => rfl

theorem Same.trans {d d' d'' : Dictionary κ α} (h : d.Same d') (h' : d'.Same d'') : d.Same d'' :=
  fun k => (h k).trans (h' k)

/-- The same write on both sides. -/
theorem Same.insert {d d' : Dictionary κ α} (h : d.Same d') (k : κ) (v : α) :
    Same (AList.insert k v d) (AList.insert k v d') := by
  intro k'
  by_cases hk : k' = k
  · subst hk
    rw [AList.lookup_insert, AList.lookup_insert]
  · rw [AList.lookup_insert_ne hk, AList.lookup_insert_ne hk]
    exact h k'

/-- Writing what is there already. -/
theorem same_insert_self {d : Dictionary κ α} {k : κ} {v : α} (h : d.lookup k = some v) :
    Same d (AList.insert k v d) := by
  intro k'
  by_cases hk : k' = k
  · subst hk
    rw [AList.lookup_insert, h]
  · rw [AList.lookup_insert_ne hk]

def mapValues (f : α → β) (d : Dictionary κ α) : Dictionary κ β where
  entries := d.entries.map (Sigma.map id fun _ => f)
  nodupKeys := d.nodupKeys.map₂ fun _ => f

theorem lookup_mapValues (f : α → β) (d : Dictionary κ α) (k : κ) :
    (d.mapValues f).lookup k = (d.lookup k).map f :=
  List.dlookup_map₂ k

/-! ## Writing pairs one after the other -/

/-- Write the pairs in their order: the last one of a key wins. -/
def overwrite (d : Dictionary κ α) (l : List (κ × α)) : Dictionary κ α :=
  l.foldl (fun d p => AList.insert p.1 p.2 d) d

@[simp] theorem overwrite_nil (d : Dictionary κ α) : overwrite d [] = d := rfl

@[simp] theorem overwrite_cons (d : Dictionary κ α) (p : κ × α) (l : List (κ × α)) :
    overwrite d (p :: l) = overwrite (AList.insert p.1 p.2 d) l := rfl

theorem overwrite_append (d : Dictionary κ α) (l l' : List (κ × α)) :
    overwrite d (l ++ l') = overwrite (overwrite d l) l' :=
  List.foldl_append

theorem Same.overwrite {d d' : Dictionary κ α} (h : d.Same d') (l : List (κ × α)) :
    Same (overwrite d l) (overwrite d' l) := by
  induction l generalizing d d' with
  | nil => exact h
  | cons p l ih => exact ih (h.insert p.1 p.2)

/-! ## The loop -/

/-- Walk `source`; write every kept pair, converted by `f`, over `target`. -/
def fill (keep : κ → Bool) (f : α → β) (source : Dictionary κ α) (target : Dictionary κ β) :
    Dictionary κ β :=
  source.entries.foldl (fun acc e => if keep e.1 then acc.insert e.1 (f e.2) else acc) target

/-- The loop over a bare list of pairs, with the key `k` watched. -/
theorem lookup_foldl_insert (keep : κ → Bool) (f : α → β) (k : κ) :
    ∀ (l : List (Sigma fun _ : κ => α)) (target : Dictionary κ β), l.NodupKeys →
      AList.lookup k
        (l.foldl (fun acc e => if keep e.1 then acc.insert e.1 (f e.2) else acc) target) =
        if keep k then (l.dlookup k).elim (target.lookup k) (fun v => some (f v))
        else target.lookup k
  | [], target, _ => by simp
  | e :: l, target, hnodup => by
      obtain ⟨hnotin, hrest⟩ := List.nodupKeys_cons.mp hnodup
      obtain ⟨key, value⟩ := e
      rw [List.foldl_cons, lookup_foldl_insert keep f k l _ hrest]
      by_cases hkey : k = key
      · subst hkey
        have hnone : l.dlookup k = none := List.dlookup_eq_none.mpr hnotin
        by_cases hkeep : keep k
        · simp [hkeep, hnone]
        · simp [hkeep]
      · have hlookup : List.dlookup k (⟨key, value⟩ :: l) = l.dlookup k :=
          List.dlookup_cons_ne l ⟨key, value⟩ hkey
        rw [hlookup]
        by_cases hkeep : keep key
        · simp [hkeep, hkey]
        · simp [hkeep]

/-- **What the loop leaves behind**, key by key. -/
theorem lookup_fill (keep : κ → Bool) (f : α → β) (source : Dictionary κ α)
    (target : Dictionary κ β) (k : κ) :
    (fill keep f source target).lookup k =
      if keep k then (source.lookup k).elim (target.lookup k) (fun v => some (f v))
      else target.lookup k :=
  lookup_foldl_insert keep f k source.entries target source.nodupKeys

/-- A key that is not kept is not touched. -/
theorem lookup_fill_of_not_keep {keep : κ → Bool} {k : κ} (h : keep k = false) (f : α → β)
    (source : Dictionary κ α) (target : Dictionary κ β) :
    (fill keep f source target).lookup k = target.lookup k := by
  rw [lookup_fill, h]
  rfl

/-- A kept pair is in the result. -/
theorem lookup_fill_of_keep {keep : κ → Bool} {k : κ} {v : α} (h : keep k = true) (f : α → β)
    {source : Dictionary κ α} (hv : source.lookup k = some v) (target : Dictionary κ β) :
    (fill keep f source target).lookup k = some (f v) := by
  rw [lookup_fill, h, hv]
  rfl

end Dictionary
