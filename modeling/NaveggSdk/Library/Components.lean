import Mathlib.Data.List.Basic

/-!
# Separated lists in one string

`components` cuts a string at every separator, `joined` puts the pieces back together with a
separator between them. Joining undoes splitting on *every* string (`joined_components`), splitting
undoes joining on every non-empty list of pieces without the separator (`components_joined`).

The empty string is the odd one out. It is what the empty list joins to, and it splits into one
empty component. `list` reads it as the empty list, and with this reading every list of non-empty
pieces is the list its string stands for (`list_joined`).

`appendMissing` is the loop that adds to such a list what it does not contain yet, testing against
the list it is growing.
-/

namespace Components

/-- `components(separatedBy:)`. The empty string has one component, which is empty. -/
def components (separator : Char) (s : String) : List String :=
  (s.toList.splitOn separator).map String.ofList

def joined (separator : Char) (l : List String) : String :=
  (String.singleton separator).intercalate l

/-- **Joining undoes splitting.** -/
theorem joined_components (separator : Char) (s : String) :
    joined separator (components separator s) = s := by
  apply String.toList_injective
  rw [joined, components, String.toList_intercalate, List.map_map]
  have hid : String.toList ∘ String.ofList = id := funext fun _ => String.toList_ofList
  rw [hid, List.map_id, String.toList_singleton]
  exact List.intercalate_splitOn separator

/-- **Splitting undoes joining**, if there is something to split. -/
theorem components_joined {separator : Char} {l : List String} (hne : l ≠ [])
    (h : ∀ s ∈ l, separator ∉ s.toList) : components separator (joined separator l) = l := by
  have hpieces : ∀ cs ∈ l.map String.toList, separator ∉ cs := by
    intro cs hcs
    obtain ⟨s, hs, rfl⟩ := List.mem_map.mp hcs
    exact h s hs
  rw [components, joined, String.toList_intercalate, String.toList_singleton,
    List.splitOn_intercalate separator hpieces (by simpa using hne), List.map_map]
  have hid : String.ofList ∘ String.toList = id := funext fun _ => String.ofList_toList
  rw [hid, List.map_id]

@[simp] theorem joined_nil (separator : Char) : joined separator [] = "" := rfl

@[simp] theorem components_empty (separator : Char) : components separator "" = [""] := by
  rw [components, String.toList_empty, List.splitOn_nil]
  rfl

/-- The list a string stands for: the empty string is the empty list. -/
def list (separator : Char) (s : String) : List String :=
  if s = "" then [] else components separator s

@[simp] theorem list_empty (separator : Char) : list separator "" = [] := rfl

theorem list_of_ne {separator : Char} {s : String} (h : s ≠ "") :
    list separator s = components separator s :=
  if_neg h

/-- Pieces that survive in one string: none is empty, none contains the separator. -/
def Pieces (separator : Char) (l : List String) : Prop :=
  ∀ s ∈ l, s ≠ "" ∧ separator ∉ s.toList

theorem Pieces.empty_not_mem {separator : Char} {l : List String} (h : Pieces separator l) :
    "" ∉ l :=
  fun hmem => (h "" hmem).1 rfl

/-- A list that splits back is not joined to the empty string, unless it is `[""]`. -/
theorem joined_ne_empty {separator : Char} {l : List String} (hne : l ≠ [])
    (h : ∀ s ∈ l, separator ∉ s.toList) (hone : l ≠ [""]) : joined separator l ≠ "" := by
  intro heq
  have hsplit := components_joined hne h
  rw [heq, components_empty] at hsplit
  exact hone hsplit.symm

/-- **A list of pieces is the list its string stands for.** -/
theorem list_joined {separator : Char} {l : List String} (h : Pieces separator l) :
    list separator (joined separator l) = l := by
  have hsep : ∀ s ∈ l, separator ∉ s.toList := fun s hs => (h s hs).2
  by_cases hne : l = []
  · rw [hne, joined_nil, list_empty]
  · have hone : l ≠ [""] := by
      rintro rfl
      exact h.empty_not_mem (by simp)
    rw [list_of_ne (joined_ne_empty hne hsep hone), components_joined hne hsep]

/-! ## Appending what is missing -/

section
variable {α : Type*} [DecidableEq α]

/-- Append the elements of `new` one by one, each only if it is not there yet. -/
def appendMissing (l new : List α) : List α :=
  new.foldl (fun l a => if a ∈ l then l else l ++ [a]) l

/-- **What is appended**: the elements that were not there, each once and in order. -/
theorem appendMissing_eq (l new : List α) :
    appendMissing l new = l ++ (new.filter (· ∉ l)).eraseDups := by
  induction new generalizing l with
  | nil => simp [appendMissing]
  | cons a new ih =>
      by_cases ha : a ∈ l
      · rw [List.filter_cons_of_neg (by simpa using ha), ← ih l]
        simp [appendMissing, ha]
      · have hfilter : (new.filter (· ∉ l ++ [a])) = (new.filter (· ∉ l)).filter (· != a) := by
          rw [List.filter_filter]
          apply List.filter_congr
          intro b _
          by_cases hb : b = a
          · simp [hb]
          · simp [hb]
        rw [List.filter_cons_of_pos (by simpa using ha), List.eraseDups_cons]
        show appendMissing (if a ∈ l then l else l ++ [a]) new = _
        rw [if_neg ha, ih, hfilter, List.append_assoc]
        rfl

theorem mem_appendMissing {l new : List α} {a : α} :
    a ∈ appendMissing l new ↔ a ∈ l ∨ a ∈ new := by
  rw [appendMissing_eq, List.mem_append, List.mem_eraseDups, List.mem_filter]
  by_cases ha : a ∈ l
  · simp [ha]
  · simp [ha]

/-- Where nothing is missing, nothing is appended. -/
theorem appendMissing_of_subset {l new : List α} (h : ∀ a ∈ new, a ∈ l) :
    appendMissing l new = l := by
  rw [appendMissing_eq, List.filter_eq_nil_iff.mpr (by simpa using h)]
  simp

end

end Components
