import NaveggSdk.Library.Components
import NaveggSdk.Library.Percent

/-!
# Query strings

A list of pairs in one line of text: `key=value`, with `&` between the pairs. Keys and values are
percent-encoded, and with an encoding that spares neither `=` nor `&` nor `%` the line can be cut
again in the places where it was put together. So a reader gets the very list of pairs that was
written, in its order, repeated keys included (`read_write`).
-/

namespace QueryString

/-- The line for a list of pairs that are encoded already. -/
def write (pairs : List (String × String)) : String :=
  Components.joined '&' (pairs.map fun p => p.1 ++ "=" ++ p.2)

def encoded (allowed : Char → Bool) (p : String × String) : String × String :=
  (Percent.encode allowed p.1, Percent.encode allowed p.2)

/-- A piece of the line, cut at its first `=`. -/
def cut? (piece : String) : Option (String × String) :=
  match piece.toList.dropWhile (· ≠ '=') with
  | [] => none
  | _ :: value => some (String.ofList (piece.toList.takeWhile (· ≠ '=')), String.ofList value)

def readPair (piece : String) : Option (String × String) :=
  (cut? piece).bind fun p =>
    (Percent.decode p.1).bind fun key => (Percent.decode p.2).map fun value => (key, value)

def read (query : String) : Option (List (String × String)) :=
  (Components.list '&' query).mapM readPair

/-- An encoding whose result contains no separator and can be decoded. -/
structure Spares (allowed : Char → Bool) : Prop where
  percent : allowed '%' = false
  equals : allowed '=' = false
  ampersand : allowed '&' = false

/-- **Cutting undoes putting together**, if the key is free of `=`. -/
theorem cut?_append {key : String} (h : '=' ∉ key.toList) (value : String) :
    cut? (key ++ "=" ++ value) = some (key, value) := by
  have hkey : ∀ c ∈ key.toList, (decide (c ≠ '=')) = true := by
    intro c hc
    rw [decide_eq_true_eq]
    rintro rfl
    exact h hc
  have hlist : (key ++ "=" ++ value).toList = key.toList ++ '=' :: value.toList := by
    simp
  unfold cut?
  rw [hlist, List.dropWhile_append_of_pos hkey, List.takeWhile_append_of_pos hkey]
  simp

section
variable {allowed : Char → Bool} (h : Spares allowed)

include h

theorem equals_not_mem (s : String) : '=' ∉ (Percent.encode allowed s).toList :=
  Percent.not_mem_encode h.equals (by decide) (by decide) s

theorem ampersand_not_mem (s : String) : '&' ∉ (Percent.encode allowed s).toList :=
  Percent.not_mem_encode h.ampersand (by decide) (by decide) s

/-- **A pair is read back.** -/
theorem readPair_encoded (p : String × String) :
    readPair ((encoded allowed p).1 ++ "=" ++ (encoded allowed p).2) = some p := by
  unfold readPair encoded
  rw [cut?_append (equals_not_mem h p.1)]
  simp only [Option.bind_some, Percent.decode_encode h.percent, Option.map_some]

/-- The pieces of the line stay apart. -/
theorem pieces_encoded (pairs : List (String × String)) :
    Components.Pieces '&'
      ((pairs.map (encoded allowed)).map fun p => p.1 ++ "=" ++ p.2) := by
  intro piece hpiece
  rw [List.map_map] at hpiece
  obtain ⟨p, -, rfl⟩ := List.mem_map.mp hpiece
  constructor
  · intro hempty
    have hlength := congrArg String.length hempty
    simp at hlength
  · intro hmem
    simp only [Function.comp_apply, encoded, String.toList_append, List.mem_append] at hmem
    obtain (hkey | hequals) | hvalue := hmem
    · exact ampersand_not_mem h p.1 hkey
    · exact absurd hequals (by decide)
    · exact ampersand_not_mem h p.2 hvalue

/-- **The very pairs that were written are read**, in their order. -/
theorem read_write (pairs : List (String × String)) :
    read (write (pairs.map (encoded allowed))) = some pairs := by
  unfold read write
  rw [Components.list_joined (pieces_encoded h pairs), List.map_map]
  induction pairs with
  | nil => rfl
  | cons p pairs ih =>
      rw [List.map_cons, List.mapM_cons, ih, Function.comp_apply, readPair_encoded h p]
      rfl

end

/-! ## The form of the line -/

/-- Well-formed pieces make a well-formed line, if the separator is allowed. -/
theorem wellFormed_joined {allowed : Char → Bool} {separator : Char}
    (hallowed : allowed separator = true) (hpercent : separator ≠ '%') {pieces : List String}
    (h : ∀ piece ∈ pieces, Percent.wellFormed allowed piece.toList = true) :
    Percent.wellFormed allowed (Components.joined separator pieces).toList = true := by
  rw [Components.joined, String.toList_intercalate, String.toList_singleton]
  induction pieces with
  | nil => rfl
  | cons piece pieces ih =>
      have hpiece := h piece List.mem_cons_self
      have hrest := ih fun p hp => h p (List.mem_cons_of_mem piece hp)
      cases pieces with
      | nil => simpa using hpiece
      | cons next pieces =>
          simp only [List.map_cons] at hrest ⊢
          rw [List.intercalate_cons_cons]
          refine Percent.wellFormed_append ?_ hrest
          refine Percent.wellFormed_append hpiece ?_
          rw [Percent.wellFormed_cons hpercent hallowed]
          rfl

/-- **The line has the right form**, where the two separators are allowed as well. -/
theorem wellFormed_write {allowed allowed' : Char → Bool} (hpercent : allowed '%' = false)
    (hmore : ∀ c, allowed c = true → allowed' c = true) (hequals : allowed' '=' = true)
    (hampersand : allowed' '&' = true) (pairs : List (String × String)) :
    Percent.wellFormed allowed' (write (pairs.map (encoded allowed))).toList = true := by
  apply wellFormed_joined hampersand (by decide)
  intro piece hpiece
  rw [List.map_map] at hpiece
  obtain ⟨p, -, rfl⟩ := List.mem_map.mp hpiece
  simp only [Function.comp_apply, encoded, String.toList_append]
  refine Percent.wellFormed_append (Percent.wellFormed_append ?_ ?_) ?_
  · exact Percent.wellFormed_encode hpercent hmore p.1
  · rw [show "=".toList = ['='] from rfl, Percent.wellFormed_cons (by decide) hequals]
    rfl
  · exact Percent.wellFormed_encode hpercent hmore p.2

end QueryString
