import NaveggSdk.Sdk.Effects

/-!
# Merging the permanent segments into the custom entry

The custom entry of the segments is a list of ids in one string, with a `-` between them.
`distintcCustomSegment` takes it apart, appends the permanent ids that are missing, and puts it
together again. `merge_right_iff` says when the string it writes is the list it means: always,
except where an *empty* entry meets a permanent id. Splitting the empty string gives one empty id,
and the list written back starts with it.
-/

open Components

/-- Numbers that are not negative are written in digits only. -/
theorem pieces_toString {l : List Int} (h : ∀ n ∈ l, 0 ≤ n) : Pieces '-' (l.map toString) := by
  intro s hs
  obtain ⟨n, hn, rfl⟩ := List.mem_map.mp hs
  obtain ⟨k, rfl⟩ := Int.eq_ofNat_of_zero_le (h n hn)
  have hdigits : (toString (k : Int)).toList = Nat.toDigits 10 k := Nat.toList_repr
  constructor
  · intro hempty
    apply Nat.toDigits_ne_nil (n := k) (b := 10)
    rw [← hdigits, hempty]
    rfl
  · rw [hdigits]
    intro hmem
    exact absurd (Nat.isDigit_of_mem_toDigits (by decide) (by decide) hmem) (by decide)

namespace User

/-- The ids of the custom entry before the permanent ones are appended. -/
def readCustoms (user : User) : List String :=
  match user.jsonSegments.lookup "custom" with
  | some custom => components '-' custom
  | none => []

/-- The permanent ids as they are written. -/
def permanents (user : User) : List String := user.customListPermanent.map toString

/-- The ids of the custom entry once the permanent ones are appended. -/
def mergedCustoms (user : User) : List String := appendMissing user.readCustoms user.permanents

/-- **What `distintcCustomSegment` writes.** -/
theorem distintcCustomSegment_eq (m : Memory) :
    distintcCustomSegment m =
      { m with
        user.jsonSegments :=
          m.user.jsonSegments.insert "custom" (joined '-' m.user.mergedCustoms) } := by
  have hloop : ∀ customs : List String,
      m.user.customListPermanent.foldl
          (fun customs value =>
            if customs.contains (toString value) then customs else customs ++ [toString value])
          customs =
        appendMissing customs m.user.permanents := by
    intro customs
    rw [appendMissing, permanents, List.foldl_map]
    apply List.foldl_ext
    intro customs value _
    by_cases hmem : toString value ∈ customs
    · rw [if_pos (List.contains_iff_mem.mpr hmem), if_pos hmem]
    · rw [if_neg (mt List.contains_iff_mem.mp hmem), if_neg hmem]
  rw [mergedCustoms, ← hloop]
  rfl

theorem lookup_custom (m : Memory) :
    (distintcCustomSegment m).user.jsonSegments.lookup "custom" =
      some (joined '-' m.user.mergedCustoms) := by
  rw [distintcCustomSegment_eq]
  exact AList.lookup_insert _

/-- The custom entry holds a list of ids, which is empty where there is no entry. -/
def Holds (user : User) (ids : List String) : Prop :=
  user.jsonSegments.lookup "custom" = some (joined '-' ids) ∨
    (user.jsonSegments.lookup "custom" = none ∧ ids = [])

/-- The merge does what it is for. -/
structure MergeRight (m : Memory) (ids : List String) : Prop where
  /-- The old ids, then the permanent ones that are new, each once and in order. -/
  entry : ((distintcCustomSegment m).user.jsonSegments.lookup "custom").map (list '-') =
    some (ids ++ (m.user.permanents.filter (· ∉ ids)).eraseDups)
  noEmpty : ∀ custom, (distintcCustomSegment m).user.jsonSegments.lookup "custom" = some custom →
    "" ∉ list '-' custom
  frame : ∀ k, k ≠ "custom" →
    (distintcCustomSegment m).user.jsonSegments.lookup k = m.user.jsonSegments.lookup k
  again : distintcCustomSegment (distintcCustomSegment m) = distintcCustomSegment m

variable {m : Memory} {ids : List String}

/-- The ids that are read are those of the entry. -/
theorem readCustoms_eq (hids : Pieces '-' ids) (hholds : m.user.Holds ids)
    (hentry : m.user.jsonSegments.lookup "custom" ≠ some "") : m.user.readCustoms = ids := by
  unfold readCustoms
  rcases hholds with hsome | ⟨hnone, rfl⟩
  · rw [hsome] at hentry ⊢
    have hne : ids ≠ [] := by
      rintro rfl
      exact hentry rfl
    exact components_joined hne fun id hid => (hids id hid).2
  · rw [hnone]

/-- From the empty string one empty id is read. -/
theorem readCustoms_empty (hentry : m.user.jsonSegments.lookup "custom" = some "") :
    m.user.readCustoms = [""] := by
  unfold readCustoms
  rw [hentry]
  exact components_empty '-'

theorem distintcCustomSegment_frame (k : String) (hk : k ≠ "custom") :
    (distintcCustomSegment m).user.jsonSegments.lookup k = m.user.jsonSegments.lookup k := by
  rw [distintcCustomSegment_eq]
  exact AList.lookup_insert_ne hk

/-- **The second merge finds nothing to add.** -/
theorem distintcCustomSegment_again (hsep : ∀ id ∈ m.user.mergedCustoms, '-' ∉ id.toList) :
    distintcCustomSegment (distintcCustomSegment m) = distintcCustomSegment m := by
  have hperm : (distintcCustomSegment m).user.permanents = m.user.permanents := rfl
  have hread : (distintcCustomSegment m).user.readCustoms =
      components '-' (joined '-' m.user.mergedCustoms) := by
    rw [readCustoms, lookup_custom]
  have hmerged : joined '-' (distintcCustomSegment m).user.mergedCustoms =
      joined '-' m.user.mergedCustoms := by
    rw [mergedCustoms, hread, hperm]
    by_cases hnil : m.user.mergedCustoms = []
    · -- nothing was appended, so there is no permanent id to append now
      have hnone : m.user.permanents = [] := by
        apply List.eq_nil_iff_forall_not_mem.mpr
        intro id hid
        have hmem : id ∈ m.user.mergedCustoms := mem_appendMissing.mpr (.inr hid)
        rw [hnil] at hmem
        exact List.not_mem_nil hmem
      rw [hnil, hnone, joined_nil, components_empty]
      rfl
    · rw [components_joined hnil hsep, appendMissing_of_subset]
      intro id hid
      exact mem_appendMissing.mpr (.inr hid)
  rw [distintcCustomSegment_eq (distintcCustomSegment m), hmerged, distintcCustomSegment_eq m]
  simp only [AList.insert_insert]

/-- The merge of an entry that is not the empty string. -/
theorem merge_right (hids : Pieces '-' ids) (hholds : m.user.Holds ids)
    (hperm : ∀ n ∈ m.user.customListPermanent, 0 ≤ n)
    (hentry : m.user.jsonSegments.lookup "custom" ≠ some "") : MergeRight m ids := by
  have hread := readCustoms_eq hids hholds hentry
  have hmerged : m.user.mergedCustoms =
      ids ++ (m.user.permanents.filter (· ∉ ids)).eraseDups := by
    rw [mergedCustoms, hread, appendMissing_eq]
  have hpieces : Pieces '-' m.user.mergedCustoms := by
    intro id hid
    rcases mem_appendMissing.mp hid with hid | hid
    · exact hids id (hread ▸ hid)
    · exact pieces_toString hperm id hid
  have hlist := list_joined hpieces
  constructor
  case entry => rw [lookup_custom, Option.map_some, hlist, hmerged]
  case noEmpty =>
    intro custom hcustom
    rw [lookup_custom, Option.some.injEq] at hcustom
    rw [← hcustom, hlist]
    exact hpieces.empty_not_mem
  case frame => exact distintcCustomSegment_frame
  case again => exact distintcCustomSegment_again fun id hid => (hpieces id hid).2

/-- The merge of the empty string, if there is nothing to merge. -/
theorem merge_right_of_empty (hids : Pieces '-' ids) (hholds : m.user.Holds ids)
    (hentry : m.user.jsonSegments.lookup "custom" = some "")
    (hnone : m.user.customListPermanent = []) : MergeRight m ids := by
  have hperm : m.user.permanents = [] := by rw [permanents, hnone, List.map_nil]
  have hnil : ids = [] := by
    rcases hholds with hsome | ⟨-, hnil⟩
    · rw [hentry, Option.some.injEq] at hsome
      rw [← list_joined hids, ← hsome, list_empty]
    · exact hnil
  have hmerged : m.user.mergedCustoms = [""] := by
    rw [mergedCustoms, readCustoms_empty hentry, hperm]
    rfl
  have hcustom : (distintcCustomSegment m).user.jsonSegments.lookup "custom" = some "" := by
    rw [lookup_custom, hmerged]
    rfl
  constructor
  case entry =>
    rw [hcustom, hperm, hnil]
    rfl
  case noEmpty =>
    intro custom h
    rw [hcustom, Option.some.injEq] at h
    rw [← h, list_empty]
    exact List.not_mem_nil
  case frame => exact distintcCustomSegment_frame
  case again => exact distintcCustomSegment_again (by simp [hmerged])

/-- The merge of the empty string, if there is something: the list written starts with an empty
id. -/
theorem not_merge_right (hperm : ∀ n ∈ m.user.customListPermanent, 0 ≤ n)
    (hentry : m.user.jsonSegments.lookup "custom" = some "")
    (hsome : m.user.customListPermanent ≠ []) : ¬ MergeRight m ids := by
  intro h
  have hpieces := pieces_toString hperm
  have hempty : "" ∈ m.user.mergedCustoms := by
    apply mem_appendMissing.mpr
    left
    rw [readCustoms_empty hentry]
    exact List.mem_singleton_self ""
  have hsep : ∀ id ∈ m.user.mergedCustoms, '-' ∉ id.toList := by
    intro id hid
    rcases mem_appendMissing.mp hid with hid | hid
    · rw [readCustoms_empty hentry, List.mem_singleton] at hid
      rw [hid]
      exact List.not_mem_nil
    · exact (hpieces id hid).2
  have hone : m.user.mergedCustoms ≠ [""] := by
    obtain ⟨n, hn⟩ := List.exists_mem_of_ne_nil _ hsome
    have hid : toString n ∈ m.user.permanents := List.mem_map_of_mem hn
    have hmem : toString n ∈ m.user.mergedCustoms := mem_appendMissing.mpr (.inr hid)
    intro heq
    rw [heq, List.mem_singleton] at hmem
    exact (hpieces _ hid).1 hmem
  have hne : m.user.mergedCustoms ≠ [] := List.ne_nil_of_mem hempty
  apply h.noEmpty _ (lookup_custom m)
  rw [list_of_ne (joined_ne_empty hne hsep hone), components_joined hne hsep]
  exact hempty

/-- **The merge is right unless an empty entry meets a permanent id.** -/
theorem merge_right_iff (m : Memory) (ids : List String) (hids : Pieces '-' ids)
    (hholds : m.user.Holds ids) (hperm : ∀ n ∈ m.user.customListPermanent, 0 ≤ n) :
    MergeRight m ids ↔
      (m.user.jsonSegments.lookup "custom" = some "" → m.user.customListPermanent = []) := by
  constructor
  · intro h hentry
    by_contra hsome
    exact not_merge_right hperm hentry hsome h
  · intro h
    by_cases hentry : m.user.jsonSegments.lookup "custom" = some ""
    · exact merge_right_of_empty hids hholds hentry (h hentry)
    · exact merge_right hids hholds hperm hentry

def customized (custom : String) (permanent : List Int) : Memory where
  user :=
    { NaveggApi.built 7 UserDefaults.empty with
      customListPermanent := permanent
      jsonSegments := (∅ : Dictionary String String).insert "custom" custom }
  defaults := UserDefaults.empty
  requests := []

theorem merge_right_iff_customized :
    Pieces '-' ["3", "8"] ∧ (customized "3-8" [8, 5, 5]).user.Holds ["3", "8"] ∧
      (MergeRight (customized "3-8" [8, 5, 5]) ["3", "8"] ↔
        ((customized "3-8" [8, 5, 5]).user.jsonSegments.lookup "custom" = some "" →
          (customized "3-8" [8, 5, 5]).user.customListPermanent = [])) := by
  have hids : Pieces '-' ["3", "8"] := by unfold Pieces; decide
  have hholds : (customized "3-8" [8, 5, 5]).user.Holds ["3", "8"] := .inl (by decide +kernel)
  exact ⟨hids, hholds, merge_right_iff _ _ hids hholds (by decide)⟩

/-- The empty entry and one permanent id: `-5` is written. -/
theorem merge_not_right :
    Pieces '-' [] ∧ (customized "" [5]).user.Holds [] ∧
      (∀ n ∈ (customized "" [5]).user.customListPermanent, 0 ≤ n) ∧
      ¬ MergeRight (customized "" [5]) [] := by
  refine ⟨?_, .inl rfl, by decide, ?_⟩
  · exact fun s hs => absurd hs List.not_mem_nil
  · intro h
    have hentry := h.entry
    revert hentry
    decide +kernel

end User
