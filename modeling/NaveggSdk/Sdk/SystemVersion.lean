import NaveggSdk.Library.Numeral

/-!
# The system version as a number

`Util.getIOSVersionOS` turns the text of the system version into a number, by index arithmetic. It
decides by the *length* of the text whether there is a third component, and keeps one digit of the
second and of the third where there is one (`getIOSVersionOS_two`, `getIOSVersionOS_three`).
`encoded_iff` says for which versions that gives the digits of the components one after the other.
-/

namespace Util

/-- `firstIndex(of:)`, as a distance from the start. -/
def firstIndex (c : Char) (s : List Char) : Option Nat := s.findIdx? (· == c)

/-- `index(before:)`, which traps at the start. -/
def indexBefore (i : Nat) : Option Nat := if i = 0 then none else some (i - 1)

/-- `getIOSVersionOS`, on the text of `UIDevice.current.systemVersion`; `none` is a trap. -/
def getIOSVersionOS (systemVersion : String) : Option Int32 := do
  let version := systemVersion.toList
  let dot ← firstIndex '.' version
  let index1 ← indexBefore dot
  let index2 := version.take (index1 + 1)
  let index3 := dot + 1
  let index4 := version.drop index3
  let v ←
    if version.length > 4 then do
      -- the second dot is force-unwrapped
      let dot ← firstIndex '.' index4
      let index5 ← indexBefore dot
      let index6 ← index4[index5]?
      let index7 := dot + 1
      let index8 ← index4[index7]?
      pure (index2 ++ [index6, index8])
    else pure (index2 ++ index4)
  Numeral.int32? v

theorem firstIndex_append {c : Char} {l : List Char} (h : c ∉ l) (rest : List Char) :
    firstIndex c (l ++ c :: rest) = some l.length := by
  unfold firstIndex
  induction l with
  | nil => simp [List.findIdx?_cons]
  | cons d l ih =>
      rw [List.mem_cons, not_or] at h
      obtain ⟨hd, hl⟩ := h
      have hne : (d == c) = false := by simpa using Ne.symm hd
      rw [List.cons_append, List.findIdx?_cons, hne]
      simp [ih hl]

theorem firstIndex_none {c : Char} {l : List Char} (h : c ∉ l) : firstIndex c l = none := by
  rw [firstIndex, List.findIdx?_eq_none_iff]
  intro d hd
  simp only [beq_eq_false_iff_ne, ne_eq]
  rintro rfl
  exact h hd

/-- **A version of two components** is read whole, if it is short; a longer one is taken for a
version of three. -/
theorem getIOSVersionOS_two {major minor : List Char} (hne : major ≠ []) (hmajor : '.' ∉ major)
    (hminor : '.' ∉ minor) :
    getIOSVersionOS (String.ofList (major ++ '.' :: minor)) =
      if major.length + minor.length ≤ 3 then Numeral.int32? (major ++ minor) else none := by
  have hlength : major.length ≠ 0 := by simpa using hne
  have hbefore : indexBefore major.length = some (major.length - 1) := if_neg hlength
  have hlast : major.length - 1 + 1 = major.length := by omega
  have htake : (major ++ '.' :: minor).take major.length = major := List.take_left' rfl
  have hdrop : (major ++ '.' :: minor).drop (major.length + 1) = minor := by
    rw [← List.drop_drop, List.drop_left' rfl]
    rfl
  unfold getIOSVersionOS
  simp only [String.toList_ofList, firstIndex_append hmajor, hbefore, Option.bind_eq_bind,
    Option.bind_some, hlast, htake, hdrop, firstIndex_none hminor, List.length_append,
    List.length_cons, Option.bind_none]
  by_cases hshort : major.length + minor.length ≤ 3
  · rw [if_neg (by omega), if_pos hshort]
    rfl
  · rw [if_pos (by omega), if_neg hshort]

/-- **A version of three components** loses all but the last digit of the second and all but the
first digit of the third. -/
theorem getIOSVersionOS_three {major lead tail : List Char} {l f : Char} (hne : major ≠ [])
    (hmajor : '.' ∉ major) (hminor : '.' ∉ lead ++ [l]) :
    getIOSVersionOS (String.ofList (major ++ '.' :: (lead ++ [l] ++ '.' :: f :: tail))) =
      Numeral.int32? (major ++ [l, f]) := by
  have hlength : major.length ≠ 0 := by simpa using hne
  have hbefore : indexBefore major.length = some (major.length - 1) := if_neg hlength
  have hlast : major.length - 1 + 1 = major.length := by omega
  have htake : (major ++ '.' :: (lead ++ [l] ++ '.' :: f :: tail)).take major.length = major :=
    List.take_left' rfl
  have hdrop : (major ++ '.' :: (lead ++ [l] ++ '.' :: f :: tail)).drop (major.length + 1) =
      lead ++ [l] ++ '.' :: f :: tail := by
    rw [← List.drop_drop, List.drop_left' rfl]
    rfl
  have hsecond := firstIndex_append hminor (f :: tail)
  have hbefore' : indexBefore (lead ++ [l]).length = some lead.length := by
    simp [indexBefore]
  have hindex6 : (lead ++ [l] ++ '.' :: f :: tail)[lead.length]? = some l := by
    simp
  have hindex8 : (lead ++ [l] ++ '.' :: f :: tail)[(lead ++ [l]).length + 1]? = some f := by
    rw [List.getElem?_append_right (by omega)]
    simp
  unfold getIOSVersionOS
  simp only [String.toList_ofList, firstIndex_append hmajor, hbefore, Option.bind_eq_bind,
    Option.bind_some, hlast, htake, hdrop, hsecond, hbefore', hindex6, hindex8]
  rw [if_pos]
  · rfl
  · simp
    omega

end Util

structure SystemVersion where
  major : Numeral
  minor : Numeral
  patch : Option Numeral

namespace SystemVersion

def text (v : SystemVersion) : String :=
  match v.patch with
  | none => String.ofList (v.major.digits ++ '.' :: v.minor.digits)
  | some patch =>
    String.ofList (v.major.digits ++ '.' :: (v.minor.digits ++ '.' :: patch.digits))

/-- The digits of the components, one after the other. -/
def digits (v : SystemVersion) : List Char :=
  match v.patch with
  | none => v.major.digits ++ v.minor.digits
  | some patch => v.major.digits ++ (v.minor.digits ++ patch.digits)

/-- The encoder returns the number with the digits of the version. -/
def Encoded (v : SystemVersion) : Prop :=
  Util.getIOSVersionOS v.text = some (Int32.ofInt (Numeral.valueOf v.digits))

/-- The versions that lose nothing: at most three digits in two components, or a digit each in the
second and in the third, or digits without weight in the place of the lost ones. -/
def Short (v : SystemVersion) : Prop :=
  match v.patch with
  | none => v.major.length + v.minor.length ≤ 3
  | some patch =>
    (v.minor.length = 1 ∧ patch.length = 1) ∨
      (v.major.value = 0 ∧ v.minor.value < 10 ∧ patch.length = 1) ∨
      (v.major.value = 0 ∧ v.minor.value = 0 ∧ patch.value = 0)

instance (v : SystemVersion) : Decidable v.Encoded := inferInstanceAs (Decidable (_ = _))

end SystemVersion

namespace Numeral

/-- Ten to a positive power is at least ten times as much. -/
theorem ten_mul_le (n : Nat) {p : Nat} (hp : 0 < p) : 10 * n ≤ n * 10 ^ p := by
  rw [Nat.mul_comm 10 n]
  exact Nat.mul_le_mul_left n (Nat.le_self_pow (Nat.ne_of_gt hp) 10)

theorem mul_pow_eq_zero {n : Nat} (p : Nat) (hn : n = 0) : n * 10 ^ p = 0 := by
  rw [hn, Nat.zero_mul]

/-- **What the lost digits weigh.** With `major`, `lead` and `l`, `f` and `tail` the values and `p`,
`q` the numbers of digits of `lead` and `tail`. -/
theorem dropped_eq_iff (major l f : Nat) {lead tail p q : Nat} (hlead : lead < 10 ^ p)
    (htail : tail < 10 ^ q) :
    (((major * 10 ^ p + lead) * 10 + l) * 10 + f) * 10 ^ q + tail = (major * 10 + l) * 10 + f ↔
      (p = 0 ∧ q = 0) ∨ (major = 0 ∧ lead = 0 ∧ q = 0) ∨
        (major = 0 ∧ lead = 0 ∧ l = 0 ∧ f = 0 ∧ tail = 0) := by
  have hmajor : major ≤ major * 10 ^ p := Nat.le_mul_of_pos_right major (Nat.pow_pos (by decide))
  rcases Nat.eq_zero_or_pos q with rfl | hq
  · -- nothing is lost at the end: the digits lost in the middle push `major` up
    rw [Nat.pow_zero, Nat.mul_one]
    rw [Nat.pow_zero] at htail
    rcases Nat.eq_zero_or_pos p with rfl | hp
    · rw [Nat.pow_zero] at hlead
      rw [Nat.pow_zero, Nat.mul_one]
      omega
    · have hten := ten_mul_le major hp
      have hzero := mul_pow_eq_zero (n := major) p
      omega
  · -- something is lost at the end: the digits kept are ten times as much in front of it
    have hten := ten_mul_le (((major * 10 ^ p + lead) * 10 + l) * 10 + f) hq
    have hzero := mul_pow_eq_zero (n := major) p
    have hzero' := mul_pow_eq_zero (n := ((major * 10 ^ p + lead) * 10 + l) * 10 + f) q
    omega

/-- The digits kept are worth no more than all of them. -/
theorem dropped_le (major lead l f tail p q : Nat) :
    (major * 10 + l) * 10 + f ≤
      (((major * 10 ^ p + lead) * 10 + l) * 10 + f) * 10 ^ q + tail := by
  have hmajor : major ≤ major * 10 ^ p := Nat.le_mul_of_pos_right major (Nat.pow_pos (by decide))
  have hrest := Nat.le_mul_of_pos_right (((major * 10 ^ p + lead) * 10 + l) * 10 + f)
    (Nat.pow_pos (a := 10) (n := q) (by decide))
  omega

end Numeral

namespace SystemVersion

open Numeral

theorem dot_not_mem (n : Numeral) : '.' ∉ n.digits := by
  intro h
  exact absurd (n.isDigit '.' h) (by decide)

/-- A version of two components is encoded if it is short: otherwise a second dot is looked for. -/
theorem encoded_two_iff {major minor : Numeral}
    (hfit : valueOf (digits ⟨major, minor, none⟩) < 2 ^ 31) :
    Encoded ⟨major, minor, none⟩ ↔ Short ⟨major, minor, none⟩ := by
  have hdigit : ∀ c ∈ major.digits ++ minor.digits, c.isDigit = true := by
    intro c hc
    rcases List.mem_append.mp hc with hc | hc
    · exact major.isDigit c hc
    · exact minor.isDigit c hc
  have hread := int32?_of_digits (List.append_ne_nil_of_left_ne_nil major.nonempty _) hdigit hfit
  have hresult := Util.getIOSVersionOS_two major.nonempty (dot_not_mem major) (dot_not_mem minor)
  unfold Encoded text digits Short
  simp only [hresult, Numeral.length]
  by_cases hshort : major.digits.length + minor.digits.length ≤ 3
  · rw [if_pos hshort, hread]
    exact iff_of_true rfl hshort
  · rw [if_neg hshort]
    exact iff_of_false (by simp) hshort

/-- The value of all digits of a version of three components, with its lost digits in view. -/
theorem valueOf_all (major lead tail : List Char) (l f : Char) :
    valueOf (major ++ (lead ++ [l] ++ f :: tail)) =
      (((valueOf major * 10 ^ lead.length + valueOf lead) * 10 + valueOf [l]) * 10 +
        valueOf [f]) * 10 ^ tail.length + valueOf tail := by
  have hassoc : major ++ (lead ++ [l] ++ f :: tail) = major ++ lead ++ [l] ++ [f] ++ tail := by
    simp
  simp only [hassoc, valueOf_append, List.length_singleton, Nat.pow_one]

/-- The value of the digits that are kept. -/
theorem valueOf_kept (major : List Char) (l f : Char) :
    valueOf (major ++ [l, f]) = (valueOf major * 10 + valueOf [l]) * 10 + valueOf [f] := by
  have hassoc : major ++ [l, f] = major ++ [l] ++ [f] := by simp
  simp only [hassoc, valueOf_append, List.length_singleton, Nat.pow_one]

section
variable {major minor patch : Numeral} {lead tail : List Char} {l f : Char}
  (hminor : minor.digits = lead ++ [l]) (hpatch : patch.digits = f :: tail)

include hminor hpatch

/-- What the encoder makes of a version of three components. -/
theorem encode_three (hfit : valueOf (major.digits ++ [l, f]) < 2 ^ 31) :
    Util.getIOSVersionOS (text ⟨major, minor, some patch⟩) =
      some (Int32.ofInt (valueOf (major.digits ++ [l, f]))) := by
  have hdigit : ∀ c ∈ major.digits ++ [l, f], c.isDigit = true := by
    intro c hc
    simp only [List.mem_append, List.mem_cons, List.not_mem_nil, or_false] at hc
    rcases hc with hc | rfl | rfl
    · exact major.isDigit c hc
    · exact minor.isDigit c (by simp [hminor])
    · exact patch.isDigit c (by simp [hpatch])
  rw [← int32?_of_digits (by simp) hdigit hfit]
  simp only [text, hminor, hpatch]
  exact Util.getIOSVersionOS_three major.nonempty (dot_not_mem major) (hminor ▸ dot_not_mem minor)

/-- The digits kept are worth no more than the digits of the version. -/
theorem kept_le :
    valueOf (major.digits ++ [l, f]) ≤ valueOf (digits ⟨major, minor, some patch⟩) := by
  simp only [digits, hminor, hpatch]
  rw [valueOf_all, valueOf_kept]
  exact dropped_le _ _ _ _ _ _ _

/-- They are worth the same for the short versions. -/
theorem kept_eq_iff :
    valueOf (major.digits ++ [l, f]) = valueOf (digits ⟨major, minor, some patch⟩) ↔
      Short ⟨major, minor, some patch⟩ := by
  have hlead : valueOf lead < 10 ^ lead.length :=
    valueOf_lt fun c hc => minor.isDigit c (by simp [hminor, hc])
  have htail : valueOf tail < 10 ^ tail.length :=
    valueOf_lt fun c hc => patch.isDigit c (by simp [hpatch, hc])
  have hl : valueOf [l] < 10 := valueOf_singleton_lt (minor.isDigit l (by simp [hminor]))
  have hdropped := dropped_eq_iff major.value (valueOf [l]) (valueOf [f]) hlead htail
  have hkept := valueOf_kept major.digits l f
  have hall := valueOf_all major.digits lead tail l f
  have hminorValue : minor.value = valueOf lead * 10 + valueOf [l] := by
    rw [Numeral.value, hminor, valueOf_append, List.length_singleton, Nat.pow_one]
  have hpatchValue : patch.value = valueOf [f] * 10 ^ tail.length + valueOf tail := by
    rw [Numeral.value, hpatch, ← List.singleton_append, valueOf_append]
  have hminorLength : minor.length = lead.length + 1 := by simp [Numeral.length, hminor]
  have hpatchLength : patch.length = tail.length + 1 := by simp [Numeral.length, hpatch]
  have hzero := mul_pow_eq_zero (n := valueOf [f]) tail.length
  have hpos := Nat.le_mul_of_pos_right (valueOf [f])
    (Nat.pow_pos (a := 10) (n := tail.length) (by decide))
  simp only [digits, Short, hminor, hpatch, hminorValue, hpatchValue, hminorLength, hpatchLength]
  rw [hkept, hall, eq_comm]
  refine hdropped.trans ?_
  omega

end

/-- A version of three components is encoded if the digits it loses are worth nothing. -/
theorem encoded_three_iff {major minor patch : Numeral}
    (hfit : valueOf (digits ⟨major, minor, some patch⟩) < 2 ^ 31) :
    Encoded ⟨major, minor, some patch⟩ ↔ Short ⟨major, minor, some patch⟩ := by
  obtain ⟨lead, l, hminor⟩ : ∃ lead l, minor.digits = lead ++ [l] :=
    ⟨_, _, (List.dropLast_append_getLast minor.nonempty).symm⟩
  obtain ⟨f, tail, hpatch⟩ := List.exists_cons_of_ne_nil patch.nonempty
  have hle : valueOf (major.digits ++ [l, f]) ≤ valueOf (digits ⟨major, minor, some patch⟩) :=
    kept_le hminor hpatch
  have hfit' := Nat.lt_of_le_of_lt hle hfit
  rw [Encoded, encode_three hminor hpatch hfit', Option.some.injEq, ofInt_inj hfit' hfit]
  exact kept_eq_iff hminor hpatch

/-- **The encoder is faithful to the short versions, and to no others.** -/
theorem encoded_iff (v : SystemVersion) (hfit : valueOf v.digits < 2 ^ 31) :
    v.Encoded ↔ v.Short := by
  obtain ⟨major, minor, patch⟩ := v
  cases patch with
  | none => exact encoded_two_iff hfit
  | some patch => exact encoded_three_iff hfit

def of (major minor : Nat) (patch : Option Nat) : SystemVersion :=
  ⟨.ofNat major, .ofNat minor, patch.map .ofNat⟩

theorem encoded_iff_short :
    valueOf (of 12 4 (some 1)).digits < 2 ^ 31 ∧
      ((of 12 4 (some 1)).Encoded ↔ (of 12 4 (some 1)).Short) := by
  have hfit : valueOf (of 12 4 (some 1)).digits < 2 ^ 31 := by decide +kernel
  exact ⟨hfit, encoded_iff _ hfit⟩

/-- Two digits in the second of two components are fatal, two digits in the third are cut. -/
theorem encoder_misses :
    ((of 10 10 none).text = "10.10" ∧ valueOf (of 10 10 none).digits < 2 ^ 31 ∧
        Util.getIOSVersionOS "10.10" = none ∧ ¬ (of 10 10 none).Encoded) ∧
      ((of 16 7 (some 10)).text = "16.7.10" ∧ valueOf (of 16 7 (some 10)).digits < 2 ^ 31 ∧
        Util.getIOSVersionOS "16.7.10" = some 1671 ∧ ¬ (of 16 7 (some 10)).Encoded) := by
  decide +kernel

end SystemVersion
