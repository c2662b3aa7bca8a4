import Mathlib.Data.List.Basic

/-!
# Percent-encoding

A text is written into a place that has room for some characters only. Its UTF-8 bytes are taken one
by one: a byte that stands for an allowed character is kept, any other becomes `%` and two
hexadecimal digits. `encode` is that, for any set of allowed characters.

Two things are asked of it. What it writes has the right form (`wellFormed_encode`): nothing but
allowed characters and escapes. And it can be read back (`decode_encode`), whatever the text, as
long as `%` itself is not among the allowed characters.
-/

namespace Percent

/-! ## Hexadecimal digits -/

/-- The digit of a number below sixteen, in upper case. -/
def hexDigit (n : Nat) : Char := if n < 10 then Char.ofNat (48 + n) else Char.ofNat (55 + n)

/-- The number of a digit, in either case. -/
def hexValue? (c : Char) : Option Nat :=
  if 48 ≤ c.toNat ∧ c.toNat ≤ 57 then some (c.toNat - 48)
  else if 65 ≤ c.toNat ∧ c.toNat ≤ 70 then some (c.toNat - 55)
  else if 97 ≤ c.toNat ∧ c.toNat ≤ 102 then some (c.toNat - 87)
  else none

/-- A byte as a character has the number of the byte. -/
theorem toNat_ofNat {n : Nat} (h : n < 256) : (Char.ofNat n).toNat = n := by
  have hvalid : n.isValidChar := .inl (by omega)
  rw [Char.ofNat, dif_pos hvalid]
  rfl

theorem hexValue?_hexDigit {n : Nat} (h : n < 16) : hexValue? (hexDigit n) = some n := by
  unfold hexValue? hexDigit
  by_cases hn : n < 10
  · rw [if_pos hn, toNat_ofNat (by omega), if_pos (by omega)]
    congr 1
    omega
  · rw [if_neg hn, toNat_ofNat (by omega), if_neg (by omega), if_pos (by omega)]
    congr 1
    omega

/-! ## Writing -/

section
variable (allowed : Char → Bool)

def encodeByte (b : UInt8) : List Char :=
  if b.toNat < 128 && allowed (Char.ofNat b.toNat) then [Char.ofNat b.toNat]
  else ['%', hexDigit (b.toNat / 16), hexDigit (b.toNat % 16)]

/-- `addingPercentEncoding(withAllowedCharacters:)`. Allowed characters outside ASCII are
ignored. -/
def encode (s : String) : String :=
  String.ofList (s.toByteArray.data.toList.flatMap (encodeByte allowed))

/-- The two ways of a byte. -/
theorem encodeByte_cases (b : UInt8) :
    (b.toNat < 128 ∧ allowed (Char.ofNat b.toNat) = true ∧
        encodeByte allowed b = [Char.ofNat b.toNat]) ∨
      encodeByte allowed b = ['%', hexDigit (b.toNat / 16), hexDigit (b.toNat % 16)] := by
  unfold encodeByte
  by_cases h : (b.toNat < 128 && allowed (Char.ofNat b.toNat)) = true
  · obtain ⟨hascii, hallowed⟩ := Bool.and_eq_true_iff.mp h
    exact .inl ⟨by simpa using hascii, hallowed, if_pos h⟩
  · exact .inr (if_neg h)

end

/-- The two digits of a byte are the digits of the byte. -/
theorem hexValue?_digits (b : UInt8) :
    hexValue? (hexDigit (b.toNat / 16)) = some (b.toNat / 16) ∧
      hexValue? (hexDigit (b.toNat % 16)) = some (b.toNat % 16) := by
  have hb : b.toNat < 256 := b.toNat_lt_size
  exact ⟨hexValue?_hexDigit (by omega), hexValue?_hexDigit (by omega)⟩

/-! ## The form of what is written -/

section
variable (allowed : Char → Bool)

/-- Allowed characters and escapes, and nothing else. -/
def wellFormed : List Char → Bool
  | [] => true
  | c :: rest =>
    if c = '%' then
      match rest with
      | high :: low :: rest =>
        (hexValue? high).isSome && (hexValue? low).isSome && wellFormed rest
      | _ => false
    else allowed c && wellFormed rest

variable {allowed}

theorem wellFormed_cons {c : Char} (hc : c ≠ '%') (hallowed : allowed c = true) (rest : List Char) :
    wellFormed allowed (c :: rest) = wellFormed allowed rest := by
  rw [wellFormed.eq_def]
  simp only [if_neg hc, hallowed, Bool.true_and]

theorem wellFormed_escape {high low : Char} (hhigh : (hexValue? high).isSome = true)
    (hlow : (hexValue? low).isSome = true) (rest : List Char) :
    wellFormed allowed ('%' :: high :: low :: rest) = wellFormed allowed rest := by
  rw [wellFormed, if_pos rfl]
  simp [hhigh, hlow]

/-- What is well-formed can be followed by what is. -/
theorem wellFormed_append {cs ds : List Char} (hcs : wellFormed allowed cs = true)
    (hds : wellFormed allowed ds = true) : wellFormed allowed (cs ++ ds) = true := by
  fun_induction wellFormed allowed cs with
  | case1 => exact hds
  | case2 high low rest ih =>
      simp only [Bool.and_eq_true] at hcs
      obtain ⟨⟨hhigh, hlow⟩, hrest⟩ := hcs
      rw [List.cons_append, List.cons_append, List.cons_append, wellFormed_escape hhigh hlow]
      exact ih hrest
  | case3 => cases hcs
  | case4 c rest hc ih =>
      obtain ⟨hallowed, hrest⟩ := Bool.and_eq_true_iff.mp hcs
      rw [List.cons_append, wellFormed_cons hc hallowed]
      exact ih hrest

/-- A byte is written in the right form, also where more characters are allowed. -/
theorem wellFormed_encodeByte {allowed' : Char → Bool} (hpercent : allowed '%' = false)
    (hmore : ∀ c, allowed c = true → allowed' c = true) (b : UInt8) :
    wellFormed allowed' (encodeByte allowed b) = true := by
  obtain ⟨_, hallowed, heq⟩ | heq := encodeByte_cases allowed b
  · have hc : Char.ofNat b.toNat ≠ '%' := by
      intro hc
      rw [hc, hpercent] at hallowed
      cases hallowed
    rw [heq, wellFormed_cons hc (hmore _ hallowed)]
    rfl
  · obtain ⟨hhigh, hlow⟩ := hexValue?_digits b
    rw [heq, wellFormed_escape (by rw [hhigh]; rfl) (by rw [hlow]; rfl)]
    rfl

/-- **What is written has the right form**, also where more characters are allowed. -/
theorem wellFormed_encode {allowed' : Char → Bool} (hpercent : allowed '%' = false)
    (hmore : ∀ c, allowed c = true → allowed' c = true) (s : String) :
    wellFormed allowed' (encode allowed s).toList = true := by
  rw [encode, String.toList_ofList]
  induction s.toByteArray.data.toList with
  | nil => rfl
  | cons b bytes ih =>
      rw [List.flatMap_cons]
      exact wellFormed_append (wellFormed_encodeByte hpercent hmore b) ih

/-- A character that is neither allowed nor part of an escape is not written. -/
theorem not_mem_encode {c : Char} (hallowed : allowed c = false) (hpercent : c ≠ '%')
    (hdigit : hexValue? c = none) (s : String) : c ∉ (encode allowed s).toList := by
  intro hmem
  rw [encode, String.toList_ofList] at hmem
  obtain ⟨b, -, hb⟩ := List.mem_flatMap.mp hmem
  obtain ⟨_, hkept, heq⟩ | heq := encodeByte_cases allowed b
  · rw [heq] at hb
    rw [← List.mem_singleton.mp hb, hallowed] at hkept
    cases hkept
  · obtain ⟨hhigh, hlow⟩ := hexValue?_digits b
    rw [heq] at hb
    simp only [List.mem_cons, List.not_mem_nil, or_false] at hb
    obtain rfl | rfl | rfl := hb
    · exact hpercent rfl
    · rw [hhigh] at hdigit
      cases hdigit
    · rw [hlow] at hdigit
      cases hdigit

end

/-! ## Reading back -/

def decodeBytes : List Char → Option (List UInt8)
  | [] => some []
  | c :: rest =>
    if c = '%' then
      match rest with
      | high :: low :: rest =>
        match hexValue? high, hexValue? low with
        | some high, some low => (decodeBytes rest).map (UInt8.ofNat (16 * high + low) :: ·)
        | _, _ => none
      | _ => none
    else if c.toNat < 128 then (decodeBytes rest).map (UInt8.ofNat c.toNat :: ·)
    else none

/-- The text that was written, if it was one. -/
def decode (s : String) : Option String :=
  (decodeBytes s.toList).bind fun bytes => String.fromUTF8? bytes.toByteArray

/-- **One byte is read back.** -/
theorem decodeBytes_encodeByte {allowed : Char → Bool} (hpercent : allowed '%' = false) (b : UInt8)
    (rest : List Char) :
    decodeBytes (encodeByte allowed b ++ rest) = (decodeBytes rest).map (b :: ·) := by
  obtain ⟨hascii, hallowed, heq⟩ | heq := encodeByte_cases allowed b
  · have hc : Char.ofNat b.toNat ≠ '%' := by
      intro hc
      rw [hc, hpercent] at hallowed
      cases hallowed
    have hnumber : (Char.ofNat b.toNat).toNat = b.toNat := toNat_ofNat (by omega)
    rw [heq, List.singleton_append, decodeBytes.eq_def]
    simp only [if_neg hc, hnumber, if_pos hascii, UInt8.ofNat_toNat]
  · obtain ⟨hhigh, hlow⟩ := hexValue?_digits b
    have hdigits : 16 * (b.toNat / 16) + b.toNat % 16 = b.toNat := Nat.div_add_mod b.toNat 16
    rw [heq, List.cons_append, List.cons_append, List.cons_append, List.nil_append, decodeBytes,
      if_pos rfl]
    simp only [hhigh, hlow, hdigits, UInt8.ofNat_toNat]

theorem decodeBytes_flatMap {allowed : Char → Bool} (hpercent : allowed '%' = false)
    (bytes : List UInt8) : decodeBytes (bytes.flatMap (encodeByte allowed)) = some bytes := by
  induction bytes with
  | nil => rfl
  | cons b bytes ih =>
      rw [List.flatMap_cons, decodeBytes_encodeByte hpercent, ih]
      rfl

/-- **Every text is read back.** -/
theorem decode_encode {allowed : Char → Bool} (hpercent : allowed '%' = false) (s : String) :
    decode (encode allowed s) = some s := by
  have hbytes : (s.toByteArray.data.toList).toByteArray = s.toByteArray := by
    ext1
    simp
  rw [decode, encode, String.toList_ofList, decodeBytes_flatMap hpercent, Option.bind_some, hbytes,
    String.fromUTF8?, dif_pos s.isValidUTF8]
  rfl

end Percent
