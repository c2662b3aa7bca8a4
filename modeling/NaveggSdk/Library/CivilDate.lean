import Mathlib.Data.Nat.Digits.Lemmas
import Mathlib.Tactic.Ring

/-!
# Instants as text: `yyyy-MM-dd HH:mm:ss`

An instant is a whole number of seconds since 1970-01-01 00:00:00 GMT. `format` writes it in the
proleptic Gregorian calendar with the fixed pattern above (a year before 1 is written with a sign),
`parse` reads such a text back.

    seconds ──ofSeconds──▶ fields ──format──▶ text
    seconds ◀──toSeconds── fields ◀──parse─── text

The result of the file is `parse_format`: whatever `format` writes, `parse` reads back as the same
instant. It has two halves. `toSeconds_ofSeconds` is calendar arithmetic, done with the cycles of
the calendar (400 years, 100 years, 4 years, 1 year) so that every step is linear; `fields?_text`
is about digits, two at a time, and the year with as many as it needs.
-/

namespace CivilDate

/-- An instant broken down into the fields of the pattern. -/
structure Fields where
  year : Int
  month : Nat
  day : Nat
  hour : Nat
  minute : Nat
  second : Nat
  deriving DecidableEq

/-! ## The calendar

Years are counted from March, so that the leap day is the last of the year and the months have the
lengths 31, 30, 31, 30, 31 over and over: month `mp` (0 = March) starts on day
`(153 * mp + 2) / 5`. Day 0 of era 0 is 0000-03-01, which is 719468 days before 1970-01-01. -/

/-- A day of a 400-year era, as a year of the era and a day of that year. -/
def splitEra (doe : Int) : Int × Int :=
  let century := min (doe / 36524) 3
  let inCentury := doe - 36524 * century
  let cycle := inCentury / 1461
  let inCycle := inCentury - 1461 * cycle
  let year := min (inCycle / 365) 3
  (100 * century + 4 * cycle + year, inCycle - 365 * year)

/-- The day of the era at which a year of the era starts. -/
def yearStart (yoe : Int) : Int := 365 * yoe + yoe / 4 - yoe / 100

theorem splitEra_bounds {doe : Int} (h0 : 0 ≤ doe) (h1 : doe < 146097) :
    0 ≤ (splitEra doe).1 ∧ (splitEra doe).1 < 400 ∧
      0 ≤ (splitEra doe).2 ∧ (splitEra doe).2 ≤ 365 := by
  simp only [splitEra]
  omega

theorem yearStart_splitEra {doe : Int} (h0 : 0 ≤ doe) (h1 : doe < 146097) :
    yearStart (splitEra doe).1 + (splitEra doe).2 = doe := by
  simp only [splitEra, yearStart]
  -- name the three quotients: the goal is then linear, up to the two divisions of `yearStart`
  obtain ⟨c, hc⟩ : ∃ c, c = min (doe / 36524) 3 := ⟨_, rfl⟩
  obtain ⟨q, hq⟩ : ∃ q, q = (doe - 36524 * c) / 1461 := ⟨_, rfl⟩
  obtain ⟨y, hy⟩ : ∃ y, y = min ((doe - 36524 * c - 1461 * q) / 365) 3 := ⟨_, rfl⟩
  rw [← hc, ← hq, ← hy]
  have hfour : (100 * c + 4 * q + y) / 4 = 25 * c + q := by omega
  have hhundred : (100 * c + 4 * q + y) / 100 = c := by omega
  rw [hfour, hhundred]
  ring

def ofSeconds (t : Int) : Fields :=
  let days := t / 86400 + 719468
  let era := days / 146097
  let yoe := (splitEra (days % 146097)).1
  let doy := (splitEra (days % 146097)).2
  let mp := (5 * doy + 2) / 153
  let sec := (t % 86400).toNat
  { year := yoe + 400 * era + (if mp < 10 then 0 else 1)
    month := (if mp < 10 then mp + 3 else mp - 9).toNat
    day := (doy - (153 * mp + 2) / 5 + 1).toNat
    hour := sec / 3600
    minute := sec % 3600 / 60
    second := sec % 60 }

def toSeconds (c : Fields) : Int :=
  let y := c.year - (if c.month ≤ 2 then 1 else 0)
  let mp : Int := if c.month ≤ 2 then c.month + 9 else c.month - 3
  let doy := (153 * mp + 2) / 5 + c.day - 1
  let days := y / 400 * 146097 + yearStart (y % 400) + doy - 719468
  days * 86400 + c.hour * 3600 + c.minute * 60 + c.second

/-- What the text relies on: every field but the year has at most two digits. -/
structure Fields.Small (c : Fields) : Prop where
  month : c.month < 100
  day : c.day < 100
  hour : c.hour < 100
  minute : c.minute < 100
  second : c.second < 100

theorem ofSeconds_small (t : Int) : (ofSeconds t).Small := by
  have hdoe0 : 0 ≤ (t / 86400 + 719468) % 146097 := by omega
  have hdoe1 : (t / 86400 + 719468) % 146097 < 146097 := by omega
  obtain ⟨-, -, hdoy0, hdoy1⟩ := splitEra_bounds hdoe0 hdoe1
  constructor <;> simp only [ofSeconds] <;> (try split) <;> omega

/-- **The fields of an instant denote that instant.** -/
theorem toSeconds_ofSeconds (t : Int) : toSeconds (ofSeconds t) = t := by
  have hdoe0 : 0 ≤ (t / 86400 + 719468) % 146097 := by omega
  have hdoe1 : (t / 86400 + 719468) % 146097 < 146097 := by omega
  have hstart := yearStart_splitEra hdoe0 hdoe1
  have hbounds := splitEra_bounds hdoe0 hdoe1
  rcases hsplit : splitEra ((t / 86400 + 719468) % 146097) with ⟨yoe, doy⟩
  rw [hsplit] at hstart hbounds
  simp only at hstart hbounds
  obtain ⟨hyoe0, hyoe1, hdoy0, hdoy1⟩ := hbounds
  simp only [toSeconds, ofSeconds, hsplit]
  -- March to December belong to the year they are counted in, January and February to the next
  by_cases hmp : (5 * doy + 2) / 153 < 10
  · have hmonth : ¬ ((5 * doy + 2) / 153 + 3).toNat ≤ 2 := by omega
    have hera : (yoe + 400 * ((t / 86400 + 719468) / 146097) + 0 - 0) / 400
        = (t / 86400 + 719468) / 146097 := by omega
    have hyear : (yoe + 400 * ((t / 86400 + 719468) / 146097) + 0 - 0) % 400 = yoe := by omega
    simp only [if_pos hmp, if_neg hmonth, hera, hyear]
    omega
  · have hmonth : ((5 * doy + 2) / 153 - 9).toNat ≤ 2 := by omega
    have hera : (yoe + 400 * ((t / 86400 + 719468) / 146097) + 1 - 1) / 400
        = (t / 86400 + 719468) / 146097 := by omega
    have hyear : (yoe + 400 * ((t / 86400 + 719468) / 146097) + 1 - 1) % 400 = yoe := by omega
    simp only [if_neg hmp, if_pos hmonth, hera, hyear]
    omega

/-! ## Digits

The text is built and read from its *end*: there every field but the year has a fixed place, and
the digits of a number come lowest first, as `Nat.digits` has them. -/

def digitChar (d : Nat) : Char := Char.ofNat (48 + d)

def digit? (c : Char) : Option Nat :=
  if 48 ≤ c.toNat ∧ c.toNat ≤ 57 then some (c.toNat - 48) else none

theorem digit?_digitChar {d : Nat} (h : d < 10) : digit? (digitChar d) = some d := by
  have hall : ∀ d < 10, digit? (digitChar d) = some d := by decide
  exact hall d h

def two (n : Nat) : List Char := [digitChar (n % 10), digitChar (n / 10)]

def two? (lo hi : Char) : Option Nat :=
  match digit? lo, digit? hi with
  | some l, some h => some (10 * h + l)
  | _, _ => none

theorem two?_two {n : Nat} (h : n < 100) :
    two? (digitChar (n % 10)) (digitChar (n / 10)) = some n := by
  have hlo : n % 10 < 10 := Nat.mod_lt _ (by decide)
  have hhi : n / 10 < 10 := by omega
  simp only [two?, digit?_digitChar hlo, digit?_digitChar hhi]
  congr 1
  omega

/-- The digits of a natural number, lowest first, with zeros up to four places. -/
def places (n : Nat) : List Nat :=
  Nat.digits 10 n ++ List.replicate (4 - (Nat.digits 10 n).length) 0

theorem places_lt {n d : Nat} (h : d ∈ places n) : d < 10 := by
  rcases List.mem_append.mp h with h | h
  · exact Nat.digits_lt_base (by decide) h
  · rw [(List.mem_replicate.mp h).2]
    decide

theorem ofDigits_places (n : Nat) : Nat.ofDigits 10 (places n) = n := by
  rw [places, Nat.ofDigits_append, Nat.ofDigits_replicate_zero, Nat.ofDigits_digits]
  simp

/-- The same, as characters. -/
def four (n : Nat) : List Char := (places n).map digitChar

/-- The value of a list of digits, lowest first. -/
def number? (cs : List Char) : Option Nat := (cs.mapM digit?).map (Nat.ofDigits 10)

theorem mapM_digit? {ds : List Nat} (h : ∀ d ∈ ds, d < 10) :
    (ds.map digitChar).mapM digit? = some ds := by
  induction ds with
  | nil => rfl
  | cons d ds ih =>
      have hd : digit? (digitChar d) = some d := digit?_digitChar (h d (by simp))
      have hds := ih fun x hx => h x (by simp [hx])
      simp [hd, hds]

theorem number?_four (n : Nat) : number? (four n) = some n := by
  rw [number?, four, mapM_digit? fun d hd => places_lt hd, Option.map_some, ofDigits_places]

/-! ## The text -/

/-- The year, lowest digit first, its sign (if any) last. -/
def yearText (y : Int) : List Char :=
  if y < 0 then four y.natAbs ++ ['-'] else four y.natAbs

def year? (cs : List Char) : Option Int :=
  if cs.getLast? = some '-' then (number? cs.dropLast).map fun n : Nat => -(n : Int)
  else (number? cs).map fun n : Nat => (n : Int)

/-- The text of the fields, last character first. -/
def text (c : Fields) : List Char :=
  two c.second ++ ':' :: two c.minute ++ ':' :: two c.hour ++ ' ' :: two c.day ++ '-' ::
    two c.month ++ '-' :: yearText c.year

/-- The fields of a text, last character first; `none` when it does not follow the pattern. -/
def fields? : List Char → Option Fields
  | s₀ :: s₁ :: ':' :: m₀ :: m₁ :: ':' :: h₀ :: h₁ :: ' ' :: d₀ :: d₁ :: '-' :: M₀ :: M₁ :: '-' ::
      year =>
    match year? year, two? M₀ M₁, two? d₀ d₁, two? h₀ h₁, two? m₀ m₁, two? s₀ s₁ with
    | some y, some M, some d, some h, some m, some s => some ⟨y, M, d, h, m, s⟩
    | _, _, _, _, _, _ => none
  | _ => none

/-- The digits of a year do not end in a sign. -/
theorem four_getLast?_ne (n : Nat) : (four n).getLast? ≠ some '-' := by
  intro h
  obtain ⟨d, hd, hc⟩ := List.mem_map.mp (List.mem_of_getLast? h)
  have hdigit := digit?_digitChar (places_lt hd)
  rw [hc] at hdigit
  exact absurd hdigit (by simp [digit?])

theorem year?_yearText (y : Int) : year? (yearText y) = some y := by
  unfold yearText
  split
  · have hlast : (four y.natAbs ++ ['-']).getLast? = some '-' := by simp
    rw [year?, if_pos hlast, List.dropLast_concat, number?_four, Option.map_some]
    congr 1
    omega
  · rw [year?, if_neg (four_getLast?_ne _), number?_four, Option.map_some]
    congr 1
    omega

/-- **Reading the text of small fields gives the fields back.** -/
theorem fields?_text {c : Fields} (h : c.Small) : fields? (text c) = some c := by
  simp only [text, two, List.cons_append, List.nil_append, fields?, year?_yearText,
    two?_two h.month, two?_two h.day, two?_two h.hour, two?_two h.minute, two?_two h.second]

def format (t : Int) : String := String.ofList (text (ofSeconds t)).reverse

/-- The instant a text denotes: `none` when it does not follow the pattern, or when no instant has
the fields it names (a 13th month, a 30th of February). -/
def parse (s : String) : Option Int :=
  match fields? s.toList.reverse with
  | some c => if ofSeconds (toSeconds c) = c then some (toSeconds c) else none
  | none => none

/-- **The round trip**: what `format` writes, `parse` reads as the same instant. -/
theorem parse_format (t : Int) : parse (format t) = some t := by
  rw [parse, format, String.toList_ofList, List.reverse_reverse, fields?_text (ofSeconds_small t)]
  simp only [toSeconds_ofSeconds, if_true]

end CivilDate
