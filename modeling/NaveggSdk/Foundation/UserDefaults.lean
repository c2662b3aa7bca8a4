import Mathlib.Logic.Function.Basic
import NaveggSdk.Library.Dictionary

/-!
# `UserDefaults`

One suite of the defaults system: a store of property-list values under string keys, shared by
every object that opened the suite and surviving the process. Only what the SDK uses is here: the
five kinds of value it writes, `set` and `removeObject`, and the four typed readers.

A reader asked for a value of another kind answers as if the key were absent. (The real readers
convert between strings, numbers and booleans; no key of the SDK is read at another kind than the
one it is written at, so no conversion ever takes place.)
-/

/-- A property-list value, as far as the SDK writes them. -/
inductive PropertyList where
  | string (s : String)
  | int (n : Int)
  | bool (b : Bool)
  | array (l : List Int)
  | dictionary (d : Dictionary String String)
  deriving DecidableEq

/-- The contents of a suite: `none` where no value is stored. -/
structure UserDefaults where
  value : String → Option PropertyList

namespace UserDefaults

def empty : UserDefaults := ⟨fun _ => none⟩

/-- `set(_:forKey:)` with a value. -/
def set (d : UserDefaults) (v : PropertyList) (forKey : String) : UserDefaults :=
  ⟨Function.update d.value forKey (some v)⟩

/-- `set(nil, forKey:)`, which removes the key. -/
def removeObject (d : UserDefaults) (forKey : String) : UserDefaults :=
  ⟨Function.update d.value forKey none⟩

/-- `set(_:forKey:)` with an optional. -/
def setOptional (d : UserDefaults) (v : Option PropertyList) (forKey : String) : UserDefaults :=
  match v with
  | some v => d.set v forKey
  | none => d.removeObject forKey

def string (d : UserDefaults) (forKey : String) : Option String :=
  match d.value forKey with
  | some (.string s) => some s
  | _ => none

/-- `bool(forKey:)`: `false` when nothing is stored. -/
def bool (d : UserDefaults) (forKey : String) : Bool :=
  match d.value forKey with
  | some (.bool b) => b
  | _ => false

def array (d : UserDefaults) (forKey : String) : Option (List Int) :=
  match d.value forKey with
  | some (.array l) => some l
  | _ => none

def dictionary (d : UserDefaults) (forKey : String) : Option (Dictionary String String) :=
  match d.value forKey with
  | some (.dictionary m) => some m
  | _ => none

/-! ## What is read after a write

A reader sees the last value written under its own key, and no write under another key. -/

section
variable (d : UserDefaults) (key : String)

@[simp] theorem value_empty : empty.value key = none := rfl

@[simp] theorem value_set (v : PropertyList) : (d.set v key).value key = some v := by
  simp [set]

@[simp] theorem value_removeObject : (d.removeObject key).value key = none := by
  simp [removeObject]

variable {key} {other : String}

@[simp] theorem value_set_ne (v : PropertyList) (h : other ≠ key) :
    (d.set v key).value other = d.value other := by
  simp [set, h]

@[simp] theorem value_removeObject_ne (h : other ≠ key) :
    (d.removeObject key).value other = d.value other := by
  simp [removeObject, h]

@[simp] theorem value_setOptional_ne (v : Option PropertyList) (h : other ≠ key) :
    (d.setOptional v key).value other = d.value other := by
  cases v with
  | none => exact value_removeObject_ne d h
  | some v => exact value_set_ne d v h

@[simp] theorem string_set (s : String) : (d.set (.string s) key).string key = some s := by
  simp [string]

@[simp] theorem bool_set (b : Bool) : (d.set (.bool b) key).bool key = b := by
  simp [bool]

@[simp] theorem dictionary_set (m : Dictionary String String) :
    (d.set (.dictionary m) key).dictionary key = some m := by
  simp [dictionary]

@[simp] theorem string_setOptional (s : Option String) :
    (d.setOptional (s.map .string) key).string key = s := by
  cases s <;> simp [setOptional, string]

/-- Every reader of a key sees the value of that key and nothing else. -/
theorem readers_congr {d d' : UserDefaults} (h : d.value key = d'.value key) :
    d.string key = d'.string key ∧ d.bool key = d'.bool key ∧ d.array key = d'.array key ∧
      d.dictionary key = d'.dictionary key := by
  simp only [string, bool, array, dictionary, h, and_self]

@[simp] theorem string_set_ne (v : PropertyList) (h : other ≠ key) :
    (d.set v key).string other = d.string other :=
  (readers_congr (value_set_ne d v h)).1

@[simp] theorem bool_set_ne (v : PropertyList) (h : other ≠ key) :
    (d.set v key).bool other = d.bool other :=
  (readers_congr (value_set_ne d v h)).2.1

@[simp] theorem dictionary_set_ne (v : PropertyList) (h : other ≠ key) :
    (d.set v key).dictionary other = d.dictionary other :=
  (readers_congr (value_set_ne d v h)).2.2.2

@[simp] theorem string_setOptional_ne (v : Option PropertyList) (h : other ≠ key) :
    (d.setOptional v key).string other = d.string other :=
  (readers_congr (value_setOptional_ne d v h)).1

@[simp] theorem bool_setOptional_ne (v : Option PropertyList) (h : other ≠ key) :
    (d.setOptional v key).bool other = d.bool other :=
  (readers_congr (value_setOptional_ne d v h)).2.1

@[simp] theorem dictionary_setOptional_ne (v : Option PropertyList) (h : other ≠ key) :
    (d.setOptional v key).dictionary other = d.dictionary other :=
  (readers_congr (value_setOptional_ne d v h)).2.2.2

end

end UserDefaults
