import NaveggSdk.Foundation.UserDefaults
import NaveggSdk.Sdk.Util

/-!
# `OnBoarding`: the map of onboarding pairs of one account

The object keeps a copy of the stored map in `valueData`; `addInfo` reads the store again before it
looks at the copy. `dateLastSync` is the text of the last successful send, of which the store holds
the copy that is read.

The unused field `data` of the source is left out. `defaults` is the suite the user opened; it is
passed to the methods that read it and returned by those that write it.

A Lean `String` stands for a Swift `String` up to `==`, that is, up to canonical equivalence. The
methods use nothing of the texts but their equality.
-/

structure OnBoarding where
  accountId : Int
  valueData : Dictionary String String
  dateLastSync : Option String

namespace OnBoarding

/-- The key of the stored map, `"onBoarding" + String(accountId)`. -/
def mapKey (accountId : Int) : String := "onBoarding" ++ toString accountId

/-- The stored map, `defaults.dictionary(forKey:) ?? [:]`. -/
def storedMap (accountId : Int) (defaults : UserDefaults) : Dictionary String String :=
  (defaults.dictionary (mapKey accountId)).getD ∅

def init (accountId : Int) (defaults : UserDefaults) : OnBoarding where
  accountId := accountId
  valueData := storedMap accountId defaults
  dateLastSync := defaults.string "dateLastSyncOnBoarding"

/-- The test of `addInfo`: the pair is the stored one and the date of the last send is of today. -/
def isSuppressed (device : Device) (defaults : UserDefaults) (valueData : Dictionary String String)
    (key value : String) : Bool :=
  match valueData.lookup key with
  | some checkValue =>
    if checkValue = value then
      match defaults.string "dateLastSyncOnBoarding" with
      | some stringDate =>
        Util.dayBetweenDates device.calendar device.now (Util.stringToDate stringDate) == 0
      | none => false
    else false
  | none => false

/-- `addInfo`: `false` when nothing is stored. -/
def addInfo (device : Device) (key value : String) (onBoarding : OnBoarding)
    (defaults : UserDefaults) : Bool × OnBoarding × UserDefaults :=
  let valueData := storedMap onBoarding.accountId defaults
  if isSuppressed device defaults valueData key value then
    (false, { onBoarding with valueData }, defaults)
  else
    let valueData := valueData.insert key value
    (true, { onBoarding with valueData },
      defaults.set (.dictionary valueData) (mapKey onBoarding.accountId))

/-- `__set_to_send_onBoarding`. -/
def setToSendOnBoarding (status : Bool) (defaults : UserDefaults) : UserDefaults :=
  defaults.set (.bool status) "toSendOnBoarding"

def hasToSendOnBoarding (defaults : UserDefaults) : Bool :=
  if defaults.bool "toSendOnBoarding" then false else true

def getInfo (key : String) (onBoarding : OnBoarding) : String :=
  match onBoarding.valueData.lookup key with
  | some value => value
  | none => ""

/-- `__get_hash_map`. -/
def getHashMap (onBoarding : OnBoarding) : Dictionary String String := onBoarding.valueData

/-- `getDateLastSync`, which unwraps the text; `none` when it traps. -/
def getDateLastSync (onBoarding : OnBoarding) : Option String := onBoarding.dateLastSync

def setDateLastSync (date : Date) (onBoarding : OnBoarding) (defaults : UserDefaults) :
    OnBoarding × UserDefaults :=
  ({ onBoarding with dateLastSync := some (Util.dateToString date) },
    defaults.set (.string (Util.dateToString date)) "dateLastSyncOnBoarding")

/-! ## The key of the map

The other keys of the suite are fixed words, none of which starts like this one, so no account
number makes the map collide with them. -/

/-- The other keys of the suite. -/
abbrev fixedKeys : List String :=
  ["NVGSDK_USERID", "NVGSDK_CODCONTA", "NVGSDK_IDAPPSTORE", "accounts", "jsonSegments",
    "dateLastSync", "toSendOnBoarding", "dateLastSyncOnBoarding"]

theorem take_ne_of_mem_fixedKeys : ∀ key ∈ fixedKeys,
    key.toList.take 10 ≠ "onBoarding".toList := by
  decide

/-- **The map has a key of its own**, whatever the account number. -/
theorem mapKey_ne {key : String} (h : key ∈ fixedKeys) (accountId : Int) :
    mapKey accountId ≠ key := by
  intro heq
  apply take_ne_of_mem_fixedKeys key h
  rw [← heq, mapKey, String.toList_append]
  rfl

@[simp] theorem mapKey_eq_fixed {key : String} (h : key ∈ fixedKeys) (accountId : Int) :
    (mapKey accountId = key) = False :=
  eq_false (mapKey_ne h accountId)

@[simp] theorem fixed_eq_mapKey {key : String} (h : key ∈ fixedKeys) (accountId : Int) :
    (key = mapKey accountId) = False :=
  eq_false (mapKey_ne h accountId).symm

end OnBoarding
