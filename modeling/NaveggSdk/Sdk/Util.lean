import Mathlib.Data.Rat.Floor
import NaveggSdk.Library.CivilDate

/-!
# `Util`: the device, its clock and its calendar

Everything the SDK asks of the device it asks through `Util`: is there a connection, what time is
it, which day is that, and what identifies the device. A `Device` is the answer to all of these at
one moment; the code model takes it as an argument wherever the source calls `Util` or `Date()`.

A `Date` is a rational number of seconds since 1970. Dates are stored as text with a resolution of
one second, and `stringToDate_dateToString` says what a round trip through the store does to a
date: it cuts it down to whole seconds.
-/

/-- A point in time, in seconds since 1970-01-01 00:00:00 GMT. -/
abbrev Date := ℚ

/-- `NSCalendar.current`: which day (counted from some fixed day) a second belongs to. -/
structure Calendar where
  day : Int → Int
  day_mono : ∀ second second' : Int, second ≤ second' → day second ≤ day second'

namespace Calendar

def dayOf (calendar : Calendar) (date : Date) : Int := calendar.day ⌊date⌋

theorem dayOf_mono (calendar : Calendar) {date date' : Date} (h : date ≤ date') :
    calendar.dayOf date ≤ calendar.dayOf date' :=
  calendar.day_mono _ _ (Int.floor_mono h)

/-- Cutting a date down to whole seconds does not move it to another day. -/
@[simp] theorem dayOf_floor (calendar : Calendar) (date : Date) :
    calendar.dayOf (⌊date⌋ : Int) = calendar.dayOf date := by
  simp [dayOf]

/-- The calendar of a device set to GMT. -/
def gmt : Calendar where
  day second := second / 86400
  day_mono _ _ h := Int.ediv_le_ediv (by decide) h

end Calendar

/-- What the SDK can ask of the device. -/
structure Device where
  calendar : Calendar
  /-- `UIDevice.current.identifierForVendor?.uuidString`. -/
  identifierForVendor : Option String
  /-- `NetworkReachabilityManager()!.isReachable`. -/
  connected : Bool
  /-- `Date()`. -/
  now : Date

/-- A phone with a connection, for the runs on fixed inputs. -/
def Device.phone (now : Date) : Device := ⟨.gmt, some "E621E1F8-C36C-495A", true, now⟩

namespace Util

def getDeviceId (device : Device) : String := device.identifierForVendor.getD "0"

def isConnectedInternet (device : Device) : Bool := device.connected

/-- `DateToString`. -/
def dateToString (date : Date) : String := CivilDate.format ⌊date⌋

/-- `StringToDate`. A text that is no date is answered by calling the function again on the text
of 1970, which is one (`parse_epoch`): the recursion of the source is never deeper than that. -/
def stringToDate (dateString : String) : Date :=
  match CivilDate.parse dateString with
  | some d => d
  | none => ((CivilDate.parse "1970-01-01 00:00:00").getD 0 : Int)

theorem parse_epoch : CivilDate.parse "1970-01-01 00:00:00" = some 0 := by
  have hformat : CivilDate.format 0 = "1970-01-01 00:00:00" := by decide +kernel
  rw [← hformat, CivilDate.parse_format]

/-- **A stored date is the date cut down to whole seconds.** -/
@[simp] theorem stringToDate_dateToString (date : Date) :
    stringToDate (dateToString date) = ⌊date⌋ := by
  simp [stringToDate, dateToString, CivilDate.parse_format]

/-- `dayBetweenDates`: the days from the first date to the second, negative when the second is
the earlier one. -/
def dayBetweenDates (calendar : Calendar) (firstDate secondDate : Date) : Int :=
  calendar.dayOf secondDate - calendar.dayOf firstDate

end Util
