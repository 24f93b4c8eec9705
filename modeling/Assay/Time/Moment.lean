import Assay.Number.Decimal
import Assay.Number.Digits
import Assay.Time.Calendar

/-!
# Moments

A moment is a count of seconds since the start of 1970, a fraction of a second, and the offset of
the zone in which it is shown. A leap second is written as the second before it with a fraction of a
whole second or more.

This file fixes the order of moments, which ignores zones, and their two fixed texts: the one of
RFC 3339 and the one with a blank and `UTC`. Patterns are in `Assay.Time.Pattern`.
-/

namespace Assay.Time

open Assay.Number

/-! ## 1. Moments and their order -/

/-- Seconds since 1970, nanoseconds on top, and the offset of the zone east of Greenwich. -/
structure Moment where
  seconds : Int
  nanos : Nat
  offset : Int
  deriving DecidableEq, Repr

namespace Moment

/-- The start of 1970. -/
def epoch : Moment := ⟨0, 0, 0⟩

def lt (a b : Moment) : Bool :=
  a.seconds < b.seconds || (a.seconds == b.seconds && a.nanos < b.nanos)

/-- The date in the moment's zone. -/
def date (m : Moment) : Date := .ofDayNumber ((m.seconds + m.offset).fdiv 86400)

/-- Seconds since midnight in the moment's zone. -/
def secondOfDay (m : Moment) : Nat := ((m.seconds + m.offset).emod 86400).toNat

def hour (m : Moment) : Nat := m.secondOfDay / 3600

def minute (m : Moment) : Nat := m.secondOfDay / 60 % 60

/-- The second, 60 within a leap second. -/
def second (m : Moment) : Nat := m.secondOfDay % 60 + m.nanos / 1000000000

/-- The nanoseconds within the second. -/
def fraction (m : Moment) : Nat := m.nanos % 1000000000

/-! ## 2. Fixed texts -/

/-- A number with two digits. -/
def two (n : Nat) : String := naturalField 2 n

/-- A year with four digits; outside 0 to 9999 with its sign and at least five columns. -/
def yearText (year : Int) : String :=
  if 0 ≤ year ∧ year ≤ 9999 then naturalField 4 year.natAbs
  else (if year < 0 then "-" else "+") ++ naturalField 4 year.natAbs

def dateText (date : Date) : String :=
  yearText date.year ++ "-" ++ two date.month ++ "-" ++ two date.day

/-- The fraction with 3, 6 or 9 digits, whichever suffice, after a point; nothing for zero. -/
def fractionText (nanos : Nat) : String :=
  if nanos = 0 then ""
  else if nanos % 1000000 = 0 then "." ++ naturalField 3 (nanos / 1000000)
  else if nanos % 1000 = 0 then "." ++ naturalField 6 (nanos / 1000)
  else "." ++ naturalField 9 nanos

def clockText (m : Moment) : String :=
  two m.hour ++ ":" ++ two m.minute ++ ":" ++ two m.second

/-- An offset in hours and minutes, rounded to the nearest minute, with a text between them. -/
def offsetText (offset : Int) (between : String) : String :=
  let minutes := (offset.natAbs + 30) / 60
  (if offset < 0 then "-" else "+") ++ two (minutes / 60) ++ between ++ two (minutes % 60)

/-- The text of RFC 3339. -/
def rfc3339 (m : Moment) : String :=
  dateText m.date ++ "T" ++ m.clockText ++ fractionText m.fraction ++ offsetText m.offset ":"

/-- The moment in universal time, with blanks. -/
def universalText (m : Moment) : String :=
  let m := { m with offset := 0 }
  dateText m.date ++ " " ++ m.clockText ++ fractionText m.fraction ++ " UTC"

/-! ## 3. Reading RFC 3339 -/

/-- A field of digits with a fixed width, within bounds. -/
def takeField (width low high : Nat) (text : List Char) : Option (Nat × List Char) :=
  if text.length < width then none
  else (readNatural (text.take width)).bind fun n =>
    if low ≤ n ∧ n ≤ high then some (n, text.drop width) else none

/-- A character out of a given list. -/
def takeOne (allowed : List Char) : List Char → Option (List Char)
  | c :: rest => if allowed.contains c then some rest else none
  | [] => none

/-- The digits after a point as nanoseconds; digits beyond the ninth are dropped. -/
def takeFraction : List Char → Option (Nat × List Char)
  | '.' :: rest =>
    let ds := rest.takeWhile Char.isDigit
    if ds.isEmpty then none
    else some (digitsValue ((ds.take 9) ++ List.replicate (9 - ds.length) '0'),
      rest.dropWhile Char.isDigit)
  | rest => some (0, rest)

/-- A zone: `Z`, or a sign with hours and minutes. -/
def readZone (text : List Char) : Option Int :=
  match text with
  | ['Z'] | ['z'] => some 0
  | sign :: rest => do
    let negative ← if sign = '-' then some true else if sign = '+' then some false else none
    let (hours, rest) ← takeField 2 0 23 rest
    let rest ← takeOne [':'] rest
    let (minutes, rest) ← takeField 2 0 59 rest
    if rest.isEmpty then
      let offset : Int := hours * 3600 + minutes * 60
      some (if negative then -offset else offset)
    else none
  | [] => none

/-- The moment a text of RFC 3339 denotes. Second 60 is a leap second. -/
def read (text : String) : Option Moment := do
  let (year, rest) ← takeField 4 0 9999 text.toList
  let rest ← takeOne ['-'] rest
  let (month, rest) ← takeField 2 1 12 rest
  let rest ← takeOne ['-'] rest
  let (day, rest) ← takeField 2 1 (daysInMonth year month) rest
  let rest ← takeOne ['T', 't', ' '] rest
  let (hour, rest) ← takeField 2 0 23 rest
  let rest ← takeOne [':'] rest
  let (minute, rest) ← takeField 2 0 59 rest
  let rest ← takeOne [':'] rest
  let (second, rest) ← takeField 2 0 60 rest
  let (nanos, rest) ← takeFraction rest
  let offset ← readZone rest
  let leap := if second = 60 then 1 else 0
  some {
    seconds := (Date.mk year month day).dayNumber * 86400 +
      (hour * 3600 + minute * 60 + (second - leap) : Nat) - offset
    nanos := nanos + leap * 1000000000
    offset }

end Moment

end Assay.Time
