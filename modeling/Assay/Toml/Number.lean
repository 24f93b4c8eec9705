import Assay.Time.Moment

/-!
# Numbers and moments of a document

A number is decimal, or a natural number in another base; digits may be set apart by single
underscores. Whole numbers fit into 64 bits with a sign; a number with a fraction or a power of ten
may be small beyond all measure, but not infinite, unless it says so. A moment is a date, a time of
day, or both with an optional offset.
-/

namespace Assay.Toml

open Assay.Number Assay.Time

/-! ## 1. Digits -/

/-- A run of digits of a base, single underscores between them left out. -/
def digitRun (isBaseDigit : Char → Bool) (text : List Char) : Option (List Char) :=
  let groups := Text.splitAt '_' text
  if groups.all fun g => !g.isEmpty && g.all isBaseDigit then some groups.flatten else none

/-- A run of decimal digits that has no zero in front, unless it is the zero. -/
def wholeRun (text : List Char) : Option (List Char) :=
  match text with
  | '0' :: _ :: _ => none
  | _ => digitRun Char.isDigit text

/-! ## 2. Numbers -/

/-- A natural number that a whole number can be. -/
def fits (negative : Bool) (n : Nat) : Bool := 
  if negative then n ≤ Nat.pow 2 63 else n < Nat.pow 2 63

/-- The value of hexadecimal digits in a base. -/
def valueIn (base : Nat) (digits : List Char) : Nat :=
  digits.foldl (fun n c => base * n +
    (if c.isDigit then c.toNat - '0'.toNat else c.toLower.toNat - 'a'.toNat + 10)) 0

def isOctalDigit (c : Char) : Bool := '0' ≤ c && c ≤ '7'

def isBinaryDigit (c : Char) : Bool := c == '0' || c == '1'

def isHexDigit (c : Char) : Bool :=
  c.isDigit || ('a' ≤ c && c ≤ 'f') || ('A' ≤ c && c ≤ 'F')

/-- A natural number in base 16, 8 or 2. -/
def isBased : List Char → Bool
  | '0' :: 'x' :: digits => ((digitRun isHexDigit digits).map (fits false <| valueIn 16 ·)).getD false
  | '0' :: 'o' :: digits =>
    ((digitRun isOctalDigit digits).map (fits false <| valueIn 8 ·)).getD false
  | '0' :: 'b' :: digits =>
    ((digitRun isBinaryDigit digits).map (fits false <| valueIn 2 ·)).getD false
  | _ => false

/-- A decimal whole number behind its sign. -/
def isWhole (negative : Bool) (text : List Char) : Bool :=
  ((wholeRun text).map (fits negative <| digitsValue ·)).getD false

/-- A power of ten behind its letter. -/
def isPower (text : List Char) : Bool := (digitRun Char.isDigit (takeSign text).2).isSome

/-- A decimal number with a fraction or a power of ten, behind its sign. -/
def isFractional (text : List Char) : Bool :=
  let isMark (c : Char) : Bool := c == 'e' || c == 'E'
  let mantissa := text.takeWhile (!isMark ·)
  let powerOk := match text.dropWhile (!isMark ·) with
    | [] => mantissa.contains '.'
    | _ :: power => isPower power
  let mantissaOk := match Text.splitOnce '.' mantissa with
    | some (whole, fraction) =>
      (wholeRun whole).isSome && (digitRun Char.isDigit fraction).isSome
    | none => (wholeRun mantissa).isSome
  powerOk && mantissaOk

/-- Too large for a number with a fraction. -/
def isEndless (text : List Char) : Bool :=
  match (readBinary (text.filter (· != '_')) : Option Double) with
  | some b => b.magnitude == BinaryFormat.double.infinity
  | none => false

/-- A number. -/
def isNumber (text : List Char) : Bool :=
  let (negative, rest) := takeSign text
  isBased text || isWhole negative rest || rest == ['i', 'n', 'f'] || rest == ['n', 'a', 'n'] ||
    (isFractional rest && (negative || !isEndless rest))

/-! ## 3. Moments -/

/-- A date and what follows it. -/
def takeDate (text : List Char) : Option (String × List Char) := do
  let (year, rest) ← Moment.takeField 4 0 9999 text
  let rest ← Moment.takeOne ['-'] rest
  let (month, rest) ← Moment.takeField 2 1 12 rest
  let rest ← Moment.takeOne ['-'] rest
  let (_, rest) ← Moment.takeField 2 1 (daysInMonth year month) rest
  some (String.ofList (text.take 10), rest)

/-- Nanoseconds after a point, without zeros at the end. -/
def fractionShown (nanos : Nat) : String :=
  if nanos = 0 then ""
  else
    let ds := (naturalField 9 nanos).toList.reverse.dropWhile (· == '0')
    String.ofList ('.' :: ds.reverse)

/-- A time of day and what follows it. -/
def takeClock (text : List Char) : Option (String × List Char) := do
  let (_, rest) ← Moment.takeField 2 0 23 text
  let rest ← Moment.takeOne [':'] rest
  let (_, rest) ← Moment.takeField 2 0 59 rest
  let rest ← Moment.takeOne [':'] rest
  let (_, rest) ← Moment.takeField 2 0 60 rest
  let (nanos, rest) ← Moment.takeFraction rest
  some (String.ofList (text.take 8) ++ fractionShown nanos, rest)

/-- An offset and what follows it; nothing if there is none. -/
def takeOffset (text : List Char) : String × List Char :=
  match text with
  | 'Z' :: rest | 'z' :: rest => ("Z", rest)
  | sign :: rest =>
    let offset := do
      let (hours, rest) ← Moment.takeField 2 0 23 rest
      let rest ← Moment.takeOne [':'] rest
      let (minutes, rest) ← Moment.takeField 2 0 59 rest
      let mark := if sign = '-' ∧ 0 < hours + minutes then "-" else "+"
      if sign = '-' ∨ sign = '+' then
        some (mark ++ Moment.two hours ++ ":" ++ Moment.two minutes, rest)
      else none
    offset.getD ("", text)
  | [] => ("", [])

/-- The time of day and the offset that may follow a date. -/
def takeClockAfterDate (text : List Char) : Option (String × List Char) := do
  let rest ← Moment.takeOne ['T', 't', ' '] text
  let (clock, rest) ← takeClock rest
  let (offset, rest) := takeOffset rest
  some ("T" ++ clock ++ offset, rest)

/-- A moment, as it is shown, and what follows it. -/
def takeMoment (text : List Char) : Option (String × List Char) :=
  match takeDate text with
  | some (date, rest) =>
    match takeClockAfterDate rest with
    | some (clock, rest) => some (date ++ clock, rest)
    | none => some (date, rest)
  | none => takeClock text

end Assay.Toml
