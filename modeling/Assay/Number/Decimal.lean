import Assay.Number.Binary
import Assay.Text.Split

/-!
# Reading decimal numerals

A numeral is an optional sign and then digits with an optional point and an optional power of ten,
or one of the words `inf`, `infinity` and `nan` in any letter case. At least one digit stands before
the power of ten. It is read as the number nearest to what it denotes.
-/

namespace Assay.Number

/-! ## 1. Naturals and integers -/

/-- The value of a run of decimal digits. -/
def digitsValue (ds : List Char) : Nat :=
  ds.foldl (fun n c => 10 * n + (c.toNat - '0'.toNat)) 0

/-- A non-empty run of digits. -/
def readNatural (text : List Char) : Option Nat :=
  if text.isEmpty || !text.all Char.isDigit then none else some (digitsValue text)

/-- The sign of a numeral and what stands after it. -/
def takeSign : List Char → Bool × List Char
  | '-' :: rest => (true, rest)
  | '+' :: rest => (false, rest)
  | rest => (false, rest)

/-- A signed run of digits. -/
def readInteger (text : List Char) : Option Int :=
  let (negative, rest) := takeSign text
  (readNatural rest).map fun n => if negative then -(n : Int) else n

/-! ## 2. Numbers of a binary format -/

/-- The digits `ds` (read as one natural number) times a power of ten. Beyond ten thousand places on
    either side no format tells numbers apart. -/
def ofDecimal {f : BinaryFormat} (negative : Bool) (ds : List Char) (power : Int) : Binary f :=
  let n := digitsValue ds
  if n = 0 then ⟨negative, 0⟩
  else if power > 10000 then ⟨negative, f.infinity⟩
  else if power < -(10000 + ds.length : Int) then ⟨negative, 0⟩
  else if power < 0 then .ofFraction negative n (Nat.pow 10 power.natAbs)
  else .ofFraction negative (n * Nat.pow 10 power.natAbs) 1

/-- The digits and the power of ten of an unsigned numeral. -/
def readScientific (text : List Char) : Option (List Char × Int) :=
  let isMark (c : Char) : Bool := c == 'e' || c == 'E'
  let mantissa := text.takeWhile (!isMark ·)
  let power : Option Int := match text.dropWhile (!isMark ·) with
    | [] => some 0
    | _ :: rest => readInteger rest
  let (whole, fraction) := (Text.splitOnce '.' mantissa).getD (mantissa, [])
  if (whole ++ fraction).isEmpty || !(whole ++ fraction).all Char.isDigit then none
  else power.map fun p => (whole ++ fraction, p - fraction.length)

/-- A numeral of a binary format. -/
def readBinary {f : BinaryFormat} (text : List Char) : Option (Binary f) :=
  let (negative, rest) := takeSign text
  let word := String.ofList (rest.map Char.toLower)
  if word = "inf" || word = "infinity" then some ⟨negative, f.infinity⟩
  else if word = "nan" then some ⟨negative, f.quiet⟩
  else (readScientific rest).map fun (ds, power) => ofDecimal negative ds power

end Assay.Number
