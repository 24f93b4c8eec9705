import Assay.Number.Fixed
import Assay.Text.Split

/-!
# Zero patterns

A pattern such as `000.00` asks for a number with at least as many digits before the point as it has
zeros there, and with exactly as many after it. Anything but zeros and one point is no pattern, and
neither is a text without a zero before the point.

A number of a binary format gets one more column when it is negative, so the zeros count digits. An
integer without decimal places is written in a field of exactly that many columns, sign included;
with decimal places it is written as the 64-bit number nearest to it.
-/

namespace Assay.Number

/-- The zeros before and after the point. -/
structure Pattern where
  width : Nat
  places : Nat
  deriving DecidableEq, Repr

namespace Pattern

/-- The pattern a text spells. -/
def read (text : String) : Option Pattern :=
  let (whole, fraction) := (Text.splitOnce '.' text.toList).getD (text.toList, [])
  if whole.isEmpty || !whole.all (· == '0') || !fraction.all (· == '0') then none
  else some ⟨whole.length, fraction.length⟩

/-- The columns of an unsigned number. -/
def columns (p : Pattern) : Nat := if p.places = 0 then p.width else p.width + p.places + 1

/-- A number of a binary format. -/
def binaryText {f : BinaryFormat} (p : Pattern) (x : Binary f) : String :=
  x.fixedField (p.columns + x.negative.toNat) p.places

/-- An integer. -/
def integerText (p : Pattern) (n : Int) : String :=
  if p.places = 0 then integerField p.width n
  else p.binaryText (Binary.ofInt n : Double)

end Pattern

end Assay.Number
