import Assay.Number.Binary
import Assay.Number.Digits

/-!
# A number with a fixed count of decimal places

The exact value of the number is rounded to the last place; a half goes to the even digit. The words
for infinity and for no number take the place of the digits.
-/

namespace Assay.Number

/-- The digits of `n / d` with `places` of them after the point. -/
def fixedDigits (n d places : Nat) : List Char :=
  pointed places (List.leftpad (places + 1) '0' (digits (roundEven (n * Nat.pow 10 places) d)))

/-- A magnitude with a fixed count of places. -/
def BinaryFormat.fixedText (f : BinaryFormat) (magnitude places : Nat) : List Char :=
  match f.decode magnitude with
  | .notANumber => "NaN".toList
  | .infinite => "inf".toList
  | .finite significand exponent =>
    let (n, d) := scaleTwo significand 1 exponent
    fixedDigits n d places

/-- A number with a fixed count of places in a zero-filled field. What is no number shows no
    sign. -/
def Binary.fixedField {f : BinaryFormat} (x : Binary f) (width places : Nat) : String :=
  String.ofList (zeroFill width (x.negative && !x.isNaN) (f.fixedText x.magnitude places))

end Assay.Number
