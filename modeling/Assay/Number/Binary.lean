/-!
# Binary floating-point numbers

A number of a binary format is a sign and a magnitude, the bits below the sign. This file fixes

* what a magnitude denotes (`BinaryFormat.decode`): a significand times a power of two, infinity, or
  no number at all;
* which magnitude stands for a fraction (`BinaryFormat.nearest`): the nearest one, and of two equally
  near ones the one with an even significand;
* the order of two numbers (`Binary.lt`, `Binary.le`, `Binary.eq`): magnitudes grow with what they
  denote, so the signed magnitudes are compared. **What is no number compares with nothing.**

Two numbers are the same number (`=`) when all their bits are; `Binary.eq` is the coarser numerical
equality, which also equates the two zeros.
-/

namespace Assay.Number

/-! ## 1. Rounding a fraction -/

/-- The natural number nearest to `n / d`; of two, the even one. -/
def roundEven (n d : Nat) : Nat :=
  let q := n / d
  let r := 2 * (n % d)
  if r < d then q else if d < r then q + 1 else q + q % 2

/-- The fraction `n / d` times a power of two, as numerator and denominator. -/
def scaleTwo (n d : Nat) (exponent : Int) : Nat × Nat :=
  if exponent < 0 then (n, d * Nat.pow 2 exponent.natAbs) else (n * Nat.pow 2 exponent.natAbs, d)

/-! ## 2. Formats -/

/-- How many bits the fraction and the exponent of a format have. -/
structure BinaryFormat where
  fractionBits : Nat
  exponentBits : Nat
  deriving DecidableEq, Repr

namespace BinaryFormat

/-- The format of 32 bits. -/
def single : BinaryFormat := ⟨23, 8⟩

/-- The format of 64 bits. -/
def double : BinaryFormat := ⟨52, 11⟩

/-- The least significand of a number with full precision. -/
def hidden (f : BinaryFormat) : Nat := Nat.pow 2 f.fractionBits

/-- The exponent of the smallest numbers. -/
def least (f : BinaryFormat) : Int := 2 - Nat.pow 2 (f.exponentBits - 1) - f.fractionBits

/-- The magnitude of infinity. -/
def infinity (f : BinaryFormat) : Nat := (Nat.pow 2 f.exponentBits - 1) * f.hidden

/-- The magnitude that stands for no number. -/
def quiet (f : BinaryFormat) : Nat := f.infinity + f.hidden / 2

end BinaryFormat

/-- What a magnitude denotes. -/
inductive Magnitude where
  | finite (significand : Nat) (exponent : Int)
  | infinite
  | notANumber
  deriving DecidableEq, Repr

namespace BinaryFormat

/-- The reading of a magnitude. -/
def decode (f : BinaryFormat) (magnitude : Nat) : Magnitude :=
  if f.infinity < magnitude then .notANumber
  else if magnitude = f.infinity then .infinite
  else
    let biased := magnitude / f.hidden
    let fraction := magnitude % f.hidden
    if biased = 0 then .finite fraction f.least
    else .finite (f.hidden + fraction) (f.least + (biased - 1 : Nat))

/-- The exponent at which a positive fraction has a significand of full precision, or the least one
    if it is too small for that. -/
def exponentOf (f : BinaryFormat) (n d : Nat) : Int :=
  let log : Int := (Nat.log2 n : Int) - Nat.log2 d
  let (p, q) := scaleTwo n d (-log)
  max f.least ((if q ≤ p then log else log - 1) - f.fractionBits)

/-- The magnitude nearest to the fraction `n / d`. -/
def nearest (f : BinaryFormat) (n d : Nat) : Nat :=
  if n = 0 then 0
  else
    let exponent := f.exponentOf n d
    let (p, q) := scaleTwo n d (-exponent)
    min f.infinity ((exponent - f.least).toNat * f.hidden + roundEven p q)

end BinaryFormat

/-! ## 3. Numbers -/

/-- A number of a format: its sign bit and the bits below it. -/
structure Binary (f : BinaryFormat) where
  negative : Bool
  magnitude : Nat
  deriving DecidableEq, Repr

/-- A number of 64 bits. -/
abbrev Double := Binary .double

/-- A number of 32 bits. -/
abbrev Single := Binary .single

namespace Binary

variable {f : BinaryFormat}

/-- The positive zero. -/
def zero : Binary f := ⟨false, 0⟩

/-- The number is none. -/
def isNaN (x : Binary f) : Bool := f.infinity < x.magnitude

/-- The number nearest to a signed fraction. -/
def ofFraction (negative : Bool) (n d : Nat) : Binary f := ⟨negative, f.nearest n d⟩

/-- The number nearest to an integer. -/
def ofInt (n : Int) : Binary f := ofFraction (n < 0) n.natAbs 1

/-- The signed magnitude, which orders numbers as their values do. -/
def rank (x : Binary f) : Int := if x.negative then -(x.magnitude : Int) else x.magnitude

def comparable (x y : Binary f) : Bool := !x.isNaN && !y.isNaN

def lt (x y : Binary f) : Bool := comparable x y && x.rank < y.rank

def le (x y : Binary f) : Bool := comparable x y && x.rank ≤ y.rank

def eq (x y : Binary f) : Bool := comparable x y && x.rank == y.rank

end Binary

/-- The 64-bit number with the value of a 32-bit one; every such value has one. -/
def Binary.widen (x : Single) : Double :=
  ⟨x.negative, match BinaryFormat.single.decode x.magnitude with
    | .notANumber => BinaryFormat.double.quiet
    | .infinite => BinaryFormat.double.infinity
    | .finite significand exponent =>
      let (n, d) := scaleTwo significand 1 exponent
      BinaryFormat.double.nearest n d⟩

end Assay.Number
