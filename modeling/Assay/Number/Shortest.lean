import Assay.Number.Binary
import Assay.Number.Digits

/-!
# The shortest decimal that reads back

A finite number is written with the fewest digits that still denote it among the numbers of its
format, and of several such decimals with the one nearest to it; of two equally near ones the larger
is taken. The text is positional whatever the size of the number, and an integer has no point.

The reals that round to a number form an interval around it, which reaches halfway to its
neighbours; the ends belong to it when its significand is even. For 1, 2, 3, … digits the two
neighbours of the number on that decimal grid are tested against the interval.
-/

namespace Assay.Number

/-! ## 1. The interval of a number -/

/-- A positive fraction and the interval that rounds to it, over one denominator. -/
structure Interval where
  low : Nat
  value : Nat
  high : Nat
  denominator : Nat
  closed : Bool

/-- The interval of the number with a given significand and exponent. Below a power of two the
    neighbour is nearer. -/
def BinaryFormat.interval (f : BinaryFormat) (significand : Nat) (exponent : Int) : Interval :=
  let gap := if significand = f.hidden ∧ f.least < exponent then 1 else 2
  let (unit, denominator) := scaleTwo 1 1 (exponent - 2)
  { low := (4 * significand - gap) * unit
    value := 4 * significand * unit
    high := (4 * significand + 2) * unit
    denominator
    closed := significand % 2 = 0 }

/-! ## 2. Decimal grids -/

/-- The number of digits before the point of a positive fraction; zero or negative for what is
    below one tenth, counting the zeros after the point. -/
def decimalExponent (n d : Nat) : Int :=
  if d ≤ n then (digits (n / d)).length
  else
    let e := (digits (d / n)).length
    if d ≤ n * Nat.pow 10 (e - 1) then 2 - (e : Int) else 1 - (e : Int)

/-- The interval in units of the given power of ten. -/
def Interval.inUnits (i : Interval) (power : Int) : Interval :=
  if power < 0 then
    let s := Nat.pow 10 power.natAbs
    { i with low := i.low * s, value := i.value * s, high := i.high * s }
  else { i with denominator := i.denominator * Nat.pow 10 power.natAbs }

/-- A point of the grid lies in the interval. -/
def Interval.holds (i : Interval) (point : Nat) : Bool :=
  let p := point * i.denominator
  if i.closed then i.low ≤ p && p ≤ i.high else i.low < p && p < i.high

/-- The better of the two neighbours of the value on the grid, if one lies in the interval. -/
def Interval.gridPoint? (i : Interval) : Option Nat :=
  let below := i.value / i.denominator
  let rest := 2 * (i.value % i.denominator)
  match i.holds below, i.holds (below + 1) with
  | true, true => some (if rest < i.denominator then below else below + 1)
  | true, false => some below
  | false, true => some (below + 1)
  | false, false => none

/-- The first grid with a point in the interval, among those with `count` digits and more: the point
    and the power of ten of its last digit. -/
def Interval.shortest (i : Interval) (top : Int) : (tries count : Nat) → Nat × Int
  | 0, count => (i.value / i.denominator, top - count)
  | tries + 1, count =>
    match (i.inUnits (top - count)).gridPoint? with
    | some point => (point, top - count)
    | none => i.shortest top tries (count + 1)

/-! ## 3. Text -/

/-- Decimal digits times a power of ten in positional notation. -/
def positional (ds : List Char) (power : Int) : List Char :=
  if 0 ≤ power then ds ++ List.replicate power.toNat '0'
  else
    let places := power.natAbs
    pointed places (List.leftpad (places + 1) '0' ds)

/-- A point of a grid without the zeros at its end. -/
def trimPoint (point : Nat) (power : Int) : List Char × Int :=
  let ds := digits point
  let zeros := (ds.reverse.takeWhile (· == '0')).length
  if point = 0 then (['0'], 0) else (ds.take (ds.length - zeros), power + zeros)

/-- The shortest text of a magnitude. -/
def BinaryFormat.shortestText (f : BinaryFormat) (magnitude : Nat) : List Char :=
  match f.decode magnitude with
  | .notANumber => "NaN".toList
  | .infinite => "inf".toList
  | .finite 0 _ => ['0']
  | .finite significand exponent =>
    let i := f.interval significand exponent
    let top := decimalExponent i.value i.denominator
    let (point, power) := i.shortest top 17 1
    let (ds, power) := trimPoint point power
    positional ds power

/-- The shortest text of a number. What is no number shows no sign. -/
def Binary.text {f : BinaryFormat} (x : Binary f) : String :=
  String.ofList (signText (x.negative && !x.isNaN) ++ f.shortestText x.magnitude)

end Assay.Number
