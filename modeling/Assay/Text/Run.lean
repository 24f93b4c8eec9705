import Assay.Text.Split

/-!
# Runs of code points

Tables of characters are written as words with blanks between them. `41-5A` is a run of code points
in hexadecimal, `100-12E/2` every second code point of a run, and a single code point stands for
itself. `101-12F/2>100` shifts a run so that its first code point becomes the one after `>`, and
`DF>53,53` spells one code point with several.
-/

namespace Assay.Text

/-! ## 1. Runs -/

/-- Code points from `first` to `last`, `step` apart. -/
structure Run where
  first : Nat
  last : Nat
  step : Nat
  deriving DecidableEq, Repr

/-- The value of a hexadecimal digit. -/
def hexDigit? (c : Char) : Option Nat :=
  if c.isDigit then some (c.toNat - '0'.toNat)
  else if 'A' ≤ c ∧ c ≤ 'F' then some (c.toNat - 'A'.toNat + 10)
  else if 'a' ≤ c ∧ c ≤ 'f' then some (c.toNat - 'a'.toNat + 10)
  else none

/-- The value of a run of hexadecimal digits; other characters count as zero. -/
def hexValue (ds : List Char) : Nat :=
  ds.foldl (fun n c => 16 * n + (hexDigit? c).getD 0) 0

namespace Run

def holds (r : Run) (n : Nat) : Bool :=
  r.first ≤ n && n ≤ r.last && (n - r.first) % r.step == 0

def anyHolds (runs : List Run) (n : Nat) : Bool := runs.any (·.holds n)

/-- One word of a table. -/
def read (word : List Char) : Run :=
  let (span, step) := (splitOnce '/' word).getD (word, ['1'])
  let (first, last) := (splitOnce '-' span).getD (span, span)
  ⟨hexValue first, hexValue last, hexValue step⟩

/-- The words of the lines of a table. -/
def words (lines : List String) : List (List Char) :=
  lines.flatMap fun line => splitAt ' ' line.toList

def readAll (lines : List String) : List Run := (words lines).map read

end Run

/-! ## 2. Shifts and spellings -/

/-- A run and the code point its first one is moved to. -/
structure Shift where
  run : Run
  target : Nat
  deriving DecidableEq, Repr

namespace Shift

def read (word : List Char) : Shift :=
  let (run, target) := (splitOnce '>' word).getD (word, [])
  ⟨Run.read run, hexValue target⟩

def readAll (lines : List String) : List Shift := (Run.words lines).map read

/-- A character moved by the first shift that holds it. -/
def apply (shifts : List Shift) (c : Char) : Char :=
  match shifts.find? (·.run.holds c.toNat) with
  | some s => Char.ofNat (s.target + (c.toNat - s.run.first))
  | none => c

end Shift

/-- The code points of a table with what spells each. -/
def readSpellings (lines : List String) : List (Nat × List Char) :=
  (Run.words lines).map fun word =>
    let (code, spelling) := (splitOnce '>' word).getD (word, [])
    (hexValue code, (splitAt ',' spelling).map fun ds => Char.ofNat (hexValue ds))

end Assay.Text
