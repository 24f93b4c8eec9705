import Assay.Model.Datum
import Assay.Rule.Text

/-!
# Conditions on dynamic values

A small language of conditions. A condition on a value of a kind it does not speak of does not hold.
-/

namespace Assay.Model

open Assay.Number

/-- A condition on a value. -/
inductive Condition where
  | always (holds : Bool)
  | not (c : Condition)
  | all (cs : List Condition)
  | any (cs : List Condition)
  | atLeast (n : Int)
  | atMost (n : Int)
  | equal (n : Int)
  /-- The remainder of a division, which is never negative. -/
  | remainder (divisor rest : Int)
  | floatAtLeast (x : Double)
  | sizeAtLeast (n : Int)
  | sizeAtMost (n : Int)
  | is (text : String)
  | has (part : String)
  /-- A truth value, or whether an optional value holds something. -/
  | flag (value : Bool)
  /-- The kind; null is asked for with none. -/
  | kind (kind : Option Kind)
  /-- There is such a field or entry, and a condition holds for it; a field must not be null. -/
  | field (name : String) (c : Condition)
  deriving Repr

/-- The number a value of a binary format is. -/
def Datum.float? : Datum → Option Double
  | .single x => some x.widen
  | .double x => some x
  | _ => none

/-- The field of an object that is not null, or the entry of a map. -/
def Datum.entry? (g : Graph) (name : String) : Datum → Option Datum
  | .map entries => entries.lookup name
  | d =>
    match (d.fields? g).bind (·.lookup name) with
    | some .null => none
    | found => found

/-- What a flag is compared with. -/
def Datum.truth? : Datum → Option Bool
  | .flag value => some value
  | .option inner => some inner.isSome
  | _ => none

namespace Condition

mutual

/-- The condition holds for a value. -/
def holds (g : Graph) : Condition → Datum → Bool
  | always b, _ => b
  | not c, d => !holds g c d
  | all cs, d => allHold g cs d
  | any cs, d => someHolds g cs d
  | atLeast n, d => d.integer?.any (n ≤ ·)
  | atMost n, d => d.integer?.any (· ≤ n)
  | equal n, d => d.integer?.any (· == n)
  | remainder m r, d => d.integer?.any fun v => v.emod m == r
  | floatAtLeast x, d => d.float?.any fun v => Binary.le x v
  | sizeAtLeast n, d => (d.size? g).any fun size => n ≤ size
  | sizeAtMost n, d => (d.size? g).any fun size => size ≤ n
  | is text, d => d.text?.any (· == text)
  | has part, d => d.text?.any fun text => Rule.Text.hasPart part.toList text.toList
  | flag b, d => d.truth?.any (· == b)
  | kind k, d => d.kind? == k
  | field name c, d => (d.entry? g name).any (holds g c)

def allHold (g : Graph) : List Condition → Datum → Bool
  | [], _ => true
  | c :: cs, d => holds g c d && allHold g cs d

def someHolds (g : Graph) : List Condition → Datum → Bool
  | [], _ => false
  | c :: cs, d => holds g c d || someHolds g cs d

end

end Condition

end Assay.Model
