import Assay.Model.Datum
import Assay.Number.Digits
import Assay.Specification.Draft

/-!
# Links between dynamic values

The transitions from dynamic values to others. What a value is known by inside a visit follows the
graph: an object is itself wherever it is held, a field or an item is a part of its holder, and a
conversion makes a new value. All missing fields hold one and the same value of their kind.
-/

namespace Assay.Model

variable (g : Graph)

/-! ## 1. Reaching parts -/

/-- Where a value that is held as a part lies, when it is taken as one of a kind. An object taken as
    an object is in the graph; anything else is in its holder. -/
def locusOf (kind : Kind) (part : Locus) (d : Datum) : Locus :=
  match kind, d with
  | .object, .object node => .shared node
  | _, _ => part

/-- The field of an object, if it is there, not null, and of the kind. -/
def pick (field : String) (kind : Kind) (d : Datum) : Option (Datum × Locus) :=
  match (d.fields? g).bind (·.lookup field) with
  | none | some .null => none
  | some v => if v.isOf kind then some (v, locusOf kind (.part field) v) else none

/-- A member that may be missing. -/
def member (name field : String) (kind : Kind) : Transition Datum := .member name (pick g field kind)

/-- A member that is never missing. -/
def fullMember (name field : String) (kind : Kind) : Transition Datum :=
  .member name fun d => (pick g field kind d).or (some (.missing kind, .shared 0))

/-- A value as one of a kind, if it is. -/
def cast (kind : Kind) : Transition Datum :=
  .cast fun d => if d.isOf kind then some (d, locusOf kind .same d) else none

/-- The items of a list. -/
def items : Transition Datum :=
  .collection fun
    | .list items => items.mapIdx fun i item => (item, .part (toString i))
    | _ => []

/-- The value an optional one holds. -/
def inner : Transition Datum :=
  .nullable fun
    | .option (some v) => some (v, .part "")
    | _ => none

/-! ## 2. Entries -/

/-- How the keys of a map are written. -/
inductive KeyText where
  | plain
  | bracketed
  /-- With dots for hyphens. -/
  | dotted
  /-- All alike. -/
  | constant
  deriving DecidableEq, Repr

def KeyText.write (style : KeyText) (key : String) : String :=
  match style with
  | plain => key
  | bracketed => "[" ++ key ++ "]"
  | dotted => String.ofList (key.toList.map fun c => if c = '-' then '.' else c)
  | constant => "same"

/-- The entries of a map. -/
def entries (style : KeyText) : Transition Datum :=
  .dictionary fun
    | .map entries => entries.map fun (key, v) => (style.write key, v, .part key)
    | _ => []

/-- How the keys of a map by numbers are written. -/
inductive NumberText where
  | decimal
  | hashed
  /-- Between marks that climb and dots. -/
  | climbing
  deriving DecidableEq, Repr

def NumberText.write (style : NumberText) (key : Int) : String :=
  let digits := Number.integerText key
  match style with
  | decimal => digits
  | hashed => "#" ++ digits
  | climbing => "<<" ++ digits ++ ".."

/-- The entries of a map by numbers. -/
def numberedEntries (style : NumberText) : Transition Datum :=
  .dictionary fun
    | .numbered entries => entries.map fun (key, v) =>
      (style.write key, v, .part (Number.integerText key))
    | _ => []

/-! ## 3. Conversions -/

/-- What a value can be converted to. -/
inductive Conversion where
  /-- Itself, anew. -/
  | copy
  /-- The number of its fields or items, or of its characters. -/
  | count
  /-- The texts of its characters. -/
  | characters
  /-- Its half, toward zero. -/
  | half
  /-- Its decimal digits. -/
  | digits
  deriving DecidableEq, Repr

def Conversion.apply (c : Conversion) (d : Datum) : Datum :=
  match c, d with
  | copy, .object node => ((g.nodes[node]?).map Datum.copied).getD d
  | copy, d => d
  | count, d => .integer .i64 ((d.size? g).getD 0)
  | characters, .text t => .list (t.toList.map fun c => .text c.toString)
  | half, .integer width n => .integer width (n.tdiv 2)
  | digits, .integer _ n => .text (Number.integerText n)
  | _, d => d

/-- The result of a conversion. -/
def converted (c : Conversion) : Transition Datum := .converted (c.apply g)

/-- A value of any kind, anew; an object it is stays the same one. -/
def cloned : Transition Datum := .converted id

end Assay.Model
