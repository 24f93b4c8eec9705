import Assay.Guid
import Assay.Number.Binary
import Assay.Text.Blank
import Assay.Time.Moment

/-!
# Arguments of a fault

A fault carries named values that its messages may show: a bound, a pattern, a type. An argument
knows what kind of value it holds, so it can be written in the ways that kind allows
(`Assay.Arg.Format`).

**Equality is what the registry of faults merges by** (`ArgValue.same`): floating-point numbers by
their bits, moments by instant and zone, types by their full names alone.
-/

namespace Assay

open Assay.Number Assay.Time

/-! ## 1. Values -/

/-- The value of an argument. -/
inductive ArgValue where
  | text (value : String)
  | integer (value : Int)
  | float (value : Double)
  | time (value : Moment)
  | choice (typeName variant : String)
  | typeRef (name fullName : String)
  | guid (value : Guid)
  deriving Repr

namespace ArgValue

/-- Two values that stand for the same thing. -/
def same : ArgValue → ArgValue → Bool
  | .text a, .text b => a == b
  | .integer a, .integer b => a == b
  | .float a, .float b => a == b
  | .time a, .time b => a == b
  | .choice t v, .choice t' v' => t == t' && v == v'
  | .typeRef _ full, .typeRef _ full' => full == full'
  | .guid a, .guid b => a == b
  | _, _ => false

instance : BEq ArgValue := ⟨same⟩

/-- The word for the kind of a value. -/
def kind : ArgValue → String
  | .text _ => "text"
  | .integer _ => "integer"
  | .float _ => "float"
  | .time _ => "time"
  | .choice _ _ => "enum"
  | .typeRef _ _ => "type"
  | .guid _ => "guid"

end ArgValue

/-! ## 2. Arguments -/

/-- A named value. -/
structure Arg where
  name : String
  value : ArgValue
  deriving BEq, Repr

namespace Arg

/-- The text after the last `::`, the whole text if there is none. -/
def lastOfPath (best : List Char) : List Char → List Char
  | [] => best
  | ':' :: ':' :: rest => lastOfPath rest (':' :: rest)
  | _ :: rest => lastOfPath best rest

/-- The name of a type without the path in front and the arguments behind. -/
def shortTypeName (fullName : String) : String :=
  let bare := fullName.toList.takeWhile (· != '<')
  String.ofList (lastOfPath bare bare)

/-- A type by its full name. -/
def ofType (name fullName : String) : Arg := ⟨name, .typeRef (shortTypeName fullName) fullName⟩

/-- A variant of an enumeration, from the text that shows the value: the part before its first
    bracket or blank. -/
def ofShown (name fullTypeName shown : String) : Arg :=
  let variant := shown.toList.takeWhile fun c => !(c == '(' || c == '\x7b' || Text.isBlank c)
  ⟨name, .choice (shortTypeName fullTypeName) (String.ofList variant)⟩

/-! ## 3. Names -/

/-- Names with a meaning of their own in messages. -/
def reservedNames : List String := ["_name", "_path", "_translation"]

/-- Characters that structure a placeholder. -/
def structural (c : Char) : Bool :=
  c == '\x7b' || c == '\x7d' || c == '|' || c == ',' || c == '='

/-- A name that a placeholder can refer to. -/
def isName (name : String) : Bool :=
  name != "" && !reservedNames.contains name &&
    !name.toList.any fun c => Text.isBlank c || structural c

end Arg

end Assay
