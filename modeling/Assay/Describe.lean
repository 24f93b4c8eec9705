import Assay.Text.Literal
import Assay.Validator

/-!
# Descriptions

What developers are shown of a specification's number, a scheme, settings and a validator: the name
of the thing and its fields in braces. A description may leave fields out, and then ends with two
dots.
-/

namespace Assay.Describe

/-! ## 1. Shapes -/

/-- Texts with commas between them. -/
def commas (texts : List String) : String := ", ".intercalate texts

/-- A thing with named fields. -/
def record (name : String) (fields : List (String × String)) (complete : Bool) : String :=
  name ++ " \x7b " ++
    commas (fields.map (fun (key, value) => key ++ ": " ++ value) ++
      (if complete then [] else [".."])) ++ " \x7d"

/-- A thing with one field that needs no name. -/
def wrapped (name value : String) : String := name ++ "(" ++ value ++ ")"

def list (texts : List String) : String := "[" ++ commas texts ++ "]"

/-- A table with its keys as literals. -/
def table (entries : List (String × String)) : String :=
  "\x7b" ++ commas (entries.map fun (key, value) => Text.literal key ++ ": " ++ value) ++ "\x7d"

def flag (b : Bool) : String := if b then "true" else "false"

/-- Something that may be missing. -/
def orNone : Option String → String
  | some value => wrapped "Some" value
  | none => "None"

/-! ## 2. Things -/

/-- The number of a specification. -/
def specId (id : SpecId) : String := "#" ++ toString id

/-- A specification by its number and type, and whether it is defined. -/
def specification (id : SpecId) (typeName : String) (isDefined : Bool) : String :=
  record "Specification" [
    ("id", wrapped "SpecId" (toString id)),
    ("type", Text.literal typeName),
    ("defined", flag isDefined)] true

variable {V : Type}

def scheme (s : Scheme V) : String :=
  record "ModelScheme" [
    ("root", wrapped "ScopeId" (toString s.root)),
    ("root_type", Text.literal s.rootType),
    ("scopes", list (s.scopeTypes.map Text.literal)),
    ("errors", toString s.registry.size),
    ("reference_loop_possible", flag s.loopPossible)] false

def translations (t : Translations) : String :=
  record "Translations" [("tables", table (t.tables.entries.map fun (name, dictionary) =>
    (name, table (dictionary.entries.map fun (key, text) => (key, Text.literal text)))))] true

def settings (s : Settings) : String :=
  record "Settings" [
    ("translations", translations s.translations),
    ("default_translation", Text.literal s.defaultTranslation),
    ("reference_loop_protection", orNone (s.loopProtection.map flag))] true

def validator (v : Validator V) : String :=
  record "Validator" [
    ("scheme", scheme v.scheme),
    ("settings", settings v.settings),
    ("loop_protection", flag v.loopProtection)] false

end Assay.Describe
