import Assay.Json

/-!
# Reports

A report is a result that has been worded: it stands alone, without the scheme it came from, and is
sent and stored as JSON. This file says what a report is and how one is read back.

A record is read from an object, in which every field must stand exactly once and other members are
passed over, or from a list of all fields in their order.
-/

namespace Assay

/-! ## 1. Reports -/

/-- What was found at one path. -/
structure ReportEntry where
  path : String
  messages : List String
  codes : List String
  deriving DecidableEq, Repr

/-- A worded result. -/
structure Report where
  /-- Nothing was found. -/
  valid : Bool
  /-- The translation of the messages. -/
  translation : String
  /-- The distinct codes, in the order of discovery. -/
  codes : List String
  /-- What was found, path by path, in the order of discovery. -/
  entries : List ReportEntry
  deriving DecidableEq, Repr

/-! ## 2. Reading -/

namespace Json.Value

def flag? : Value → Option Bool
  | .flag value => some value
  | _ => none

def text? : Value → Option String
  | .text value => value
  | _ => none

/-- The items of a list, each read in one way. -/
def list? {α : Type} (read : Value → Option α) : Value → Option (List α)
  | .list items => items.mapM read
  | _ => none

def texts? : Value → Option (List String) := list? text?

/-- The value of the one member with a key. -/
def member? (key : String) (members : List (Option String × Value)) : Option Value :=
  match members.filter fun (k, _) => k == some key with
  | [(_, value)] => some value
  | _ => none

/-- The values of the fields of a record, in their order. -/
def fields? (names : List String) : Value → Option (List Value)
  | .record members =>
    if members.all fun (key, _) => key.isSome then names.mapM (member? · members) else none
  | .list items => if items.length = names.length then some items else none
  | _ => none

end Json.Value

namespace ReportEntry

/-- The entry a JSON value is. -/
def read? (value : Json.Value) : Option ReportEntry := do
  match ← value.fields? ["path", "messages", "codes"] with
  | [path, messages, codes] => some ⟨← path.text?, ← messages.texts?, ← codes.texts?⟩
  | _ => none

end ReportEntry

namespace Report

/-- The report a JSON value is. -/
def ofJson? (value : Json.Value) : Option Report := do
  match ← value.fields? ["valid", "translation", "codes", "entries"] with
  | [valid, translation, codes, entries] =>
    some ⟨← valid.flag?, ← translation.text?, ← codes.texts?, ← entries.list? ReportEntry.read?⟩
  | _ => none

/-- The report a JSON text is. -/
def read? (text : String) : Option Report := (Json.read? text).bind ofJson?

end Report

end Assay
