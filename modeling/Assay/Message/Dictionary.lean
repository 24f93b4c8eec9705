import Assay.Fault
import Assay.Keyed

/-!
# Translations

A dictionary gives templates for message keys; a set of translations holds dictionaries by name. A
translation may be there and have no entries.
-/

namespace Assay

/-- Templates by message key. -/
abbrev Dictionary := Keyed String

/-- Dictionaries by name. -/
structure Translations where
  tables : Keyed Dictionary
  deriving DecidableEq, Repr

namespace Translations

def empty : Translations := ⟨Keyed.empty⟩

/-- The dictionary of a translation. -/
def get? (t : Translations) (name : String) : Option Dictionary := t.tables.get? name

def contains (t : Translations) (name : String) : Bool := t.tables.contains name

/-- The names of the translations, in order. -/
def names (t : Translations) : List String := t.tables.keys

/-- The set in which the dictionary of a translation, empty if there was none, has been changed. -/
def modify (t : Translations) (name : String) (change : Dictionary → Dictionary) : Translations :=
  ⟨t.tables.insert name (change ((t.get? name).getD Keyed.empty))⟩

/-- Adds entries to a translation; they replace those under the same keys. -/
def extend (t : Translations) (name : String) (entries : List (String × String)) : Translations :=
  t.modify name (·.insertAll entries)

/-- Adds one entry to a translation. -/
def insert (t : Translations) (name key template : String) : Translations :=
  t.extend name [(key, template)]

/-- Adds all translations of another set, entry by entry. -/
def merge (t other : Translations) : Translations :=
  other.tables.entries.foldl (fun t (name, table) => t.extend name table.entries) t

/-! ## The engine's own entries -/

/-- The name of the translation that is always there. -/
def english : String := "English"

/-- What the engine's own keys mean in English. -/
def coreEnglish : List (String × String) := [
  (Fault.errorKey, "Error"),
  (Fault.requiredKey, "Required"),
  (Fault.forbiddenKey, "Forbidden"),
  (Fault.referenceLoopKey, "(reference loop)")]

/-- English with the engine's own entries. -/
def core : Translations := empty.extend english coreEnglish

end Translations

end Assay
