import Assay.Fault.Registry
import Assay.Message.Render

/-!
# The wordings of a scheme

Every fault of a registry is translated once into every translation, when a validator is made. What
is left for a result is to put in paths.
-/

namespace Assay.Message

/-- The faults of a registry in every translation, and the name of the default one. -/
structure Wordings where
  defaultName : String
  tables : Keyed (List Translated)
  deriving Repr

namespace Wordings

/-- The wordings of a registry, if the default translation is there. -/
def make? (translations : Translations) (defaultName : String) (registry : Registry) :
    Option Wordings :=
  if translations.contains defaultName then
    some {
      defaultName
      tables := translations.tables.map fun dictionary =>
        registry.faults.map (translate dictionary) }
  else none

/-- The names of the translations, in order. -/
def names (w : Wordings) : List String := w.tables.keys

/-- A translated fault at a path. -/
def Translated.at (t : Translated) (path : String) : List String :=
  if t.pending.isEmpty then t.messages else fillPath path t.messages t.pending

/-- The messages of the faults recorded at a path; nothing if there is no such translation. -/
def messages? (w : Wordings) (name path : String) (ids : List FaultId) : Option (List String) :=
  (w.tables.get? name).map fun table =>
    ids.flatMap fun id =>
      match table[id]? with
      | some translated => Translated.at translated path
      | none => []

end Wordings

end Assay.Message
