import Assay.Failure
import Assay.Rule.Wording

/-!
# Settings

A validator is made with settings: the translations it can word faults in, the name of the one it
uses by default, and whether it watches for reference loops. A settings file changes settings entry
by entry.

**Applying a file** (`Settings.withFile?`) merges its translations, replaces what it gives, and fails
exactly if the default translation that results is not there.
-/

namespace Assay

/-! ## 1. Settings -/

/-- What a validator is made with. -/
structure Settings where
  translations : Translations
  defaultTranslation : String
  /-- Watch for reference loops; if not given, where the specification makes them possible. -/
  loopProtection : Option Bool
  deriving DecidableEq, Repr

namespace Settings

/-- English with the engine's own entries. -/
def core : Settings := ⟨.core, Translations.english, none⟩

/-- Entries added to a translation. -/
def withTranslation (s : Settings) (name : String) (entries : List (String × String)) : Settings :=
  { s with translations := s.translations.extend name entries }

/-- Another default translation, which need not be there. -/
def withDefault (s : Settings) (name : String) : Settings := { s with defaultTranslation := name }

/-- Loop protection turned on or off. -/
def withProtection (s : Settings) (on : Bool) : Settings := { s with loopProtection := some on }

/-- English with the entries of the engine and of the built-in rules. -/
def standard : Settings := core.withTranslation Translations.english Rule.englishEntries

end Settings

/-! ## 2. Settings files -/

/-- What a settings file gives. -/
structure SettingsFile where
  defaultTranslation : Option String
  loopProtection : Option Bool
  translations : Translations
  deriving DecidableEq, Repr

/-- Settings changed by a file. -/
def Settings.withFile? (s : Settings) (file : SettingsFile) : Except SettingsError Settings :=
  let translations := s.translations.merge file.translations
  let name := file.defaultTranslation.getD s.defaultTranslation
  if translations.contains name then
    .ok ⟨translations, name, file.loopProtection.or s.loopProtection⟩
  else .error (.unusable ("default translation " ++ Issue.quoted name ++ " is not defined"))

end Assay
