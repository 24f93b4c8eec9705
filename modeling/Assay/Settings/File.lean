import Assay.Settings
import Assay.Toml.Document

/-!
# Reading settings

A settings file is a document with the entries `default_translation`, `reference_loop_protection`
and `translations`, all of which may be missing; other entries are passed over. A directory holds its
settings in the first of two files, and has the standard settings if it has neither.
-/

namespace Assay

/-! ## 1. From a document -/

namespace SettingsFile

/-- What an entry gives, if it is there; `none` if it gives the wrong kind of thing. -/
def optional? {α : Type} (read : Toml.Item → Option α) (key : String) (entries : Toml.Entries) :
    Option (Option α) :=
  match entries.lookup key with
  | none => some none
  | some item => (read item).map some

/-- The dictionary a table of texts is. -/
def dictionary? (item : Toml.Item) : Option (List (String × String)) := do
  (← item.entries?).mapM fun (key, item) => (item.text?).map (key, ·)

/-- The translations a table of tables is. -/
def translations? (item : Toml.Item) : Option Translations := do
  let tables ← (← item.entries?).mapM fun (name, item) => (dictionary? item).map (name, ·)
  some (tables.foldl (fun t (name, entries) => t.extend name entries) Translations.empty)

/-- What a text gives as a settings file. -/
def read? (text : String) : Option SettingsFile := do
  let entries ← Toml.read? text
  some {
    defaultTranslation := ← optional? Toml.Item.text? "default_translation" entries
    loopProtection := ← optional? Toml.Item.flag? "reference_loop_protection" entries
    translations := (← optional? translations? "translations" entries).getD Translations.empty }

end SettingsFile

namespace Settings

/-- Settings changed by the text of a file. -/
def withText? (s : Settings) (text : String) : Except SettingsError Settings :=
  match SettingsFile.read? text with
  | some file => s.withFile? file
  | none => .error .malformed

/-- The core settings changed by the text of a file. -/
def read? (text : String) : Except SettingsError Settings := core.withText? text

/-! ## 2. From a directory -/

/-- The names of settings files, in the order in which they are looked for. -/
def fileNames : List String := ["specval.toml", ".specval.toml"]

/-- The settings changed by a file, given by its content if it can be read. -/
def load? (s : Settings) (content : Option String) : Except SettingsError Settings :=
  match content with
  | some text => s.withText? text
  | none => .error .unreadable

/-- The settings of a directory, given by the files in it. -/
def ofDirectory? (files : List (String × String)) : Except SettingsError Settings :=
  match fileNames.findSome? (fun name => List.lookup name files) with
  | some text => standard.withText? text
  | none => .ok standard

end Settings

end Assay
