import Assay.Arg
import Assay.Number.Pattern
import Assay.Number.Shortest
import Assay.Text.CaseMap
import Assay.Time.Pattern

/-!
# How arguments are written

A placeholder may carry parameters. Each kind of argument heeds some of them, and only values it can
use; all others are passed over:

* `case` (`upper`, `lower`) for texts and identifiers;
* `format` for numbers (a zero pattern), moments (a time pattern), enumerations and types
  (`fullName`), and identifiers (`simple`, `braced`, `urn`);
* `translation` (`true`) for enumerations and types, which then become a placeholder for an entry of
  the dictionary.

Of parameters with one name the first counts.
-/

namespace Assay

open Assay.Number Assay.Time

/-- The parameters of a placeholder, in the order written. -/
abbrev Params := List (String × String)

namespace Arg

/-! ## 1. Parameters -/

def formatKey : String := "format"

def caseKey : String := "case"

def translationKey : String := "translation"

/-- A text in the letter case asked for. -/
def inCase (params : Params) (text : String) : String :=
  match params.lookup caseKey with
  | some "upper" => Text.upper text
  | some "lower" => Text.lower text
  | _ => text

/-- The placeholder for an entry of the dictionary. -/
def entryPlaceholder (key : String) : String := "\x7b_translation|key=" ++ key ++ "\x7d"

/-- The short name or the full one, or the placeholder for the entry of the full one. -/
def named (params : Params) (entry short full : String) : String :=
  if params.lookup translationKey = some "true" then entryPlaceholder (entry ++ full)
  else if params.lookup formatKey = some "fullName" then full
  else short

/-! ## 2. Values -/

/-- An identifier in the notation asked for. -/
def guidText (params : Params) (g : Guid) : String :=
  match params.lookup formatKey with
  | some "simple" => g.simple
  | some "braced" => g.braced
  | some "urn" => g.urn
  | _ => g.hyphenated

/-- The zero pattern asked for, if it is one. -/
def patternOf (params : Params) : Option Number.Pattern :=
  (params.lookup formatKey).bind Number.Pattern.read

/-- The argument written with the parameters of a placeholder. -/
def format (arg : Arg) (params : Params) : String :=
  match arg.value with
  | .text value => inCase params value
  | .integer value =>
    match patternOf params with
    | some pattern => pattern.integerText value
    | none => integerText value
  | .float value =>
    match patternOf params with
    | some pattern => pattern.binaryText value
    | none => value.text
  | .time value => ((params.lookup formatKey).bind value.format?).getD value.rfc3339
  | .choice typeName variant => named params "Enum." variant (typeName ++ "." ++ variant)
  | .typeRef name fullName => named params "Type." name fullName
  | .guid value => inCase params (guidText params value)

end Arg

end Assay
