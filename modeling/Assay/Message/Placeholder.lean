import Assay.Arg.Format
import Assay.Message.Group
import Assay.Text.Blank
import Assay.Text.Split

/-!
# Placeholders

A brace group is a placeholder if it is a name, or a name, a bar and parameters: `\x7bmin\x7d`,
`\x7bmin|format=0.00,case=upper\x7d`. The name is not empty and holds no blank. Parameters are
separated by commas, each a key without blanks and a value with `=` between them, neither empty, and
no two with one key. Any other group is text.

Substitution looks at every group of a text once: `substitute` never scans what it has put in.
-/

namespace Assay.Message

open Assay.Text

/-! ## 1. Reading a group -/

/-- A well-formed placeholder. -/
structure Placeholder where
  name : String
  /-- The whole group, braces included. -/
  source : String
  params : Params
  deriving DecidableEq, Repr

/-- The value of a parameter. -/
def Placeholder.param (p : Placeholder) (key : String) : Option String := p.params.lookup key

/-- A parameter that may follow the ones already read. -/
def readParam (earlier : Params) (text : List Char) : Option (String × String) :=
  match splitOnce '=' text with
  | none => none
  | some (key, value) =>
    if key.isEmpty || value.isEmpty || key.any isBlank ||
        earlier.any (·.1 == String.ofList key) then none
    else some (String.ofList key, String.ofList value)

/-- Parameters that follow the ones already read. -/
def readParamsFrom (earlier : Params) : List (List Char) → Option Params
  | [] => some earlier
  | text :: rest =>
    match readParam earlier text with
    | none => none
    | some param => readParamsFrom (earlier ++ [param]) rest

/-- The parameters behind the bar. -/
def readParams (text : List Char) : Option Params :=
  if text.isEmpty || text.contains '|' then none else readParamsFrom [] (splitAt ',' text)

/-- The placeholder that the inside of a group spells. -/
def Placeholder.read (inner : List Char) : Option Placeholder :=
  let (name, params) := match splitOnce '|' inner with
    | some (name, params) => (name, some params)
    | none => (inner, none)
  if name.isEmpty || name.any isBlank then none
  else
    let read := match params with
      | none => some []
      | some params => readParams params
    read.map fun params =>
      { name := String.ofList name
        source := String.ofList (Piece.group inner).text
        params }

/-- The placeholder a piece is. -/
def Piece.placeholder? (piece : Piece) : Option Placeholder :=
  piece.inner?.bind Placeholder.read

/-! ## 2. The placeholders of a text -/

/-- The placeholders of a text, one for each distinct group, in the order of first appearance. -/
def placeholders (text : String) : List Placeholder :=
  (groups text.toList).eraseDups.filterMap Placeholder.read

/-! ## 3. Substitution -/

/-- A piece with its placeholder replaced, if it is one and is accepted. -/
def Piece.substituted (replace : Placeholder → Option String) (piece : Piece) : List Char :=
  match piece.placeholder?.bind replace with
  | some value => value.toList
  | none => piece.text

/-- A text with the accepted placeholders replaced and all else as it was. -/
def substitute (text : String) (replace : Placeholder → Option String) : String :=
  String.ofList ((pieces text.toList).flatMap (Piece.substituted replace))

end Assay.Message
