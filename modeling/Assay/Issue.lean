/-!
# Authoring issues

A mistake in a text or an argument of a specification does not stop its author at once. It is noted
with the type the specification is for and the position of the command, and all notes are shown
together when the specification is compiled.
-/

namespace Assay

/-! ## 1. Issues -/

/-- A mistake in what a command was given. -/
inductive Issue where
  | path (value : String)
  | name (value : String)
  | code (value : String)
  | argName (value : String)
  | duplicateArgName (value : String)
  | emptyMessage
  /-- Bounds in the wrong order; `inclusive` tells whether they may be equal. -/
  | range (min max : String) (inclusive : Bool)
  /-- An argument that cannot be used. -/
  | argument (name reason : String)
  deriving DecidableEq, Repr

namespace Issue

/-- What the bounds of a range have to satisfy. -/
def relation (inclusive : Bool) : String :=
  if inclusive then "less than or equal to" else "less than"

/-- A text in the marks that set it off. -/
def quoted (text : String) : String := "`" ++ text ++ "`"

/-- The text that tells the issue. -/
def text : Issue → String
  | .path value => "invalid path " ++ quoted value
  | .name value => "invalid name " ++ quoted value
  | .code value =>
    "invalid code " ++ quoted value ++ ": codes must be non-empty and contain no whitespace"
  | .argName value => "invalid arg name " ++ quoted value
  | .duplicateArgName value => "duplicate arg name " ++ quoted value
  | .emptyMessage => "message must not be empty"
  | .range min max inclusive =>
    "invalid range: " ++ min ++ " must be " ++ relation inclusive ++ " " ++ max
  | .argument arg reason => "invalid argument " ++ quoted arg ++ ": " ++ reason

/-- The word for the kind of the issue. -/
def kind : Issue → String
  | .path _ => "InvalidPath"
  | .name _ => "InvalidName"
  | .code _ => "InvalidCode"
  | .argName _ => "InvalidArgName"
  | .duplicateArgName _ => "DuplicateArgName"
  | .emptyMessage => "EmptyMessage"
  | .range _ _ _ => "InvalidRange"
  | .argument _ _ => "InvalidArgument"

end Issue

/-! ## 2. Where an issue is -/

/-- An issue with the type its specification is for and the position of its command, from 0. -/
structure LocatedIssue where
  typeName : String
  commandIndex : Nat
  issue : Issue
  deriving DecidableEq, Repr

/-- The text that tells the issue and its place. -/
def LocatedIssue.text (l : LocatedIssue) : String :=
  l.issue.text ++ " (command #" ++ toString l.commandIndex ++ " in specification of " ++
    Issue.quoted l.typeName ++ ")"

/-- One line for each issue. -/
def LocatedIssue.lines (issues : List LocatedIssue) : String :=
  String.intercalate "\n" (issues.map fun l => "  - " ++ l.text)

end Assay
