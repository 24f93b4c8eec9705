import Assay.Message.Dictionary
import Assay.Message.Placeholder
import Assay.Path
import Assay.Text.Title

/-!
# Wording a fault

A message of a fault is a key of the dictionary or, if the dictionary does not have it, a template
of its own. It is worded in two stages.

* `translate` is done once for a fault and a dictionary. It puts in the arguments, and then replaces
  each `\x7b_translation|key=…\x7d` by the entry of that key, or by the key if there is no entry.
  **Exactly one level:** the entry gets its arguments, its own `_translation` stays as written.
* `fillPath` is done when the path is known. It replaces `_path` by the path and `_name` by its last
  segment, in title case on demand. Only messages in which such a placeholder is pending are looked
  at.

Unknown keys, unknown placeholders and malformed groups stay in the text; wording never fails.
-/

namespace Assay.Message

/-! ## 1. Reserved placeholders -/

def nameKey : String := "_name"

def pathKey : String := "_path"

def translationKey : String := "_translation"

/-- The parameter of `_translation` that names an entry. -/
def keyParam : String := "key"

/-- The value of `format` for a name in title case. -/
def titleCaseFormat : String := "titleCase"

/-! ## 2. The first stage -/

/-- The messages of a fault in one translation, and the placeholders that wait for the path, by the
    positions of their messages. -/
structure Translated where
  messages : List String
  pending : List (Nat × List Placeholder)
  deriving DecidableEq, Repr

/-- What a placeholder for an argument becomes; the first argument of a name counts. -/
def argValue (args : List Arg) (p : Placeholder) : Option String :=
  (args.find? (·.name == p.name)).map (·.format p.params)

/-- A template with its arguments put in. -/
def withArgs (args : List Arg) (template : String) : String := substitute template (argValue args)

/-- What a placeholder for an entry becomes. -/
def entryValue (dictionary : Dictionary) (args : List Arg) (p : Placeholder) : Option String :=
  if p.name = translationKey then
    (p.param keyParam).map fun key =>
      match dictionary.get? key with
      | some template => withArgs args template
      | none => key
  else none

/-- One message in one translation. -/
def translateMessage (dictionary : Dictionary) (args : List Arg) (key : String) : String :=
  substitute (withArgs args ((dictionary.get? key).getD key)) (entryValue dictionary args)

/-- The placeholders of a message that wait for the path. -/
def pendingOf (message : String) : List Placeholder :=
  (placeholders message).filter fun p => p.name == nameKey || p.name == pathKey

/-- Messages with something pending, by position. -/
def pendingFrom (index : Nat) : List String → List (Nat × List Placeholder)
  | [] => []
  | message :: rest =>
    let found := pendingOf message
    if found.isEmpty then pendingFrom (index + 1) rest
    else (index, found) :: pendingFrom (index + 1) rest

/-- The messages of a fault in one translation. -/
def translate (dictionary : Dictionary) (fault : Fault) : Translated :=
  let messages := fault.allMessages.map (translateMessage dictionary fault.args)
  ⟨messages, pendingFrom 0 messages⟩

/-! ## 3. The second stage -/

/-- What a placeholder for the path or the name becomes. `_path` takes no parameters, `_name` at most
    the one for title case. -/
def pathValue (path : String) (p : Placeholder) : Option String :=
  if p.name = pathKey then
    if p.params = [] then some path else none
  else if p.name = nameKey then
    if p.params = [] then some (Path.name path)
    else if p.params = [(Arg.formatKey, titleCaseFormat)] then
      some (Text.titleCase (Path.name path))
    else none
  else none

/-- A message with the path put in. -/
def withPath (path message : String) : String := substitute message (pathValue path)

/-- Messages with the path put in where something is pending. -/
def fillPath (path : String) (messages : List String) (pending : List (Nat × List Placeholder)) :
    List String :=
  pending.foldl (fun messages (index, _) => messages.modify index (withPath path)) messages

end Assay.Message
