import Assay.Failure
import Assay.Fault.Map
import Assay.Message.Wording
import Assay.Report

/-!
# Results

A result is what a visit has recorded, together with what is needed to put it into words: the
registry of faults and their wordings. All views of it are made from the same records: the codes, the
codes and messages by path, a report, and a text.
-/

namespace Assay

open Assay.Message

/-- Recorded faults with the means to word them. -/
structure Result where
  faults : FaultMap
  registry : Registry
  wordings : Wordings
  deriving Repr

namespace Result

/-! ## 1. Codes -/

def anyFaults (r : Result) : Bool := !r.faults.isEmpty

/-- The codes of recorded faults, with repeats. -/
def codesOf (r : Result) (ids : List FaultId) : List String := ids.flatMap r.registry.codesOf

/-- The distinct codes, in the order of discovery. -/
def codes (r : Result) : List String := (r.codesOf r.faults.ids).eraseDups

/-- The lists that are not empty, by path. -/
def byPath (lists : List (String × List String)) : Keyed (List String) :=
  .ofList (lists.filter fun (_, items) => !items.isEmpty)

/-- The codes at each path that has any. -/
def codeMap (r : Result) : Keyed (List String) :=
  byPath (r.faults.entries.map fun (path, ids) => (path, r.codesOf ids))

/-! ## 2. Messages -/

/-- The messages at each path in a translation. The translation is looked up when there is something
    to word. -/
def render? (r : Result) (name : String) : Option (List (String × List String)) :=
  r.faults.entries.mapM fun (path, ids) => (r.wordings.messages? name path ids).map (path, ·)

/-- The messages at each path that has any, in a translation. -/
def messageMapIn? (r : Result) (name : String) : Except String (Keyed (List String)) :=
  match r.render? name with
  | some lists => .ok (byPath lists)
  | none => .error name

/-- The messages at each path that has any, in the default translation. -/
def messageMap (r : Result) : Keyed (List String) :=
  match r.messageMapIn? r.wordings.defaultName with
  | .ok messages => messages
  | .error _ => Keyed.empty

/-! ## 3. Reports and text -/

/-- The report in a translation, the default one if none is named. -/
def report? (r : Result) (name : Option String) : Except String Report :=
  let name := name.getD r.wordings.defaultName
  match r.render? name with
  | none => .error name
  | some lists => .ok {
      valid := !r.anyFaults
      translation := name
      codes := r.codes
      entries := (lists.zip r.faults.entries).map fun ((path, messages), (_, ids)) =>
        ⟨path, messages, r.codesOf ids⟩ }

/-- A message behind its path; at the root the message alone. -/
def line (path message : String) : String :=
  if path = "" then message else path ++ ": " ++ message

/-- The codes on one line, then the messages, one on a line, with an empty line between. -/
def text (r : Result) : String :=
  let lists := (r.render? r.wordings.defaultName).getD []
  let lines := lists.flatMap fun (path, messages) => messages.map (line path)
  let codes := r.codes
  let between := if codes.isEmpty || lines.isEmpty then "" else "\n\n"
  ", ".intercalate codes ++ between ++ "\n".intercalate lines

end Result

end Assay
