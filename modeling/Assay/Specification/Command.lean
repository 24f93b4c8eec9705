import Assay.Fault
import Assay.Issue
import Assay.Specification.State
import Assay.Specification.Transition

/-!
# Commands

A specification is a list of commands. Some do something with a value: they say whether it may be
missing, test it, end the list, or lead on to other values. The others are parameters of the command
before them: when it runs, where its errors are put, and what they say.

A command that was given a malformed text brings its issues with it (`Command.issues`).
-/

namespace Assay

/-- The number of a specification. -/
abbrev SpecId := Nat

/-! ## 1. Commands -/

/-- What changes the command before it. -/
inductive Parameter (V : Type) where
  | when (holds : V → Bool)
  | path (path : String)
  | name (name : String)
  | message (message : String)
  | cleared
  | extraMessage (message : String)
  | code (code : String)
  | extraCode (code : String)

/-- What does something with a value. -/
inductive Action (V : Type) where
  | required
  | optional
  | forbidden
  | rule (holds : V → Bool) (fault : Fault)
  /-- Ends the list for values that fail it. -/
  | guard (holds : V → Bool)
  | link (transition : Transition V) (target : SpecId)

/-- A command of a specification. -/
inductive Command (V : Type) where
  | action (action : Action V)
  | parameter (parameter : Parameter V)

variable {V : Type}

/-- The name of a parameter. -/
def Parameter.label : Parameter V → String
  | .when _ => "When"
  | .path _ => "WithPath"
  | .name _ => "WithName"
  | .message _ => "WithMessage"
  | .cleared => "WithErrorCleared"
  | .extraMessage _ => "WithExtraMessage"
  | .code _ => "WithCode"
  | .extraCode _ => "WithExtraCode"

/-- The name of an action. -/
def Action.label : Action V → String
  | .required => "Required"
  | .optional => "Optional"
  | .forbidden => "Forbidden"
  | .rule _ _ => "Rule"
  | .guard _ => "WithCondition"
  | .link transition _ => transition.kind.label

/-! ## 2. Order -/

def Parameter.kind : Parameter V → Specification.Kind
  | .when _ => .condition
  | .path _ | .name _ => .place
  | .message _ | .cleared => .message
  | .extraMessage _ => .extraMessage
  | .code _ => .code
  | .extraCode _ => .extraCode

def Action.kind : Action V → Specification.Kind
  | .required => .required
  | .optional => .optional
  | .forbidden => .forbidden
  | .rule _ _ | .link _ _ => .rule
  | .guard _ => .guard

/-- Where the command may stand. -/
def Command.kind : Command V → Specification.Kind
  | .action a => a.kind
  | .parameter p => p.kind

/-! ## 3. Issues -/

/-- The issues of a name of one segment. -/
def nameIssues (name : String) : List Issue := if Path.isName name then [] else [.name name]

/-- The issues of a message. -/
def messageIssues (message : String) : List Issue := if message = "" then [.emptyMessage] else []

/-- The issues of a code. -/
def codeIssues (code : String) : List Issue :=
  if code = "" ∨ code.toList.any Text.isBlank then [.code code] else []

/-- The issues of arguments whose names must differ from each other and from those already seen. -/
def argIssues (seen : List String) : List Arg → List Issue
  | [] => []
  | arg :: rest =>
    if !Arg.isName arg.name then .argName arg.name :: argIssues seen rest
    else if seen.contains arg.name then .duplicateArgName arg.name :: argIssues seen rest
    else argIssues (arg.name :: seen) rest

def Parameter.issues : Parameter V → List Issue
  | .when _ | .cleared => []
  | .path text => if Path.valid text then [] else [.path text]
  | .name text => nameIssues text
  | .message text | .extraMessage text => messageIssues text
  | .code text | .extraCode text => codeIssues text

def Action.issues : Action V → List Issue
  | .rule _ fault => fault.messages.flatMap messageIssues ++ argIssues [] fault.args
  | .link transition _ =>
    match transition.name? with
    | some name => nameIssues name
    | none => []
  | _ => []

/-- What is wrong with what a command was given. -/
def Command.issues : Command V → List Issue
  | .action a => a.issues
  | .parameter p => p.issues

end Assay
