/-!
# The order of commands

A specification is written as a chain of commands, and not every order makes sense: a path belongs to
the rule before it, a presence command stands first, nothing but error parameters follows
`forbidden`. What may come next depends on what came last, so the order is a table of states.

`State.next` is that table. A chain is legal if every command finds a state to go on to
(`State.run`).
-/

namespace Assay.Specification

/-! ## 1. States and kinds of commands -/

/-- What was written last. -/
inductive State where
  /-- Nothing. -/
  | start
  | required
  /-- `optional` or a guard: only new commands may follow. -/
  | opened
  | forbidden
  /-- A rule or a link. -/
  | rule
  | condition
  /-- A path or a name. -/
  | place
  | message
  | extraMessage
  | code
  | extraCode
  | forbiddenMessage
  | forbiddenExtraMessage
  | forbiddenCode
  | forbiddenExtraCode
  deriving DecidableEq, Repr

/-- Commands that may stand in the same places. -/
inductive Kind where
  | required
  | optional
  | forbidden
  | guard
  /-- Rules and links. -/
  | rule
  /-- The condition under which the command before it runs. -/
  | condition
  /-- The path or name of the command before it. -/
  | place
  /-- A message in place of the error, or no content at all. -/
  | message
  | extraMessage
  | code
  | extraCode
  /-- What may stand anywhere and changes nothing. -/
  | neutral
  deriving DecidableEq, Repr

namespace State

/-- The name of a state. -/
def name : State → String
  | start => "Start"
  | required => "Required"
  | opened => "Open"
  | forbidden => "Forbidden"
  | rule => "RuleOut"
  | condition => "Condition"
  | place => "Path"
  | message => "Message"
  | extraMessage => "ExtraMessage"
  | code => "Code"
  | extraCode => "ExtraCode"
  | forbiddenMessage => "ForbiddenMessage"
  | forbiddenExtraMessage => "ForbiddenExtraMessage"
  | forbiddenCode => "ForbiddenCode"
  | forbiddenExtraCode => "ForbiddenExtraCode"

/-- All states. -/
def all : List State := [
  start, required, opened, forbidden, rule, condition, place, message, extraMessage, code,
  extraCode, forbiddenMessage, forbiddenExtraMessage, forbiddenCode, forbiddenExtraCode]

/-- The state with a name. -/
def ofName? (text : String) : Option State := all.find? (·.name == text)

/-! ## 2. The table -/

/-- `forbidden` stands first, and only error parameters have come since. -/
def isForbidden : State → Bool
  | forbidden | forbiddenMessage | forbiddenExtraMessage | forbiddenCode | forbiddenExtraCode => true
  | _ => false

/-- The state after a message. -/
def afterMessage : State → Option State
  | required | rule | condition | place => some message
  | forbidden => some forbiddenMessage
  | _ => none

/-- The state after an extra message. -/
def afterExtraMessage : State → Option State
  | required | rule | condition | place | message | extraMessage => some extraMessage
  | forbidden | forbiddenMessage | forbiddenExtraMessage => some forbiddenExtraMessage
  | _ => none

/-- The state after a code. -/
def afterCode : State → Option State
  | required | rule | condition | place | message | extraMessage => some code
  | forbidden | forbiddenMessage | forbiddenExtraMessage => some forbiddenCode
  | _ => none

/-- The state after an extra code. -/
def afterExtraCode : State → Option State
  | required | rule | condition | place | message | extraMessage | code | extraCode =>
    some extraCode
  | forbidden | forbiddenMessage | forbiddenExtraMessage | forbiddenCode | forbiddenExtraCode =>
    some forbiddenExtraCode
  | _ => none

/-- The state after a command; none if the command may not stand here. -/
def next (s : State) : Kind → Option State
  | .neutral => some s
  | .required => if s = start then some required else none
  | .optional => if s = start then some opened else none
  | .forbidden => if s = start then some forbidden else none
  | .guard => if s.isForbidden then none else some opened
  | .rule => if s.isForbidden then none else some rule
  | .condition => if s = rule then some condition else none
  | .place => if s = rule ∨ s = condition then some place else none
  | .message => s.afterMessage
  | .extraMessage => s.afterExtraMessage
  | .code => s.afterCode
  | .extraCode => s.afterExtraCode

/-! ## 3. Chains -/

/-- The state after a chain of commands; none if one of them may not stand where it does. -/
def run (s : State) : List Kind → Option State
  | [] => some s
  | kind :: rest => (s.next kind).bind (run · rest)

/-- The states after each command of a chain, ending with `none` at the first that may not stand
    where it does. -/
def trace (s : State) : List Kind → List (Option State)
  | [] => []
  | kind :: rest =>
    match s.next kind with
    | none => [none]
    | some s => some s :: trace s rest

end State

/-! ## 4. Names of commands -/

/-- The kind of a command by its name; every name without a meaning of its own is that of a rule. -/
def Kind.ofName : String → Kind
  | "and" | "report" => .neutral
  | "required" | "required_trait" => .required
  | "optional" | "optional_trait" => .optional
  | "forbidden" | "forbidden_trait" => .forbidden
  | "with_condition" => .guard
  | "when" => .condition
  | "with_path" | "with_name" => .place
  | "with_message" | "with_error_cleared" => .message
  | "with_extra_message" => .extraMessage
  | "with_code" => .code
  | "with_extra_code" => .extraCode
  | _ => .rule

end Assay.Specification
