import Assay.Specification.Command

/-!
# Drafts

Writing a specification is a chain of calls. A call adds a command, may report an issue, and may say
which values count as null. The result is a draft: the commands in order and the issues with the
positions of the commands they belong to.

A chain in an illegal order has no draft; `Draft.write?` tells where it went wrong.
-/

namespace Assay

variable {V : Type}

/-! ## 1. Drafts -/

/-- What has been written of a specification. -/
structure Draft (V : Type) where
  /-- The type of the values it is for. -/
  type : ValueType
  commands : List (Command V)
  issues : List LocatedIssue
  /-- The values that count as null. -/
  isNull : Option (V → Bool)

namespace Draft

/-- The name of the type of its values. -/
def typeName (d : Draft V) : String := d.type.name

/-- A draft without commands. -/
def empty (type : ValueType) : Draft V := ⟨type, [], [], none⟩

/-- Notes an issue with the last command. -/
def report (d : Draft V) (issue : Issue) : Draft V :=
  { d with issues := d.issues ++ [⟨d.typeName, d.commands.length - 1, issue⟩] }

/-- Adds a command with its issues. -/
def push (d : Draft V) (command : Command V) : Draft V :=
  command.issues.foldl report { d with commands := d.commands ++ [command] }

end Draft

/-! ## 2. Calls -/

/-- One call of the chain that writes a specification. -/
structure Call (V : Type) where
  /-- The command it adds. -/
  command : Option (Command V)
  /-- The issues it reports. -/
  issues : List Issue
  /-- The values it makes count as null, unless an earlier call did. -/
  isNull : Option (V → Bool)

namespace Call

/-- A call that changes nothing. -/
def pass : Call V := ⟨none, [], none⟩

/-- A call that adds a command. -/
def ofCommand (command : Command V) : Call V := ⟨some command, [], none⟩

/-- A call that adds an action. -/
def act (action : Action V) : Call V := ofCommand (.action action)

/-- A call that adds a parameter. -/
def set (parameter : Parameter V) : Call V := ofCommand (.parameter parameter)

/-- A call that reports an issue. -/
def report (issue : Issue) : Call V := ⟨none, [issue], none⟩

/-- Where the call may stand. -/
def kind (c : Call V) : Specification.Kind :=
  match c.command with
  | some command => command.kind
  | none => .neutral

/-- The draft after the call. -/
def apply (c : Call V) (d : Draft V) : Draft V :=
  let d := { d with isNull := d.isNull.or c.isNull }
  let d := match c.command with
    | some command => d.push command
    | none => d
  c.issues.foldl Draft.report d

end Call

/-- The position of the first call that may not stand where it does, and the state there. -/
structure IllegalOrder where
  index : Nat
  state : Specification.State
  deriving DecidableEq, Repr

namespace Draft

/-- The draft of calls from some position on. -/
def writeFrom? (index : Nat) (state : Specification.State) (d : Draft V) :
    List (Call V) → Except IllegalOrder (Draft V)
  | [] => .ok d
  | call :: rest =>
    match state.next call.kind with
    | none => .error ⟨index, state⟩
    | some state => writeFrom? (index + 1) state (call.apply d) rest

/-- The draft of a chain of calls. -/
def write? (type : ValueType) (calls : List (Call V)) : Except IllegalOrder (Draft V) :=
  writeFrom? 0 .start (empty type) calls

end Draft

end Assay
