import Assay.Scheme
import Assay.Specification.Command

/-!
# Clauses

An action and the parameters behind it form a clause. This file takes a list of commands apart into
clauses and says what the parameters of a clause amount to: a condition, a path, and a change of the
content of its error.

**Replacing and adding.** A message, a code or clearing drops the content an error has of its own and
keeps its arguments; extras alone leave it and follow it.
-/

namespace Assay

variable {V : Type}

/-! ## 1. Taking commands apart -/

/-- An action with its parameters. -/
structure Clause (V : Type) where
  action : Action V
  parameters : List (Parameter V)

namespace Clause

/-- The parameters in front of the first action, and the clauses. -/
def split : List (Command V) → List (Parameter V) × List (Clause V)
  | [] => ([], [])
  | .parameter p :: rest =>
    let (parameters, clauses) := split rest
    (p :: parameters, clauses)
  | .action a :: rest =>
    let (parameters, clauses) := split rest
    ([], ⟨a, parameters⟩ :: clauses)

/-- The commands of a clause. -/
def commands (c : Clause V) : List (Command V) := .action c.action :: c.parameters.map .parameter

/-- **Nothing is lost or moved** when commands are taken apart. -/
theorem split_join (commands : List (Command V)) :
    (split commands).1.map .parameter ++ (split commands).2.flatMap Clause.commands = commands := by
  induction commands with
  | nil => rfl
  | cons command rest ih =>
    cases command with
    | parameter p => simpa [split] using ih
    | action a => simpa [split, Clause.commands] using ih

/-! ## 2. Clauses that cannot be written -/

/-- The text for a parameter that no action is there for. -/
def orphanText (p : Parameter V) (index : Nat) : String :=
  "parameter `" ++ p.label ++ "` at #" ++ toString index ++ " has no command to modify"

/-- What is wrong with a clause whose action is the command with a number. -/
def fault? (c : Clause V) (index : Nat) : Option String :=
  match c.action, c.parameters with
  | .required, _ | .optional, _ | .forbidden, _ =>
    if 0 < index then
      some ("presence command `" ++ c.action.label ++ "` at #" ++ toString index)
    else none
  | .guard _, p :: _ => some (orphanText p (index + 1))
  | _, _ => none

/-- What is wrong with the first clause that cannot be written. -/
def firstFault (index : Nat) : List (Clause V) → Option String
  | [] => none
  | c :: rest => (c.fault? index).or (firstFault (index + 1 + c.parameters.length) rest)

/-- The clauses of commands, if they can be written. -/
def ofCommands? (commands : List (Command V)) : Except String (List (Clause V)) :=
  match split commands with
  | (p :: _, _) => .error (orphanText p 0)
  | ([], clauses) =>
    match firstFault 0 clauses with
    | some text => .error text
    | none => .ok clauses

end Clause

/-! ## 3. What parameters amount to -/

/-- What the error of a clause is to say. -/
structure Content where
  /-- The content of its own is dropped. -/
  replaces : Bool
  message : Option String
  code : Option String
  extraMessages : List String
  extraCodes : List String
  deriving DecidableEq, Repr

namespace Content

/-- Nothing is changed. -/
def isUntouched (c : Content) : Bool :=
  !c.replaces && c.extraMessages.isEmpty && c.extraCodes.isEmpty

/-- The error that results. -/
def edit (c : Content) (fault : Fault) : Fault :=
  let base := if c.replaces then
      { Fault.empty with
        messages := c.message.toList, codes := c.code.toList, args := fault.args }
    else fault
  { base with
    extraMessages := base.extraMessages ++ c.extraMessages
    extraCodes := base.extraCodes ++ c.extraCodes }

end Content

/-- Where a clause puts its errors. -/
inductive Placement where
  | path (path : String)
  | name (name : String)
  deriving DecidableEq, Repr

namespace Placement

/-- The relative path for a rule or for a link without a name: a name stands beside the value. -/
def beside : Placement → String
  | path p => p
  | name n => "<" ++ n

/-- The relative path for a member: a name takes the place of the member's. -/
def instead : Placement → String
  | path p => p
  | name n => n

end Placement

/-- What the last parameter with something to say about a thing says. -/
def lastSome {α β : Type} (read : α → Option β) (items : List α) : Option β :=
  (items.filterMap read).getLast?

namespace Parameter

def condition? : Parameter V → Option (V → Bool)
  | .when holds => some holds
  | _ => none

def placement? : Parameter V → Option Placement
  | .path p => some (.path p)
  | .name n => some (.name n)
  | _ => none

def message? : Parameter V → Option String
  | .message m => some m
  | _ => none

def code? : Parameter V → Option String
  | .code c => some c
  | _ => none

def extraMessage? : Parameter V → Option String
  | .extraMessage m => some m
  | _ => none

def extraCode? : Parameter V → Option String
  | .extraCode c => some c
  | _ => none

/-- The parameter drops the content an error has of its own. -/
def replaces : Parameter V → Bool
  | .message _ | .cleared | .code _ => true
  | _ => false

end Parameter

namespace Clause

/-- The condition under which the clause runs. -/
def condition (c : Clause V) : Option (V → Bool) := lastSome Parameter.condition? c.parameters

def placement (c : Clause V) : Option Placement := lastSome Parameter.placement? c.parameters

def content (c : Clause V) : Content where
  replaces := c.parameters.any Parameter.replaces
  message := lastSome Parameter.message? c.parameters
  code := lastSome Parameter.code? c.parameters
  extraMessages := c.parameters.filterMap Parameter.extraMessage?
  extraCodes := c.parameters.filterMap Parameter.extraCode?

/-- The relative path of a rule. -/
def rulePath (c : Clause V) : Option String := c.placement.map Placement.beside

/-- The relative path of a link. -/
def linkPath (c : Clause V) (transition : Transition V) : Option String :=
  match transition.name? with
  | some name => some ((c.placement.map Placement.instead).getD name)
  | none => c.placement.map Placement.beside

end Clause

end Assay
