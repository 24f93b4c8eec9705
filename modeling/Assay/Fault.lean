import Assay.Arg

/-!
# Faults

A fault describes one way in which a value can fail a specification: the messages and codes that are
shown for it, and the arguments its messages may refer to. Extra messages and codes follow the main
ones; they are kept apart because a specification may replace the main ones alone.

Two faults with the same content are one fault (`==`).
-/

namespace Assay

/-- What is shown for one kind of failure. -/
structure Fault where
  messages : List String
  extraMessages : List String
  codes : List String
  extraCodes : List String
  args : List Arg
  deriving BEq, Repr

/-- The number of a fault in its registry. -/
abbrev FaultId := Nat

namespace Fault

/-- A fault without content. -/
def empty : Fault := ⟨[], [], [], [], []⟩

/-- A fault with one message. -/
def ofMessage (message : String) (args : List Arg) : Fault :=
  { empty with messages := [message], args }

/-- The messages in the order in which they are shown. -/
def allMessages (f : Fault) : List String := f.messages ++ f.extraMessages

/-- The codes in the order in which they are shown. -/
def allCodes (f : Fault) : List String := f.codes ++ f.extraCodes

/-- Nothing would be shown for the fault. -/
def isEmpty (f : Fault) : Bool :=
  f.messages.isEmpty && f.extraMessages.isEmpty && f.codes.isEmpty && f.extraCodes.isEmpty

/-! ## Faults of the engine itself -/

/-- The message of a rule that brings none. -/
def errorKey : String := "Global.Error"

/-- The message for a value that is missing. -/
def requiredKey : String := "Global.Required"

/-- The message for a value that must be missing. -/
def forbiddenKey : String := "Global.Forbidden"

/-- The message that marks where a value may be met inside itself. -/
def referenceLoopKey : String := "Global.ReferenceLoop"

def error : Fault := ofMessage errorKey []

def required : Fault := ofMessage requiredKey []

def forbidden : Fault := ofMessage forbiddenKey []

def referenceLoop : Fault := ofMessage referenceLoopKey []

end Fault

end Assay
