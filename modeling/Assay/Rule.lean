import Assay.Specification.Draft

/-!
# Built-in rules

A rule of the library tests values of one type. It knows what a failure is called and which arguments
the wording may show, and it notices when it was given arguments that make no sense, such as bounds in
the wrong order. `Rule.call` writes it into a specification.
-/

namespace Assay

/-- A test of values with the fault of those that fail it. -/
structure Rule (α : Type) where
  holds : α → Bool
  fault : Fault
  /-- What is wrong with the arguments the rule was given. -/
  issues : List Issue

namespace Rule

variable {α V : Type}

/-- A rule with a message key and arguments. -/
def make (key : String) (args : List Arg) (holds : α → Bool) : Rule α :=
  ⟨holds, Fault.ofMessage key args, []⟩

/-- The rule with one more issue if a condition on its arguments does not hold. -/
def check (r : Rule α) (ok : Bool) (issue : Issue) : Rule α :=
  if ok then r else { r with issues := r.issues ++ [issue] }

/-- The call that writes the rule into a specification, for values seen as `α`. -/
def call (r : Rule α) (view : V → Option α) : Call V where
  command := some (.action (.rule (fun v => (view v).any r.holds) r.fault))
  issues := r.issues
  isNull := none

end Rule

end Assay
