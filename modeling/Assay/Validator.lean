import Assay.Result
import Assay.Scheme.Compile
import Assay.Settings
import Assay.Visit

/-!
# Validators

A validator is a compiled specification with settings. Making one can fail, and then says why; using
one can fail only where a value is met inside itself. Everything that does not depend on a value is
done once, when it is made.
-/

namespace Assay

variable {V : Type}

/-- A specification made ready to test values. -/
structure Validator (V : Type) where
  scheme : Scheme V
  wordings : Message.Wordings
  settings : Settings
  /-- Values met inside themselves are errors. -/
  loopProtection : Bool

namespace Validator

/-- How deep scopes may lie inside each other. It stands for the end of the stack, which a visit runs
    into that would never end, and is beyond what a stack has room for. It is no part of any other
    result: a visit that does not come to it ends alike under every higher one. -/
def depthLimit : Nat := 1000000

/-- The validator of a specification. Without a setting of its own, loop protection follows the
    scheme. -/
def build? (catalogue : Catalogue V) (root : SpecId) (settings : Settings) :
    Except BuildError (Validator V) :=
  match Scheme.build? catalogue root with
  | .error e => .error e
  | .ok scheme =>
    let name := settings.defaultTranslation
    match Message.Wordings.make? settings.translations name scheme.registry with
    | none => .error (.unknownTranslation name)
    | some wordings =>
      .ok ⟨scheme, wordings, settings, settings.loopProtection.getD scheme.loopPossible⟩

/-- A result with the means of the validator. -/
def result (v : Validator V) (faults : FaultMap) : Result := ⟨faults, v.scheme.registry, v.wordings⟩

/-- All that could be recorded, at generic paths. -/
def template (v : Validator V) : Result := v.result v.scheme.template

/-- What a visit of a value records. -/
def visit (v : Validator V) (hurried : Bool) (model : V) (place : Place) :
    Except VisitError FaultMap :=
  Visit.run ⟨hurried, v.loopProtection⟩ v.scheme depthLimit model place

/-- All failures of a value. -/
def validate (v : Validator V) (model : V) (place : Place) : Except VisitError Result :=
  (v.visit false model place).map v.result

/-- The first failure of a value. -/
def validateHurried (v : Validator V) (model : V) (place : Place) : Except VisitError Result :=
  (v.visit true model place).map v.result

/-- The value has no failure. -/
def isValid (v : Validator V) (model : V) (place : Place) : Except VisitError Bool :=
  (v.visit true model place).map (·.isEmpty)

end Validator

end Assay
