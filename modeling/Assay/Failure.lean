import Assay.Issue

/-!
# What can go wrong

A value that fails a specification is no error: it is what a visit reports. Errors are for
specifications that cannot be compiled, visits that cannot be finished, and settings that cannot be
used. Each kind of error has a message, a stable code, and for some a hint.
-/

namespace Assay

/-- How an error presents itself. -/
structure Diagnosis where
  message : String
  code : String
  help : Option String
  deriving DecidableEq, Repr

/-- The code of an error of some kind. -/
def diagnosisCode (kind : String) : String := "specval::" ++ kind

/-! ## 1. Translations -/

/-- The diagnosis of a translation that is asked for and not there. -/
def unknownTranslation (name : String) : Diagnosis where
  message := "unknown translation " ++ Issue.quoted name
  code := diagnosisCode "unknown_translation"
  help := none

/-- The diagnosis of a state that no correct use leads to. -/
def unexpectedState (text : String) : Diagnosis where
  message := "unexpected state: " ++ text
  code := diagnosisCode "unexpected_state"
  help := none

/-! ## 2. Definitions -/

/-- The diagnosis of a second definition for one specification. -/
def alreadyDefined (id : Nat) : Diagnosis where
  message := "specification " ++ toString id ++ " is already defined"
  code := diagnosisCode "already_defined"
  help := none

/-! ## 3. Building -/

/-- Why a specification does not become a validator. -/
inductive BuildError where
  /-- Its authors made mistakes. -/
  | invalid (issues : List LocatedIssue)
  /-- It refers to a specification that was never defined. -/
  | undefinedSpec (id : Nat) (typeName : String)
  /-- The default translation is not there. -/
  | unknownTranslation (name : String)
  /-- Its commands are in an order that cannot be authored. -/
  | unexpected (text : String)
  deriving DecidableEq, Repr

def BuildError.diagnosis : BuildError → Diagnosis
  | .invalid issues => {
      message := "invalid specification:\n" ++ LocatedIssue.lines issues
      code := diagnosisCode "invalid_specification"
      help := some "fix the listed commands; each names its specification type and position" }
  | .undefinedSpec id typeName => {
      message := "specification " ++ toString id ++ " of " ++ Issue.quoted typeName ++
        " is referenced but never defined"
      code := diagnosisCode "undefined_specification"
      help := some ("call `define` on every `Specification::deferred()` before building " ++
        "a validator") }
  | .unknownTranslation name => Assay.unknownTranslation name
  | .unexpected text => unexpectedState text

/-! ## 4. Visiting -/

/-- Why a visit does not end with a result. -/
inductive VisitError where
  /-- A scope was about to enter a value that it is already inside of. -/
  | referenceLoop (typeName firstPath secondPath : String)
  /-- A link leads to a scope that is not there. -/
  | unexpected (text : String)
  /-- Scopes are nested deeper than the visit may go. -/
  | tooDeep
  deriving DecidableEq, Repr

def VisitError.diagnosis : VisitError → Diagnosis
  | .referenceLoop typeName firstPath secondPath => {
      message := "reference loop in " ++ Issue.quoted typeName ++ ": value at " ++
        Issue.quoted secondPath ++ " was already entered at " ++ Issue.quoted firstPath
      code := diagnosisCode "reference_loop"
      help := some ("break the cycle in the model or disable reference loop protection " ++
        "if the data is acyclic") }
  | .unexpected text => unexpectedState text
  | .tooDeep => unexpectedState "scopes are nested too deep"

/-! ## 5. Settings -/

/-- Why settings cannot be loaded. -/
inductive SettingsError where
  | unreadable
  | malformed
  | unusable (reason : String)
  deriving DecidableEq, Repr

def SettingsError.diagnosis : SettingsError → Diagnosis
  | .unreadable => ⟨"failed to read settings", diagnosisCode "config_io", none⟩
  | .malformed => ⟨"failed to parse settings", diagnosisCode "config_parse", none⟩
  | .unusable reason => ⟨"invalid settings: " ++ reason, diagnosisCode "config_invalid", none⟩

end Assay
