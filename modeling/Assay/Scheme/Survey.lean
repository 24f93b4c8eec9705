import Assay.Scheme

/-!
# What a scheme can report

Before any value is seen, a survey goes through the scopes of a scheme along their links, with bare
markers for the positions of items, and notes every fault at every path it could be recorded at. A
scope that is already on the way is not entered again; if the link to it preserves identity, a value
could be met inside itself there, and the survey notes that instead.

Behind a link that replaces faults nothing is noted, for nothing is recorded there.
-/

namespace Assay

variable {V : Type}

/-- What a survey has found so far. -/
structure Survey where
  registry : Registry
  template : FaultMap
  resolved : List ((String × String) × String)
  loopPossible : Bool

namespace Survey

/-! ## 1. Noting -/

/-- Notes a fault unless it is hidden. -/
def note (s : Survey) (path : String) (fault : Option FaultId) (hidden : Bool) : Survey :=
  match fault, hidden with
  | some id, false => { s with template := s.template.pushUnique path id }
  | _, _ => s

/-- Reads a relative path, if there is one, and remembers it. -/
def resolve (s : Survey) (base : String) : Option String → Survey × String
  | none => (s, base)
  | some relative =>
    let path := Path.resolve base relative
    ({ s with resolved := ((base, relative), path) :: s.resolved }, path)

/-- Notes that a value could be met inside itself. -/
def noteLoop (s : Survey) (path : String) (hidden : Bool) : Survey :=
  let (registry, id) := s.registry.register Fault.referenceLoop
  { s with registry, loopPossible := true }.note path (some id) hidden

/-! ## 2. The walk -/

/-- A way into a scope: its number, its path, the scopes on the way, and whether faults are hidden. -/
abbrev Enter := ScopeId → String → List ScopeId → Bool → Survey → Survey

/-- One link, with a way into the scopes that are not yet on the way. -/
def link (enter : Enter) (path : String) (way : List ScopeId) (hidden : Bool) (s : Survey)
    (step : LinkStep V) : Survey :=
  let kind := step.transition.kind
  let (s, base) := s.resolve path step.path
  let (s, inner) := s.resolve base kind.itemSegment
  let innerHidden := hidden || step.showing.hides
  let s :=
    if way.contains step.target then
      if kind.preservesIdentity then s.noteLoop inner innerHidden else s
    else enter step.target inner (step.target :: way) innerHidden s
  s.note base step.showing.fault hidden

/-- One step of a scope. -/
def step (enter : Enter) (path : String) (way : List ScopeId) (hidden : Bool) (s : Survey) :
    Step V → Survey
  | .guard _ => s
  | .rule rule =>
    let (s, path) := s.resolve path rule.path
    s.note path rule.fault hidden
  | .link link => s.link enter path way hidden link

/-- A scope with everything behind it. No way is longer than there are scopes, so that number of
    levels is enough. -/
def scope (scopes : List (Scope V)) : (levels : Nat) → Enter
  | 0, _, _, _, _, s => s
  | levels + 1, id, path, way, hidden, s =>
    match scopes[id]? with
    | none => s
    | some sc =>
      sc.steps.foldl (step (scope scopes levels) path way hidden)
        (s.note path sc.presence.fault hidden)

/-- The survey of scopes from the root on. -/
def ofScopes (registry : Registry) (scopes : List (Scope V)) : Survey :=
  scope scopes (scopes.length + 1) 0 "" [0] false ⟨registry, FaultMap.empty, [], false⟩

end Survey

end Assay
