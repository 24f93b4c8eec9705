import Assay.Failure
import Assay.Scheme.Clause
import Assay.Scheme.Survey
import Assay.Specification.Catalogue

/-!
# From specifications to a scheme

Compilation starts at one specification and follows its links, breadth first. The order in which
specifications are first referred to gives the scopes their numbers, so the list of those seen so far
is at once the numbering and the queue: the next to compile is the one at the position equal to the
number of scopes that are done.

A specification that is not defined ends compilation at once. Issues do not; they are gathered over
the whole graph and refuse it at the end.
-/

namespace Assay

variable {V : Type}

/-! ## 1. Clauses -/

/-- What clauses are compiled into: the registry of faults and the specifications seen so far. -/
structure Gathered where
  registry : Registry
  seen : List SpecId

namespace Gathered

/-- The number of a fault; none for a fault without content. -/
def register (g : Gathered) (fault : Fault) : Gathered × Option FaultId :=
  if fault.isEmpty then (g, none)
  else
    let (registry, id) := g.registry.register fault
    ({ g with registry }, some id)

/-- The number of the scope of a specification. -/
def scopeOf (g : Gathered) (id : SpecId) : Gathered × ScopeId :=
  match g.seen.findIdx? (· == id) with
  | some scope => (g, scope)
  | none => ({ g with seen := g.seen ++ [id] }, g.seen.length)

/-- How faults behind a link show, from the content its clause gives. -/
def showingOf (g : Gathered) (content : Content) : Gathered × Showing :=
  if content.isUntouched then (g, .nested)
  else if content.replaces then
    let (g, fault) := g.register (content.edit Fault.empty)
    (g, .replaced fault)
  else
    let (registry, id) := g.registry.register (content.edit Fault.empty)
    ({ g with registry }, .extended id)

end Gathered

/-- What a clause becomes. -/
inductive Part (V : Type) where
  | presence (presence : Presence)
  | step (step : Step V)

namespace Part

def presence? : Part V → Option Presence
  | .presence p => some p
  | _ => none

def step? : Part V → Option (Step V)
  | .step s => some s
  | _ => none

end Part

namespace Clause

/-- A clause compiled. -/
def compile (c : Clause V) (g : Gathered) : Gathered × Part V :=
  match c.action with
  | .required =>
    let (g, fault) := g.register (c.content.edit Fault.required)
    (g, .presence (.required fault))
  | .optional => (g, .presence .optional)
  | .forbidden =>
    let (g, fault) := g.register (c.content.edit Fault.forbidden)
    (g, .presence (.forbidden fault))
  | .guard holds => (g, .step (.guard holds))
  | .rule holds fault =>
    let (g, fault) := g.register (c.content.edit fault)
    (g, .step (.rule ⟨c.condition, holds, fault, c.rulePath⟩))
  | .link transition target =>
    let (g, showing) := g.showingOf c.content
    let (g, target) := g.scopeOf target
    (g, .step (.link ⟨c.condition, transition, target, c.linkPath transition, showing⟩))

/-- Clauses compiled one after another. -/
def compileAll : List (Clause V) → Gathered → Gathered × List (Part V)
  | [], g => (g, [])
  | c :: rest, g =>
    let (g, part) := c.compile g
    let (g, parts) := compileAll rest g
    (g, part :: parts)

end Clause

/-! ## 2. Scopes -/

/-- A draft compiled. A specification that says nothing about null values requires one. -/
def Draft.compile (d : Draft V) (g : Gathered) : Except String (Gathered × Scope V) :=
  match Clause.ofCommands? d.commands with
  | .error text => .error text
  | .ok clauses =>
    let (g, parts) := Clause.compileAll clauses g
    let (g, presence) := match lastSome Part.presence? parts with
      | some presence => (g, presence)
      | none =>
        let (registry, id) := g.registry.register Fault.required
        ({ g with registry }, .required (some id))
    .ok (g, ⟨d.type, presence, d.isNull, parts.filterMap Part.step?⟩)

/-- How far compilation has come. -/
structure Progress (V : Type) where
  gathered : Gathered
  issues : List LocatedIssue
  scopes : List (Scope V)

namespace Progress

/-- Before the first scope. -/
def start (root : SpecId) : Progress V := ⟨⟨Registry.empty, [root]⟩, [], []⟩

/-- The specification that comes next. -/
def next? (p : Progress V) : Option SpecId := p.gathered.seen[p.scopes.length]?

/-- One more scope. -/
def compile (catalogue : Catalogue V) (p : Progress V) (id : SpecId) :
    Except BuildError (Progress V) :=
  match catalogue.draft? id with
  | none => .error (.undefinedSpec id (catalogue.typeName id))
  | some draft =>
    match draft.compile p.gathered with
    | .error text => .error (.unexpected text)
    | .ok (gathered, scope) => .ok ⟨gathered, p.issues ++ draft.issues, p.scopes ++ [scope]⟩

/-- Scopes until none is left. Every specification is compiled at most once, so their number is
    enough rounds. -/
def finish (catalogue : Catalogue V) : (rounds : Nat) → Progress V →
    Except BuildError (Progress V)
  | 0, p =>
    match p.next? with
    | none => .ok p
    | some _ => .error (.unexpected ("scope " ++ scopeName p.scopes.length ++ " was never compiled"))
  | rounds + 1, p =>
    match p.next? with
    | none => .ok p
    | some id =>
      match p.compile catalogue id with
      | .error e => .error e
      | .ok p => finish catalogue rounds p

end Progress

/-! ## 3. Schemes -/

/-- The scheme of a specification and of all it refers to. -/
def Scheme.build? (catalogue : Catalogue V) (root : SpecId) : Except BuildError (Scheme V) :=
  match (Progress.start root).finish catalogue (catalogue.specs.length + 1) with
  | .error e => .error e
  | .ok p =>
    if p.issues.isEmpty then
      let survey := Survey.ofScopes p.gathered.registry p.scopes
      .ok {
        rootType := catalogue.typeName root
        scopes := p.scopes
        registry := survey.registry
        template := survey.template
        resolved := survey.resolved
        loopPossible := survey.loopPossible }
    else .error (.invalid p.issues)

end Assay
