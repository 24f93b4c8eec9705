import Assay.Failure
import Assay.Visit.State

/-!
# Visits

A visit goes through a value and all that its scheme leads to, and records what fails. It can be in a
hurry, and end with the first record, and it can watch for values that it is already inside of.

The functions of this file call each other through a parameter, the way into a scope (`Enter`), and
only `scope` ties the knot: it goes down one level of its bound for each scope that lies inside
another. A visit that would go deeper than its bound ends with `tooDeep`; more depth never changes
how any other visit ends.

Each function also gives the state in which it ended with an error, so that it can be said of every
end that the visit is back where it was.
-/

namespace Assay.Visit

variable {V : Type}

/-! ## 1. Ways and outcomes -/

/-- How a visit is made. -/
structure Mode where
  /-- The first record is enough. -/
  hurried : Bool
  /-- Values with a size that are met inside themselves are errors. -/
  guarded : Bool
  deriving DecidableEq, Repr

/-- The state that was reached, and the error that ended the visit there. -/
structure Outcome where
  state : State
  error : Option VisitError
  deriving DecidableEq, Repr

namespace Outcome

/-- An end without an error. -/
def ok (s : State) : Outcome := ⟨s, none⟩

/-- The outcome with its state changed. -/
def map (o : Outcome) (f : State → State) : Outcome := ⟨f o.state, o.error⟩

/-- What follows an end without an error. -/
def next (o : Outcome) (f : State → Outcome) : Outcome :=
  match o.error with
  | some _ => o
  | none => f o.state

/-- What has been recorded at an end without an error. -/
def result (o : Outcome) : Except VisitError (List Record) :=
  match o.error with
  | some e => .error e
  | none => .ok o.state.records

end Outcome

/-- A way into a scope with a value and its identity, or with a null value. -/
abbrev Enter (V : Type) := ScopeId → Option (V × Place) → State → Outcome

/-! ## 2. Links -/

/-- A value reached by a link. -/
def reached (enter : Enter V) (target : ScopeId) (place : Place) (depth : Nat)
    (segment : Segment) (value : Option (V × Locus)) (s : State) : Outcome :=
  let value := value.map fun found => (found.1, place.reach depth found.2)
  (enter target value (s.enterSegment segment)).map (·.leaveSegment segment)

/-- The values reached by a link, one after another as long as there is something to look for. -/
def reachedAll (enter : Enter V) (target : ScopeId) (place : Place) (depth : Nat) :
    List (Segment × Option (V × Locus)) → State → Outcome
  | [], s => .ok s
  | (segment, value) :: rest, s =>
    (reached enter target place depth segment value s).next fun s =>
      if s.halted then .ok s else reachedAll enter target place depth rest s

/-- What a link leads to, with its faults shown as it says. -/
def shown (mode : Mode) (showing : Showing) (run : State → Outcome) (s : State) : Outcome :=
  match showing with
  | .nested => run s
  | .replaced fault =>
    let o := run s.hide
    (o.map (·.unhide s.hit)).next fun t =>
      .ok (if o.state.hit then t.fail mode.hurried fault none else t)
  | .extended fault =>
    let before := s.discovered
    (run s).next fun s =>
      .ok (if before < s.discovered then s.fail mode.hurried (some fault) none else s)

/-- A link of a scope. -/
def link (mode : Mode) (enter : Enter V) (v : V) (place : Place) (step : LinkStep V) (s : State) :
    Outcome :=
  let run (s : State) : Outcome :=
    reachedAll enter step.target place s.active.length (step.transition.reach v) s
  (shown mode step.showing run (s.enterPath step.path)).map (·.leavePath step.path)

/-! ## 3. Steps -/

/-- The step runs for the value. -/
def applies (condition : Option (V → Bool)) (v : V) : Bool :=
  match condition with
  | some holds => holds v
  | none => true

/-- The steps of a scope, as long as there is something to look for. -/
def steps (mode : Mode) (enter : Enter V) (v : V) (place : Place) :
    List (Step V) → State → Outcome
  | [], s => .ok s
  | step :: rest, s =>
    if s.halted then .ok s
    else match step with
      | .guard holds => if holds v then steps mode enter v place rest s else .ok s
      | .rule rule =>
        steps mode enter v place rest
          (if applies rule.condition v && !rule.holds v then
            s.fail mode.hurried rule.fault rule.path
          else s)
      | .link l =>
        if applies l.condition v then
          (link mode enter v place l s).next (steps mode enter v place rest)
        else steps mode enter v place rest s

/-! ## 4. Scopes -/

/-- A value that is neither null nor forbidden. If the visit is guarded, the scope must not be inside
    this value already. Only values of the same scope are looked for, so if they have no size nothing
    is ever looked up among them, and it does no harm that they are kept with the others. -/
def inside (mode : Mode) (enter : Enter V) (id : ScopeId) (sc : Scope V) (v : V) (place : Place)
    (s : State) : Outcome :=
  match if mode.guarded && sc.type.sized then s.find? id place else none with
  | some first =>
    ⟨s, some (.referenceLoop sc.typeName first.path (s.concrete s.path))⟩
  | none => (steps mode enter v place sc.steps (s.push id place)).map State.pop

/-- A scope with a value or a null value. -/
def body (mode : Mode) (enter : Enter V) (id : ScopeId) (sc : Scope V)
    (value : Option (V × Place)) (s : State) : Outcome :=
  match value.filter fun found => !sc.treatsAsNull found.1 with
  | none =>
    match sc.presence with
    | .required fault => .ok (s.fail mode.hurried fault none)
    | _ => .ok s
  | some (v, place) =>
    match sc.presence with
    | .forbidden fault => .ok (s.fail mode.hurried fault none)
    | _ => inside mode enter id sc v place s

/-- The way into the scopes of a scheme, down to a depth. That a value is of the type of its scope is
    not looked at: a link is made with a specification for the values that it reaches, and leads to the
    scope that this specification becomes, so the types exclude any other. What remains is a number
    without a scope, and the schemes that are built have none. -/
def scope (mode : Mode) (scheme : Scheme V) : (depth : Nat) → Enter V
  | 0, _, _, s => ⟨s, some .tooDeep⟩
  | depth + 1, id, value, s =>
    match scheme.scopes[id]? with
    | none => ⟨s, some (.unexpected ("scope " ++ scopeName id ++ " is not there"))⟩
    | some sc => body mode (scope mode scheme depth) id sc value s

/-! ## 5. Visits -/

/-- A visit of a value with an identity: what it records, in order, or the error it ends with. -/
def records (mode : Mode) (scheme : Scheme V) (depth : Nat) (v : V) (place : Place) :
    Except VisitError (List Record) :=
  (scope mode scheme depth scheme.root (some (v, place)) .start).result

/-- A visit of a value with an identity: what it records by path, or the error it ends with. -/
def run (mode : Mode) (scheme : Scheme V) (depth : Nat) (v : V) (place : Place) :
    Except VisitError FaultMap :=
  (records mode scheme depth v place).map FaultMap.ofRecords

end Assay.Visit
