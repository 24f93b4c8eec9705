import Assay.Fault.Map
import Assay.Path.Index
import Assay.Path.Resolve
import Assay.Scheme

/-!
# The state of a visit

A visit carries what it has recorded, where it is, and which values it is inside of. Where it is is a
stack of generic paths, each with the position of the item it belongs to, if it is an item; recorded
paths are generic paths with these positions put in.

Behind a link that replaces faults nothing is recorded. The first failure there is remembered as a
hit, and nothing more has to be looked at.

Relative paths are resolved here as they come. A scheme remembers those that it resolved when it was
built, and `Scheme.resolvePath` looks them up; in a scheme that was built both give the same.
-/

namespace Assay.Visit

/-! ## 1. Where a visit is -/

/-- A generic path, and the position of the item it belongs to. -/
structure Level where
  path : String
  index : Option Nat
  deriving DecidableEq, Repr

/-- A value that is being visited: the scope, the identity of the value, and its path. -/
structure Active where
  scope : ScopeId
  place : Place
  path : String
  deriving DecidableEq, Repr

/-- What changes in the course of a visit. -/
structure State where
  /-- What has been recorded, in order. -/
  records : List Record
  /-- The levels entered, the innermost first. -/
  levels : List Level
  /-- The values being visited, the innermost first, whether they have a size or not. -/
  active : List Active
  /-- Enough has been recorded. -/
  stopped : Bool
  /-- How many links that replace faults have been entered. -/
  replacing : Nat
  /-- The innermost of these links has met a failure. -/
  hit : Bool
  /-- How many failures there have been, recorded or not. -/
  discovered : Nat
  deriving DecidableEq, Repr

namespace State

/-- Before anything is visited. -/
def start : State := ⟨[], [], [], false, 0, false, 0⟩

/-- The generic path where the visit is. -/
def path (s : State) : String := (s.levels.head?.map (·.path)).getD ""

/-- The positions of the items entered, innermost first. -/
def indexes (s : State) : List String := s.levels.filterMap fun l => l.index.map toString

/-- A generic path with the positions put in. -/
def concrete (s : State) (path : String) : String := Path.fill path s.indexes

/-- Nothing more has to be looked at here. -/
def halted (s : State) : Bool := s.stopped || (s.replacing != 0 && s.hit)

/-! ## 2. Moving -/

/-- One level down, along a relative path. -/
def enter (s : State) (relative : String) (index : Option Nat) : State :=
  { s with levels := ⟨Path.resolve s.path relative, index⟩ :: s.levels }

/-- One level up. -/
def leave (s : State) : State := { s with levels := s.levels.tail }

/-- One level down to a reached value, unless it stays where it is. -/
def enterSegment (s : State) : Segment → State
  | .stay => s
  | .index position => s.enter Path.marker (some position)
  | .key segment => s.enter segment none

/-- Back from a reached value. -/
def leaveSegment (s : State) : Segment → State
  | .stay => s
  | .index _ | .key _ => s.leave

/-- One level down along the path of a link, if it has one. -/
def enterPath (s : State) : Option String → State
  | none => s
  | some relative => s.enter relative none

/-- Back from a link. -/
def leavePath (s : State) : Option String → State
  | none => s
  | some _ => s.leave

/-- The value with this identity that this scope is inside of. -/
def find? (s : State) (scope : ScopeId) (place : Place) : Option Active :=
  s.active.find? fun a => a.scope == scope && a.place == place

/-- Begins the visit of a value. -/
def push (s : State) (scope : ScopeId) (place : Place) : State :=
  { s with active := ⟨scope, place, s.concrete s.path⟩ :: s.active }

/-- Ends the visit of a value. -/
def pop (s : State) : State := { s with active := s.active.tail }

/-- Into a link that replaces faults, where nothing has been hit yet. -/
def hide (s : State) : State := { s with hit := false, replacing := s.replacing + 1 }

/-- Out of a link that replaces faults, back to the hit there was before. -/
def unhide (s : State) (hit : Bool) : State := { s with hit, replacing := s.replacing - 1 }

/-! ## 3. Recording -/

/-- A failure, recorded at a path relative to where the visit is. In a hurry, the first record is
    enough. A failure without a fault leaves no record. -/
def fail (s : State) (hurried : Bool) (fault : Option FaultId) (relative : Option String) : State :=
  let s := { s with discovered := s.discovered + 1 }
  if s.replacing != 0 then { s with hit := true }
  else match fault with
    | none => s
    | some id =>
      { s with
        records := s.records ++ [⟨s.concrete (Path.along s.path relative), id⟩]
        stopped := s.stopped || hurried }

end State

end Assay.Visit
