import Assay.Proofs.Visit.Balance

/-!
# Where a visit is

A visit keeps a stack of levels. What it says about where the visit is are two things only: the
generic path on its top, and the positions of the items entered, the innermost first. A `Spot` is
these two without the stack; moving on gives a new spot and leaves the old one alone.

* `State.spot` -- the spot of a state; `spot_enterPath` and `spot_enterSegment` say that moving the
  state moves its spot;
* `concrete_along` -- a failure of a state is recorded at the concrete path of its spot.
-/

namespace Assay.Visit

/-- A generic path, and the positions of the items entered on the way to it, innermost first. -/
structure Spot where
  path : String
  indexes : List Nat
  deriving DecidableEq, Repr

namespace Spot

/-- Where a visit begins. -/
def root : Spot := ⟨"", []⟩

/-- Along a relative path, if there is one. -/
def along (s : Spot) (relative : Option String) : Spot := { s with path := Path.along s.path relative }

/-- To a reached value. -/
def into (s : Spot) : Segment → Spot
  | .stay => s
  | .index position => ⟨Path.resolve s.path Path.marker, position :: s.indexes⟩
  | .key segment => ⟨Path.resolve s.path segment, s.indexes⟩

/-- The path with the positions put in. -/
def concrete (s : Spot) : String := Path.fill s.path (s.indexes.map toString)

end Spot

namespace State

/-- Where the visit is. -/
def spot (s : State) : Spot := ⟨s.path, s.levels.filterMap (·.index)⟩

end State

theorem spot_of_levels {s t : State} (h : t.levels = s.levels) : t.spot = s.spot := by
  simp only [State.spot, State.path, h]

theorem spot_enterPath (s : State) (path : Option String) :
    (s.enterPath path).spot = s.spot.along path := by
  cases path <;> rfl

theorem spot_enterSegment (s : State) (segment : Segment) :
    (s.enterSegment segment).spot = s.spot.into segment := by
  cases segment <;> rfl

/-- A reached value is visited at an identity, and is itself. -/
theorem fst_place {V : Type} (value : Option (V × Locus)) (place : Place) (depth : Nat) :
    (value.map fun found => (found.1, place.reach depth found.2)).map Prod.fst =
      value.map Prod.fst := by
  cases value <;> rfl

theorem indexes_eq (s : State) : s.indexes = s.spot.indexes.map toString := by
  simp only [State.indexes, State.spot, List.map_filterMap]

theorem concrete_along (s : State) (relative : Option String) :
    s.concrete (Path.along s.path relative) = (s.spot.along relative).concrete := by
  rw [State.concrete, indexes_eq]
  rfl

end Assay.Visit
