import Assay.Path

/-!
# Transitions

A link of a specification leads from a value to others: a member, the items of a collection, the
value an optional one holds, the result of a conversion. A transition says which values are reached,
by which segment each lies below the path of the link, and where it lies in memory, so that a value
met inside itself can be told from an equal one beside it. Values without a size cannot be told apart
in this way, and their type says so.
-/

namespace Assay

/-! ## 1. Kinds of links -/

/-- The kinds of links. -/
inductive LinkKind where
  | member
  | model
  | nullable
  | collection
  | dictionary
  | converted
  | cast
  deriving DecidableEq, Repr

namespace LinkKind

/-- The name of the kind. -/
def label : LinkKind → String
  | member => "Member"
  | model => "AsModel"
  | nullable => "AsNullable"
  | collection => "AsCollection"
  | dictionary => "AsDictionary"
  | converted => "AsConverted"
  | cast => "AsType"

/-- Links of this kind lead to the value itself or to a part of it, not to a new one. -/
def preservesIdentity : LinkKind → Bool
  | converted => false
  | _ => true

/-- The segment that stands for any of the values reached, for kinds that reach many. -/
def itemSegment : LinkKind → Option String
  | collection | dictionary => some Path.marker
  | _ => none

end LinkKind

/-! ## 2. Where a value lies -/

/-- Where a reached value lies, seen from the value it is reached from. -/
inductive Locus where
  /-- It is that value. -/
  | same
  /-- It is a part of that value. -/
  | part (key : String)
  /-- It is the object with a number, whoever holds it. -/
  | shared (number : Nat)
  /-- It was made just now. -/
  | made
  deriving DecidableEq, Repr

/-- Where a line of parts begins. -/
inductive Origin where
  | model
  | shared (number : Nat)
  /-- Made while this many values were being visited. -/
  | made (depth : Nat)
  deriving DecidableEq, Repr

/-- The identity of a value. -/
structure Place where
  origin : Origin
  /-- The parts that lead to it, the innermost first. -/
  parts : List String
  deriving DecidableEq, Repr

namespace Place

/-- The place of the value a visit begins with. -/
def model : Place := ⟨.model, []⟩

/-- The place of a value reached while `depth` values are being visited. -/
def reach (p : Place) (depth : Nat) : Locus → Place
  | .same => p
  | .part key => ⟨p.origin, key :: p.parts⟩
  | .shared number => ⟨.shared number, []⟩
  | .made => ⟨.made depth, []⟩

end Place

/-- A type of values: its name, and whether its values have a size. Values without a size may all lie
    in one place, so where such a value lies says nothing about it. -/
structure ValueType where
  name : String
  sized : Bool
  deriving DecidableEq, Repr

/-- A type that is only named has values with a size. -/
instance : Coe String ValueType := ⟨fun name => ⟨name, true⟩⟩

/-! ## 3. What is reached -/

/-- Where a reached value stands, below the path of the link. -/
inductive Segment where
  | stay
  | index (position : Nat)
  | key (segment : String)
  deriving DecidableEq, Repr

/-- A way from values to values. An absent member or inner value is reached as a null value; a cast
    that fails reaches nothing. -/
inductive Transition (V : Type) where
  | member (name : String) (select : V → Option (V × Locus))
  | model
  | nullable (inner : V → Option (V × Locus))
  | collection (items : V → List (V × Locus))
  /-- Values with the texts of their keys. -/
  | dictionary (entries : V → List (String × V × Locus))
  | converted (convert : V → V)
  | cast (narrow : V → Option (V × Locus))

namespace Transition

variable {V : Type}

def kind : Transition V → LinkKind
  | member _ _ => .member
  | model => .model
  | nullable _ => .nullable
  | collection _ => .collection
  | dictionary _ => .dictionary
  | converted _ => .converted
  | cast _ => .cast

/-- The name of a member. -/
def name? : Transition V → Option String
  | member name _ => some name
  | _ => none

/-- The values reached, in order, with their segments; `none` stands for null. -/
def reach : Transition V → V → List (Segment × Option (V × Locus))
  | member _ select, v => [(.stay, select v)]
  | model, v => [(.stay, some (v, .same))]
  | nullable inner, v => [(.stay, inner v)]
  | collection items, v => (items v).mapIdx fun i item => (.index i, some item)
  | dictionary entries, v =>
    (entries v).map fun (key, item) => (.key (Path.normalize key), some item)
  | converted convert, v => [(.stay, some (convert v, .made))]
  | cast narrow, v =>
    match narrow v with
    | some inner => [(.stay, some inner)]
    | none => []

end Transition

end Assay
