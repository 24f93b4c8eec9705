import Assay.Fault.Map
import Assay.Fault.Registry
import Assay.Path.Resolve
import Assay.Specification.Transition

/-!
# Schemes

A scheme is a graph of specifications made ready for visits. Each specification has become a scope:
what a null value means in it, and its steps. Faults are numbers of one registry, and links lead to
numbers of scopes; the root has number 0.

A scheme also knows what it could report: the template lists every fault at the generic paths at
which it could be recorded, and `loopPossible` tells whether a value could be met inside itself.
-/

namespace Assay

/-- The number of a scope. -/
abbrev ScopeId := Nat

/-- The text of a scope's number. -/
def scopeName (id : ScopeId) : String := "S" ++ toString id

/-! ## 1. Scopes -/

/-- What a null value, or any value, means in a scope. A fault without content has no number. -/
inductive Presence where
  | required (fault : Option FaultId)
  | optional
  | forbidden (fault : Option FaultId)
  deriving DecidableEq, Repr

/-- The fault that presence can record. -/
def Presence.fault : Presence → Option FaultId
  | required fault | forbidden fault => fault
  | optional => none

/-- How faults found behind a link show. -/
inductive Showing where
  /-- As they are. -/
  | nested
  /-- As one fault at the path of the link. -/
  | replaced (fault : Option FaultId)
  /-- As they are, and one more fault at the path of the link. -/
  | extended (fault : FaultId)
  deriving DecidableEq, Repr

namespace Showing

/-- The fault at the path of the link. -/
def fault : Showing → Option FaultId
  | nested => none
  | replaced fault => fault
  | extended fault => some fault

/-- Faults behind the link are not recorded. -/
def hides : Showing → Bool
  | replaced _ => true
  | _ => false

end Showing

/-- A test of a value. -/
structure RuleStep (V : Type) where
  condition : Option (V → Bool)
  holds : V → Bool
  fault : Option FaultId
  /-- Where the fault is recorded, seen from the scope. -/
  path : Option String

/-- A way to the values of another scope. -/
structure LinkStep (V : Type) where
  condition : Option (V → Bool)
  transition : Transition V
  target : ScopeId
  /-- The path of the link, seen from the scope. -/
  path : Option String
  showing : Showing

/-- One step of a scope. -/
inductive Step (V : Type) where
  /-- The steps behind it are for values that pass it. -/
  | guard (holds : V → Bool)
  | rule (step : RuleStep V)
  | link (step : LinkStep V)

/-- A specification made ready. -/
structure Scope (V : Type) where
  /-- The type of the values it is for. -/
  type : ValueType
  presence : Presence
  isNull : Option (V → Bool)
  steps : List (Step V)

/-- The name of the type of its values. -/
def Scope.typeName {V : Type} (s : Scope V) : String := s.type.name

/-- The value counts as null in the scope. -/
def Scope.treatsAsNull {V : Type} (s : Scope V) (v : V) : Bool :=
  match s.isNull with
  | some isNull => isNull v
  | none => false

/-! ## 2. Schemes -/

/-- A graph of specifications made ready. -/
structure Scheme (V : Type) where
  /-- The type of the root. -/
  rootType : String
  scopes : List (Scope V)
  registry : Registry
  template : FaultMap
  /-- Paths that were resolved on the way: base, relative path, result; the newest first. -/
  resolved : List ((String × String) × String)
  loopPossible : Bool

namespace Scheme

variable {V : Type}

/-- The number of the root scope. -/
def root (_ : Scheme V) : ScopeId := 0

def scopeCount (s : Scheme V) : Nat := s.scopes.length

/-- The values of a scope have a size. -/
def sized (s : Scheme V) (id : ScopeId) : Bool := (s.scopes[id]?).any (·.type.sized)

/-- The types of the scopes, by number. -/
def scopeTypes (s : Scheme V) : List String := s.scopes.map (·.typeName)

/-- A relative path read at a base, looked up if it was resolved before. -/
def resolvePath (s : Scheme V) (base relative : String) : String :=
  (s.resolved.lookup (base, relative)).getD (Path.resolve base relative)

end Scheme

end Assay
