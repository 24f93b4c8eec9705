import Assay.Fault

/-!
# Faults by path

What a visit records, and what a scheme can record, is a map from paths to numbers of faults. Paths
stand in the order in which they were first written to, and the numbers at a path in the order in
which they came.

A visit makes its records one after another; `FaultMap.ofRecords` sorts them by path.
-/

namespace Assay

/-- A fault with the path it is recorded at. -/
structure Record where
  path : String
  fault : FaultId
  deriving DecidableEq, Repr

/-- Paths with the faults recorded there, both in the order of recording. -/
structure FaultMap where
  entries : List (String × List FaultId)
  deriving DecidableEq, Repr

namespace FaultMap

def empty : FaultMap := ⟨[]⟩

/-- The faults recorded at a path. -/
def get? (m : FaultMap) (path : String) : Option (List FaultId) := m.entries.lookup path

/-- A fault put behind the others of its path in a list of entries. -/
def pushInto (path : String) (id : FaultId) :
    List (String × List FaultId) → List (String × List FaultId)
  | [] => [(path, [id])]
  | (p, ids) :: rest =>
    if p = path then (p, ids ++ [id]) :: rest else (p, ids) :: pushInto path id rest

/-- Records a fault at a path. -/
def push (m : FaultMap) (path : String) (id : FaultId) : FaultMap :=
  ⟨pushInto path id m.entries⟩

/-- Records a fault at a path unless it is already there. -/
def pushUnique (m : FaultMap) (path : String) (id : FaultId) : FaultMap :=
  if ((m.get? path).getD []).contains id then m else m.push path id

/-- Records put into a map one after another. -/
def ofRecords (records : List Record) : FaultMap :=
  records.foldl (fun m r => m.push r.path r.fault) empty

def isEmpty (m : FaultMap) : Bool := m.entries.isEmpty

/-- How many paths there are. -/
def size (m : FaultMap) : Nat := m.entries.length

def paths (m : FaultMap) : List String := m.entries.map Prod.fst

/-- All records, path by path. -/
def ids (m : FaultMap) : List FaultId := m.entries.flatMap Prod.snd

end FaultMap

end Assay
