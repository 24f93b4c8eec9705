import Assay.Fault

/-!
# The registry of faults

A scheme keeps each fault once and refers to it by its number. Numbers are given in the order of
first registration, without gaps, and a number never changes what it stands for.
-/

namespace Assay

/-- Distinct faults, numbered by their positions. -/
structure Registry where
  faults : List Fault
  deriving Repr

namespace Registry

def empty : Registry := ⟨[]⟩

/-- The number of a fault with the same content. -/
def find? (r : Registry) (fault : Fault) : Option FaultId := r.faults.findIdx? (· == fault)

/-- The number of a fault, which is a new one if the fault is not there yet. -/
def register (r : Registry) (fault : Fault) : Registry × FaultId :=
  match r.find? fault with
  | some id => (r, id)
  | none => (⟨r.faults ++ [fault]⟩, r.faults.length)

/-- The fault behind a number. -/
def get? (r : Registry) (id : FaultId) : Option Fault := r.faults[id]?

/-- How many faults there are. -/
def size (r : Registry) : Nat := r.faults.length

/-- The codes of a fault by its number. -/
def codesOf (r : Registry) (id : FaultId) : List String := ((r.get? id).map Fault.allCodes).getD []

/-- Several faults one after another, with the numbers they got. -/
def registerAll (r : Registry) : List Fault → Registry × List FaultId
  | [] => (r, [])
  | fault :: rest =>
    let (r, id) := r.register fault
    let (r, ids) := r.registerAll rest
    (r, id :: ids)

end Registry

end Assay
