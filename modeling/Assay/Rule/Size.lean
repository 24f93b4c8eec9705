import Assay.Number.Digits
import Assay.Rule

/-!
# Rules about sizes

Lengths of texts and sizes of collections are counted and compared in the same ways. The rules differ
in their keys and in the names of their arguments.
-/

namespace Assay.Rule

variable {α : Type}

/-- A count as an argument. -/
def countArg (name : String) (n : Nat) : Arg := ⟨name, .integer n⟩

/-- The size is a given one. -/
def exactly (size : α → Nat) (key name : String) (n : Nat) : Rule α :=
  make key [countArg name n] fun v => size v == n

/-- The size is no smaller than a bound. -/
def atLeast (size : α → Nat) (key : String) (min : Nat) : Rule α :=
  make key [countArg "min" min] fun v => min ≤ size v

/-- The size is no larger than a bound. -/
def atMost (size : α → Nat) (key : String) (max : Nat) : Rule α :=
  make key [countArg "max" max] fun v => size v ≤ max

/-- The size is within bounds, both included. -/
def withinSizes (size : α → Nat) (key : String) (min max : Nat) : Rule α :=
  (make key [countArg "min" min, countArg "max" max] fun v => min ≤ size v && size v ≤ max).check
    (min ≤ max) (.range (Number.integerText min) (Number.integerText max) true)

/-! ## Collections -/

namespace Collection

def exactSize (n : Nat) : Rule Nat := exactly id "Collections.ExactCollectionSize" "size" n

def isEmpty : Rule Nat := make "Collections.EmptyCollection" [] fun n => n == 0

def notEmpty : Rule Nat := make "Collections.NotEmptyCollection" [] fun n => n != 0

def minSize (min : Nat) : Rule Nat := atLeast id "Collections.MinCollectionSize" min

def maxSize (max : Nat) : Rule Nat := atMost id "Collections.MaxCollectionSize" max

def sizeBetween (min max : Nat) : Rule Nat :=
  withinSizes id "Collections.CollectionSizeBetween" min max

end Collection

end Assay.Rule
