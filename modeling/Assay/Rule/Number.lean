import Assay.Number.Digits
import Assay.Number.Shortest
import Assay.Rule

/-!
# Rules about numbers

The rules are the same for whole numbers and for numbers of a binary format; `Numeric` says what they
need to know. Nothing compares with what is not a number, so such a value fails every rule but
`notEqualTo`.
-/

namespace Assay.Rule

open Assay.Number

/-- Numbers that rules can be about. -/
class Numeric (α : Type) where
  zero : α
  lt : α → α → Bool
  le : α → α → Bool
  eq : α → α → Bool
  isNaN : α → Bool
  /-- The number as an argument. -/
  toValue : α → ArgValue
  text : α → String

instance : Numeric Int where
  zero := 0
  lt a b := a < b
  le a b := a ≤ b
  eq a b := a == b
  isNaN _ := false
  toValue := .integer
  text := integerText

instance : Numeric Double where
  zero := Binary.zero
  lt := Binary.lt
  le := Binary.le
  eq := Binary.eq
  isNaN := Binary.isNaN
  toValue := .float
  text := Binary.text

instance : Numeric Single where
  zero := Binary.zero
  lt := Binary.lt
  le := Binary.le
  eq := Binary.eq
  isNaN := Binary.isNaN
  toValue x := .float x.widen
  text := Binary.text

namespace Number

variable {α : Type} [Numeric α]

open Numeric

/-- A number as an argument. -/
def numberArg (name : String) (x : α) : Arg := ⟨name, toValue x⟩

def equalTo (x : α) : Rule α := make "Numbers.EqualTo" [numberArg "value" x] fun v => eq v x

def notEqualTo (x : α) : Rule α :=
  make "Numbers.NotEqualTo" [numberArg "value" x] fun v => !eq v x

def greaterThan (min : α) : Rule α :=
  make "Numbers.GreaterThan" [numberArg "min" min] fun v => lt min v

def greaterThanOrEqualTo (min : α) : Rule α :=
  make "Numbers.GreaterThanOrEqualTo" [numberArg "min" min] fun v => le min v

def lessThan (max : α) : Rule α :=
  make "Numbers.LessThan" [numberArg "max" max] fun v => lt v max

def lessThanOrEqualTo (max : α) : Rule α :=
  make "Numbers.LessThanOrEqualTo" [numberArg "max" max] fun v => le v max

/-- Within bounds, both excluded. -/
def between (min max : α) : Rule α :=
  (make "Numbers.Between" [numberArg "min" min, numberArg "max" max] fun v =>
    lt min v && lt v max).check (lt min max) (.range (text min) (text max) false)

/-- Within bounds, both included. -/
def betweenOrEqualTo (min max : α) : Rule α :=
  (make "Numbers.BetweenOrEqualTo" [numberArg "min" min, numberArg "max" max] fun v =>
    le min v && le v max).check (le min max) (.range (text min) (text max) true)

def nonZero : Rule α := make "Numbers.NonZero" [] fun v => !isNaN v && !eq v zero

def positive : Rule α := make "Numbers.Positive" [] fun v => lt zero v

def nonPositive : Rule α := make "Numbers.NonPositive" [] fun v => le v zero

def negative : Rule α := make "Numbers.Negative" [] fun v => lt v zero

def nonNegative : Rule α := make "Numbers.NonNegative" [] fun v => le zero v

def nonNaN : Rule α := make "Numbers.NonNaN" [] fun v => !isNaN v

end Number

end Assay.Rule
