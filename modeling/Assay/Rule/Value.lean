import Assay.Rule

/-!
# Rules about truth values, identifiers and moments

Moments are compared as instants, whatever zone they are shown in; the bounds of a span of time are
excluded.
-/

namespace Assay.Rule

open Assay.Time

namespace Flag

def isTrue : Rule Bool := make "Bools.True" [] fun v => v

def isFalse : Rule Bool := make "Bools.False" [] fun v => !v

end Flag

namespace Identifier

/-- An identifier as the argument called `value`. -/
def valueArg (g : Guid) : List Arg := [⟨"value", .guid g⟩]

def notNil : Rule Guid := make "Guids.NotNil" [] fun v => v != Guid.nil

def equalTo (g : Guid) : Rule Guid := make "Guids.EqualTo" (valueArg g) fun v => v == g

def notEqualTo (g : Guid) : Rule Guid := make "Guids.NotEqualTo" (valueArg g) fun v => v != g

end Identifier

namespace Instant

/-- A moment as an argument. -/
def momentArg (name : String) (m : Moment) : Arg := ⟨name, .time m⟩

def after (min : Moment) : Rule Moment :=
  make "Times.After" [momentArg "min" min] fun v => min.lt v

def before (max : Moment) : Rule Moment :=
  make "Times.Before" [momentArg "max" max] fun v => v.lt max

def between (min max : Moment) : Rule Moment :=
  (make "Times.BetweenTimes" [momentArg "min" min, momentArg "max" max] fun v =>
    min.lt v && v.lt max).check (min.lt max) (.range min.universalText max.universalText false)

end Instant

end Assay.Rule
