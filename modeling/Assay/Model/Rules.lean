import Assay.Model.Datum
import Assay.Rule.Number
import Assay.Rule.Text
import Assay.Rule.Value

/-!
# Built-in rules by name

Each kind of data has its rules. They are asked for by name with arguments that are data themselves;
a name that is not known for the kind, or arguments of other kinds, give no rule.
-/

namespace Assay.Model

/-- The rule for texts with a name. -/
def textRule? (name : String) (args : List Datum) : Option (Rule String) :=
  match name, args with
  | "equal_to", [.text t] => some (Rule.Text.equalTo t)
  | "not_equal_to", [.text t] => some (Rule.Text.notEqualTo t)
  | "contains", [.text t] => some (Rule.Text.contains t)
  | "not_contains", [.text t] => some (Rule.Text.notContains t)
  | "starts_with", [.text t] => some (Rule.Text.startsWith t)
  | "ends_with", [.text t] => some (Rule.Text.endsWith t)
  | "not_empty", [] => some Rule.Text.notEmpty
  | "not_white_space", [] => some Rule.Text.notWhiteSpace
  | "single_line", [] => some Rule.Text.singleLine
  | "exact_length", [.integer _ n] => some (Rule.Text.exactLength n.toNat)
  | "min_length", [.integer _ n] => some (Rule.Text.minLength n.toNat)
  | "max_length", [.integer _ n] => some (Rule.Text.maxLength n.toNat)
  | "length_between", [.integer _ a, .integer _ b] => some (Rule.Text.lengthBetween a.toNat b.toNat)
  | "matches", [.text t] => some (Rule.Text.matchesPattern t)
  | "email", [] => some Rule.Text.email
  | _, _ => none

/-- The rule for numbers with a name. -/
def numberRule? {α : Type} [Rule.Numeric α] (name : String) (args : List α) : Option (Rule α) :=
  match name, args with
  | "equal_to", [x] => some (Rule.Number.equalTo x)
  | "not_equal_to", [x] => some (Rule.Number.notEqualTo x)
  | "greater_than", [x] => some (Rule.Number.greaterThan x)
  | "greater_than_or_equal_to", [x] => some (Rule.Number.greaterThanOrEqualTo x)
  | "less_than", [x] => some (Rule.Number.lessThan x)
  | "less_than_or_equal_to", [x] => some (Rule.Number.lessThanOrEqualTo x)
  | "between", [x, y] => some (Rule.Number.between x y)
  | "between_or_equal_to", [x, y] => some (Rule.Number.betweenOrEqualTo x y)
  | "non_zero", [] => some Rule.Number.nonZero
  | "positive", [] => some Rule.Number.positive
  | "non_positive", [] => some Rule.Number.nonPositive
  | "negative", [] => some Rule.Number.negative
  | "non_negative", [] => some Rule.Number.nonNegative
  | "non_nan", [] => some Rule.Number.nonNaN
  | _, _ => none

/-- The rule for sizes of lists with a name. -/
def sizeRule? (name : String) (args : List Datum) : Option (Rule Nat) :=
  match name, args with
  | "exact_collection_size", [.integer _ n] => some (Rule.Collection.exactSize n.toNat)
  | "empty_collection", [] => some Rule.Collection.isEmpty
  | "not_empty_collection", [] => some Rule.Collection.notEmpty
  | "min_collection_size", [.integer _ n] => some (Rule.Collection.minSize n.toNat)
  | "max_collection_size", [.integer _ n] => some (Rule.Collection.maxSize n.toNat)
  | "collection_size_between", [.integer _ a, .integer _ b] =>
    some (Rule.Collection.sizeBetween a.toNat b.toNat)
  | _, _ => none

/-- The rule for truth values with a name. -/
def flagRule? (name : String) : Option (Rule Bool) :=
  match name with
  | "true_value" => some Rule.Flag.isTrue
  | "false_value" => some Rule.Flag.isFalse
  | _ => none

/-- The rule for identifiers with a name. -/
def guidRule? (name : String) (args : List Datum) : Option (Rule Guid) :=
  match name, args with
  | "not_nil", [] => some Rule.Identifier.notNil
  | "equal_to_guid", [.guid x] => some (Rule.Identifier.equalTo x)
  | "not_equal_to_guid", [.guid x] => some (Rule.Identifier.notEqualTo x)
  | _, _ => none

/-- The rule for moments with a name. -/
def timeRule? (name : String) (args : List Datum) : Option (Rule Time.Moment) :=
  match name, args with
  | "after", [.time x] => some (Rule.Instant.after x)
  | "before", [.time x] => some (Rule.Instant.before x)
  | "between_times", [.time x, .time y] => some (Rule.Instant.between x y)
  | _, _ => none

/-- The call of the rule for a kind with a name. -/
def ruleCall? (kind : Kind) (name : String) (args : List Datum) : Option (Call Datum) :=
  let number {α : Type} [Rule.Numeric α] (view : Datum → Option α) : Option (Call Datum) :=
    ((args.mapM view).bind (numberRule? name)).map (·.call view)
  match kind with
  | .text => (textRule? name args).map (·.call Datum.text?)
  | .integer _ => number Datum.integer?
  | .single => number Datum.single?
  | .double => number Datum.double?
  | .list => (sizeRule? name args).map (·.call Datum.itemCount?)
  | .flag => (flagRule? name).map (·.call Datum.flag?)
  | .guid => (guidRule? name args).map (·.call Datum.guid?)
  | .time => (timeRule? name args).map (·.call Datum.time?)
  | _ => none

/-- The rules for texts whose arguments are lengths. -/
def lengthRules : List String := ["exact_length", "min_length", "max_length", "length_between"]

/-- The kind of the arguments of a rule: a value of the kind it tests, or a size. -/
def argKind (kind : Kind) (name : String) : Kind :=
  match kind with
  | .list => .integer .usize
  | .text => if name ∈ lengthRules then .integer .usize else .text
  | kind => kind

end Assay.Model
