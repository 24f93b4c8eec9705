import Mathlib.Data.List.Basic
import Assay.Proofs.Specification.Legal

/-!
# Scripts

The order of commands is given by a table of states. A script is the same order as a grammar: what a
specification says first about values that are missing, then its items, and behind each of these what
belongs to it. This file says that the two are one: a chain of calls is accepted exactly if its commands
are those of a script.

* `Remark`, `Details`, `Item`, `Opening`, `Script` -- the grammar, and the clauses of each part;
* `Parameter.slot`, `Parameter.after` -- where a parameter stands among those of one command;
  `State.reached` -- the first slot that is left in a state; `next_parameter_iff` -- this is all that
  the table says about parameters;
* `run_parameters_iff` -- so parameters are accepted if their slots are left and go up;
  `ascending_iff` -- those that go up are the parameters of details, and no others;
* `run_item`, `item_of_run` -- what the table says about guards, rules and links with what follows;
* `run_items`, **`items_of_run`** -- behind the first command there are only items, and none behind
  `forbidden`;
* **`exists_script_iff`** -- the lattice lets commands through exactly if they are those of a script;
* **`write_iff_script`** -- the same of chains of calls.
-/

namespace Assay

open Specification

/-! ## 1. The grammar -/

/-- What takes the place of the messages that an error has of its own. -/
inductive Base where
  | message (text : String)
  | cleared
  deriving DecidableEq, Repr

/-- **What is said about an error**: what takes its place, more messages, a code, and more codes. -/
structure Remark where
  base : Option Base
  extraMessages : List String
  code : Option String
  extraCodes : List String
  deriving DecidableEq, Repr

/-- What is said about a rule or a link. -/
structure Details (V : Type) where
  condition : Option (V → Bool)
  placement : Option Placement
  remark : Remark

/-- A guard, or a rule or a link with its details. -/
inductive Item (V : Type) where
  | guard (holds : V → Bool)
  | rule (holds : V → Bool) (fault : Fault) (details : Details V)
  | link (transition : Transition V) (target : SpecId) (details : Details V)

/-- What is said first about values that are missing, if values are allowed. -/
inductive Opening where
  | unsaid
  | required (remark : Remark)
  | optional

/-- **A script**: no value is allowed, or there are items. -/
inductive Script (V : Type) where
  | forbidden (remark : Remark)
  | body (opening : Opening) (items : List (Item V))

variable {V : Type}

def Base.parameter : Base → Parameter V
  | message text => .message text
  | cleared => .cleared

def Placement.parameter : Placement → Parameter V
  | path text => .path text
  | name text => .name text

/-- The parameters of a remark, in their order. -/
def Remark.parameters (r : Remark) : List (Parameter V) :=
  r.base.toList.map Base.parameter ++ r.extraMessages.map .extraMessage ++
    r.code.toList.map .code ++ r.extraCodes.map .extraCode

def Details.parameters (d : Details V) : List (Parameter V) :=
  d.condition.toList.map .when ++ d.placement.toList.map Placement.parameter ++ d.remark.parameters

/-- An item is a clause. -/
def Item.clause : Item V → Clause V
  | guard holds => ⟨.guard holds, []⟩
  | rule holds fault details => ⟨.rule holds fault, details.parameters⟩
  | link transition target details => ⟨.link transition target, details.parameters⟩

def Opening.clauses : Opening → List (Clause V)
  | unsaid => []
  | required remark => [⟨.required, remark.parameters⟩]
  | «optional» => [⟨.optional, []⟩]

def Script.clauses : Script V → List (Clause V)
  | forbidden remark => [⟨.forbidden, remark.parameters⟩]
  | body opening items => opening.clauses ++ items.map Item.clause

/-- The commands of a script. -/
def Script.commands (s : Script V) : List (Command V) := s.clauses.flatMap Clause.commands

/-! ## 2. Slots -/

namespace Parameter

/-- Where the parameter stands among those of one command. -/
def slot : Parameter V → Nat
  | .when _ => 0
  | .path _ | .name _ => 1
  | .message _ | .cleared => 2
  | .extraMessage _ => 3
  | .code _ => 4
  | .extraCode _ => 5

/-- The first slot that is left behind the parameter: extras may come again. -/
def after : Parameter V → Nat
  | .when _ => 1
  | .path _ | .name _ => 2
  | .message _ | .cleared => 3
  | .extraMessage _ => 3
  | .code _ => 5
  | .extraCode _ => 5

theorem slot_le_after (p : Parameter V) : p.slot ≤ p.after := by
  cases p <;> simp [slot, after]

theorem slot_lt (p : Parameter V) : p.slot < 6 := by
  cases p <;> simp [slot]

/-- No slot goes down, and only extras come again. -/
def Ascending (parameters : List (Parameter V)) : Prop :=
  parameters.Pairwise fun earlier later => earlier.after ≤ later.slot

end Parameter

namespace Specification.State

/-- The first slot that is left in a state; none is left before the first command and behind one that
    takes no parameters. -/
def reached : State → Nat
  | rule => 0
  | condition => 1
  | place | required | forbidden => 2
  | message | extraMessage | forbiddenMessage | forbiddenExtraMessage => 3
  | code | extraCode | forbiddenCode | forbiddenExtraCode => 5
  | start | opened => 6

end Specification.State

/-- **What the table says about parameters**: a parameter may stand where its slot is left, and the
    slots behind it are left then. -/
theorem next_parameter_iff {s : State} {p : Parameter V} :
    (∃ t, s.next p.kind = some t) ↔ s.reached ≤ p.slot := by
  -- the whole table: every parameter in every state
  cases p <;> cases s <;> simp [State.next, Parameter.kind, State.reached, Parameter.slot,
    State.afterMessage, State.afterExtraMessage, State.afterCode, State.afterExtraCode]

theorem next_parameter {s t : State} {p : Parameter V} (h : s.next p.kind = some t) :
    t.reached = p.after ∧ t.isForbidden = s.isForbidden := by
  cases p <;> cases s <;> cases h <;> exact ⟨rfl, rfl⟩

/-- **Parameters are accepted** if their slots are left and ascend. -/
theorem run_parameters_iff {s : State} {parameters : List (Parameter V)} :
    (∃ t, s.run (parameters.map Parameter.kind) = some t) ↔
      (∀ p ∈ parameters, s.reached ≤ p.slot) ∧ Parameter.Ascending parameters := by
  induction parameters generalizing s with
  | nil => exact ⟨fun _ => ⟨fun _ mem => absurd mem List.not_mem_nil, .nil⟩, fun _ => ⟨s, rfl⟩⟩
  | cons p rest ih =>
    constructor
    · rintro ⟨t, h⟩
      obtain ⟨u, next, behind⟩ := Option.bind_eq_some_iff.mp h
      have left : s.reached ≤ p.slot := next_parameter_iff.mp ⟨u, next⟩
      obtain ⟨later, ascends⟩ := ih.mp ⟨t, behind⟩
      rw [(next_parameter next).1] at later
      -- what is left behind the parameter was left before it
      refine ⟨List.forall_mem_cons.mpr ⟨left, fun q mem => ?_⟩, .cons later ascends⟩
      exact Nat.le_trans left (Nat.le_trans p.slot_le_after (later q mem))
    · rintro ⟨left, ascends⟩
      obtain ⟨later, ascends⟩ := List.pairwise_cons.mp ascends
      obtain ⟨u, next⟩ := next_parameter_iff.mpr (left p List.mem_cons_self)
      rw [← (next_parameter next).1] at later
      obtain ⟨t, behind⟩ := ih.mpr ⟨later, ascends⟩
      exact ⟨t, Option.bind_eq_some_iff.mpr ⟨u, next, behind⟩⟩

/-- Parameters do not lead out of what follows `forbidden`, nor into it. -/
theorem isForbidden_of_run {s t : State} {parameters : List (Parameter V)}
    (h : s.run (parameters.map Parameter.kind) = some t) : t.isForbidden = s.isForbidden := by
  induction parameters generalizing s with
  | nil =>
    cases h
    rfl
  | cons p rest ih =>
    obtain ⟨u, next, behind⟩ := Option.bind_eq_some_iff.mp h
    exact (ih behind).trans (next_parameter next).2

/-! ## 3. Details -/

namespace Parameter

/-- The parameters ascend, from one slot on, and behind them the slots from another one on are left. -/
structure Between (low high : Nat) (parameters : List (Parameter V)) : Prop where
  ascending : Ascending parameters
  above : ∀ p ∈ parameters, low ≤ p.slot
  below : ∀ p ∈ parameters, p.after ≤ high

theorem Between.append {low middle high : Nat} {front back : List (Parameter V)}
    (hf : Between low middle front) (hb : Between middle high back) (le : low ≤ middle)
    (le' : middle ≤ high) : Between low high (front ++ back) where
  ascending := List.pairwise_append.mpr ⟨hf.ascending, hb.ascending, fun p mem q mem' =>
    Nat.le_trans (hf.below p mem) (hb.above q mem')⟩
  above := List.forall_mem_append.mpr ⟨hf.above, fun q mem => Nat.le_trans le (hb.above q mem)⟩
  below := List.forall_mem_append.mpr ⟨fun p mem => Nat.le_trans (hf.below p mem) le', hb.below⟩

/-- One parameter at most. -/
theorem between_option {α : Type} {low high : Nat} {make : α → Parameter V} (o : Option α)
    (h : ∀ a, low ≤ (make a).slot ∧ (make a).after ≤ high) :
    Between low high (o.toList.map make) := by
  cases o with
  | none => exact ⟨.nil, List.forall_mem_nil _, List.forall_mem_nil _⟩
  | some a =>
    exact ⟨List.pairwise_singleton _ _, List.forall_mem_singleton.mpr (h a).1,
      List.forall_mem_singleton.mpr (h a).2⟩

/-- Extras of one kind. -/
theorem between_texts {k : Nat} {make : String → Parameter V} (texts : List String)
    (h : ∀ text, (make text).slot = k ∧ (make text).after = k) : Between k k (texts.map make) where
  ascending := List.pairwise_map.mpr <| List.pairwise_of_forall fun first second =>
    Nat.le_of_eq ((h first).2.trans (h second).1.symm)
  above := List.forall_mem_map.mpr fun text _ => Nat.le_of_eq (h text).1.symm
  below := List.forall_mem_map.mpr fun text _ => Nat.le_of_eq (h text).2

end Parameter

/-- The parameters of a remark ascend. -/
theorem Remark.between_parameters (r : Remark) :
    Parameter.Between 2 5 (r.parameters : List (Parameter V)) := by
  have base : Parameter.Between 2 3 (r.base.toList.map Base.parameter : List (Parameter V)) :=
    Parameter.between_option _ fun b => by cases b <;> exact ⟨Nat.le_refl _, Nat.le_refl _⟩
  have extraMessages : Parameter.Between (V := V) 3 3 (r.extraMessages.map .extraMessage) :=
    Parameter.between_texts _ fun _ => ⟨rfl, rfl⟩
  have code : Parameter.Between (V := V) 3 5 (r.code.toList.map .code) :=
    Parameter.between_option _ fun _ => ⟨Nat.le_succ 3, Nat.le_refl 5⟩
  have extraCodes : Parameter.Between (V := V) 5 5 (r.extraCodes.map .extraCode) :=
    Parameter.between_texts _ fun _ => ⟨rfl, rfl⟩
  exact ((base.append extraMessages (by decide) (by decide)).append code (by decide)
    (by decide)).append extraCodes (by decide) (by decide)

namespace Details

/-- The parameters of details ascend. -/
theorem between_parameters (d : Details V) : Parameter.Between 0 5 d.parameters := by
  have condition : Parameter.Between 0 1 (d.condition.toList.map .when) :=
    Parameter.between_option _ fun _ => ⟨Nat.le_refl 0, Nat.le_refl 1⟩
  have placement : Parameter.Between (V := V) 1 2 (d.placement.toList.map Placement.parameter) :=
    Parameter.between_option _ fun p => by cases p <;> exact ⟨Nat.le_refl _, Nat.le_refl _⟩
  exact (condition.append placement (by decide) (by decide)).append d.remark.between_parameters
    (by decide) (by decide)

/-- Fields whose slots are passed are empty. -/
theorem passed {d : Details V} {k : Nat} (left : ∀ p ∈ d.parameters, k ≤ p.slot) :
    (0 < k → d.condition = none) ∧ (1 < k → d.placement = none) ∧ (2 < k → d.remark.base = none) ∧
      (3 < k → d.remark.extraMessages = []) ∧ (4 < k → d.remark.code = none) := by
  have none_of {α : Type} {o : Option α} (slot : Nat) (h : ∀ a, o = some a → k ≤ slot)
      (lt : slot < k) : o = none :=
    Option.eq_none_iff_forall_ne_some.mpr fun a own => absurd (h a own) (Nat.not_le_of_lt lt)
  simp only [parameters, Remark.parameters, List.forall_mem_append, List.forall_mem_map,
    Option.mem_toList] at left
  obtain ⟨⟨condition, placement⟩, ⟨⟨base, extraMessages⟩, code⟩, -⟩ := left
  refine ⟨none_of 0 condition, none_of 1 fun p own => ?_, none_of 2 fun b own => ?_, fun lt => ?_,
    none_of 4 code⟩
  · cases p <;> exact placement _ own
  · cases b <;> exact base _ own
  · exact List.eq_nil_iff_forall_not_mem.mpr fun text mem =>
      absurd (extraMessages text mem) (Nat.not_le_of_lt lt)

/-- A parameter comes before details that only have slots behind it. -/
theorem exists_cons (p : Parameter V) {d : Details V} (left : ∀ q ∈ d.parameters, p.after ≤ q.slot) :
    ∃ e : Details V, e.parameters = p :: d.parameters := by
  obtain ⟨condition, placement, base, extraMessages, code⟩ := passed left
  obtain ⟨holds?, place?, base?, more, code?, codes⟩ := d
  cases p with
  | when holds =>
    obtain rfl := condition (show 0 < 1 by decide)
    exact ⟨⟨some holds, place?, base?, more, code?, codes⟩, rfl⟩
  | path text =>
    obtain rfl := condition (show 0 < 2 by decide)
    obtain rfl := placement (show 1 < 2 by decide)
    exact ⟨⟨none, some (.path text), base?, more, code?, codes⟩, rfl⟩
  | name text =>
    obtain rfl := condition (show 0 < 2 by decide)
    obtain rfl := placement (show 1 < 2 by decide)
    exact ⟨⟨none, some (.name text), base?, more, code?, codes⟩, rfl⟩
  | message text =>
    obtain rfl := condition (show 0 < 3 by decide)
    obtain rfl := placement (show 1 < 3 by decide)
    obtain rfl := base (show 2 < 3 by decide)
    exact ⟨⟨none, none, some (.message text), more, code?, codes⟩, rfl⟩
  | cleared =>
    obtain rfl := condition (show 0 < 3 by decide)
    obtain rfl := placement (show 1 < 3 by decide)
    obtain rfl := base (show 2 < 3 by decide)
    exact ⟨⟨none, none, some .cleared, more, code?, codes⟩, rfl⟩
  | extraMessage text =>
    obtain rfl := condition (show 0 < 3 by decide)
    obtain rfl := placement (show 1 < 3 by decide)
    obtain rfl := base (show 2 < 3 by decide)
    exact ⟨⟨none, none, none, text :: more, code?, codes⟩, rfl⟩
  | code text =>
    obtain rfl := condition (show 0 < 5 by decide)
    obtain rfl := placement (show 1 < 5 by decide)
    obtain rfl := base (show 2 < 5 by decide)
    obtain rfl := extraMessages (show 3 < 5 by decide)
    obtain rfl := code (show 4 < 5 by decide)
    exact ⟨⟨none, none, none, [], some text, codes⟩, rfl⟩
  | extraCode text =>
    obtain rfl := condition (show 0 < 5 by decide)
    obtain rfl := placement (show 1 < 5 by decide)
    obtain rfl := base (show 2 < 5 by decide)
    obtain rfl := extraMessages (show 3 < 5 by decide)
    obtain rfl := code (show 4 < 5 by decide)
    exact ⟨⟨none, none, none, [], none, text :: codes⟩, rfl⟩

/-- **Parameters that ascend are those of details**, and no others. -/
theorem ascending_iff {parameters : List (Parameter V)} :
    Parameter.Ascending parameters ↔ ∃ d : Details V, d.parameters = parameters := by
  constructor
  · intro ascends
    induction parameters with
    | nil => exact ⟨⟨none, none, none, [], none, []⟩, rfl⟩
    | cons p rest ih =>
      obtain ⟨left, ascends⟩ := List.pairwise_cons.mp ascends
      obtain ⟨d, rfl⟩ := ih ascends
      exact exists_cons p left
  · rintro ⟨d, rfl⟩
    exact d.between_parameters.ascending

end Details

/-! ## 4. What follows each command -/

/-- Where no slot is left no parameter may stand. -/
theorem run_parameters_of_opened {parameters : List (Parameter V)} :
    (∃ t, State.run .opened (parameters.map Parameter.kind) = some t) ↔ parameters = [] := by
  rw [run_parameters_iff]
  constructor
  · rintro ⟨left, -⟩
    exact List.eq_nil_iff_forall_not_mem.mpr fun p mem =>
      absurd (left p mem) (Nat.not_le_of_lt p.slot_lt)
  · rintro rfl
    exact ⟨List.forall_mem_nil _, .nil⟩

/-- **Behind a rule or a link there are details.** -/
theorem run_parameters_of_rule {parameters : List (Parameter V)} :
    (∃ t, State.run .rule (parameters.map Parameter.kind) = some t) ↔
      ∃ d : Details V, d.parameters = parameters := by
  rw [run_parameters_iff, Details.ascending_iff]
  exact and_iff_right fun _ _ => Nat.zero_le _

/-- **Behind what says that values are missing there is a remark.** -/
theorem run_parameters_of_presence {s : State} (reached : s.reached = 2)
    {parameters : List (Parameter V)} :
    (∃ t, s.run (parameters.map Parameter.kind) = some t) ↔
      ∃ r : Remark, r.parameters = parameters := by
  rw [run_parameters_iff, reached]
  constructor
  · rintro ⟨left, ascends⟩
    obtain ⟨d, rfl⟩ := Details.ascending_iff.mp ascends
    obtain ⟨condition, placement, -⟩ := Details.passed left
    refine ⟨d.remark, ?_⟩
    rw [Details.parameters, condition (by decide), placement (by decide)]
    rfl
  · rintro ⟨r, rfl⟩
    exact ⟨r.between_parameters.above, r.between_parameters.ascending⟩

theorem kinds_commands (c : Clause V) :
    c.commands.map Command.kind = c.action.kind :: c.parameters.map Parameter.kind := by
  simp [Clause.commands, Command.kind]

/-- The command of an item is none for missing values. -/
theorem Item.kind_clause (item : Item V) :
    item.clause.action.kind = .guard ∨ item.clause.action.kind = .rule := by
  cases item with
  | guard holds => exact .inl rfl
  | rule holds fault details => exact .inr rfl
  | link transition target details => exact .inr rfl

/-- An item may stand wherever not all is forbidden. -/
theorem run_item {s : State} (allowed : s.isForbidden = false) (item : Item V) :
    ∃ t, s.run (item.clause.commands.map Command.kind) = some t := by
  rw [kinds_commands, State.run]
  cases item with
  | guard holds =>
    have next : s.next .guard = some .opened := by simp [State.next, allowed]
    exact ⟨.opened, Option.bind_eq_some_iff.mpr ⟨_, next, rfl⟩⟩
  | rule holds fault details =>
    have next : s.next .rule = some .rule := by simp [State.next, allowed]
    obtain ⟨t, behind⟩ := run_parameters_of_rule.mpr ⟨details, rfl⟩
    exact ⟨t, Option.bind_eq_some_iff.mpr ⟨_, next, behind⟩⟩
  | link transition target details =>
    have next : s.next .rule = some .rule := by simp [State.next, allowed]
    obtain ⟨t, behind⟩ := run_parameters_of_rule.mpr ⟨details, rfl⟩
    exact ⟨t, Option.bind_eq_some_iff.mpr ⟨_, next, behind⟩⟩

/-- A guard, a rule or a link that may stand somewhere is an item, and not all is forbidden there or
    behind it. -/
theorem item_of_run {s t : State} {c : Clause V}
    (kind : c.action.kind = .guard ∨ c.action.kind = .rule)
    (h : s.run (c.commands.map Command.kind) = some t) :
    s.isForbidden = false ∧ t.isForbidden = false ∧ ∃ item : Item V, item.clause = c := by
  rw [kinds_commands] at h
  obtain ⟨u, next, behind⟩ := Option.bind_eq_some_iff.mp h
  have kept := isForbidden_of_run behind
  obtain ⟨action, parameters⟩ := c
  cases action with
  | guard holds =>
    obtain ⟨allowed, rfl⟩ : s.isForbidden = false ∧ State.opened = u := by
      simpa [Action.kind, State.next] using next
    obtain rfl := run_parameters_of_opened.mp ⟨t, behind⟩
    exact ⟨allowed, kept, .guard holds, rfl⟩
  | rule holds fault =>
    obtain ⟨allowed, rfl⟩ : s.isForbidden = false ∧ State.rule = u := by
      simpa [Action.kind, State.next] using next
    obtain ⟨details, rfl⟩ := run_parameters_of_rule.mp ⟨t, behind⟩
    exact ⟨allowed, kept, .rule holds fault details, rfl⟩
  | link transition target =>
    obtain ⟨allowed, rfl⟩ : s.isForbidden = false ∧ State.rule = u := by
      simpa [Action.kind, State.next] using next
    obtain ⟨details, rfl⟩ := run_parameters_of_rule.mp ⟨t, behind⟩
    exact ⟨allowed, kept, .link transition target details, rfl⟩
  | _ => rcases kind with e | e <;> cases e

/-- A presence command may only stand first. -/
theorem kind_of_started {s t : State} (started : s ≠ .start) {a : Action V}
    (next : s.next a.kind = some t) : a.kind = .guard ∨ a.kind = .rule := by
  obtain ⟨required, «optional», forbidden⟩ := next_presence_eq_none started
  cases a with
  | required => exact absurd (required.symm.trans next) nofun
  | «optional» => exact absurd («optional».symm.trans next) nofun
  | forbidden => exact absurd (forbidden.symm.trans next) nofun
  | guard holds => exact .inl rfl
  | rule holds fault => exact .inr rfl
  | link transition target => exact .inr rfl

theorem started_of_run {s t : State} (started : s ≠ .start) {commands : List (Command V)}
    (h : s.run (commands.map Command.kind) = some t) : t ≠ .start := by
  induction commands generalizing s with
  | nil =>
    cases h
    exact started
  | cons command rest ih =>
    obtain ⟨u, next, behind⟩ := Option.bind_eq_some_iff.mp h
    exact ih (next_ne_start next (kind_ne_neutral command)) behind

theorem started_of_clause {s t : State} {c : Clause V}
    (h : s.run (c.commands.map Command.kind) = some t) : t ≠ .start := by
  obtain ⟨u, next, behind⟩ := Option.bind_eq_some_iff.mp h
  exact started_of_run (next_ne_start next (kind_ne_neutral (.action c.action))) behind

theorem run_clauses_cons {s : State} {c : Clause V} {rest : List (Clause V)} :
    s.run (((c :: rest).flatMap Clause.commands).map Command.kind) =
      (s.run (c.commands.map Command.kind)).bind
        (·.run ((rest.flatMap Clause.commands).map Command.kind)) := by
  rw [List.flatMap_cons, List.map_append, run_append]

/-- Items may stand wherever not all is forbidden. -/
theorem run_items {s : State} (allowed : s.isForbidden = false) (items : List (Item V)) :
    ∃ t, s.run (((items.map Item.clause).flatMap Clause.commands).map Command.kind) = some t := by
  induction items generalizing s with
  | nil => exact ⟨s, rfl⟩
  | cons item rest ih =>
    obtain ⟨u, own⟩ := run_item allowed item
    obtain ⟨-, still, -⟩ := item_of_run item.kind_clause own
    obtain ⟨t, behind⟩ := ih still
    rw [List.map_cons, run_clauses_cons]
    exact ⟨t, Option.bind_eq_some_iff.mpr ⟨u, own, behind⟩⟩

/-- **Behind the first command there are only items**, and none where all is forbidden. -/
theorem items_of_run {s t : State} (started : s ≠ .start) {clauses : List (Clause V)}
    (h : s.run ((clauses.flatMap Clause.commands).map Command.kind) = some t) :
    (s.isForbidden = true → clauses = []) ∧
      ∃ items : List (Item V), items.map Item.clause = clauses := by
  induction clauses generalizing s with
  | nil => exact ⟨fun _ => rfl, [], rfl⟩
  | cons c rest ih =>
    rw [run_clauses_cons] at h
    obtain ⟨u, own, behind⟩ := Option.bind_eq_some_iff.mp h
    obtain ⟨v, next, -⟩ := Option.bind_eq_some_iff.mp (kinds_commands c ▸ own)
    obtain ⟨allowed, -, item, rfl⟩ := item_of_run (kind_of_started started next) own
    obtain ⟨-, items, rfl⟩ := ih (started_of_clause own) behind
    exact ⟨fun forbidden => absurd (forbidden.symm.trans allowed) nofun, item :: items, rfl⟩

/-! ## 5. Scripts -/

/-- The commands of a script may stand one after another. -/
theorem run_script (script : Script V) :
    ∃ t, State.run .start (script.commands.map Command.kind) = some t := by
  have behind {first : Clause V} {u v : State} (next : State.start.next first.action.kind = some u)
      (own : u.run (first.parameters.map Parameter.kind) = some v) (allowed : v.isForbidden = false)
      (items : List (Item V)) :
      ∃ t, State.run .start
        (((first :: items.map Item.clause).flatMap Clause.commands).map Command.kind) = some t := by
    obtain ⟨t, rest⟩ := run_items allowed items
    rw [run_clauses_cons, kinds_commands, State.run, next]
    exact ⟨t, Option.bind_eq_some_iff.mpr ⟨v, own, rest⟩⟩
  cases script with
  | forbidden remark =>
    obtain ⟨t, own⟩ := (run_parameters_of_presence (V := V) (s := .forbidden) rfl).mpr ⟨remark, rfl⟩
    have all : (Script.forbidden remark : Script V).commands.map Command.kind =
        .forbidden :: remark.parameters.map (Parameter.kind (V := V)) := by
      rw [Script.commands, Script.clauses, List.flatMap_singleton, kinds_commands]
      rfl
    rw [all]
    exact ⟨t, own⟩
  | body opening items =>
    cases opening with
    | unsaid => exact run_items rfl items
    | required remark =>
      obtain ⟨v, own⟩ := (run_parameters_of_presence (V := V) (s := .required) rfl).mpr ⟨remark, rfl⟩
      exact behind rfl own (isForbidden_of_run own) items
    | «optional» => exact behind (v := .opened) rfl rfl rfl items

/-- Clauses that may stand one after another are those of a script. -/
theorem script_of_run {clauses : List (Clause V)} {t : State}
    (h : State.run .start ((clauses.flatMap Clause.commands).map Command.kind) = some t) :
    ∃ script : Script V, script.clauses = clauses := by
  cases clauses with
  | nil => exact ⟨.body .unsaid [], rfl⟩
  | cons c rest =>
    rw [run_clauses_cons] at h
    obtain ⟨u, own, behind⟩ := Option.bind_eq_some_iff.mp h
    obtain ⟨v, next, set⟩ := Option.bind_eq_some_iff.mp (kinds_commands c ▸ own)
    obtain ⟨none, items, rfl⟩ := items_of_run (started_of_clause own) behind
    obtain ⟨action, parameters⟩ := c
    cases action with
    | required =>
      cases next
      obtain ⟨remark, rfl⟩ := (run_parameters_of_presence rfl).mp ⟨u, set⟩
      exact ⟨.body (.required remark) items, rfl⟩
    | «optional» =>
      cases next
      obtain rfl := run_parameters_of_opened.mp ⟨u, set⟩
      exact ⟨.body .optional items, rfl⟩
    | forbidden =>
      cases next
      obtain ⟨remark, rfl⟩ := (run_parameters_of_presence rfl).mp ⟨u, set⟩
      rw [none (isForbidden_of_run set)]
      exact ⟨.forbidden remark, rfl⟩
    | guard holds =>
      obtain ⟨-, -, item, same⟩ := item_of_run (.inl rfl) own
      exact ⟨.body .unsaid (item :: items), congrArg (· :: items.map Item.clause) same⟩
    | rule holds fault =>
      obtain ⟨-, -, item, same⟩ := item_of_run (.inr rfl) own
      exact ⟨.body .unsaid (item :: items), congrArg (· :: items.map Item.clause) same⟩
    | link transition target =>
      obtain ⟨-, -, item, same⟩ := item_of_run (.inr rfl) own
      exact ⟨.body .unsaid (item :: items), congrArg (· :: items.map Item.clause) same⟩

/-- **The lattice lets commands through exactly if they are those of a script.** -/
theorem exists_script_iff {commands : List (Command V)} :
    (∃ t, State.run .start (commands.map Command.kind) = some t) ↔
      ∃ script : Script V, script.commands = commands := by
  constructor
  · rintro ⟨t, h⟩
    have join := Clause.split_join commands
    cases orphans : (Clause.split commands).1 with
    | nil =>
      rw [orphans, List.map_nil, List.nil_append] at join
      rw [← join] at h
      obtain ⟨script, same⟩ := script_of_run h
      exact ⟨script, by rw [Script.commands, same, join]⟩
    | cons p rest =>
      -- no parameter stands first
      rw [← join, orphans] at h
      obtain ⟨u, next, -⟩ := Option.bind_eq_some_iff.mp h
      exact absurd ((next_parameter_eq_none p).1.symm.trans next) nofun
  · rintro ⟨script, rfl⟩
    exact run_script script

/-! ## 6. Chains of calls -/

/-- A chain of calls is accepted from a state on exactly if the lattice lets its commands through. -/
theorem writeFrom?_iff {calls : List (Call V)} {index : Nat} {s : State} {d : Draft V} :
    (∃ e, Draft.writeFrom? index s d calls = .ok e) ↔
      ∃ t, s.run ((calls.filterMap Call.command).map Command.kind) = some t := by
  induction calls generalizing index s d with
  | nil => exact ⟨fun _ => ⟨s, rfl⟩, fun _ => ⟨d, rfl⟩⟩
  | cons call rest ih =>
    have first : (call :: rest).filterMap Call.command =
        call.command.toList ++ rest.filterMap Call.command := by
      cases own : call.command <;> simp [own]
    rw [first, List.map_append, run_append, run_call, Draft.writeFrom?]
    cases s.next call.kind with
    | none =>
      refine iff_of_false ?_ ?_
      · rintro ⟨_, ⟨⟩⟩
      · rintro ⟨_, ⟨⟩⟩
    | some t => exact ih

/-- **The order of commands is a grammar.** Whatever a call that adds no command reports, a chain of
    calls writes a draft exactly if its commands are those of a script. -/
theorem write_iff_script (type : ValueType) (calls : List (Call V)) :
    (∃ d, Draft.write? type calls = .ok d) ↔
      ∃ script : Script V, script.commands = calls.filterMap Call.command :=
  writeFrom?_iff.trans exists_script_iff

end Assay
