import Assay.Proofs.Scheme.Parts

/-!
# One pass over the commands

Compilation takes commands apart into clauses first. The same can be done in one pass: a command waits
until the next one comes that is no parameter, and each parameter is noted with the one that waits. Such
a pass writes the steps and their outline side by side. This file says that it comes to the same.

* `Pending`, `Pending.apply` -- a command that waits, and what a parameter changes in it;
  **`foldl_apply`** -- in the end it is what its clause amounts to;
* `OutlineItem`, `Step.outline?` -- a step without what tests values, and `survey_outline` -- this is all
  that a survey reads of it;
* `Assembly`, `Assembly.flush`, `Assembly.read`, `Assembly.run`, `Draft.assemble` -- the pass;
  **`flush_eq_follow`** -- what is flushed is what the clause is compiled into;
* **`run_clauses`** -- a pass over clauses fails with the first that cannot be written, or compiles them;
* **`assemble_eq`** -- so one pass and compilation give the same, and the outline is that of the steps.
-/

namespace Assay

variable {V : Type}

/-! ## 1. Outlines -/

/-- A rule or a link without what tests and reaches values. -/
inductive OutlineItem where
  | rule (fault : Option FaultId) (path : Option String)
  | link (kind : LinkKind) (target : ScopeId) (path : Option String) (showing : Showing)
  deriving DecidableEq, Repr

/-- The outline of a step; a guard has none. -/
def Step.outline? : Step V → Option OutlineItem
  | .guard _ => none
  | .rule r => some (.rule r.fault r.path)
  | .link l => some (.link l.transition.kind l.target l.path l.showing)

/-- **The outline of a scope**: its rules and links, in order. -/
def Scope.outline (sc : Scope V) : List OutlineItem := sc.steps.filterMap Step.outline?

namespace Survey

/-- What a survey makes of an outline item. -/
def item (enter : Enter) (path : String) (way : List ScopeId) (hidden : Bool) (s : Survey) :
    OutlineItem → Survey
  | .rule fault relative =>
    let (s, path) := s.resolve path relative
    s.note path fault hidden
  | .link kind target relative showing =>
    let (s, base) := s.resolve path relative
    let (s, inner) := s.resolve base kind.itemSegment
    let innerHidden := hidden || showing.hides
    let s :=
      if way.contains target then
        if kind.preservesIdentity then s.noteLoop inner innerHidden else s
      else enter target inner (target :: way) innerHidden s
    s.note base showing.fault hidden

/-- **A survey reads no more of the steps of a scope than their outline.** -/
theorem survey_outline (enter : Enter) (path : String) (way : List ScopeId) (hidden : Bool)
    (sc : Scope V) (s : Survey) :
    sc.steps.foldl (step enter path way hidden) s = sc.outline.foldl (item enter path way hidden) s := by
  rw [Scope.outline, List.foldl_filterMap]
  congr 1
  funext s step
  cases step <;> rfl

end Survey

/-! ## 2. A command that waits -/

theorem lastSome_append {α β : Type} (read : α → Option β) (front back : List α) :
    lastSome read (front ++ back) = (lastSome read back).or (lastSome read front) := by
  rw [lastSome, List.filterMap_append, List.getLast?_append]
  rfl

theorem lastSome_singleton {α β : Type} (read : α → Option β) (a : α) :
    lastSome read [a] = read a := by
  unfold lastSome
  cases own : read a <;> simp [own]

/-- A command that may have parameters. -/
inductive Target (V : Type) where
  | required
  | optional
  | forbidden
  | rule (holds : V → Bool) (fault : Fault)
  | link (transition : Transition V) (target : SpecId)

def Target.action : Target V → Action V
  | required => .required
  | «optional» => .optional
  | forbidden => .forbidden
  | rule holds fault => .rule holds fault
  | link transition target => .link transition target

/-- The clause of the command with parameters. -/
def Target.clause (t : Target V) (parameters : List (Parameter V)) : Clause V :=
  ⟨t.action, parameters⟩

/-- A command that waits for its parameters, and what they have said so far. -/
structure Pending (V : Type) where
  target : Target V
  condition : Option (V → Bool)
  placement : Option Placement
  content : Content

namespace Pending

/-- Before the first parameter. -/
def ofTarget (target : Target V) : Pending V := ⟨target, none, none, ⟨false, none, none, [], []⟩⟩

/-- One more parameter. -/
def apply (p : Pending V) : Parameter V → Pending V
  | .when holds => { p with condition := some holds }
  | .path text => { p with placement := some (.path text) }
  | .name text => { p with placement := some (.name text) }
  | .message text => { p with content := { p.content with replaces := true, message := some text } }
  | .cleared => { p with content := { p.content with replaces := true } }
  | .extraMessage text =>
    { p with content := { p.content with extraMessages := p.content.extraMessages ++ [text] } }
  | .code text => { p with content := { p.content with replaces := true, code := some text } }
  | .extraCode text =>
    { p with content := { p.content with extraCodes := p.content.extraCodes ++ [text] } }

/-- Where the errors of a link are put: a name takes the place of that of a member only. -/
def linkPath (p : Pending V) (transition : Transition V) : Option String :=
  match p.placement with
  | some (.path text) => some text
  | some (.name text) => if transition.kind = .member then some text else some ("<" ++ text)
  | none => transition.name?

/-- What a clause amounts to. -/
def ofClause (target : Target V) (parameters : List (Parameter V)) : Pending V :=
  let c := target.clause parameters
  ⟨target, c.condition, c.placement, c.content⟩

/-- **The parameters, noted one by one, are what the clause amounts to.** -/
theorem foldl_apply (target : Target V) (parameters : List (Parameter V)) :
    parameters.foldl apply (ofTarget target) = ofClause target parameters := by
  induction parameters using List.reverseRecOn with
  | nil => rfl
  | append_singleton front p ih =>
    rw [List.foldl_append, ih]
    cases p <;>
      simp [ofClause, Target.clause, apply, Clause.condition, Clause.placement, Clause.content,
        lastSome_append, lastSome_singleton, Parameter.condition?, Parameter.placement?,
        Parameter.message?, Parameter.code?, Parameter.extraMessage?, Parameter.extraCode?,
        Parameter.replaces]

/-- The path of a link is that of its clause. -/
theorem linkPath_ofClause (target : Target V) (parameters : List (Parameter V))
    (transition : Transition V) :
    (ofClause target parameters).linkPath transition =
      (target.clause parameters).linkPath transition := by
  simp only [linkPath, ofClause, Clause.linkPath]
  cases transition <;> cases (target.clause parameters).placement with
    | none => rfl
    | some p => cases p <;> rfl

end Pending

/-! ## 3. The pass -/

/-- What has been put together so far. -/
structure Assembly (V : Type) where
  gathered : Gathered
  presence : Option Presence
  /-- The command that waits for its parameters. -/
  pending : Option (Pending V)
  steps : List (Step V)
  items : List OutlineItem

namespace Assembly

/-- Before the first command. -/
def start (g : Gathered) : Assembly V := ⟨g, none, none, [], []⟩

/-- A command that has waited becomes what it becomes. -/
def settle (s : Assembly V) (p : Pending V) : Assembly V :=
  match p.target with
  | .required =>
    let (g, fault) := s.gathered.register (p.content.edit Fault.required)
    { s with gathered := g, presence := some (.required fault) }
  | .optional => { s with presence := some .optional }
  | .forbidden =>
    let (g, fault) := s.gathered.register (p.content.edit Fault.forbidden)
    { s with gathered := g, presence := some (.forbidden fault) }
  | .rule holds fault =>
    let (g, fault) := s.gathered.register (p.content.edit fault)
    let path := p.placement.map Placement.beside
    { s with
      gathered := g
      steps := s.steps ++ [.rule ⟨p.condition, holds, fault, path⟩]
      items := s.items ++ [.rule fault path] }
  | .link transition target =>
    let path := p.linkPath transition
    let (g, showing) := s.gathered.showingOf p.content
    let (g, target) := g.scopeOf target
    { s with
      gathered := g
      steps := s.steps ++ [.link ⟨p.condition, transition, target, path, showing⟩]
      items := s.items ++ [.link transition.kind target path showing] }

/-- Nothing waits any more. -/
def flush (s : Assembly V) : Assembly V :=
  match s.pending with
  | none => s
  | some p => { s with pending := none }.settle p

/-- A command waits for its parameters. -/
def wait (s : Assembly V) (target : Target V) : Assembly V :=
  { s.flush with pending := some (.ofTarget target) }

/-- A command that says what a null value means stands first. -/
def waitFirst (index : Nat) (s : Assembly V) (target : Target V) : Except String (Assembly V) :=
  if 0 < index then
    .error ("presence command `" ++ target.action.label ++ "` at #" ++ toString index)
  else .ok (s.wait target)

/-- One command, at a position. -/
def read (index : Nat) (s : Assembly V) : Command V → Except String (Assembly V)
  | .parameter p =>
    match s.pending with
    | none => .error (Clause.orphanText p index)
    | some waiting => .ok { s with pending := some (waiting.apply p) }
  | .action .required => s.waitFirst index .required
  | .action .optional => s.waitFirst index .optional
  | .action .forbidden => s.waitFirst index .forbidden
  | .action (.rule holds fault) => .ok (s.wait (.rule holds fault))
  | .action (.link transition target) => .ok (s.wait (.link transition target))
  | .action (.guard holds) => .ok { s.flush with steps := s.flush.steps ++ [.guard holds] }

/-- The commands from a position on. -/
def run (index : Nat) (s : Assembly V) : List (Command V) → Except String (Assembly V)
  | [] => .ok s.flush
  | command :: rest =>
    match s.read index command with
    | .error text => .error text
    | .ok s => run (index + 1) s rest

end Assembly

/-- A draft compiled in one pass, with the outline of its scope. -/
def Draft.assemble (d : Draft V) (g : Gathered) :
    Except String (Gathered × Scope V × List OutlineItem) :=
  match Assembly.run 0 (.start g) d.commands with
  | .error text => .error text
  | .ok s =>
    let (g, presence) := match s.presence with
      | some presence => (s.gathered, presence)
      | none =>
        let (registry, id) := s.gathered.registry.register Fault.required
        ({ s.gathered with registry }, .required (some id))
    .ok (g, ⟨d.type, presence, d.isNull, s.steps⟩, s.items)

/-! ## 4. One pass and clauses -/

namespace Assembly

/-- What clauses have become is put behind what there is. -/
def follow (s : Assembly V) (made : Gathered × List (Part V)) : Assembly V where
  gathered := made.1
  presence := (lastSome Part.presence? made.2).or s.presence
  pending := none
  steps := s.steps ++ made.2.filterMap Part.step?
  items := s.items ++ (made.2.filterMap Part.step?).filterMap Step.outline?

theorem flush_of_none {s : Assembly V} (h : s.pending = none) : s.flush = s := by
  rw [flush, h]

theorem follow_presence (s : Assembly V) (g : Gathered) (presence : Presence) :
    s.follow (g, [.presence presence]) =
      { s with gathered := g, presence := some presence, pending := none } := by
  simp [follow, lastSome, Part.presence?, Part.step?]

theorem follow_step (s : Assembly V) (g : Gathered) (step : Step V) :
    s.follow (g, [.step step]) =
      { s with
        gathered := g
        pending := none
        steps := s.steps ++ [step]
        items := s.items ++ step.outline?.toList } := by
  cases own : step.outline? <;> simp [follow, lastSome, Part.presence?, Part.step?, own]

/-- **What is flushed is what the clause is compiled into.** -/
theorem flush_eq_follow (s : Assembly V) (target : Target V) (parameters : List (Parameter V)) :
    ({ s with pending := some (.ofClause target parameters) } : Assembly V).flush =
      s.follow (Clause.compileAll [target.clause parameters] s.gathered) := by
  cases target with
  | required => exact (s.follow_presence _ _).symm
  | «optional» => exact (s.follow_presence _ _).symm
  | forbidden => exact (s.follow_presence _ _).symm
  | rule holds fault => exact (s.follow_step _ _).symm
  | link transition target =>
    refine Eq.trans ?_ (s.follow_step _ _).symm
    simp only [flush, settle, Pending.linkPath_ofClause]
    rfl

theorem pending_settle (s : Assembly V) (p : Pending V) : (s.settle p).pending = s.pending := by
  unfold settle
  cases p.target <;> rfl

theorem pending_flush (s : Assembly V) : s.flush.pending = none := by
  unfold flush
  split
  · assumption
  · exact pending_settle _ _

/-- Clauses follow one another. -/
theorem follow_cons (s : Assembly V) (c : Clause V) (rest : List (Clause V)) :
    (s.follow (Clause.compileAll [c] s.gathered)).follow
        (Clause.compileAll rest (Clause.compileAll [c] s.gathered).1) =
      s.follow (Clause.compileAll (c :: rest) s.gathered) := by
  have parts : (Clause.compileAll (c :: rest) s.gathered).2 =
      (Clause.compileAll [c] s.gathered).2 ++
        (Clause.compileAll rest (Clause.compileAll [c] s.gathered).1).2 := rfl
  simp only [follow, parts, lastSome_append, List.filterMap_append, List.append_assoc,
    Option.or_assoc]
  rfl

/-- A command that may have parameters waits for them, unless it may not stand where it does. -/
theorem read_target (s : Assembly V) (index : Nat) (target : Target V)
    (parameters : List (Parameter V)) :
    s.read index (.action target.action) =
      match (target.clause parameters).fault? index with
      | some text => .error text
      | none => .ok (s.wait target) := by
  have first (own : target.action.isPresence = true) :
      s.waitFirst index target =
        match (target.clause parameters).fault? index with
        | some text => .error text
        | none => .ok (s.wait target) := by
    have text : (target.clause parameters).fault? index =
        if 0 < index then
          some ("presence command `" ++ target.action.label ++ "` at #" ++ toString index)
        else none := by
      cases target with
      | rule holds fault => cases own
      | link transition target => cases own
      | _ => rfl
    rw [text, waitFirst]
    by_cases later : 0 < index
    · rw [if_pos later, if_pos later]
    · rw [if_neg later, if_neg later]
  cases target with
  | required => exact first rfl
  | «optional» => exact first rfl
  | forbidden => exact first rfl
  | rule holds fault => rfl
  | link transition target => rfl

/-- Parameters are noted with the command that waits. -/
theorem run_parameters (s : Assembly V) (index : Nat) (waiting : Pending V)
    (parameters : List (Parameter V)) (rest : List (Command V)) :
    run index { s with pending := some waiting } (parameters.map .parameter ++ rest) =
      run (index + parameters.length) { s with pending := some (parameters.foldl Pending.apply waiting) }
        rest := by
  induction parameters generalizing index waiting with
  | nil => rfl
  | cons p more ih =>
    rw [List.map_cons, List.cons_append, List.length_cons, List.foldl_cons, Nat.add_comm more.length,
      ← Nat.add_assoc, ← ih]
    rfl

/-- **A pass over one clause** fails, or goes on where the clause has followed as soon as nothing waits
    any more. -/
theorem run_clause (s : Assembly V) (index : Nat) (c : Clause V) (more : List (Command V)) :
    ∃ t : Assembly V, t.flush = s.flush.follow (Clause.compileAll [c] s.flush.gathered) ∧
      run index s (c.commands ++ more) =
        match c.fault? index with
        | some text => .error text
        | none => run (index + 1 + c.parameters.length) t more := by
  obtain ⟨action, parameters⟩ := c
  have waits (target : Target V) (same : action = target.action) :
      ∃ t : Assembly V, t.flush =
          s.flush.follow (Clause.compileAll [⟨action, parameters⟩] s.flush.gathered) ∧
        run index s ((Clause.mk action parameters).commands ++ more) =
          match (Clause.mk action parameters).fault? index with
          | some text => .error text
          | none => run (index + 1 + parameters.length) t more := by
    subst same
    refine ⟨_, flush_eq_follow s.flush target parameters, ?_⟩
    rw [Clause.commands, List.cons_append, run, read_target s index target parameters]
    change _ = match (target.clause parameters).fault? index with
      | some text => Except.error text
      | none => _
    cases (target.clause parameters).fault? index with
    | some text => rfl
    | none =>
      rw [← Pending.foldl_apply]
      exact run_parameters s.flush (index + 1) (.ofTarget target) parameters more
  cases action with
  | required => exact waits .required rfl
  | «optional» => exact waits .optional rfl
  | forbidden => exact waits .forbidden rfl
  | rule holds fault => exact waits (.rule holds fault) rfl
  | link transition target => exact waits (.link transition target) rfl
  | guard holds =>
    refine ⟨_, flush_of_none rfl, ?_⟩
    have waiting := pending_flush s
    have passed : s.flush.follow (Clause.compileAll [⟨.guard holds, parameters⟩] s.flush.gathered) =
        { s.flush with steps := s.flush.steps ++ [.guard holds] } := by
      refine (s.flush.follow_step _ (.guard holds)).trans ?_
      simp [Step.outline?, waiting]
    rw [passed]
    cases parameters with
    | nil => rfl
    | cons p rest =>
      -- nothing waits behind a guard
      simp [Clause.commands, run, read, waiting, Clause.fault?]

/-- **A pass over clauses** fails with the first that cannot be written, or compiles them. -/
theorem run_clauses (clauses : List (Clause V)) (index : Nat) (s : Assembly V) :
    run index s (clauses.flatMap Clause.commands) =
      match Clause.firstFault index clauses with
      | some text => .error text
      | none => .ok (s.flush.follow (Clause.compileAll clauses s.flush.gathered)) := by
  induction clauses generalizing index s with
  | nil =>
    have same : s.flush.follow (s.flush.gathered, []) = s.flush := by
      simp only [follow, lastSome, List.filterMap_nil, List.append_nil]
      rw [← pending_flush s]
      rfl
    exact congrArg Except.ok same.symm
  | cons c rest ih =>
    obtain ⟨t, followed, one⟩ := run_clause s index c (rest.flatMap Clause.commands)
    rw [List.flatMap_cons, one, Clause.firstFault]
    cases c.fault? index with
    | some text => rfl
    | none =>
      have gathered : t.flush.gathered = (Clause.compileAll [c] s.flush.gathered).1 :=
        congrArg Assembly.gathered followed
      rw [Option.none_or, ← follow_cons, ← followed, ← gathered]
      exact ih _ t

end Assembly

/-- **One pass and compilation give the same**, and the outline is that of the steps. -/
theorem Draft.assemble_eq (d : Draft V) (g : Gathered) :
    d.assemble g = (d.compile g).map fun made => (made.1, made.2, made.2.outline) := by
  have join := Clause.split_join d.commands
  unfold Draft.assemble Draft.compile Clause.ofCommands?
  rcases apart : Clause.split d.commands with ⟨_ | ⟨p, orphans⟩, clauses⟩
  · rw [apart] at join
    rw [← join, List.map_nil, List.nil_append, Assembly.run_clauses]
    dsimp only
    cases Clause.firstFault 0 clauses with
    | some text => rfl
    | none =>
      have put : (Assembly.start g : Assembly V).flush.follow
          (Clause.compileAll clauses (Assembly.start g : Assembly V).flush.gathered) =
            ⟨(Clause.compileAll clauses g).1,
              lastSome Part.presence? (Clause.compileAll clauses g).2, none,
              (Clause.compileAll clauses g).2.filterMap Part.step?,
              ((Clause.compileAll clauses g).2.filterMap Part.step?).filterMap Step.outline?⟩ := by
        rw [Assembly.flush_of_none rfl]
        simp only [Assembly.follow, Assembly.start, Option.or_none, List.nil_append]
      rw [put]
      dsimp only
      cases lastSome Part.presence? (Clause.compileAll clauses g).2 <;> rfl
  · -- no parameter stands first
    rw [apart] at join
    rw [← join]
    rfl

end Assay
