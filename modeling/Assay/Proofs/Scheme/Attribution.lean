import Assay.Proofs.Scheme.OnePass
import Assay.Proofs.Specification.Script

/-!
# What belongs to what

A specification is written as a chain of commands, and a parameter is for the command before it. This
file says what becomes of it: read as a script, every item becomes one step of the scope, and the step
has the condition, the place and the error that the parameters of this item say, and no others.

* `Remark.edited`, `Details.path` -- what is said about an error, and where it is put;
* `Registry.Denotes r content number` -- the number stands for the content, and there is none if there
  is nothing to show;
* `Remark.Shows`, `Item.Becomes`, `Script.Presents` -- what links show, what items become, and what a
  script says about null values;
* `condition_details`, `placement_details`, **`content_details`** -- parameters read as one remark;
* `steps_of_script`, `presence_of_script` -- the scope of a script;
* **`legal_attributes`** -- a legal draft is compiled, in one pass as well as clause by clause, and its
  scope is what the items of its script become.
-/

namespace Assay

variable {V : Type}

/-! ## 1. What is said -/

/-- **The number stands for the content**: for a fault that is equal to it, and an empty content has
    no number. -/
inductive Registry.Denotes (r : Registry) (content : Fault) : Option FaultId → Prop where
  | none (empty : content.isEmpty = true) : Denotes r content none
  | some {id : FaultId} {stored : Fault} (filled : content.isEmpty = false)
      (there : r.get? id = some stored) (same : (stored == content) = true) :
      Denotes r content (some id)

namespace Remark

/-- Nothing is said. -/
def silent : Remark := ⟨none, [], none, []⟩

/-- Something takes the place of what an error says of its own. -/
def replaces (r : Remark) : Bool := r.base.isSome || r.code.isSome

/-- The messages that take the place of those of an error. -/
def messages (r : Remark) : List String :=
  match r.base with
  | some (.message text) => [text]
  | _ => []

/-- **The error with what is said about it.** Extras alone come behind its own content; otherwise it
    keeps its arguments only. -/
def edited (r : Remark) (own : Fault) : Fault :=
  if r.replaces then ⟨r.messages, r.extraMessages, r.code.toList, r.extraCodes, own.args⟩
  else
    { own with
      extraMessages := own.extraMessages ++ r.extraMessages
      extraCodes := own.extraCodes ++ r.extraCodes }

/-- **How errors behind a link show** with what is said about them. -/
inductive Shows (r : Registry) (remark : Remark) : Showing → Prop where
  | nested (unsaid : remark = silent) : Shows r remark .nested
  | replaced {number : Option FaultId} (replaces : remark.replaces = true)
      (content : r.Denotes (remark.edited Fault.empty) number) : Shows r remark (.replaced number)
  | extended {id : FaultId} (keeps : remark.replaces = false) (said : remark ≠ silent)
      (content : r.Denotes (remark.edited Fault.empty) (some id)) : Shows r remark (.extended id)

end Remark

/-- **Where errors are put**: at a path, or at a name, which takes the place of the name of a member and
    stands beside any other value. -/
def Details.path (d : Details V) (member? : Option String) : Option String :=
  match d.placement, member? with
  | some (.path text), _ => some text
  | some (.name text), some _ => some text
  | some (.name text), none => some ("<" ++ text)
  | none, member? => member?

/-- **What an item becomes**, where faults have the numbers of a registry and specifications those of a
    list. -/
inductive Item.Becomes (r : Registry) (order : List SpecId) : Item V → Step V → Prop where
  | guard {holds : V → Bool} : Becomes r order (.guard holds) (.guard holds)
  | rule {holds : V → Bool} {fault : Fault} {d : Details V} {number : Option FaultId}
      (content : r.Denotes (d.remark.edited fault) number) :
      Becomes r order (.rule holds fault d) (.rule ⟨d.condition, holds, number, d.path none⟩)
  | link {transition : Transition V} {target : SpecId} {d : Details V} {scope : ScopeId}
      {showing : Showing} (leads : order[scope]? = some target) (shows : d.remark.Shows r showing) :
      Becomes r order (.link transition target d)
        (.link ⟨d.condition, transition, scope, d.path transition.name?, showing⟩)

/-- The items of a script. -/
def Script.items : Script V → List (Item V)
  | forbidden _ => []
  | body _ items => items

/-- **What a script says about null values.** One that says nothing requires a value. -/
inductive Script.Presents (r : Registry) : Script V → Presence → Prop where
  | forbidden {remark : Remark} {number : Option FaultId}
      (content : r.Denotes (remark.edited Fault.forbidden) number) :
      Presents r (.forbidden remark) (.forbidden number)
  | required {remark : Remark} {items : List (Item V)} {number : Option FaultId}
      (content : r.Denotes (remark.edited Fault.required) number) :
      Presents r (.body (.required remark) items) (.required number)
  | «optional» {items : List (Item V)} : Presents r (.body .optional items) .optional
  | unsaid {items : List (Item V)} {number : Option FaultId}
      (content : r.Denotes Fault.required number) :
      Presents r (.body .unsaid items) (.required number)

/-! ## 2. Parameters read -/

/-- What is said about an error, as a content. -/
def Remark.content (r : Remark) : Content where
  replaces := r.replaces
  message := r.messages.head?
  code := r.code
  extraMessages := r.extraMessages
  extraCodes := r.extraCodes

theorem Remark.edit_content (r : Remark) (own : Fault) : r.content.edit own = r.edited own := by
  obtain ⟨base, extraMessages, code, extraCodes⟩ := r
  rcases base with _ | _ | _ <;> cases code <;> rfl

theorem Remark.isUntouched_content (r : Remark) : r.content.isUntouched = true ↔ r = silent := by
  obtain ⟨base, extraMessages, code, extraCodes⟩ := r
  cases base <;> cases code <;> cases extraMessages <;> cases extraCodes <;>
    simp [content, Content.isUntouched, replaces, silent]

namespace Details

/-- What a reading finds among the parameters of details, block by block. -/
theorem filterMap_parameters {α : Type} (read : Parameter V → Option α) (d : Details V) :
    d.parameters.filterMap read =
      d.condition.toList.filterMap (read ∘ .when) ++
        d.placement.toList.filterMap (read ∘ Placement.parameter) ++
        (d.remark.base.toList.filterMap (read ∘ Base.parameter) ++
          d.remark.extraMessages.filterMap (read ∘ .extraMessage) ++
          d.remark.code.toList.filterMap (read ∘ .code) ++
          d.remark.extraCodes.filterMap (read ∘ .extraCode)) := by
  simp only [parameters, Remark.parameters, List.filterMap_append, List.filterMap_map]

/-- A placement says where errors are put, and nothing else. -/
theorem reads_placement (p : Placement) :
    (p.parameter : Parameter V).condition? = none ∧ (p.parameter : Parameter V).placement? = some p ∧
      (p.parameter : Parameter V).message? = none ∧ (p.parameter : Parameter V).code? = none ∧
      (p.parameter : Parameter V).extraMessage? = none ∧
      (p.parameter : Parameter V).extraCode? = none ∧ (p.parameter : Parameter V).replaces = false := by
  cases p <;> exact ⟨rfl, rfl, rfl, rfl, rfl, rfl, rfl⟩

/-- What takes the place of messages says nothing else. -/
theorem reads_base (b : Base) :
    (b.parameter : Parameter V).condition? = none ∧ (b.parameter : Parameter V).placement? = none ∧
      (b.parameter : Parameter V).code? = none ∧ (b.parameter : Parameter V).extraMessage? = none ∧
      (b.parameter : Parameter V).extraCode? = none ∧ (b.parameter : Parameter V).replaces = true := by
  cases b <;> exact ⟨rfl, rfl, rfl, rfl, rfl, rfl⟩

theorem condition_details (a : Action V) (d : Details V) :
    (Clause.mk a d.parameters).condition = d.condition := by
  rw [Clause.condition, lastSome, filterMap_parameters]
  simp only [Function.comp_def, reads_placement, reads_base]
  cases d.condition <;> simp [Parameter.condition?]

theorem placement_details (a : Action V) (d : Details V) :
    (Clause.mk a d.parameters).placement = d.placement := by
  rw [Clause.placement, lastSome, filterMap_parameters]
  simp only [Function.comp_def, reads_placement, reads_base]
  cases d.placement <;> simp [Parameter.placement?]

/-- **The parameters of details say about the error what their remark says.** -/
theorem content_details (a : Action V) (d : Details V) :
    (Clause.mk a d.parameters).content = d.remark.content := by
  have message : lastSome Parameter.message? d.parameters = d.remark.messages.head? := by
    rw [lastSome, filterMap_parameters, Remark.messages]
    simp only [Function.comp_def, reads_placement]
    rcases d.remark.base with _ | _ | _ <;> simp [Base.parameter, Parameter.message?]
  have code : lastSome Parameter.code? d.parameters = d.remark.code := by
    rw [lastSome, filterMap_parameters]
    simp only [Function.comp_def, reads_placement, reads_base]
    cases d.remark.code <;> simp [Parameter.code?]
  have extraMessages : d.parameters.filterMap Parameter.extraMessage? = d.remark.extraMessages := by
    rw [filterMap_parameters]
    simp only [Function.comp_def, reads_placement, reads_base]
    simp [Parameter.extraMessage?]
  have extraCodes : d.parameters.filterMap Parameter.extraCode? = d.remark.extraCodes := by
    rw [filterMap_parameters]
    simp only [Function.comp_def, reads_placement, reads_base]
    simp [Parameter.extraCode?]
  have replaces : d.parameters.any Parameter.replaces = d.remark.replaces := by
    rw [parameters, Remark.parameters, Remark.replaces]
    simp only [List.any_append, List.any_map, Function.comp_def, reads_placement, reads_base]
    cases d.remark.base <;> cases d.remark.code <;> simp [Parameter.replaces]
  rw [Clause.content, message, code, extraMessages, extraCodes, replaces]
  rfl

theorem content_remark (a : Action V) (r : Remark) :
    (Clause.mk a (r.parameters : List (Parameter V))).content = r.content :=
  content_details a ⟨none, none, r⟩

/-- The path of a rule is that of its details. -/
theorem rulePath_details (a : Action V) (d : Details V) :
    (Clause.mk a d.parameters).rulePath = d.path none := by
  rw [Clause.rulePath, placement_details]
  unfold path
  rcases d.placement with _ | _ | _ <;> rfl

/-- The path of a link is that of its details. -/
theorem linkPath_details (a : Action V) (d : Details V) (transition : Transition V) :
    (Clause.mk a d.parameters).linkPath transition = d.path transition.name? := by
  rw [Clause.linkPath, placement_details]
  unfold path
  cases transition.name? <;> rcases d.placement with _ | _ | _ <;> rfl

end Details

/-! ## 3. The scope of a script -/

/-- The step of an item, where faults and specifications have the numbers of a registry and a list. -/
def Item.step (r : Registry) (order : List SpecId) : Item V → Step V
  | guard holds => .guard holds
  | rule holds fault d =>
    .rule ⟨d.condition, holds, r.number (d.remark.edited fault), d.path none⟩
  | link transition target d =>
    .link ⟨d.condition, transition, order.idxOf target, d.path transition.name?,
      d.remark.content.showing r⟩

/-- What a script says about null values, where faults have the numbers of a registry. -/
def Script.presence (r : Registry) : Script V → Presence
  | forbidden remark => .forbidden (r.number (remark.edited Fault.forbidden))
  | body (.required remark) _ => .required (r.number (remark.edited Fault.required))
  | body .optional _ => .optional
  | body .unsaid _ => .required (r.number Fault.required)

theorem Item.part_clause (r : Registry) (order : List SpecId) (item : Item V) :
    item.clause.part r order = .step (item.step r order) := by
  cases item with
  | guard holds => rfl
  | rule holds fault d =>
    simp only [clause, Clause.part, step, Details.condition_details, Details.content_details,
      Details.rulePath_details, Remark.edit_content]
  | link transition target d =>
    simp only [clause, Clause.part, step, Details.condition_details, Details.content_details,
      Details.linkPath_details]

namespace Clause

theorem split_parameters (parameters : List (Parameter V)) (rest : List (Command V)) :
    split (parameters.map .parameter ++ rest) = (parameters ++ (split rest).1, (split rest).2) := by
  induction parameters with
  | nil => rfl
  | cons p more ih => rw [List.map_cons, List.cons_append, split, ih]; rfl

/-- Clauses that are written one behind the other are taken apart again. -/
theorem split_flatMap (clauses : List (Clause V)) :
    split (clauses.flatMap Clause.commands) = ([], clauses) := by
  induction clauses with
  | nil => rfl
  | cons c rest ih =>
    rw [List.flatMap_cons, Clause.commands, List.cons_append, split, split_parameters, ih]
    exact congrArg (Prod.mk [] <| · :: rest) (by rw [List.append_nil])

end Clause

section Written

variable {d : Draft V} {script : Script V} (same : script.commands = d.commands)
include same

theorem clauses_of_script : d.clauses = script.clauses := by
  rw [Draft.clauses, ← same, Script.commands, Clause.split_flatMap]

/-- **The steps of a script are those of its items.** -/
theorem steps_of_script (r : Registry) (order : List SpecId) :
    (d.scope r order).steps = script.items.map (Item.step r order) := by
  have items (list : List (Item V)) :
      ((list.map Item.clause).map (·.part r order)).filterMap Part.step? =
        list.map (Item.step r order) := by
    simp only [List.map_map, List.filterMap_map, Function.comp_def, Item.part_clause, Part.step?,
      List.filterMap_eq_map']
  rw [Draft.scope, Draft.parts, clauses_of_script same]
  cases script with
  | forbidden remark => rfl
  | body opening list =>
    cases opening <;> exact items list

/-- **What a script says about null values is what its scope does with them.** -/
theorem presence_of_script (r : Registry) (order : List SpecId) :
    (d.scope r order).presence = script.presence r := by
  have items (list : List (Item V)) :
      lastSome Part.presence? ((list.map Item.clause).map (·.part r order)) = none := by
    rw [lastSome, List.map_map, List.filterMap_map]
    simp only [Function.comp_def, Item.part_clause, Part.presence?]
    simp
  -- no item says anything about null values, so what does is in front
  have front (clauses : List (Clause V)) (list : List (Item V)) :
      lastSome Part.presence? ((clauses ++ list.map Item.clause).map (·.part r order)) =
        lastSome Part.presence? (clauses.map (·.part r order)) := by
    rw [List.map_append, lastSome_append, items, Option.none_or]
  rw [Draft.scope, Draft.parts, clauses_of_script same]
  cases script with
  | forbidden remark =>
    simp [Script.clauses, lastSome_singleton, Clause.part, Part.presence?, Script.presence,
      Details.content_remark, Remark.edit_content]
  | body opening list =>
    simp only [Script.clauses, front]
    cases opening with
    | unsaid => rfl
    | required remark =>
      simp [Opening.clauses, lastSome_singleton, Clause.part, Part.presence?, Script.presence,
        Details.content_remark, Remark.edit_content]
    | «optional» => rfl

/-- What is registered for a script can be looked up. -/
theorem known_of_compile {g g' : Gathered} {sc : Scope V} (made : d.compile g = .ok (g', sc))
    {c : Clause V} (mem : c ∈ script.clauses) {content : Fault} (own : content ∈ c.errors) :
    (g'.registry.find? content).isSome = true := by
  rw [(Draft.compile_eq made).1]
  refine Registry.isSome_find?_registerAll _ (List.mem_append_left _ ?_)
  exact List.mem_flatMap.mpr ⟨c, clauses_of_script same ▸ mem, own⟩

end Written

theorem Registry.denotes_number {r : Registry} {content : Fault}
    (known : content.isEmpty = false → (r.find? content).isSome = true) :
    r.Denotes content (r.number content) := by
  unfold Registry.number
  split
  · rename_i empty
    exact .none empty
  · rename_i filled
    have filled : content.isEmpty = false := Bool.eq_false_iff.mpr filled
    obtain ⟨id, found⟩ := Option.isSome_iff_exists.mp (known filled)
    obtain ⟨stored, there, equal⟩ := get?_of_find? found
    rw [found]
    exact .some filled there equal

/-- How the errors behind a link show is what its remark says. -/
theorem Remark.shows_showing {r : Registry} {remark : Remark}
    (known : ∀ content ∈ remark.content.errors, (r.find? content).isSome = true) :
    remark.Shows r (remark.content.showing r) := by
  unfold Content.errors at known
  unfold Content.showing
  by_cases untouched : remark.content.isUntouched = true
  · rw [if_pos untouched]
    exact .nested (remark.isUntouched_content.mp untouched)
  · rw [if_neg untouched] at known ⊢
    have said : remark ≠ silent := mt remark.isUntouched_content.mpr untouched
    have number : r.Denotes (remark.edited Fault.empty) (r.number (remark.edited Fault.empty)) :=
      Registry.denotes_number fun filled => known _ <| by
        simp [nonEmpty, edit_content, filled]
    rw [edit_content]
    by_cases replaces : remark.content.replaces = true
    · rw [if_pos replaces]
      exact .replaced replaces number
    · rw [if_neg replaces]
      have filled : (remark.edited Fault.empty).isEmpty = false :=
        remark.edit_content Fault.empty ▸ Content.isEmpty_edit untouched replaces
      obtain ⟨id, found⟩ := Option.isSome_iff_exists.mp
        (known (remark.edited Fault.empty) (by simp [nonEmpty, edit_content, filled]))
      rw [Registry.number, filled, if_neg Bool.false_ne_true, found] at number
      rw [found]
      exact .extended (Bool.eq_false_iff.mpr replaces) said number

section Compiled

variable {d : Draft V} {script : Script V} (same : script.commands = d.commands)
  {g g' : Gathered} {sc : Scope V} (made : d.compile g = .ok (g', sc))
include same made

/-- The error of a clause of the script has the number of its content. -/
theorem denotes_of_compile {c : Clause V} (mem : c ∈ script.clauses) {content : Fault}
    (own : c.errors = nonEmpty [content]) :
    g'.registry.Denotes content (g'.registry.number content) :=
  Registry.denotes_number fun filled =>
    known_of_compile same made mem (by simp [own, nonEmpty, filled])

/-- **What a script says about null values** is what is done with them. -/
theorem presents_of_compile : script.Presents g'.registry (script.presence g'.registry) := by
  have remarked (a : Action V) (own : Fault) (r : Remark) :
      nonEmpty [(Clause.mk a (r.parameters : List (Parameter V))).content.edit own] =
        nonEmpty [r.edited own] := by
    rw [Details.content_remark, Remark.edit_content]
  cases script with
  | forbidden remark =>
    exact .forbidden (denotes_of_compile same made List.mem_cons_self (remarked _ _ remark))
  | body opening items =>
    cases opening with
    | unsaid =>
      refine .unsaid (Registry.denotes_number fun _ => ?_)
      have silent : d.saysPresence = false := by
        rw [Draft.saysPresence, clauses_of_script same, List.any_eq_false]
        intro c mem
        obtain ⟨item, -, rfl⟩ := List.mem_map.mp mem
        cases item <;> exact Bool.false_ne_true
      rw [(Draft.compile_eq made).1]
      refine Registry.isSome_find?_registerAll _ (List.mem_append_right _ ?_)
      rw [silent]
      exact List.mem_cons_self
    | required remark =>
      exact .required (denotes_of_compile same made List.mem_cons_self (remarked _ _ remark))
    | «optional» => exact .optional

/-- **Every item becomes its step.** -/
theorem becomes_of_compile {item : Item V} (mem : item ∈ script.items) :
    item.Becomes g'.registry g'.seen (item.step g'.registry g'.seen) := by
  have clause : item.clause ∈ script.clauses := by
    cases script with
    | forbidden remark => exact absurd mem List.not_mem_nil
    | body opening items => exact List.mem_append_right _ (List.mem_map_of_mem mem)
  cases item with
  | guard holds => exact .guard
  | rule holds fault details =>
    refine .rule (denotes_of_compile same made clause ?_)
    show nonEmpty [(Clause.mk _ details.parameters).content.edit fault] = _
    rw [Details.content_details, Remark.edit_content]
  | link transition target details =>
    have errors : (Item.link transition target details).clause.errors = details.remark.content.errors :=
      congrArg Content.errors (details.content_details _)
    refine .link ?_ (Remark.shows_showing fun content own => ?_)
    · -- the number of a link is that of a specification that was seen
      have within := (Draft.compile_eq_ok made).2
      have becomes := (Draft.compile_eq made).2 _ _ (List.prefix_refl _) (List.prefix_refl _)
      rw [becomes, steps_of_script same] at within
      have lt := within _ (List.mem_map_of_mem mem)
      exact List.getElem?_idxOf (List.idxOf_lt_length_iff.mp lt)
    · exact known_of_compile same made clause (errors ▸ own)

end Compiled

/-- A draft of clauses is compiled. -/
theorem exists_compile {d : Draft V} (clausal : d.Clausal) (g : Gathered) :
    ∃ g' sc, d.compile g = .ok (g', sc) := by
  unfold Draft.compile
  rw [show Clause.ofCommands? d.commands = .ok (Clause.split d.commands).2 from clausal]
  exact ⟨_, _, rfl⟩

/-- **Every parameter belongs to the command before it.** A legal draft is compiled, with the same
    result in one pass over its commands; that pass also gives the outline of the rules and links, which
    is all that a survey reads of the steps. The commands are those of a script; and whenever they are,
    the scope does with null values what the script says about them, and its steps are what the items of
    the script become, one by one and in order: guards, and rules and links that have the condition, the
    place and the error which the details of the item say. -/
theorem legal_attributes {d : Draft V} (legal : d.Legal) (g : Gathered) :
    ∃ g' sc, d.compile g = .ok (g', sc) ∧ d.assemble g = .ok (g', sc, sc.outline) ∧
      (∀ enter path way hidden s, sc.steps.foldl (Survey.step enter path way hidden) s =
        sc.outline.foldl (Survey.item enter path way hidden) s) ∧
      sc.type = d.type ∧ sc.isNull = d.isNull ∧
      (∃ script : Script V, script.commands = d.commands) ∧
      ∀ script : Script V, script.commands = d.commands →
        script.Presents g'.registry sc.presence ∧
          List.Forall₂ (Item.Becomes g'.registry g'.seen) script.items sc.steps := by
  obtain ⟨g', sc, made⟩ := exists_compile (Clause.clausal_of_legal legal) g
  have assembled : d.assemble g = .ok (g', sc, sc.outline) := by
    rw [Draft.assemble_eq, made]
    rfl
  have read := fun enter path way hidden s => Survey.survey_outline enter path way hidden sc s
  have becomes : sc = d.scope g'.registry g'.seen :=
    (Draft.compile_eq made).2 _ _ (List.prefix_refl _) (List.prefix_refl _)
  refine ⟨g', sc, made, assembled, read, by rw [becomes]; rfl, by rw [becomes]; rfl,
    exists_script_iff.mp legal, fun script same => ⟨?_, ?_⟩⟩
  · rw [becomes, presence_of_script same]
    exact presents_of_compile same made
  · rw [becomes, steps_of_script same, List.forall₂_map_right_iff, List.forall₂_same]
    exact fun item mem => becomes_of_compile same made mem

/-- A list that may not be missing, and if it is not empty may not be long, and leads to another. -/
def listScript : Script (List Nat) :=
  .body (.required ⟨some (.message "no list"), [], none, []⟩) [
    .guard (· != []),
    .rule (·.length < 3) (Fault.ofMessage "too long" [])
      ⟨none, some (.name "Length"), ⟨none, ["cut it"], none, []⟩⟩,
    .link (.member "Next" fun l => some (l.tail, .part "Next")) 0
      ⟨some (·.head? == some 0), none, ⟨none, ["see there"], some "E1", []⟩⟩]

def listDraft : Draft (List Nat) := ⟨"list", listScript.commands, [], none⟩

/-- The steps of the list, with the errors 0, 1 and 2. -/
theorem legal_attributes_list :
    listDraft.Legal ∧ ∃ g' sc, listDraft.compile ⟨Registry.empty, [0]⟩ = .ok (g', sc) ∧
      listDraft.assemble ⟨Registry.empty, [0]⟩ = .ok (g', sc, [.rule (some 1) (some "<Length"),
        .link .member 0 (some "Next") (.replaced (some 2))]) ∧
      sc.presence = .required (some 0) ∧ listScript.Presents g'.registry sc.presence ∧
      List.Forall₂ (Item.Becomes g'.registry g'.seen) listScript.items sc.steps := by
  have legal : listDraft.Legal := exists_script_iff.mpr ⟨listScript, rfl⟩
  obtain ⟨g', sc, made, assembled, -, -, -, -, attributes⟩ :=
    legal_attributes legal ⟨Registry.empty, [0]⟩
  obtain ⟨presents, become⟩ := attributes listScript rfl
  refine ⟨legal, g', sc, made, ?_, ?_, presents, become⟩
  · rw [assembled]
    cases made
    rfl
  · cases made
    rfl

end Assay
