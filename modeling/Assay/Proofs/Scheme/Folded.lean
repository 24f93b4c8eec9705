import Assay.Proofs.Scheme.Complete
import Assay.Proofs.Scheme.Parts
import Assay.Proofs.Scheme.Template
import Assay.Proofs.Specification.Copies

/-!
# Schemes of copies

Copies of specifications are compiled one by one, so the scheme of a copy has more scopes and other
numbers. But each scope is that of its origin, with other targets, and where links lead back to no
scope nothing else can be told apart: the faults are registered in the same order, and the survey
walks along the same ways.

* `Draft.scope_retarget` -- what a draft becomes has the targets of the draft;
* `Folds f copies scopes` -- the scopes `copies` are copies of `scopes`, the one with the number `j` of
  that with the number `f j`;
* **`Folds.survey_eq`** -- where no scope leads back to itself, a survey of copies finds what a survey
  of the scopes finds;
* `acyclic_of_build` -- no scope leads back to itself if no specification does; then no loop is noted
  (`loopPossible_of_acyclic`);
* `Copies.build` -- copies of what builds build; **`folds_of_copies`** -- their scheme is the same but
  for its scopes, which are copies.
-/

namespace Assay

variable {V : Type}

/-! ## 1. Scopes with other targets -/

/-- The step with another target, if it is a link. -/
def Step.retarget (f : ScopeId → ScopeId) : Step V → Step V
  | .link l => .link { l with target := f l.target }
  | step => step

def Part.retarget (f : ScopeId → ScopeId) : Part V → Part V
  | .presence p => .presence p
  | .step st => .step (st.retarget f)

/-- The scope with other targets. -/
def Scope.retarget (f : ScopeId → ScopeId) (sc : Scope V) : Scope V :=
  { sc with steps := sc.steps.map (Step.retarget f) }

section Retarget

variable (origin : SpecId → SpecId)

theorem Clause.errors_retarget (c : Clause V) : (c.retarget origin).errors = c.errors := by
  obtain ⟨action, parameters⟩ := c
  cases action <;> rfl

theorem Draft.clauses_retarget (d : Draft V) :
    (d.retarget origin).clauses = d.clauses.map (Clause.retarget origin) := by
  simp only [clauses, retarget, Clause.split_retarget]

/-- A draft registers the same faults whatever its targets are. -/
theorem Draft.errors_retarget (d : Draft V) : (d.retarget origin).errors = d.errors := by
  have presence (c : Clause V) : (c.retarget origin).action.isPresence = c.action.isPresence := by
    obtain ⟨action, parameters⟩ := c
    cases action <;> rfl
  simp only [errors, saysPresence, clauses_retarget, List.flatMap_map, List.any_map,
    Function.comp_def, Clause.errors_retarget, presence]
  rfl

variable {origin} {f : ScopeId → ScopeId} {r : Registry} {copies order : List SpecId}

theorem Clause.part_retarget (c : Clause V)
    (targets : ∀ l, c.link? = some l → f (copies.idxOf l.2) = order.idxOf (origin l.2)) :
    (c.retarget origin).part r order = (c.part r copies).retarget f := by
  obtain ⟨action, parameters⟩ := c
  cases action with
  | link transition target =>
    have there := targets _ rfl
    simp only [part, Part.retarget, Step.retarget, there]
    rfl
  | _ => rfl

/-- **What a draft becomes has the targets of the draft.** -/
theorem Draft.scope_retarget (d : Draft V)
    (targets : ∀ l ∈ d.links, f (copies.idxOf l.2) = order.idxOf (origin l.2)) :
    (d.retarget origin).scope r order = (d.scope r copies).retarget f := by
  have parts : (d.retarget origin).parts r order = (d.parts r copies).map (Part.retarget f) := by
    rw [Draft.parts, Draft.parts, clauses_retarget, List.map_map, List.map_map]
    refine List.map_congr_left fun c hc => Clause.part_retarget c fun l link => targets l ?_
    rw [links, ← links_split]
    exact List.mem_filterMap.mpr ⟨c, hc, link⟩
  have presence (part : Part V) : (part.retarget f).presence? = part.presence? := by
    cases part <;> rfl
  have step (part : Part V) : (part.retarget f).step? = part.step?.map (Step.retarget f) := by
    cases part <;> rfl
  simp only [scope, Scope.retarget, parts, lastSome, List.filterMap_map, List.map_filterMap,
    Function.comp_def, presence, step]
  rfl

end Retarget

/-- The links of what a draft becomes lead to the numbers of the targets. -/
theorem Draft.target_scope {d : Draft V} {r : Registry} {order : List SpecId} {l : LinkStep V}
    (step : .link l ∈ (d.scope r order).steps) :
    ∃ target ∈ d.links.map Prod.snd, l.target = order.idxOf target := by
  obtain ⟨part, hpart, is_step⟩ := List.mem_filterMap.mp step
  obtain ⟨c, hc, rfl⟩ := List.mem_map.mp hpart
  cases acts : c.action with
  | link transition target =>
    simp only [Clause.part, acts, Part.step?, Option.some.injEq, Step.link.injEq] at is_step
    refine ⟨target, List.mem_map.mpr ⟨(transition, target), ?_, rfl⟩, by rw [← is_step]⟩
    rw [links, ← links_split]
    exact List.mem_filterMap.mpr ⟨c, hc, by rw [Clause.link?, acts]; rfl⟩
  | _ =>
    simp only [Clause.part, acts, Part.step?, Option.some.injEq, reduceCtorEq] at is_step

/-! ## 2. Folding -/

/-- **The scopes `copies` are copies of `scopes`**, with links to copies; `f` tells of which. -/
structure Folds (f : ScopeId → ScopeId) (copies scopes : List (Scope V)) : Prop where
  root : f 0 = 0
  same : ∀ j, scopes[f j]? = copies[j]?.map (Scope.retarget f)

namespace Folds

variable {f : ScopeId → ScopeId} {copies scopes : List (Scope V)} (h : Folds f copies scopes)
include h

theorem here {j : ScopeId} {sc : Scope V} (here : copies[j]? = some sc) :
    scopes[f j]? = some (sc.retarget f) := by
  rw [h.same, here, Option.map_some]

/-- A walk along copies is a walk along what they are copies of. -/
theorem walks (acyclic : Acyclic scopes) {way : List ScopeId} {path : String} {hidden : Bool}
    (walks : Survey.Walks copies way path hidden) :
    Survey.Walks scopes (way.map f) path hidden := by
  induction walks with
  | root =>
    rw [List.map_singleton, h.root]
    exact .root
  | link walks here step fresh ih =>
    have step' := List.mem_map_of_mem (f := Step.retarget f) step
    exact ih.link (h.here here) step' (acyclic _ _ _ _ _ _ ih (h.here here) step')

theorem acyclic (acyclic : Acyclic scopes) : Acyclic copies := by
  intro j rest path hidden sc l walks here step back
  have step' := List.mem_map_of_mem (f := Step.retarget f) step
  exact acyclic _ _ _ _ _ _ (h.walks acyclic walks) (h.here here) step' (List.mem_map_of_mem back)

open Survey

/-- Two surveys that go on alike behind every link of a scope and of its copy find the same. -/
theorem foldl_eq (acyclic : Acyclic scopes) {enter enter' : Enter} {j : ScopeId}
    {rest : List ScopeId} {path : String} {hidden : Bool}
    (walks : Walks copies (j :: rest) path hidden) {sc : Scope V} (here : copies[j]? = some sc)
    (alike : ∀ target path hidden s, Walks copies (target :: j :: rest) path hidden →
      enter' target path (target :: j :: rest) hidden s =
        enter (f target) path ((target :: j :: rest).map f) hidden s)
    (steps : List (Step V)) (sub : steps ⊆ sc.steps) (s : Survey) :
    steps.foldl (step enter' path (j :: rest) hidden) s =
      (steps.map (Step.retarget f)).foldl (step enter path ((j :: rest).map f) hidden) s := by
  induction steps generalizing s with
  | nil => rfl
  | cons st more ih =>
    obtain ⟨mem, others⟩ := List.cons_subset.mp sub
    have first : step enter' path (j :: rest) hidden s st =
        step enter path ((j :: rest).map f) hidden s (st.retarget f) := by
      cases st with
      | guard holds => rfl
      | rule rule => rfl
      | link l =>
        have off := h.acyclic acyclic _ _ _ _ _ _ walks here mem
        have off' := acyclic _ _ _ _ _ _ (h.walks acyclic walks) (h.here here)
          (List.mem_map_of_mem (f := Step.retarget f) mem)
        have none : (j :: rest).contains l.target = false := by simpa using off
        have none' : ((j :: rest).map f).contains (f l.target) = false := by simpa using off'
        simp only [step, Step.retarget, link_eq, behind, none, none', Bool.false_eq_true, if_false]
        rw [alike l.target _ _ _ (walks.link here mem off)]
        rfl
    rw [List.foldl_cons, first]
    exact ih others _

/-- With levels enough for every walk, a survey finds behind a copy what it finds behind the scope. -/
theorem scope_eq (acyclic : Acyclic scopes) {levels levels' : Nat} {j : ScopeId}
    {rest : List ScopeId} {path : String} {hidden : Bool}
    (walks : Walks copies (j :: rest) path hidden)
    (enough : scopes.length + 1 ≤ levels + rest.length)
    (enough' : copies.length + 1 ≤ levels' + rest.length) (s : Survey) :
    scope copies levels' j path (j :: rest) hidden s =
      scope scopes levels (f j) path ((j :: rest).map f) hidden s := by
  induction levels generalizing levels' j rest path hidden s with
  | zero =>
    have room := (h.walks acyclic walks).room
    rw [List.length_map] at room
    omega
  | succ levels ih =>
    have room := walks.room
    obtain ⟨levels', rfl⟩ : ∃ n, levels' = n + 1 := ⟨levels' - 1, by omega⟩
    unfold scope
    cases here : copies[j]? with
    | none =>
      have absent : scopes[f j]? = none := by rw [h.same, here, Option.map_none]
      rw [absent]
    | some sc =>
      rw [h.here here]
      refine h.foldl_eq acyclic walks here (fun target path hidden s walks => ?_) sc.steps
        (List.Subset.refl _) _
      exact ih walks (by rw [List.length_cons]; omega) (by rw [List.length_cons]; omega) s

/-- **A survey of acyclic scopes finds what a survey of copies finds.** -/
theorem survey_eq (acyclic : Acyclic scopes) (registry : Registry) :
    ofScopes registry copies = ofScopes registry scopes := by
  have alike := h.scope_eq acyclic (.root) (Nat.le_refl _) (Nat.le_refl _)
    ⟨registry, FaultMap.empty, [], false⟩
  rw [List.map_singleton, h.root] at alike
  exact alike

end Folds

/-! ## 3. Copies -/

/-- Registering the faults of an item once more changes nothing. -/
theorem registerAll_eraseDups (r : Registry) (items : List SpecId) (faults : SpecId → List Fault) :
    (r.registerAll (items.eraseDups.flatMap faults)).1 =
      (r.registerAll (items.flatMap faults)).1 := by
  induction items using List.reverseRecOn with
  | nil => rfl
  | append_singleton items i ih =>
    rw [List.flatMap_append, List.flatMap_singleton, Registry.registerAll_append, eraseDups_concat]
    split
    · rename_i again
      have known : ∀ fault ∈ faults i,
          ((r.registerAll (items.flatMap faults)).1.find? fault).isSome = true := by
        intro fault mem
        exact r.isSome_find?_registerAll (List.mem_flatMap.mpr ⟨i, again, mem⟩)
      rw [ih, Registry.registerAll_of_known known]
    · rw [List.flatMap_append, List.flatMap_singleton, Registry.registerAll_append, ih]

namespace Progress.Ended

variable {catalogue : Catalogue V} {root : SpecId} {p : Progress V}
  (ended : p.Ended catalogue root)
include ended

theorem mem_of_refers {i j : SpecId} (mem : i ∈ p.gathered.seen) (refers : catalogue.Refers i j) :
    j ∈ p.gathered.seen :=
  (ended.ordered.reached j).mpr (((ended.ordered.reached i).mp mem).tail refers)

/-- Links between scopes are references between specifications. -/
theorem refers_of_leads {i j : ScopeId} (leads : Leads p.scopes i j) :
    ∃ id target, p.gathered.seen[i]? = some id ∧ p.gathered.seen[j]? = some target ∧
      catalogue.Refers id target := by
  obtain ⟨sc, l, here, step, rfl⟩ := leads
  have within : i < p.gathered.seen.length := by
    rw [← ended.length_eq]
    exact (List.getElem?_eq_some_iff.mp here).1
  have seen := List.getElem?_eq_getElem within
  obtain ⟨d, defined, -, scope⟩ := ended.getElem?_scopes seen
  rw [here] at scope
  cases scope
  obtain ⟨target, mem, number⟩ := Draft.target_scope step
  have refers : catalogue.Refers p.gathered.seen[i] target := by
    rw [Catalogue.Refers, Catalogue.references, Catalogue.links, defined]
    exact mem
  refine ⟨_, target, seen, ?_, refers⟩
  rw [number]
  exact List.getElem?_idxOf (ended.mem_of_refers (List.getElem_mem within) refers)

/-- **Scopes are without cycles if their specifications are.** -/
theorem acyclic (acyclic : catalogue.AcyclicFrom root) : Acyclic p.scopes := by
  intro last rest path hidden sc l walks at_last step back
  have leads : Leads p.scopes last l.target := ⟨sc, l, at_last, step, rfl⟩
  have cycle := Relation.TransGen.tail' (walks.leads _ back last rfl) leads
  obtain ⟨-, id, -, here, -⟩ := ended.refers_of_leads leads
  refine acyclic id ((ended.ordered.reached id).mp (List.mem_of_getElem? here)) ?_
  have refers (i j : ScopeId) (leads : Leads p.scopes i j) :
      catalogue.Refers (p.gathered.seen[i]?.getD root) (p.gathered.seen[j]?.getD root) := by
    obtain ⟨id, target, hi, hj, refers⟩ := ended.refers_of_leads leads
    rwa [hi, hj]
  have around : Relation.TransGen catalogue.Refers (p.gathered.seen[l.target]?.getD root)
      (p.gathered.seen[l.target]?.getD root) := cycle.lift (p.gathered.seen[·]?.getD root) refers
  rwa [here] at around

end Progress.Ended

namespace Catalogue.Copies

variable {c copy : Catalogue V} {root start : SpecId} {origin : SpecId → SpecId}
  (h : c.Copies root copy start origin)
include h

theorem issues (k : SpecId) : copy.issues k = c.issues (origin k) := by
  rw [Catalogue.issues, Catalogue.issues, ← h.draft? k]
  cases copy.draft? k <;> rfl

theorem errors (k : SpecId) : copy.errors k = c.errors (origin k) := by
  rw [Catalogue.errors, Catalogue.errors, ← h.draft? k]
  cases copy.draft? k with
  | none => rfl
  | some d => exact (d.errors_retarget origin).symm

/-- **Copies of what builds build.** -/
theorem build {scheme : Scheme V} (built : Scheme.build? c root = .ok scheme) :
    ∃ scheme', Scheme.build? copy start = .ok scheme' := by
  obtain ⟨p, ended, -⟩ := ended_of_build built
  obtain ⟨order, ordered⟩ := copy.exists_breadthFirst start
  have met {k : SpecId} (mem : k ∈ order) : origin k ∈ p.gathered.seen :=
    (ended.ordered.reached _).mpr (h.reachable ((ordered.reached k).mp mem))
  have clausal : ∀ k ∈ order, ∃ d, copy.draft? k = some d ∧ d.Clausal := by
    intro k mem
    obtain ⟨d, defined, clausal⟩ := ended.clausal _ (met mem)
    obtain ⟨d', copied, rfl⟩ := h.exists_draft defined
    exact ⟨d', copied, (Draft.clausal_retarget origin).mp clausal⟩
  have clean : order.flatMap copy.issues = [] := by
    refine List.flatMap_eq_nil_iff.mpr fun k mem => ?_
    rw [h.issues]
    exact List.flatMap_eq_nil_iff.mp ended.issues _ (met mem)
  obtain ⟨q, -, -, -, fine⟩ := build?_of_clausal ordered clausal
  obtain ⟨scheme', built', -⟩ := fine clean
  exact ⟨scheme', built'⟩

variable {p q : Progress V} (ended : p.Ended c root) (copied : q.Ended copy start)
include ended copied

/-- Copies register what their origins do, in the same order. -/
theorem registry : q.gathered.registry = p.gathered.registry := by
  rw [ended.registry, copied.registry, ← h.order ended.ordered copied.ordered,
    registerAll_eraseDups, List.flatMap_map, funext h.errors]

/-- **The scopes of copies are copies of scopes.** -/
theorem folds : Folds (fun j =>
    (q.gathered.seen[j]?.map fun k => p.gathered.seen.idxOf (origin k)).getD
      p.gathered.seen.length) q.scopes p.scopes where
  root := by
    have first := Catalogue.getElem?_zero ended.ordered.named
    obtain ⟨within, same⟩ := List.getElem?_eq_some_iff.mp first
    rw [Catalogue.getElem?_zero copied.ordered.named, Option.map_some, Option.getD_some, h.root,
      ← same, ended.ordered.once.idxOf_getElem]
  same := by
    intro j
    cases here : q.gathered.seen[j]? with
    | none =>
      have past : q.scopes.length ≤ j := by
        rw [copied.length_eq]
        exact List.getElem?_eq_none_iff.mp here
      rw [Option.map_none, Option.getD_none, ← ended.length_eq, List.getElem?_eq_none (Nat.le_refl _),
        List.getElem?_eq_none past, Option.map_none]
    | some k =>
      have number {k : SpecId} (mem : k ∈ q.gathered.seen) :
          p.gathered.seen[p.gathered.seen.idxOf (origin k)]? = some (origin k) :=
        List.getElem?_idxOf ((ended.ordered.reached _).mpr
          (h.reachable ((copied.ordered.reached k).mp mem)))
      have mem := List.mem_of_getElem? here
      obtain ⟨d', defined', -, scope'⟩ := copied.getElem?_scopes here
      obtain ⟨d, defined, -, scope⟩ := ended.getElem?_scopes (number mem)
      have same := h.draft? k
      rw [defined', defined, Option.map_some] at same
      cases same
      rw [Option.map_some, Option.getD_some, scope, scope', Option.map_some, h.registry ended copied]
      refine congrArg some (Draft.scope_retarget d' fun l link => ?_)
      have refers : copy.Refers k l.2 := by
        rw [Catalogue.Refers, Catalogue.references, Catalogue.links, defined']
        exact List.mem_map_of_mem link
      rw [List.getElem?_idxOf (copied.mem_of_refers mem refers)]
      rfl

end Catalogue.Copies

section Schemes

variable {c copy : Catalogue V} {root start : SpecId} {scheme scheme' : Scheme V}
  (built : Scheme.build? c root = .ok scheme)
include built

/-- What can be reached from the root of a scheme is declared. -/
theorem lt_of_build {id : SpecId} (reached : Relation.ReflTransGen c.Refers root id) :
    id < c.specs.length := by
  obtain ⟨p, ended, -⟩ := ended_of_build built
  obtain ⟨d, defined, -⟩ := ended.clausal id ((ended.ordered.reached id).mpr reached)
  exact Catalogue.lt_of_defined (by rw [Catalogue.isDefined, defined]; rfl)

theorem acyclic_of_build (acyclic : c.AcyclicFrom root) : Acyclic scheme.scopes := by
  obtain ⟨p, ended, rfl⟩ := ended_of_build built
  exact ended.acyclic acyclic

/-- No loop is noted where no scope leads back to itself. -/
theorem loopPossible_of_acyclic (acyclic : Acyclic scheme.scopes) : scheme.loopPossible = false := by
  refine Bool.eq_false_iff.mpr fun possible => ?_
  obtain ⟨id, rest, path, hidden, walks, back, on, sc, l, here, step, rfl, -⟩ :=
    (loopPossible_of_build built).mp possible
  exact acyclic _ _ _ _ _ _ walks here step on

/-- **The scheme of copies is that of the originals**, but for its scopes, and these are copies. -/
theorem folds_of_copies {origin : SpecId → SpecId} (h : c.Copies root copy start origin)
    (acyclic : Acyclic scheme.scopes) (built' : Scheme.build? copy start = .ok scheme') :
    (∃ f, Folds f scheme'.scopes scheme.scopes) ∧
      scheme' = { scheme with scopes := scheme'.scopes } := by
  obtain ⟨p, ended, rfl⟩ := ended_of_build built
  obtain ⟨q, copied, rfl⟩ := ended_of_build built'
  have folds := h.folds ended copied
  refine ⟨⟨_, folds⟩, ?_⟩
  have found : Survey.ofScopes p.gathered.registry q.scopes =
      Survey.ofScopes p.gathered.registry p.scopes := folds.survey_eq acyclic _
  simp only [Progress.scheme, h.registry ended copied, found, h.typeName]

end Schemes

end Assay
