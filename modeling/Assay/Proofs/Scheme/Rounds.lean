import Mathlib.Data.List.Forall2
import Assay.Proofs.Scheme.Built
import Assay.Proofs.Specification.Legal
import Assay.Proofs.Specification.Order

/-!
# The rounds of compilation

Compilation takes up one specification after another. The list of what it has seen is queue and
numbering at once; this file says that it is the order of first reference, cut off where compilation
stands, and what every round adds.

* `LinkStep.Binds seen l link` -- a link that was compiled is that of a command: it has the transition
  of the command, and leads to the number at which the specification of the command was seen;
* `compile_cases`, `compileAll_eq`, **`Draft.compile_of_clausal`** -- a draft of clauses is compiled,
  and what it refers to is seen behind what was seen before;
* `Progress.Rounds p ids q` -- the specifications that come next and are compiled from `p` to `q`;
  `finish_of_rounds` -- rounds are what the bound on rounds counts;
* **`rounds_of_order`** -- as long as the specifications of the order have drafts of clauses,
  compilation compiles them in this order.
-/

namespace Assay

variable {V : Type}

/-! ## 1. Links -/

/-- The link of a step that is one. -/
def Step.link? : Step V → Option (LinkStep V)
  | .link l => some l
  | _ => none

/-- The link of a part that is one. -/
def Part.link? (part : Part V) : Option (LinkStep V) := part.step?.bind Step.link?

/-- The link of a clause that is one. -/
def Clause.link? (c : Clause V) : Option (Transition V × SpecId) := (Command.action c.action).link?

/-- The links of a scope, in order. -/
def Scope.links (sc : Scope V) : List (LinkStep V) := sc.steps.filterMap Step.link?

/-- The link has the transition of a command and leads where its specification was seen. -/
structure LinkStep.Binds (seen : List SpecId) (l : LinkStep V) (link : Transition V × SpecId) :
    Prop where
  transition : l.transition = link.1
  target : seen[l.target]? = some link.2

theorem LinkStep.Binds.mono {seen more : List SpecId} {l : LinkStep V}
    {link : Transition V × SpecId} (h : l.Binds seen link) (longer : seen <+: more) :
    l.Binds more link := by
  obtain ⟨here, same⟩ := List.getElem?_eq_some_iff.mp h.target
  refine ⟨h.transition, ?_⟩
  rw [List.prefix_iff_getElem?.mp longer _ here, same]

/-- Taking commands apart leaves their links. -/
theorem links_split (commands : List (Command V)) :
    (Clause.split commands).2.filterMap Clause.link? = commands.filterMap Command.link? := by
  induction commands with
  | nil => rfl
  | cons command rest ih =>
    cases command with
    | parameter p => exact ih
    | action a =>
      simp only [Clause.split, List.filterMap_cons, Clause.link?]
      rw [ih]

/-! ## 2. Clauses -/

section Clauses

variable {g : Gathered} {read : List SpecId}

theorem seen_register_eq (g : Gathered) (fault : Fault) : (g.register fault).1.seen = g.seen := by
  unfold Gathered.register
  split <;> rfl

theorem seen_showingOf_eq (g : Gathered) (content : Content) :
    (g.showingOf content).1.seen = g.seen := by
  unfold Gathered.showingOf
  split
  · rfl
  · split
    · exact seen_register_eq g _
    · rfl

/-- A specification is seen once, behind the others. -/
theorem seen_scopeOf_eq (seen : g.seen = read.eraseDups) (id : SpecId) :
    (g.scopeOf id).1.seen = (read ++ [id]).eraseDups ∧
      (g.scopeOf id).1.seen[(g.scopeOf id).2]? = some id := by
  unfold Gathered.scopeOf
  split
  · rename_i scope found
    obtain ⟨here, same, -⟩ := List.findIdx?_eq_some_iff_getElem.mp found
    have at_scope : g.seen[scope]? = some id := by
      rw [List.getElem?_eq_getElem here, beq_iff_eq.mp same]
    have known : id ∈ read := by
      have mem := List.mem_of_getElem? at_scope
      rw [seen] at mem
      exact List.mem_eraseDups.mp mem
    rw [eraseDups_concat, if_pos known]
    exact ⟨seen, at_scope⟩
  · rename_i notFound
    have fresh : id ∉ read := by
      intro mem
      have known : id ∈ g.seen := by
        rw [seen]
        exact List.mem_eraseDups.mpr mem
      have other := List.findIdx?_eq_none_iff.mp notFound id known
      exact absurd other (by simp)
    rw [eraseDups_concat, if_neg fresh]
    exact ⟨congrArg (· ++ [id]) seen, by simp⟩

/-- **What a clause becomes**: a link to a specification that is now seen, or no link. -/
theorem compile_cases (seen : g.seen = read.eraseDups) (c : Clause V) :
    (c.link? = none ∧ (c.compile g).2.link? = none ∧ (c.compile g).1.seen = read.eraseDups) ∨
      ∃ link l, c.link? = some link ∧ (c.compile g).2.link? = some l ∧
        (c.compile g).1.seen = (read ++ [link.2]).eraseDups ∧
        l.Binds (c.compile g).1.seen link := by
  unfold Clause.link? Clause.compile
  cases c.action with
  | required => exact .inl ⟨rfl, rfl, (seen_register_eq g _).trans seen⟩
  | «optional» => exact .inl ⟨rfl, rfl, seen⟩
  | forbidden => exact .inl ⟨rfl, rfl, (seen_register_eq g _).trans seen⟩
  | guard holds => exact .inl ⟨rfl, rfl, seen⟩
  | rule holds fault => exact .inl ⟨rfl, rfl, (seen_register_eq g _).trans seen⟩
  | link transition target =>
    have shown : (g.showingOf c.content).1.seen = read.eraseDups :=
      (seen_showingOf_eq g c.content).trans seen
    obtain ⟨now, at_target⟩ := seen_scopeOf_eq shown target
    exact .inr ⟨(transition, target), _, rfl, rfl, now, ⟨rfl, at_target⟩⟩

/-- **What clauses become**: their links, to what is seen in the end. -/
theorem compileAll_eq (seen : g.seen = read.eraseDups) (clauses : List (Clause V)) :
    (Clause.compileAll clauses g).1.seen =
        (read ++ (clauses.filterMap Clause.link?).map Prod.snd).eraseDups ∧
      List.Forall₂ (LinkStep.Binds (Clause.compileAll clauses g).1.seen)
        ((Clause.compileAll clauses g).2.filterMap Part.link?)
        (clauses.filterMap Clause.link?) := by
  induction clauses generalizing g read with
  | nil =>
    refine ⟨?_, .nil⟩
    rw [List.filterMap_nil, List.map_nil, List.append_nil]
    exact seen
  | cons c rest ih =>
    rw [compileAll_cons]
    rcases compile_cases seen c with ⟨none, part, now⟩ | ⟨link, l, some, part, now, binds⟩
    · rw [List.filterMap_cons_none none, List.filterMap_cons_none part]
      exact ih now
    · obtain ⟨later, bound⟩ := ih now
      rw [List.filterMap_cons_some some, List.filterMap_cons_some part]
      refine ⟨?_, .cons (binds.mono (seen_compileAll rest _)) bound⟩
      rw [later, List.map_cons, List.append_assoc, List.singleton_append]

/-- **A draft of clauses is compiled.** Its links are those of its commands, and the specifications they
    lead to are seen behind what was seen before. -/
theorem Draft.compile_of_clausal {d : Draft V} (clausal : d.Clausal)
    (seen : g.seen = read.eraseDups) :
    ∃ g' sc, d.compile g = .ok (g', sc) ∧
      g'.seen = (read ++ d.links.map Prod.snd).eraseDups ∧
      List.Forall₂ (LinkStep.Binds g'.seen) sc.links d.links := by
  obtain ⟨now, bound⟩ := compileAll_eq seen (Clause.split d.commands).2
  have steps : ((Clause.compileAll (Clause.split d.commands).2 g).2.filterMap Part.step?).filterMap
      Step.link? = (Clause.compileAll (Clause.split d.commands).2 g).2.filterMap Part.link? :=
    List.filterMap_filterMap
  rw [links_split] at now bound
  rw [← steps] at bound
  unfold Draft.compile
  rw [show Clause.ofCommands? d.commands = .ok (Clause.split d.commands).2 from clausal]
  dsimp only
  -- a missing presence command registers a fault and sees nothing
  cases lastSome Part.presence? (Clause.compileAll (Clause.split d.commands).2 g).2 with
  | some presence => exact ⟨_, _, rfl, now, bound⟩
  | none => exact ⟨_, _, rfl, now, bound⟩

end Clauses

/-! ## 3. Rounds -/

/-- The issues of a specification; none if it is not defined. -/
def Catalogue.issues (c : Catalogue V) (id : SpecId) : List LocatedIssue :=
  match c.draft? id with
  | some d => d.issues
  | none => []

/-- The scope was compiled from a specification, and its links lead to the numbers that the
    specifications have in an order. -/
structure Compiled (catalogue : Catalogue V) (order : List SpecId) (id : SpecId) (sc : Scope V) :
    Prop where
  made : ∃ d g g', catalogue.draft? id = some d ∧ d.compile g = .ok (g', sc)
  links : List.Forall₂ (LinkStep.Binds order) sc.links (catalogue.links id)

namespace Progress

/-- **The specifications that come next and are compiled**, one a round. -/
inductive Rounds (catalogue : Catalogue V) : Progress V → List SpecId → Progress V → Prop where
  | none (p : Progress V) : Rounds catalogue p [] p
  | round {p q r : Progress V} {id : SpecId} {rest : List SpecId} (next : p.next? = some id)
      (compiled : p.compile catalogue id = .ok q) (behind : Rounds catalogue q rest r) :
      Rounds catalogue p (id :: rest) r

theorem Rounds.concat {catalogue : Catalogue V} {p q r : Progress V} {ids : List SpecId}
    {id : SpecId} (h : Rounds catalogue p ids q) (next : q.next? = some id)
    (compiled : q.compile catalogue id = .ok r) : Rounds catalogue p (ids ++ [id]) r := by
  induction h with
  | none p => exact .round next compiled (.none r)
  | round next' compiled' behind ih => exact .round next' compiled' (ih next compiled)

/-- Rounds are what the bound on rounds counts. -/
theorem finish_of_rounds {catalogue : Catalogue V} {p q : Progress V} {ids : List SpecId}
    (h : Rounds catalogue p ids q) (left : Nat) :
    p.finish catalogue (ids.length + left) = q.finish catalogue left := by
  induction h with
  | none p => rw [List.length_nil, Nat.zero_add]
  | round next compiled behind ih =>
    rw [List.length_cons, Nat.succ_add, finish, next]
    simp only [compiled]
    exact ih

/-- Compilation stands behind the specifications `done` of an order. -/
structure Stands (catalogue : Catalogue V) (root : SpecId) (order done : List SpecId)
    (p : Progress V) : Prop where
  seen : p.gathered.seen = catalogue.met root done
  issues : p.issues = done.flatMap catalogue.issues
  scopes : List.Forall₂ (Compiled catalogue order) done p.scopes

section Stands

variable {catalogue : Catalogue V} {root : SpecId} {order : List SpecId}
  (ordered : catalogue.BreadthFirst root order) {p : Progress V} {k : Nat}
include ordered

/-- The next specification is the next one of the order. -/
theorem Stands.next (h : Stands catalogue root order (order.take k) p) (hk : k ≤ order.length) :
    p.next? = order[k]? := by
  have done : p.scopes.length = k := by
    rw [← h.scopes.length_eq, List.length_take]
    omega
  rw [next?, h.seen, done]
  exact ordered.getElem?_met k

/-- **A round adds the scope of the next specification.** -/
theorem Stands.round (h : Stands catalogue root order (order.take k) p) {id : SpecId}
    (here : order[k]? = some id) {d : Draft V} (defined : catalogue.draft? id = some d)
    (clausal : d.Clausal) :
    ∃ q, p.compile catalogue id = .ok q ∧ Stands catalogue root order (order.take (k + 1)) q := by
  have further : order.take (k + 1) = order.take k ++ [id] := by
    rw [List.take_add_one, here, Option.toList_some]
  obtain ⟨g, sc, compiled, now, bound⟩ := Draft.compile_of_clausal clausal h.seen
  have links : catalogue.links id = d.links := by rw [Catalogue.links, defined]
  have issues : catalogue.issues id = d.issues := by rw [Catalogue.issues, defined]
  have met : g.seen = catalogue.met root (order.take (k + 1)) := by
    rw [now, further, Catalogue.met, List.flatMap_append, List.flatMap_singleton,
      Catalogue.references, links]
    rfl
  have known : g.seen <+: order := by
    rw [met]
    exact Catalogue.met_take_prefix ordered.named (k + 1)
  refine ⟨⟨g, p.issues ++ d.issues, p.scopes ++ [sc]⟩, ?_, met, ?_, ?_⟩
  · simp only [compile, defined, compiled]
  · rw [further, List.flatMap_append, List.flatMap_singleton, h.issues, issues]
  · rw [further]
    refine List.rel_append h.scopes (.cons ⟨⟨d, _, _, defined, compiled⟩, ?_⟩ .nil)
    rw [links]
    exact bound.imp fun _ _ binds => binds.mono known

/-- **Compilation compiles the specifications of the order in the order**, as long as they are
    defined. -/
theorem rounds_of_order (hk : k ≤ order.length)
    (defined : ∀ id ∈ order.take k, ∃ d, catalogue.draft? id = some d ∧ d.Clausal) :
    ∃ p, Rounds catalogue (start root) (order.take k) p ∧
      Stands catalogue root order (order.take k) p := by
  induction k with
  | zero => exact ⟨start root, .none _, rfl, rfl, .nil⟩
  | succ k ih =>
    have here : order[k]? = some order[k] := List.getElem?_eq_getElem hk
    have further : order.take (k + 1) = order.take k ++ [order[k]] := by
      rw [List.take_add_one, here, Option.toList_some]
    obtain ⟨p, rounds, stands⟩ := ih (by omega) fun id mem =>
      defined id (further ▸ List.mem_append_left _ mem)
    obtain ⟨d, hd, clausal⟩ :=
      defined order[k] (further ▸ List.mem_append_right _ List.mem_cons_self)
    obtain ⟨q, compiled, stands'⟩ := stands.round ordered here hd clausal
    have next : p.next? = some order[k] := (stands.next ordered (by omega)).trans here
    refine ⟨q, ?_, stands'⟩
    rw [further]
    exact rounds.concat next compiled

end Stands

end Progress

end Assay
