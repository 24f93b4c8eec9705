import Mathlib.Logic.Relation
import Assay.Proofs.Scheme.Built
import Assay.Proofs.Scheme.Survey

/-!
# Where a value could be met inside itself

A value can be met inside itself where links lead back to its scope and none of them makes a new
value. A survey looks for such a place on ways that meet no scope twice, and on each only at the link
that closes it. This file says that nothing is missed that way, whatever lies on the way to a cycle
and however cycles share their scopes.

* `Leads scopes i j`, `Preserves scopes i j` -- a link of the scope `i` leads to the scope `j`; it is
  no conversion;
* `Closes scopes` -- the survey walks to a scope from which a link that is no conversion leads back
  to a scope on the way;
* **`loopPossible_iff`** -- the survey notes a loop exactly if that is so;
* `closes_of_lasting` -- scopes that lead to each other without end close a walk, for there are only
  so many scopes;
* **`loopPossible_of_cycle`** -- so a cycle without conversions is noted, and what is noted is a
  cycle with a link that is no conversion.
-/

namespace Assay

open Survey

variable {V : Type}

/-! ## 1. Links between scopes -/

/-- A link of the scope `i` leads to the scope `j`. -/
def Leads (scopes : List (Scope V)) (i j : ScopeId) : Prop :=
  ∃ sc l, scopes[i]? = some sc ∧ Step.link l ∈ sc.steps ∧ l.target = j

/-- A link of the scope `i` leads to the scope `j`, and it is no conversion. -/
def Preserves (scopes : List (Scope V)) (i j : ScopeId) : Prop :=
  ∃ sc l, scopes[i]? = some sc ∧ Step.link l ∈ sc.steps ∧ l.target = j ∧
    l.transition.kind ≠ .converted

theorem preservesIdentity_iff (kind : LinkKind) :
    kind.preservesIdentity = true ↔ kind ≠ .converted := by
  cases kind <;> decide

/-- The survey walks to a scope from which a link that is no conversion leads back to the way. -/
def Closes (scopes : List (Scope V)) : Prop :=
  ∃ id rest path hidden, Walks scopes (id :: rest) path hidden ∧
    ∃ back ∈ id :: rest, Preserves scopes id back

/-! ## 2. Walks to a cycle -/

section Walks

variable {scopes : List (Scope V)}

/-- Every scope on a way leads to the last one. -/
theorem Survey.Walks.leads {way : List ScopeId} {path : String} {hidden : Bool}
    (h : Walks scopes way path hidden) :
    ∀ i ∈ way, ∀ last ∈ way.head?, Relation.ReflTransGen (Leads scopes) i last := by
  induction h with
  | root =>
    intro i hi last hlast
    cases hlast
    rw [List.mem_singleton.mp hi]
  | link walks here step fresh ih =>
    intro i hi last hlast
    cases hlast
    rcases List.mem_cons.mp hi with rfl | hi
    · exact .refl
    · exact (ih i hi _ rfl).tail ⟨_, _, here, step, rfl⟩

theorem Survey.Walks.root_mem {way : List ScopeId} {path : String} {hidden : Bool}
    (h : Walks scopes way path hidden) : 0 ∈ way := by
  induction h with
  | root => exact List.mem_cons_self
  | link walks here step fresh ih => exact List.mem_cons_of_mem _ ih

/-- The survey walks to every scope on a way, and where the way is open, openly. -/
theorem Survey.Walks.upTo {way : List ScopeId} {path : String} {hidden : Bool}
    (h : Walks scopes way path hidden) :
    ∀ i ∈ way, ∃ rest path before, Walks scopes (i :: rest) path before ∧
      (before = true → hidden = true) := by
  induction h with
  | root =>
    intro i hi
    rw [List.mem_singleton.mp hi]
    exact ⟨_, _, _, .root, id⟩
  | link walks here step fresh ih =>
    intro i hi
    rcases List.mem_cons.mp hi with rfl | hi
    · exact ⟨_, _, _, walks.link here step fresh, id⟩
    · obtain ⟨rest, path, before, shorter, open_⟩ := ih i hi
      exact ⟨rest, path, before, shorter, fun e => by rw [open_ e, Bool.true_or]⟩

/-- **The survey walks to every scope that links lead to.** A way that comes back to a scope is left
    for the one that has led there before. -/
theorem walks_of_leads {i : ScopeId} (h : Relation.ReflTransGen (Leads scopes) 0 i) :
    ∃ rest path hidden, Walks scopes (i :: rest) path hidden := by
  induction h with
  | refl => exact ⟨_, _, _, .root⟩
  | @tail i j _ leads ih =>
    obtain ⟨rest, path, hidden, walks⟩ := ih
    obtain ⟨sc, l, here, step, rfl⟩ := leads
    by_cases fresh : l.target ∈ i :: rest
    · obtain ⟨rest, path, hidden, shorter, -⟩ := walks.upTo _ fresh
      exact ⟨rest, path, hidden, shorter⟩
    · exact ⟨_, _, _, walks.link here step fresh⟩

/-- Where a link that is no conversion leads to, the walk goes on, or it closes. -/
theorem Survey.Walks.onwards {id j : ScopeId} {rest : List ScopeId} {path : String} {hidden : Bool}
    (walks : Walks scopes (id :: rest) path hidden) (preserves : Preserves scopes id j) :
    Closes scopes ∨ ∃ path hidden, Walks scopes (j :: id :: rest) path hidden := by
  by_cases back : j ∈ id :: rest
  · exact .inl ⟨id, rest, path, hidden, walks, j, back, preserves⟩
  · obtain ⟨sc, l, here, step, rfl, -⟩ := preserves
    exact .inr ⟨_, _, walks.link here step back⟩

/-- **Scopes that lead to each other without end close a walk.** The walk goes on among them until it
    comes to a scope that it has met, and it cannot go on longer than there are scopes. -/
theorem closes_of_lasting (among : ScopeId → Prop)
    (lasting : ∀ i, among i → ∃ j, Preserves scopes i j ∧ among j) {id : ScopeId}
    {rest : List ScopeId} {path : String} {hidden : Bool}
    (walks : Walks scopes (id :: rest) path hidden) (h : among id) : Closes scopes := by
  generalize hroom : scopes.length - rest.length = room
  induction room generalizing id rest path hidden with
  | zero =>
    obtain ⟨j, preserves, -⟩ := lasting id h
    rcases walks.onwards preserves with closes | ⟨path, hidden, longer⟩
    · exact closes
    · have room := longer.room
      rw [List.length_cons] at room
      omega
  | succ room ih =>
    obtain ⟨j, preserves, hj⟩ := lasting id h
    rcases walks.onwards preserves with closes | ⟨path, hidden, longer⟩
    · exact closes
    · exact ih longer hj (by rw [List.length_cons]; omega)

/-- A cycle of links that are no conversions closes a walk. -/
theorem closes_of_cycle {i : ScopeId} (reached : Relation.ReflTransGen (Leads scopes) 0 i)
    (cycle : Relation.TransGen (Preserves scopes) i i) : Closes scopes := by
  obtain ⟨rest, path, hidden, walks⟩ := walks_of_leads reached
  refine closes_of_lasting (fun j => Relation.ReflTransGen (Preserves scopes) j i)
    (fun j hj => ?_) walks .refl
  have onwards : Relation.TransGen (Preserves scopes) j i := Relation.TransGen.trans_right hj cycle
  exact Relation.TransGen.head'_iff.mp onwards

/-- A closed walk goes around a cycle. -/
theorem Closes.cycle (h : Closes scopes) :
    ∃ i j, Relation.ReflTransGen (Leads scopes) 0 i ∧ Preserves scopes i j ∧
      Relation.ReflTransGen (Leads scopes) j i := by
  obtain ⟨i, rest, path, hidden, walks, j, back, preserves⟩ := h
  exact ⟨i, j, walks.leads 0 walks.root_mem i rfl, preserves, walks.leads j back i rfl⟩

end Walks

/-! ## 3. What the survey notes -/

namespace Survey

variable {scopes : List (Scope V)}

/-- A walk that closes is noted. -/
theorem loop_of_closes (registry : Registry) (h : Closes scopes) :
    (ofScopes registry scopes).loopPossible = true := by
  obtain ⟨id, rest, path, hidden, walks, back, on, sc, l, here, step, rfl, keeps⟩ := h
  obtain ⟨levels, s, -, grown⟩ := (entered_of_walks registry walks).behind walks here step
  have on : (id :: rest).contains l.target = true := by simpa using on
  simp only [behind, on, if_true, (preservesIdentity_iff _).mpr keeps] at grown
  exact grown.loop (noteLoop_loop _ _ _)

/-- If the survey `t` knows of a loop, `s` knew, or a walk closes. -/
def Finds (scopes : List (Scope V)) (s t : Survey) : Prop :=
  t.loopPossible = true → s.loopPossible = true ∨ Closes scopes

theorem Finds.refl (s : Survey) : Finds scopes s s := .inl

theorem Finds.trans {s t u : Survey} (h : Finds scopes s t) (h' : Finds scopes t u) :
    Finds scopes s u := fun hu => (h' hu).elim h .inr

theorem finds_of_eq {s t : Survey} (h : t.loopPossible = s.loopPossible) : Finds scopes s t :=
  fun ht => .inl (h.symm.trans ht)

/-- A way into the scopes that notes loops only where walks close. -/
def Enter.Finding (scopes : List (Scope V)) (enter : Enter) : Prop :=
  ∀ id rest path hidden s, Walks scopes (id :: rest) path hidden →
    Finds scopes s (enter id path (id :: rest) hidden s)

section Parts

variable {enter : Enter} (he : Enter.Finding scopes enter) {id : ScopeId} {rest : List ScopeId}
  {path : String} {hidden : Bool} (walks : Walks scopes (id :: rest) path hidden) {sc : Scope V}
  (here : scopes[id]? = some sc)
include he walks here

theorem finds_behind (s : Survey) {l : LinkStep V} (step : .link l ∈ sc.steps) :
    Finds scopes s (behind enter path (id :: rest) hidden s l) := by
  have moved : ((s.resolve path l.path).1.resolve (Path.along path l.path)
      l.transition.kind.itemSegment).1.loopPossible = s.loopPossible :=
    (resolve_loop _ _ _).trans (resolve_loop _ _ _)
  unfold behind
  refine (finds_of_eq moved).trans ?_
  dsimp only
  split
  · rename_i on
    split
    · rename_i keeps
      have back : l.target ∈ id :: rest := by simpa using on
      exact fun _ => .inr ⟨id, rest, path, hidden, walks, l.target, back, sc, l, here, step, rfl,
        (preservesIdentity_iff _).mp keeps⟩
    · exact Finds.refl _
  · rename_i off
    have fresh : l.target ∉ id :: rest := by simpa using off
    exact he _ _ _ _ _ (walks.link here step fresh)

theorem finds_step (s : Survey) {st : Step V} (mem : st ∈ sc.steps) :
    Finds scopes s (step enter path (id :: rest) hidden s st) := by
  cases st with
  | guard holds => exact Finds.refl s
  | rule rule => exact finds_of_eq ((note_loop _ _ _ _).trans (resolve_loop _ _ _))
  | link l =>
    simp only [step, link_eq]
    exact (finds_behind he walks here s mem).trans (finds_of_eq (note_loop _ _ _ _))

theorem finds_foldl (steps : List (Step V)) (sub : steps ⊆ sc.steps) (s : Survey) :
    Finds scopes s (steps.foldl (step enter path (id :: rest) hidden) s) := by
  induction steps generalizing s with
  | nil => exact Finds.refl s
  | cons st more ih =>
    obtain ⟨hst, hmore⟩ := List.cons_subset.mp sub
    exact (finds_step he walks here s hst).trans (ih hmore _)

end Parts

theorem finding_scope (scopes : List (Scope V)) (levels : Nat) :
    Enter.Finding scopes (scope scopes levels) := by
  induction levels with
  | zero => exact fun _ _ _ _ s _ => Finds.refl s
  | succ levels ih =>
    intro id rest path hidden s walks
    unfold scope
    cases here : scopes[id]? with
    | none => exact Finds.refl s
    | some sc =>
      exact (finds_of_eq (note_loop _ _ _ _)).trans
        (finds_foldl ih walks here sc.steps (List.Subset.refl _) _)

/-- **A survey notes a loop exactly if a walk closes.** -/
theorem loopPossible_iff (registry : Registry) (scopes : List (Scope V)) :
    (ofScopes registry scopes).loopPossible = true ↔ Closes scopes := by
  refine ⟨fun h => ?_, loop_of_closes registry⟩
  have finds := finding_scope scopes (scopes.length + 1) 0 [] "" false
    ⟨registry, FaultMap.empty, [], false⟩ .root
  exact (finds h).resolve_left Bool.false_ne_true

end Survey

/-! ## 4. Schemes that were built -/

/-- The flag of a scheme is that of the survey of its scopes. -/
theorem loopPossible_of_build {catalogue : Catalogue V} {root : SpecId} {scheme : Scheme V}
    (built : Scheme.build? catalogue root = .ok scheme) :
    scheme.loopPossible = true ↔ Closes scheme.scopes := by
  obtain ⟨p, -, scopes, -, -, loop⟩ := progress_of_build built
  rw [scopes, loop]
  exact loopPossible_iff p.gathered.registry p.scopes

/-- **No cycle without conversions is missed.** If links lead from the root to a scope that lies on a
    cycle of links none of which is a conversion, the scheme tells that a loop is possible; what links
    lead to the cycle, and how they show faults, does not matter. And if it tells so, there is a cycle
    that links lead to and that has a link that is no conversion. -/
theorem loopPossible_of_cycle {catalogue : Catalogue V} {root : SpecId} {scheme : Scheme V}
    (built : Scheme.build? catalogue root = .ok scheme) :
    (∀ i, Relation.ReflTransGen (Leads scheme.scopes) scheme.root i →
        Relation.TransGen (Preserves scheme.scopes) i i → scheme.loopPossible = true) ∧
      (scheme.loopPossible = true →
        ∃ i j, Relation.ReflTransGen (Leads scheme.scopes) scheme.root i ∧
          Preserves scheme.scopes i j ∧ Relation.ReflTransGen (Leads scheme.scopes) j i) := by
  refine ⟨fun i reached cycle => ?_, fun possible => ?_⟩
  · exact (loopPossible_of_build built).mpr (closes_of_cycle reached cycle)
  · exact ((loopPossible_of_build built).mp possible).cycle

/-- A ring of two, behind a conversion that shows one fault for all there is. -/
def rings : Catalogue (List Nat) := ⟨[
  ⟨"gate", some ⟨"gate", [
    .action .optional,
    .action (.link (.converted List.reverse) 1),
    .parameter (.message "bad ring")], [], none⟩⟩,
  ⟨"ring", some ⟨"ring", [
    .action .optional,
    .action (.link (.member "Next" fun l => l.head?.map fun n => ([n], .part "next")) 2)],
    [], none⟩⟩,
  ⟨"pair", some ⟨"pair", [
    .action .optional,
    .action (.link (.collection fun l => l.map fun n => ([n], .part "item")) 1)], [], none⟩⟩]⟩

/-- The ring made ready. -/
def ringsScheme : Scheme (List Nat) where
  rootType := "gate"
  scopes := [
    ⟨"gate", .optional, none, [
      .link ⟨none, .converted List.reverse, 1, none, .replaced (some 0)⟩]⟩,
    ⟨"ring", .optional, none, [
      .link ⟨none, .member "Next" fun l => l.head?.map fun n => ([n], .part "next"), 2, some "Next",
        .nested⟩]⟩,
    ⟨"pair", .optional, none, [
      .link ⟨none, .collection fun l => l.map fun n => ([n], .part "item"), 1, none, .nested⟩]⟩]
  registry := ⟨[Fault.ofMessage "bad ring" [], Fault.referenceLoop]⟩
  template := ⟨[("", [0])]⟩
  resolved := [(("Next", "#"), "Next.#"), (("", "Next"), "Next")]
  loopPossible := true

/-- The ring is noted though its faults are hidden and a conversion leads to it. -/
theorem loopPossible_of_cycle_rings :
    Scheme.build? rings 0 = .ok ringsScheme ∧
      Relation.ReflTransGen (Leads ringsScheme.scopes) ringsScheme.root 1 ∧
      Relation.TransGen (Preserves ringsScheme.scopes) 1 1 ∧ ringsScheme.loopPossible = true ∧
      ∃ i j, Relation.ReflTransGen (Leads ringsScheme.scopes) ringsScheme.root i ∧
        Preserves ringsScheme.scopes i j ∧ Relation.ReflTransGen (Leads ringsScheme.scopes) j i := by
  have built : Scheme.build? rings 0 = .ok ringsScheme := rfl
  have gate : Leads ringsScheme.scopes ringsScheme.root 1 :=
    ⟨_, _, rfl, List.mem_cons_self, rfl⟩
  have out : Preserves ringsScheme.scopes 1 2 :=
    ⟨_, _, rfl, List.mem_cons_self, rfl, LinkKind.noConfusion⟩
  have back : Preserves ringsScheme.scopes 2 1 :=
    ⟨_, _, rfl, List.mem_cons_self, rfl, LinkKind.noConfusion⟩
  have reached : Relation.ReflTransGen (Leads ringsScheme.scopes) ringsScheme.root 1 := .single gate
  have cycle : Relation.TransGen (Preserves ringsScheme.scopes) 1 1 :=
    (Relation.TransGen.single out).tail back
  have possible : ringsScheme.loopPossible = true := (loopPossible_of_cycle built).1 1 reached cycle
  exact ⟨built, reached, cycle, possible, (loopPossible_of_cycle built).2 possible⟩

end Assay
