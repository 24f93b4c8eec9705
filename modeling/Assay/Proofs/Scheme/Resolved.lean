import Assay.Proofs.Scheme.Built
import Assay.Proofs.Scheme.Survey

/-!
# Relative paths that are looked up

A survey writes down every relative path that it reads, with the path it reads it at and with what it
gets, and a scheme looks there before it reads one again. What is written down depends on the walk, on
the links that were followed to a scope and on how often; what is looked up must not.

* `Survey.Faithful s` -- what is written down is what reading gives; every part of a survey keeps it;
* `Step.reads path` -- the relative paths that a step reads, where its scope is at a path;
* `reads_of_walks` -- wherever the survey walks, these are written down;
* **`resolvePath_eq_resolve`** -- so a scheme that was built finds every relative path that its survey
  came across, and what it tells of any is what reading gives.
-/

namespace Assay

variable {V : Type}

/-! ## 1. What is written down -/

namespace Survey

/-- **What is written down is what reading gives.** -/
def Faithful (s : Survey) : Prop :=
  ∀ base relative path, ((base, relative), path) ∈ s.resolved → path = Path.resolve base relative

theorem faithful_resolve {s : Survey} (h : s.Faithful) (base : String) (relative : Option String) :
    (s.resolve base relative).1.Faithful := by
  cases relative with
  | none => exact h
  | some relative =>
    intro b r path mem
    rcases List.mem_cons.mp mem with same | mem
    · cases same
      rfl
    · exact h b r path mem

/-- **A survey stays faithful**, whatever scopes it goes through. -/
theorem faithful_invariant (scopes : List (Scope V)) :
    Invariant scopes (fun _ => True) Faithful where
  along _ _ _ _ _ _ := trivial
  item _ _ _ := trivial
  note _ _ _ _ _ s path hidden _ h := by
    unfold Faithful
    rw [note_resolved]
    exact h
  resolve s base relative h := faithful_resolve h base relative
  noteLoop s path hidden _ h := by
    unfold Faithful
    rw [noteLoop_resolved]
    exact h

theorem faithful_ofScopes (registry : Registry) (scopes : List (Scope V)) :
    (ofScopes registry scopes).Faithful :=
  invariant_scope (faithful_invariant scopes) _ 0 "" [0] false _ trivial
    fun _ _ _ none => absurd none List.not_mem_nil

end Survey

/-- The relative paths that a step reads, where its scope is at a path: its own, and that of any value
    behind it. -/
def Step.reads (path : String) : Step V → List (String × Option String)
  | .guard _ => []
  | .rule r => [(path, r.path)]
  | .link l => [(path, l.path), (Path.along path l.path, l.transition.kind.itemSegment)]

namespace Survey

/-- What is read is written down. -/
theorem mem_resolve (s : Survey) (base relative : String) :
    ((base, relative), Path.resolve base relative) ∈ (s.resolve base (some relative)).1.resolved :=
  List.mem_cons_self

/-- A scope that is entered has the relative paths of its steps written down. -/
theorem reads_scope {scopes : List (Scope V)} {id : ScopeId} {sc : Scope V}
    (here : scopes[id]? = some sc) {st : Step V} (mem : st ∈ sc.steps) (levels : Nat)
    {path base relative : String} (reads : (base, some relative) ∈ st.reads path)
    (way : List ScopeId) (hidden : Bool) (s : Survey) :
    ((base, relative), Path.resolve base relative) ∈
      (scope scopes (levels + 1) id path way hidden s).resolved := by
  have grows := growing_scope scopes levels
  obtain ⟨t, ht⟩ := step_of_mem grows mem path way hidden (s.note path sc.presence.fault hidden)
  simp only [scope, here]
  refine ht.resolved _ ?_
  cases st with
  | guard holds => exact absurd reads List.not_mem_nil
  | rule r =>
    obtain ⟨rfl, own⟩ := Prod.mk.inj (List.mem_singleton.mp reads)
    simp only [step, note_resolved, ← own]
    exact mem_resolve t base relative
  | link l =>
    simp only [step, link_eq, note_resolved]
    refine (grows_inner grows path way hidden t l).resolved _ ?_
    rcases List.mem_cons.mp reads with same | item
    · obtain ⟨rfl, own⟩ := Prod.mk.inj same
      refine (grows_resolve _ _ _).resolved _ ?_
      rw [← own]
      exact mem_resolve t base relative
    · obtain ⟨rfl, own⟩ := Prod.mk.inj (List.mem_singleton.mp item)
      rw [← own]
      exact mem_resolve _ _ relative

/-- **Wherever the survey walks, the relative paths of the scope are written down.** -/
theorem reads_of_walks (registry : Registry) {scopes : List (Scope V)} {id : ScopeId}
    {rest : List ScopeId} {path : String} {hidden : Bool}
    (walks : Walks scopes (id :: rest) path hidden) {sc : Scope V} (here : scopes[id]? = some sc)
    {st : Step V} (mem : st ∈ sc.steps) {base relative : String}
    (reads : (base, some relative) ∈ st.reads path) :
    ((base, relative), Path.resolve base relative) ∈ (ofScopes registry scopes).resolved := by
  obtain ⟨levels, s, grown⟩ := scope_of_walks registry walks
  exact grown.resolved _ (reads_scope here mem levels reads (id :: rest) hidden s)

/-- Of what a faithful survey has written down, the newest is as good as any. -/
theorem lookup_of_faithful {s : Survey} (h : s.Faithful) (base relative : String) :
    s.resolved.lookup (base, relative) = none ∨
      s.resolved.lookup (base, relative) = some (Path.resolve base relative) := by
  cases found : s.resolved.lookup (base, relative) with
  | none => exact .inl rfl
  | some path =>
    obtain ⟨newer, older, split, -⟩ := List.lookup_eq_some_iff.mp found
    rw [h base relative path (split ▸ List.mem_append_right newer List.mem_cons_self)]
    exact .inr rfl

theorem lookup_of_mem {s : Survey} (h : s.Faithful) {base relative path : String}
    (mem : ((base, relative), path) ∈ s.resolved) :
    s.resolved.lookup (base, relative) = some (Path.resolve base relative) := by
  refine (lookup_of_faithful h base relative).resolve_left fun none => ?_
  have other := List.lookup_eq_none_iff.mp none _ mem
  simp at other

end Survey

/-! ## 2. Schemes that were built -/

theorem resolved_of_build {catalogue : Catalogue V} {root : SpecId} {scheme : Scheme V}
    (built : Scheme.build? catalogue root = .ok scheme) :
    ∃ registry, scheme.resolved = (Survey.ofScopes registry scheme.scopes).resolved := by
  obtain ⟨p, -, -, rfl⟩ := build?_eq_ok_iff.mp built
  exact ⟨p.gathered.registry, rfl⟩

/-- **Looking a relative path up is reading it.** For a scheme that was built, and for any two texts,
    what it tells of the relative path at the base is what reading it there gives. And the relative
    paths of the steps of a scope are found, at every path that the survey walks to the scope. -/
theorem resolvePath_eq_resolve {catalogue : Catalogue V} {root : SpecId} {scheme : Scheme V}
    (built : Scheme.build? catalogue root = .ok scheme) :
    (∀ base relative, scheme.resolvePath base relative = Path.resolve base relative) ∧
    ∀ id rest path hidden sc st base relative,
      Survey.Walks scheme.scopes (id :: rest) path hidden → scheme.scopes[id]? = some sc →
      st ∈ sc.steps → (base, some relative) ∈ st.reads path →
      scheme.resolved.lookup (base, relative) = some (Path.resolve base relative) := by
  obtain ⟨registry, written⟩ := resolved_of_build built
  have faithful := Survey.faithful_ofScopes registry scheme.scopes
  constructor
  · intro base relative
    unfold Scheme.resolvePath
    rw [written]
    rcases Survey.lookup_of_faithful faithful base relative with none | found
    · rw [none, Option.getD_none]
    · rw [found, Option.getD_some]
  · intro id rest path hidden sc st base relative walks here mem reads
    rw [written]
    exact Survey.lookup_of_mem faithful (Survey.reads_of_walks registry walks here mem reads)

/-- A desk with two drawers, which are shown as one; a drawer is told at its lock. -/
def desk : Catalogue Nat := ⟨[
  ⟨"desk", some ⟨"desk", [
    .action .optional,
    .action (.link (.member "Left" fun n => some (n, .part "left")) 1),
    .action (.link (.member "Right" fun n => some (n, .part "right")) 1),
    .parameter (.path "Left")], [], none⟩⟩,
  ⟨"drawer", some ⟨"drawer", [
    .action .optional,
    .action (.rule (· != 0) Fault.error),
    .parameter (.name "Lock")], [], none⟩⟩]⟩

/-- The link to the left drawer. -/
def leftLink : LinkStep Nat :=
  ⟨none, .member "Left" fun n => some (n, .part "left"), 1, some "Left", .nested⟩

def lockRule : RuleStep Nat := ⟨none, (· != 0), some 0, some "<Lock"⟩

/-- The desk made ready; both walks to the drawer have written down the same. -/
def deskScheme : Scheme Nat where
  rootType := "desk"
  scopes := [
    ⟨"desk", .optional, none, [
      .link leftLink,
      .link ⟨none, .member "Right" fun n => some (n, .part "right"), 1, some "Left", .nested⟩]⟩,
    ⟨"drawer", .optional, none, [.rule lockRule]⟩]
  registry := ⟨[Fault.error]⟩
  template := ⟨[("Lock", [0])]⟩
  resolved := [
    (("Left", "<Lock"), "Lock"), (("", "Left"), "Left"),
    (("Left", "<Lock"), "Lock"), (("", "Left"), "Left")]
  loopPossible := false

/-- The path of the lock is found, and one that nobody has read yet is read. -/
theorem resolvePath_eq_resolve_desk :
    Scheme.build? desk 0 = .ok deskScheme ∧
      deskScheme.resolvePath "Left" "<Lock" = "Lock" ∧
      deskScheme.resolvePath "Left" "Key" = "Left.Key" ∧
      deskScheme.resolved.lookup ("Left", "Key") = none ∧
      Survey.Walks deskScheme.scopes [1, 0] "Left" false ∧
      deskScheme.resolved.lookup ("Left", "<Lock") = some (Path.resolve "Left" "<Lock") := by
  have built : Scheme.build? desk 0 = .ok deskScheme := rfl
  have walks : Survey.Walks deskScheme.scopes [1, 0] "Left" false :=
    .link (l := leftLink) .root rfl List.mem_cons_self (by decide)
  obtain ⟨same, found⟩ := resolvePath_eq_resolve built
  exact ⟨built, (same "Left" "<Lock").trans (by decide), (same "Left" "Key").trans (by decide),
    by decide, walks, found 1 [0] "Left" false _ (.rule lockRule) "Left" "<Lock" walks rfl
      List.mem_cons_self List.mem_cons_self⟩

end Assay
