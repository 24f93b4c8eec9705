import Assay.Proofs.Scheme.Rounds
import Assay.Proofs.Visit.Ends

/-!
# Compilation is complete

The rounds of compilation go through the specifications that can be reached, in the order of first
reference, and the bound on them is never felt: there are not more defined specifications than the
catalogue has. So there are three ends only, and which one it is can be read off the order.

* `build?_of_undefined`, `build?_of_clausal` -- the end at the first specification that is not
  defined, and the end where all can be compiled;
* `not_unexpected` -- the links of a scheme lead to scopes, so no visit is stopped by one that is not
  there;
* **`compilation_complete`** -- every catalogue of legal drafts is compiled completely, each
  specification once, and never ends in a state that was not expected.
-/

namespace Assay

variable {V : Type}

/-! ## 1. Ends of compilation -/

section Ends

variable {catalogue : Catalogue V} {root : SpecId} {order : List SpecId}

theorem Catalogue.lt_of_defined {id : SpecId} (h : catalogue.isDefined id = true) :
    id < catalogue.specs.length := by
  by_contra beyond
  have none : catalogue.draft? id = none := by
    simp only [draft?, get?, List.getElem?_eq_none (Nat.not_lt.mp beyond), Option.bind_none]
  rw [isDefined, none] at h
  exact Bool.false_ne_true h

/-- A specification that is defined can be compiled, if its draft is legal. -/
theorem Catalogue.Legal.clausal (legal : catalogue.Legal) {id : SpecId}
    (defined : catalogue.isDefined id = true) : ∃ d, catalogue.draft? id = some d ∧ d.Clausal := by
  obtain ⟨d, hd⟩ := Option.isSome_iff_exists.mp defined
  exact ⟨d, hd, Clause.clausal_of_legal (legal id d hd)⟩

/-- There are not more defined specifications than the catalogue has. -/
theorem Catalogue.length_le_of_defined {ids : List SpecId} (once : ids.Nodup)
    (defined : ∀ id ∈ ids, catalogue.isDefined id = true) :
    ids.length ≤ catalogue.specs.length := by
  have within : ids ⊆ List.range catalogue.specs.length := fun id mem =>
    List.mem_range.mpr (lt_of_defined (defined id mem))
  have few := (List.subperm_of_subset once within).length_le
  rwa [List.length_range] at few

/-- **Compilation ends at the first specification that is not defined**, whatever issues there are. -/
theorem build?_of_undefined (legal : catalogue.Legal)
    (ordered : catalogue.BreadthFirst root order) {before after : List SpecId} {id : SpecId}
    (here : order = before ++ id :: after)
    (defined : ∀ i ∈ before, catalogue.isDefined i = true)
    (undefined : catalogue.isDefined id = false) :
    (∃ p, Progress.Rounds catalogue (.start root) before p ∧ p.next? = some id) ∧
      Scheme.build? catalogue root = .error (.undefinedSpec id (catalogue.typeName id)) := by
  have front : order.take before.length = before := by rw [here, List.take_left]
  have at_id : order[before.length]? = some id := by
    rw [here, List.getElem?_append_right (Nat.le_refl _), Nat.sub_self, List.getElem?_cons_zero]
  have short : before.length ≤ order.length := by
    rw [here, List.length_append]
    exact Nat.le_add_right _ _
  obtain ⟨p, rounds, stands⟩ := Progress.rounds_of_order ordered short
    (front.symm ▸ fun i mem => legal.clausal (defined i mem))
  have next : p.next? = some id := (stands.next ordered short).trans at_id
  rw [front] at rounds
  refine ⟨⟨p, rounds, next⟩, ?_⟩
  have once : before.Nodup := by
    rw [← front]
    exact ordered.once.sublist (List.take_sublist _ _)
  obtain ⟨left, enough⟩ := Nat.exists_eq_add_of_le (Catalogue.length_le_of_defined once defined)
  have none : catalogue.draft? id = none :=
    Option.isNone_iff_eq_none.mp (Option.isSome_eq_false_iff.mp undefined)
  have stops : p.compile catalogue id = .error (.undefinedSpec id (catalogue.typeName id)) := by
    rw [Progress.compile, none]
  have run := Progress.finish_of_rounds rounds (left + 1)
  rw [Progress.finish, next] at run
  simp only [stops] at run
  unfold Scheme.build?
  rw [enough, Nat.add_assoc, run]

/-- **Where all specifications have drafts of clauses, all are compiled**, and their issues are
    gathered. -/
theorem build?_of_clausal (ordered : catalogue.BreadthFirst root order)
    (clausal : ∀ id ∈ order, ∃ d, catalogue.draft? id = some d ∧ d.Clausal) :
    ∃ p, Progress.Rounds catalogue (.start root) order p ∧ p.next? = none ∧
      (order.flatMap catalogue.issues ≠ [] →
        Scheme.build? catalogue root = .error (.invalid (order.flatMap catalogue.issues))) ∧
      (order.flatMap catalogue.issues = [] →
        ∃ scheme, Scheme.build? catalogue root = .ok scheme ∧
          List.Forall₂ (Compiled catalogue order) order scheme.scopes) := by
  have whole : order.take order.length = order := List.take_length
  obtain ⟨p, rounds, stands⟩ :=
    Progress.rounds_of_order ordered (Nat.le_refl _) (whole.symm ▸ clausal)
  have next : p.next? = none :=
    (stands.next ordered (Nat.le_refl _)).trans (List.getElem?_eq_none (Nat.le_refl _))
  rw [whole] at rounds stands
  have defined : ∀ id ∈ order, catalogue.isDefined id = true := fun id mem => by
    obtain ⟨d, hd, -⟩ := clausal id mem
    rw [Catalogue.isDefined, hd]
    rfl
  obtain ⟨left, enough⟩ :=
    Nat.exists_eq_add_of_le (Catalogue.length_le_of_defined ordered.once defined)
  have run := Progress.finish_of_rounds rounds (left + 1)
  rw [Progress.finish, next] at run
  refine ⟨p, rounds, next, fun some => ?_, fun none => ?_⟩
  · unfold Scheme.build?
    rw [enough, Nat.add_assoc, run]
    simp only [stands.issues, List.isEmpty_eq_false_iff.mpr some, Bool.false_eq_true, if_false]
  · have empty : p.issues.isEmpty = true := by rw [stands.issues, none]; rfl
    unfold Scheme.build?
    rw [enough, Nat.add_assoc, run]
    simp only [empty, if_true]
    exact ⟨_, rfl, stands.scopes⟩

/-- Where all specifications are defined, all are compiled. -/
theorem build?_of_defined (legal : catalogue.Legal) (ordered : catalogue.BreadthFirst root order)
    (defined : ∀ id ∈ order, catalogue.isDefined id = true) :
    ∃ p, Progress.Rounds catalogue (.start root) order p ∧ p.next? = none ∧
      (order.flatMap catalogue.issues ≠ [] →
        Scheme.build? catalogue root = .error (.invalid (order.flatMap catalogue.issues))) ∧
      (order.flatMap catalogue.issues = [] →
        ∃ scheme, Scheme.build? catalogue root = .ok scheme ∧
          List.Forall₂ (Compiled catalogue order) order scheme.scopes) :=
  build?_of_clausal ordered fun id mem => legal.clausal (defined id mem)

end Ends

/-! ## 2. Visits -/

/-- No visit of a scheme comes to a scope that is not there. Nor does it come to one for values of
    another type, since every link leads to the scope of its own specification (`Compiled`), and that
    is one for the values it reaches. -/
theorem not_unexpected {catalogue : Catalogue V} {root : SpecId} {scheme : Scheme V}
    (built : Scheme.build? catalogue root = .ok scheme) (mode : Visit.Mode) (depth : Nat) (v : V)
    (place : Place) (text : String) :
    Visit.records mode scheme depth v place ≠ .error (.unexpected text) := by
  intro ends
  obtain ⟨start, targets⟩ := targets_of_build built
  cases Visit.explained_error ends with
  | absent text called none =>
    have there := (Visit.there_of_called start targets called).1
    exact absurd (List.getElem?_eq_none_iff.mp none) (Nat.not_le.mpr there)

/-! ## 3. Compilation -/

/-- **Compilation goes through all that can be reached, once.** The specifications that references
    lead to from the root have one order, breadth first by first reference. Compilation takes them up
    in it, one a round. It ends at the first that is not defined, whatever issues it has met. If all
    are defined, each has been compiled when it ends; it refuses them with their issues in this order,
    if there are any, and otherwise gives a scheme with a scope for each, whose links lead to the
    scopes of the specifications that the commands refer to. No other end is possible, and no visit
    of the scheme ends at a scope that is not there. -/
theorem compilation_complete (catalogue : Catalogue V) (legal : catalogue.Legal) (root : SpecId) :
    ∃ order, catalogue.BreadthFirst root order ∧
      (∀ other, catalogue.BreadthFirst root other → other = order) ∧
      (∀ before id after, order = before ++ id :: after →
        (∀ i ∈ before, catalogue.isDefined i = true) → catalogue.isDefined id = false →
        (∃ p, Progress.Rounds catalogue (.start root) before p ∧ p.next? = some id) ∧
          Scheme.build? catalogue root = .error (.undefinedSpec id (catalogue.typeName id))) ∧
      ((∀ id ∈ order, catalogue.isDefined id = true) →
        (∃ p, Progress.Rounds catalogue (.start root) order p ∧ p.next? = none) ∧
        (order.flatMap catalogue.issues ≠ [] →
          Scheme.build? catalogue root = .error (.invalid (order.flatMap catalogue.issues))) ∧
        (order.flatMap catalogue.issues = [] →
          ∃ scheme, Scheme.build? catalogue root = .ok scheme ∧
            scheme.scopeCount = order.length ∧
            List.Forall₂ (Compiled catalogue order) order scheme.scopes)) ∧
      (∀ text, Scheme.build? catalogue root ≠ .error (.unexpected text)) ∧
      ∀ scheme, Scheme.build? catalogue root = .ok scheme →
        ∀ mode depth v place text,
          Visit.records mode scheme depth v place ≠ .error (.unexpected text) := by
  obtain ⟨order, ordered⟩ := catalogue.exists_breadthFirst root
  refine ⟨order, ordered, fun other h => h.unique ordered, ?_, ?_, ?_, ?_⟩
  · intro before id after here defined undefined
    exact build?_of_undefined legal ordered here defined undefined
  · intro defined
    obtain ⟨p, rounds, next, invalid, fine⟩ := build?_of_defined legal ordered defined
    refine ⟨⟨p, rounds, next⟩, invalid, fun none => ?_⟩
    obtain ⟨scheme, built, compiled⟩ := fine none
    exact ⟨scheme, built, compiled.length_eq.symm, compiled⟩
  · intro text h
    by_cases all : ∀ id ∈ order, catalogue.isDefined id = true
    · obtain ⟨p, -, -, invalid, fine⟩ := build?_of_defined legal ordered all
      by_cases none : order.flatMap catalogue.issues = []
      · obtain ⟨scheme, built, -⟩ := fine none
        rw [built] at h
        cases h
      · rw [invalid none] at h
        cases h
    · -- the first specification that is not defined is where compilation ends
      obtain ⟨id, found⟩ : ∃ id, order.find? (fun i => !catalogue.isDefined i) = some id := by
        rw [← Option.isSome_iff_exists, List.find?_isSome]
        simpa using all
      obtain ⟨undefined, before, after, here, defined⟩ := List.find?_eq_some_iff_append.mp found
      have ends := (build?_of_undefined legal ordered here (by simpa using defined)
        (by simpa using undefined)).2
      rw [ends] at h
      cases h
  · intro scheme built mode depth v place text
    exact not_unexpected built mode depth v place text

/-- A shelf, a page and a book that refer to each other in a circle; a desk with a mistake that
    refers to the shelf and to a lamp that nobody defined; a chair and a wheel with a mistake each. -/
def studies : Catalogue Nat := ⟨[
  ⟨"shelf", some ⟨"shelf", [
    .action .optional, .action (.link .model 2), .action (.link .model 1)], [], none⟩⟩,
  ⟨"book", some ⟨"book", [.action (.link .model 0)], [], none⟩⟩,
  ⟨"page", some ⟨"page", [
    .action (.rule (· < 9) Fault.error), .action (.link .model 1), .parameter (.code "PAGE")],
    [], none⟩⟩,
  ⟨"desk", some ⟨"desk", [
    .action (.link .model 0), .parameter (.message ""), .action (.link .model 4)],
    [⟨"desk", 1, .emptyMessage⟩], none⟩⟩,
  ⟨"lamp", none⟩,
  ⟨"chair", some ⟨"chair", [.action (.link .model 6), .parameter (.code "")],
    [⟨"chair", 1, .code ""⟩], none⟩⟩,
  ⟨"wheel", some ⟨"wheel", [.action (.guard (· < 9)), .action (.link .model 5),
    .parameter (.path ".")], [⟨"wheel", 2, .path "."⟩], none⟩⟩]⟩

theorem legal_studies : studies.Legal := by
  intro id d defined
  rcases id with _ | _ | _ | _ | _ | _ | _ | id <;> cases defined <;> exact ⟨_, rfl⟩

theorem ordered_shelf : studies.BreadthFirst 0 [0, 2, 1] := by
  have page : Relation.ReflTransGen studies.Refers 0 2 := .single (by decide)
  have book : Relation.ReflTransGen studies.Refers 0 1 := .single (by decide)
  refine .of_named rfl fun id mem => ?_
  simp only [List.mem_cons, List.not_mem_nil, or_false] at mem
  rcases mem with rfl | rfl | rfl
  · exact .refl
  · exact page
  · exact book

theorem ordered_desk : studies.BreadthFirst 3 [3, 0, 4, 2, 1] := by
  have shelf : Relation.ReflTransGen studies.Refers 3 0 := .single (by decide)
  have lamp : Relation.ReflTransGen studies.Refers 3 4 := .single (by decide)
  refine .of_named rfl fun id mem => ?_
  simp only [List.mem_cons, List.not_mem_nil, or_false] at mem
  rcases mem with rfl | rfl | rfl | rfl | rfl
  · exact .refl
  · exact shelf
  · exact lamp
  · exact shelf.tail (by decide)
  · exact shelf.tail (by decide)

theorem ordered_chair : studies.BreadthFirst 5 [5, 6] := by
  have wheel : Relation.ReflTransGen studies.Refers 5 6 := .single (by decide)
  refine .of_named rfl fun id mem => ?_
  simp only [List.mem_cons, List.not_mem_nil, or_false] at mem
  rcases mem with rfl | rfl
  · exact .refl
  · exact wheel

/-- The shelf has a scheme of three scopes, though its specifications lead back to it. The desk is
    refused for the lamp, not for its mistake. The chair is refused for both mistakes there are. -/
theorem compilation_complete_studies :
    studies.Legal ∧
      (∃ scheme, Scheme.build? studies 0 = .ok scheme ∧ scheme.scopeCount = 3 ∧
        List.Forall₂ (Compiled studies [0, 2, 1]) [0, 2, 1] scheme.scopes) ∧
      Scheme.build? studies 3 = .error (.undefinedSpec 4 "lamp") ∧
      Scheme.build? studies 5 =
        .error (.invalid [⟨"chair", 1, .code ""⟩, ⟨"wheel", 2, .path "."⟩]) := by
  refine ⟨legal_studies, ?_, ?_, ?_⟩
  · obtain ⟨order, -, only, -, defined, -⟩ := compilation_complete studies legal_studies 0
    obtain rfl := only _ ordered_shelf
    exact (defined (by decide)).2.2 rfl
  · obtain ⟨order, -, only, undefined, -⟩ := compilation_complete studies legal_studies 3
    obtain rfl := only _ ordered_desk
    exact (undefined [3, 0] 4 [2, 1] rfl (by decide) rfl).2
  · obtain ⟨order, -, only, -, defined, -⟩ := compilation_complete studies legal_studies 5
    obtain rfl := only _ ordered_chair
    exact (defined (by decide)).2.1 (List.cons_ne_nil _ _)

end Assay
