import Assay.Proofs.Visit.Ends
import Assay.Proofs.Visit.Folded

/-!
# Sharing is not observable

Specifications that several links lead to are compiled once. Nobody can tell: where no specification
leads back to itself, a catalogue in which every link has a specification of its own gives a scheme
that reports the same, statically and for every model.

* `records_guarded_of_acyclic` -- where no scope leads back to itself, the scopes around a call are
  different, so nothing is met inside itself and a guarded visit is the unguarded one;
* `records_of_acyclic` -- there are not more of them than scopes either, so a visit ends with records;
* **`sharing_unobservable`** -- copies build, have the same template in the same registry, and visits
  of them record the same.
-/

namespace Assay.Visit

variable {V : Type}

/-! ## 1. Visits without cycles -/

section Acyclic

variable {scheme : Scheme V} (acyclic : Acyclic scheme.scopes)
include acyclic

/-- **Nothing is met inside itself** where no scope leads back to itself. -/
theorem records_guarded_of_acyclic (hurried guarded : Bool) (depth : Nat) (model : V)
    (place : Place) :
    records ⟨hurried, guarded⟩ scheme depth model place =
      records ⟨hurried, false⟩ scheme depth model place := by
  cases guarded with
  | false => rfl
  | true =>
    rcases guarded_cases hurried scheme depth model place with
      ⟨same, -⟩ | ⟨e, entry, more, -, made, again⟩
    · exact same
    · -- the value that is met again is one that the unguarded visit was called to
      obtain ⟨sc, first, -, -, mem, key, -, -⟩ := again
      have entered : entry ∈ entries ⟨hurried, false⟩ scheme depth model place := by
        rw [made]
        exact List.mem_append_right _ List.mem_cons_self
      obtain ⟨v, called⟩ := (explained_entries entry entered).called
      have around : entry.value.scope ∈ entry.around.map Active.scope :=
        List.mem_map.mpr ⟨first, mem, (Prod.mk.inj key).1⟩
      obtain ⟨path, hidden, walks⟩ := walks_of_called acyclic called
      exact absurd around (List.nodup_cons.mp walks.fresh.1).1

/-- **A visit ends with records** where no scope leads back to itself, and it never goes deeper than
    there are scopes. -/
theorem records_of_acyclic (root : scheme.root < scheme.scopes.length)
    (targets : ∀ sc ∈ scheme.scopes, Within sc.steps scheme.scopes.length) (mode : Mode) (model : V)
    (place : Place) :
    ∃ list, ∀ depth, scheme.scopeCount ≤ depth →
      records mode scheme depth model place = .ok list := by
  obtain ⟨hurried, guarded⟩ := mode
  have bounded := fun around id value
      (called : Called ⟨hurried, false⟩ scheme model place around id value) =>
    length_lt_of_acyclic root targets acyclic called
  cases ends_of_bounded root targets bounded with
  | well list ends =>
    refine ⟨list, fun depth enough => ?_⟩
    rw [records_guarded_of_acyclic acyclic]
    exact ends depth enough
  | loop guarded => exact absurd guarded Bool.false_ne_true

end Acyclic

/-! ## 2. Sharing -/

/-- **Sharing specifications is not observable.** Let no specification lead back to itself. Then there
    is a copy of the catalogue in which no specification is referred to twice. And every copy builds,
    whatever it shares; like the original it notes no loop; its template lists the same faults at the
    same paths, in the same order and in the same registry; and of every model, in every mode, a visit
    records the same, and does not fail to, if it may go as deep as the original has scopes. -/
theorem sharing_unobservable {catalogue : Catalogue V} {root : SpecId} {scheme : Scheme V}
    (acyclic : catalogue.AcyclicFrom root)
    (built : Scheme.build? catalogue root = .ok scheme) :
    (∃ copy start origin, catalogue.Copies root copy start origin ∧ copy.Unshared start) ∧
      scheme.loopPossible = false ∧
      ∀ copy start origin, catalogue.Copies root copy start origin →
        ∃ scheme', Scheme.build? copy start = .ok scheme' ∧ scheme'.loopPossible = false ∧
          scheme'.registry = scheme.registry ∧ scheme'.template = scheme.template ∧
          ∀ mode model place,
            (∃ list, ∀ depth, scheme.scopeCount ≤ depth →
              records mode scheme depth model place = .ok list) ∧
            ∀ depth, records mode scheme' depth model place =
              records mode scheme depth model place := by
  have flat := acyclic_of_build built acyclic
  have loopless := loopPossible_of_acyclic built flat
  refine ⟨Catalogue.exists_unshared acyclic fun id => lt_of_build built, loopless,
    fun copy start origin copies => ?_⟩
  obtain ⟨scheme', built'⟩ := copies.build built
  obtain ⟨⟨f, folds⟩, alike⟩ := folds_of_copies built copies flat built'
  obtain ⟨root, targets⟩ := targets_of_build built
  obtain ⟨root', targets'⟩ := targets_of_build built'
  refine ⟨scheme', built', ?_, ?_, ?_, fun mode model place =>
    ⟨records_of_acyclic flat root targets mode model place, fun depth => ?_⟩⟩
  · rw [alike]
    exact loopless
  · rw [alike]
  · rw [alike]
  · obtain ⟨hurried, guarded⟩ := mode
    rw [records_guarded_of_acyclic flat, records_guarded_of_acyclic (folds.acyclic flat)]
    exact records_fold folds targets' root' hurried depth model place

/-- A house with two doors of one kind, each with a lock of one kind. -/
def house : Catalogue Nat := ⟨[
  ⟨"house", some ⟨"house", [
    .action (.link (.member "Front" fun n => some (n, .part "front")) 1),
    .action (.link (.member "Back" fun n => some (n / 2, .part "back")) 1)], [], none⟩⟩,
  ⟨"door", some ⟨"door", [
    .action (.rule (· < 8) (Fault.ofMessage "too wide" [])),
    .action (.link (.member "Lock" fun n => some (n, .part "lock")) 2)], [], none⟩⟩,
  ⟨"lock", some ⟨"lock", [.action (.rule (· < 4) (Fault.ofMessage "too weak" []))], [], none⟩⟩]⟩

/-- The house made ready. -/
def houseScheme : Scheme Nat where
  rootType := "house"
  scopes := [
    ⟨"house", .required (some 0), none, [
      .link ⟨none, .member "Front" fun n => some (n, .part "front"), 1, some "Front", .nested⟩,
      .link ⟨none, .member "Back" fun n => some (n / 2, .part "back"), 1, some "Back", .nested⟩]⟩,
    ⟨"door", .required (some 0), none, [
      .rule ⟨none, (· < 8), some 1, none⟩,
      .link ⟨none, .member "Lock" fun n => some (n, .part "lock"), 2, some "Lock", .nested⟩]⟩,
    ⟨"lock", .required (some 0), none, [.rule ⟨none, (· < 4), some 2, none⟩]⟩]
  registry := ⟨[Fault.required, Fault.ofMessage "too wide" [], Fault.ofMessage "too weak" []]⟩
  template := ⟨[("", [0]), ("Front", [0, 1]), ("Front.Lock", [0, 2]), ("Back", [0, 1]),
    ("Back.Lock", [0, 2])]⟩
  resolved := [(("Back", "Lock"), "Back.Lock"), (("", "Back"), "Back"),
    (("Front", "Lock"), "Front.Lock"), (("", "Front"), "Front")]
  loopPossible := false

/-- The house with two doors and two locks, each with a specification of its own. -/
def houseUnfolded : Catalogue Nat := house.unfold [0, 1, 1, 2, 2]

theorem acyclic_house : house.AcyclicFrom 0 := by
  have later {i j : SpecId} (refers : house.Refers i j) : i < j := by
    have declared : i < 3 := Catalogue.lt_of_refers refers
    have targets : ∀ i < 3, ∀ j ∈ house.references i, i < j := by decide
    exact targets i declared j refers
  have increases {i j : SpecId} (leads : Relation.TransGen house.Refers i j) : i < j := by
    induction leads with
    | single refers => exact later refers
    | tail _ refers ih => exact Nat.lt_trans ih (later refers)
  exact fun i _ cycle => Nat.lt_irrefl i (increases cycle)

/-- Three scopes and five report the same: a house that is too wide in front, with weak locks. -/
theorem sharing_unobservable_house :
    Scheme.build? house 0 = .ok houseScheme ∧ house.AcyclicFrom 0 ∧
      house.Copies 0 houseUnfolded 0 (house.unfolded [0, 1, 1, 2, 2]) ∧ houseUnfolded.Unshared 0 ∧
      houseScheme.scopeCount = 3 ∧
      ∃ scheme', Scheme.build? houseUnfolded 0 = .ok scheme' ∧ scheme'.scopeCount = 5 ∧
        scheme'.loopPossible = false ∧ scheme'.template = houseScheme.template ∧
        records ⟨false, true⟩ scheme' 3 9 .model =
          .ok [⟨"Front", 1⟩, ⟨"Front.Lock", 2⟩, ⟨"Back.Lock", 2⟩] := by
  have built : Scheme.build? house 0 = .ok houseScheme := rfl
  have copies : house.Copies 0 houseUnfolded 0 (house.unfolded [0, 1, 1, 2, 2]) :=
    Catalogue.copies_unfold rfl (by decide)
  obtain ⟨-, -, every⟩ := sharing_unobservable acyclic_house built
  obtain ⟨scheme', built', loopless, -, template, visits⟩ := every _ _ _ copies
  obtain ⟨s, made, count⟩ : ∃ s, Scheme.build? houseUnfolded 0 = .ok s ∧ s.scopeCount = 5 :=
    ⟨_, rfl, rfl⟩
  have same : s = scheme' := Except.ok.inj (made.symm.trans built')
  refine ⟨built, acyclic_house, copies, Catalogue.unshared_unfold, rfl, scheme', built', same ▸ count,
    loopless, template, ?_⟩
  rw [(visits ⟨false, true⟩ 9 .model).2 3]
  rfl

end Assay.Visit
