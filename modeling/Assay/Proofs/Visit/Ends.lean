import Mathlib.Data.Finset.Prod
import Mathlib.Data.Set.Finite.Basic
import Mathlib.Data.Set.Finite.Range
import Assay.Proofs.Scheme.Loop
import Assay.Proofs.Scheme.Template
import Assay.Proofs.Visit.Calls
import Assay.Validator

/-!
# Visits end

Without a setting of its own a validator watches for loops exactly where its scheme makes them
possible. This file says that this is enough: if no link is a conversion, every visit of finitely many
values with a size ends, though the values may lead to each other in circles.

* `Occurs scheme model place id v p` -- links lead from the model to a value with an identity;
* `acyclic_of_preserving` -- where no loop is possible and no link is a conversion, links lead back to
  no scope on the way;
* `walks_of_called` -- then the scopes around a call are a walk of the survey, so there are fewer of
  them than scopes (`length_lt_of_acyclic`);
* `length_le_of_distinct` -- in a guarded visit of values with a size, no scope is inside one value
  twice, so there are not more entries around a call than scopes times values;
* `ends_of_bounded` -- a visit ends if there is a bound on the entries around its calls;
* `visit_deeper` -- what a validator finds does not depend on the bound that it has;
* **`default_visit_ends`** -- so every visit of a validator with default settings ends, with records
  or with a loop.
-/

namespace Assay

variable {V : Type}

/-! ## 1. Schemes and values -/

/-- No link of the scopes is a conversion. -/
def Preserving (scopes : List (Scope V)) : Prop :=
  ∀ sc ∈ scopes, ∀ l, Step.link l ∈ sc.steps → l.transition.kind ≠ .converted

/-- Where no walk closes, and no link is a conversion, links lead back to no scope on the way. -/
theorem acyclic_of_preserving {scopes : List (Scope V)} (loopless : ¬Closes scopes)
    (preserving : Preserving scopes) : Acyclic scopes := by
  intro id rest path hidden sc l walks here step back
  have keeps : l.transition.kind ≠ .converted :=
    preserving sc (List.mem_of_getElem? here) l step
  exact loopless ⟨id, rest, path, hidden, walks, l.target, back, sc, l, here, step, rfl, keeps⟩

/-- What a validator that was built is made of. -/
theorem Validator.build?_eq_ok {catalogue : Catalogue V} {root : SpecId} {settings : Settings}
    {v : Validator V} (built : Validator.build? catalogue root settings = .ok v) :
    Scheme.build? catalogue root = .ok v.scheme ∧
      v.loopProtection = settings.loopProtection.getD v.scheme.loopPossible := by
  unfold Validator.build? at built
  split at built
  · cases built
  · rename_i scheme done
    dsimp only at built
    split at built
    · cases built
    · cases built
      exact ⟨done, rfl⟩

namespace Visit

/-- **Links lead from the model to a value with an identity, in a scope.** -/
inductive Occurs (scheme : Scheme V) (model : V) (place : Place) :
    ScopeId → V → Place → Prop where
  | root : Occurs scheme model place scheme.root model place
  | link {id : ScopeId} {v x : V} {p : Place} {sc : Scope V} {l : LinkStep V} {segment : Segment}
      {locus : Locus} (occurs : Occurs scheme model place id v p)
      (here : scheme.scopes[id]? = some sc) (step : .link l ∈ sc.steps)
      (reached : (segment, some (x, locus)) ∈ l.transition.reach v) (depth : Nat) :
      Occurs scheme model place l.target x (p.reach depth locus)

section Bounds

variable {mode : Mode} {scheme : Scheme V} {model : V} {place : Place} {around : List Active}
  {id : ScopeId} {value : Option (V × Place)}

/-! ## 2. What is around a call -/

/-- A value to which a visit is called occurs, and so do those around it. -/
theorem occurs_of_called (h : Called mode scheme model place around id value) :
    (∀ v p, value = some (v, p) → Occurs scheme model place id v p) ∧
      ∀ a ∈ around, ∃ v, Occurs scheme model place a.scope v a.place := by
  induction h with
  | root =>
    refine ⟨fun v p same => ?_, fun a ha => absurd ha List.not_mem_nil⟩
    cases same
    exact .root
  | @link around id v p sc l segment value called fresh here step reached path ih =>
    have outer : Occurs scheme model place id v p := ih.1 v p rfl
    refine ⟨fun x q same => ?_, fun a ha => ?_⟩
    · obtain ⟨found, rfl, same⟩ := Option.map_eq_some_iff.mp same
      cases same
      exact outer.link here step reached _
    · rcases List.mem_cons.mp ha with rfl | ha
      · exact ⟨v, outer⟩
      · exact ih.2 a ha

/-- Entries that differ in their scope or their value are not more than scopes times values. -/
theorem length_le_of_distinct {scopes : Nat} {places : Finset Place}
    (distinct : (around.map Active.key).Nodup)
    (within : ∀ a ∈ around, a.scope < scopes ∧ a.place ∈ places) :
    around.length ≤ scopes * places.card := by
  have sub : (around.map Active.key).toFinset ⊆ Finset.range scopes ×ˢ places := by
    intro key mem
    obtain ⟨a, ha, rfl⟩ := List.mem_map.mp (List.mem_toFinset.mp mem)
    obtain ⟨hscope, hplace⟩ := within a ha
    exact Finset.mem_product.mpr ⟨Finset.mem_range.mpr hscope, hplace⟩
  have few := Finset.card_le_card sub
  rwa [List.toFinset_card_of_nodup distinct, List.length_map, Finset.card_product,
    Finset.card_range] at few

/-- **Where links lead back to no scope on the way, the scopes around a call are a walk of the
    survey.** -/
theorem walks_of_called (acyclic : Acyclic scheme.scopes)
    (h : Called mode scheme model place around id value) :
    ∃ path hidden, Survey.Walks scheme.scopes (id :: around.map Active.scope) path hidden := by
  induction h with
  | root => exact ⟨_, _, .root⟩
  | link called fresh here step reached path ih =>
    obtain ⟨path, hidden, walks⟩ := ih
    exact ⟨_, _, walks.link here step (acyclic _ _ _ _ _ _ walks here step)⟩

/-! ## 3. Bounds and ends -/

/-- All visits that may go as deep as the bound end alike, and not there. -/
inductive Ends (mode : Mode) (scheme : Scheme V) (model : V) (place : Place) (bound : Nat) :
    Prop where
  | well (list : List Record)
      (ends : ∀ depth, bound ≤ depth → records mode scheme depth model place = .ok list)
  | loop (guarded : mode.guarded = true) (name first second : String)
      (ends : ∀ depth, bound ≤ depth →
        records mode scheme depth model place = .error (.referenceLoop name first second))

section Scopes

variable (root : scheme.root < scheme.scopes.length)
  (targets : ∀ sc ∈ scheme.scopes, Within sc.steps scheme.scopes.length)
include root targets

/-- The scopes of a call are there. -/
theorem there_of_called (h : Called mode scheme model place around id value) :
    id < scheme.scopes.length ∧ ∀ a ∈ around, a.scope < scheme.scopes.length := by
  induction h with
  | root => exact ⟨root, fun a ha => absurd ha List.not_mem_nil⟩
  | link called fresh here step reached path ih =>
    refine ⟨targets _ (List.mem_of_getElem? here) _ step, fun a ha => ?_⟩
    rcases List.mem_cons.mp ha with rfl | ha
    · exact ih.1
    · exact ih.2 a ha

/-- Then there are fewer entries around a call than scopes. -/
theorem length_lt_of_acyclic (acyclic : Acyclic scheme.scopes)
    (h : Called mode scheme model place around id value) :
    around.length < scheme.scopes.length := by
  obtain ⟨path, hidden, walks⟩ := walks_of_called acyclic h
  have there := there_of_called root targets h
  have sub : id :: around.map Active.scope ⊆ List.range scheme.scopes.length := by
    intro i hi
    rcases List.mem_cons.mp hi with rfl | hi
    · exact List.mem_range.mpr there.1
    · obtain ⟨a, ha, rfl⟩ := List.mem_map.mp hi
      exact List.mem_range.mpr (there.2 a ha)
  have few := (List.subperm_of_subset walks.fresh.1 sub).length_le
  rwa [List.length_cons, List.length_map, List.length_range] at few

theorem length_lt_of_called (loopless : ¬Closes scheme.scopes)
    (preserving : Preserving scheme.scopes)
    (h : Called mode scheme model place around id value) :
    around.length < scheme.scopes.length :=
  length_lt_of_acyclic root targets (acyclic_of_preserving loopless preserving) h

/-- **A visit ends if there is a bound on the entries around its calls.** -/
theorem ends_of_bounded {bound : Nat}
    (bounded : ∀ around id value, Called mode scheme model place around id value →
      around.length < bound) : Ends mode scheme model place bound := by
  have deeper {result : Except VisitError (List Record)} (ends :
      records mode scheme bound model place = result) (shallow : result ≠ .error .tooDeep)
      (depth : Nat) (enough : bound ≤ depth) : records mode scheme depth model place = result := by
    obtain ⟨more, rfl⟩ := Nat.exists_eq_add_of_le enough
    exact (records_deeper (ends ▸ shallow) more).1.trans ends
  cases ends : records mode scheme bound model place with
  | ok list => exact .well list (deeper ends fun h => by cases h)
  | error e =>
    cases explained_error ends with
    | loop guarded => exact .loop guarded _ _ _ (deeper ends fun h => by cases h)
    | absent text called none =>
      have there := (there_of_called root targets called).1
      exact absurd (List.getElem?_eq_none_iff.mp none) (Nat.not_le.mpr there)
    | deep called full => exact absurd full (Nat.ne_of_lt (bounded _ _ _ called))

/-- A guarded visit of finitely many values with a size ends. -/
theorem ends_of_guarded (guarded : mode.guarded = true)
    (sized : ∀ id v p, Occurs scheme model place id v p → scheme.sized id = true)
    (finite : {p | ∃ id v, Occurs scheme model place id v p}.Finite) :
    ∃ bound, Ends mode scheme model place bound := by
  refine ⟨scheme.scopes.length * finite.toFinset.card + 1,
    ends_of_bounded root targets fun around id value called => Nat.lt_succ_of_le ?_⟩
  have there := (there_of_called root targets called).2
  have occurs := (occurs_of_called called).2
  have distinct : (around.map Active.key).Nodup := by
    refine (called.distinct guarded).nodup fun a ha => ?_
    obtain ⟨v, occurs⟩ := occurs a ha
    exact sized _ v _ occurs
  refine length_le_of_distinct distinct fun a ha => ?_
  obtain ⟨v, occurs⟩ := occurs a ha
  exact ⟨there a ha, finite.mem_toFinset.mpr ⟨a.scope, v, occurs⟩⟩

end Scopes

/-- Of values with a size none is entered twice by one scope. -/
theorem nodup_of_made (guarded : mode.guarded = true)
    (sized : ∀ id v p, Occurs scheme model place id v p → scheme.sized id = true) {e : Entry}
    (made : Made mode scheme model place e) : ((e.value :: e.around).map Active.key).Nodup := by
  obtain ⟨x, called⟩ := made.called
  obtain ⟨here, around⟩ := occurs_of_called called
  refine (made.distinct guarded).nodup (List.forall_mem_cons.mpr ⟨?_, fun a ha => ?_⟩)
  · exact sized _ x _ (here x _ rfl)
  · obtain ⟨v, there⟩ := around a ha
    exact sized _ v _ there

end Bounds

/-! ## 4. Validators -/

/-- **What a validator finds does not depend on its bound**: if a visit does not end there, it ends alike
    under every higher one. -/
theorem visit_deeper (v : Validator V) {hurried : Bool} {model : V} {place : Place}
    (h : v.visit hurried model place ≠ .error .tooDeep) {limit : Nat}
    (higher : Validator.depthLimit ≤ limit) :
    run ⟨hurried, v.loopProtection⟩ v.scheme limit model place = v.visit hurried model place :=
  run_deeper h higher

/-- **With default settings every visit ends.** If no link of the scheme is a conversion, links lead to
    finitely many values, and these have a size where the scheme tells that a loop is possible, then
    all visits that may go deep enough end alike, with records or with a loop, whether they are in a
    hurry or not. Where no loop is possible, they end with records, and no more entries are active at a
    time than there are scopes; where a loop is possible, no scope is inside one value twice. -/
theorem default_visit_ends {catalogue : Catalogue V} {root : SpecId} {settings : Settings}
    {v : Validator V} (built : Validator.build? catalogue root settings = .ok v)
    (default : settings.loopProtection = none) (preserving : Preserving v.scheme.scopes)
    (model : V) (place : Place)
    (sized : v.scheme.loopPossible = true →
      ∀ id x p, Occurs v.scheme model place id x p → v.scheme.sized id = true)
    (finite : {p | ∃ id x, Occurs v.scheme model place id x p}.Finite) (hurried : Bool) :
    (∃ bound, Ends ⟨hurried, v.loopProtection⟩ v.scheme model place bound) ∧
    (v.scheme.loopPossible = false →
      (∃ list, ∀ depth, v.scheme.scopeCount ≤ depth →
        records ⟨hurried, v.loopProtection⟩ v.scheme depth model place = .ok list) ∧
      ∀ depth, ∀ e ∈ entries ⟨hurried, v.loopProtection⟩ v.scheme depth model place,
        (e.value :: e.around).length ≤ v.scheme.scopeCount) ∧
    (v.scheme.loopPossible = true →
      ∀ depth, ∀ e ∈ entries ⟨hurried, v.loopProtection⟩ v.scheme depth model place,
        ((e.value :: e.around).map Active.key).Nodup) := by
  obtain ⟨compiled, protection⟩ := Validator.build?_eq_ok built
  obtain ⟨start, targets⟩ := targets_of_build compiled
  rw [default, Option.getD_none] at protection
  rw [protection]
  cases flag : v.scheme.loopPossible with
  -- the visit is unguarded, and what bounds it is the survey of the scheme
  | false =>
    have acyclic : ¬Closes v.scheme.scopes := fun closes => by
      have possible := (loopPossible_of_build compiled).mpr closes
      exact Bool.false_ne_true (flag.symm.trans possible)
    have bounded (around : List Active) (id : ScopeId) (value : Option (V × Place))
        (called : Called ⟨hurried, false⟩ v.scheme model place around id value) :=
      length_lt_of_called start targets acyclic preserving called
    have ends := ends_of_bounded start targets bounded
    refine ⟨⟨_, ends⟩, fun _ => ⟨?_, fun depth e mem => ?_⟩, fun h => Bool.noConfusion h⟩
    · cases ends with
      | well list ends => exact ⟨list, ends⟩
      | loop guarded => cases guarded
    · obtain ⟨x, called⟩ := (explained_entries e mem).called
      exact bounded _ _ _ called
  -- the visit is guarded, and what bounds it are the values
  | true =>
    exact ⟨ends_of_guarded start targets rfl (sized flag) finite, fun h => Bool.noConfusion h,
      fun _ depth e mem => nodup_of_made rfl (sized flag) (explained_entries e mem)⟩

/-- Three objects in a ring, each known by its number. -/
def ring : Catalogue (Fin 3) := ⟨[
  ⟨"node", some ⟨"node", [
    .action .optional,
    .action (.link (.member "Next" fun n => some (n + 1, .shared (n + 1).val)) 0)], [], none⟩⟩]⟩

/-- The ring made ready. -/
def ringScheme : Scheme (Fin 3) where
  rootType := "node"
  scopes := [
    ⟨"node", .optional, none, [
      .link ⟨none, .member "Next" fun n => some (n + 1, .shared (n + 1).val), 0, some "Next",
        .nested⟩]⟩]
  registry := ⟨[Fault.referenceLoop]⟩
  template := ⟨[("Next", [0])]⟩
  resolved := [(("", "Next"), "Next")]
  loopPossible := true

/-- The object with a number. -/
def ringPlace (n : Fin 3) : Place := ⟨.shared n.val, []⟩

theorem preserving_ring : Preserving ringScheme.scopes := by
  intro sc hsc l hl
  obtain rfl := List.mem_singleton.mp hsc
  cases List.mem_singleton.mp hl
  exact LinkKind.noConfusion

/-- The objects have a size. -/
theorem sized_ring {id : ScopeId} {n : Fin 3} {p : Place}
    (h : Occurs ringScheme 0 (ringPlace 0) id n p) : ringScheme.sized id = true := by
  cases h with
  | root => rfl
  | link occurs here step reached depth =>
    obtain rfl := List.mem_singleton.mp (List.mem_of_getElem? here)
    cases List.mem_singleton.mp step
    rfl

/-- Every object of the ring is where its number says. -/
theorem place_of_ring {id : ScopeId} {n : Fin 3} {p : Place}
    (h : Occurs ringScheme 0 (ringPlace 0) id n p) : p = ringPlace n := by
  induction h with
  | root => rfl
  | link occurs here step reached depth ih =>
    obtain rfl := List.mem_singleton.mp (List.mem_of_getElem? here)
    cases List.mem_singleton.mp step
    cases List.mem_singleton.mp reached
    rfl

/-- The visit of the ring ends, and it ends with a loop where it comes back. -/
theorem default_visit_ends_ring :
    ∃ v, Validator.build? ring 0 Settings.core = .ok v ∧ v.scheme.loopPossible = true ∧
      (∃ bound, Ends ⟨false, v.loopProtection⟩ v.scheme 0 (ringPlace 0) bound) ∧
      records ⟨false, v.loopProtection⟩ v.scheme 4 0 (ringPlace 0) =
        .error (.referenceLoop "node" "" "Next.Next.Next") := by
  obtain ⟨v, built⟩ : ∃ v, Validator.build? ring 0 Settings.core = .ok v := ⟨_, rfl⟩
  obtain ⟨compiled, protection⟩ := Validator.build?_eq_ok built
  have scheme : v.scheme = ringScheme := by
    have here : Scheme.build? ring 0 = .ok ringScheme := rfl
    exact Except.ok.inj (compiled.symm.trans here)
  have finite : {p | ∃ id x, Occurs v.scheme 0 (ringPlace 0) id x p}.Finite := by
    refine (Set.finite_range ringPlace).subset ?_
    rintro p ⟨id, n, occurs⟩
    rw [scheme] at occurs
    exact ⟨n, (place_of_ring occurs).symm⟩
  have ends := default_visit_ends built rfl (scheme ▸ preserving_ring) 0 (ringPlace 0)
    (fun _ id n p => scheme ▸ sized_ring) finite false
  refine ⟨v, built, by rw [scheme]; rfl, ends.1, ?_⟩
  rw [protection, scheme]
  rfl

end Visit

end Assay
