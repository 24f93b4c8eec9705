import Assay.Proofs.Scheme.Folded
import Assay.Proofs.Visit.Balance

/-!
# Visits of copied scopes

An unguarded visit knows its scopes by what they hold. Their numbers only tell it where to go on, and
which scopes the values around it are visited in, which it never asks for. So in copies of scopes it
does what it does in the scopes themselves, with other numbers written down.

* `State.fold f s` -- the state with other numbers for the scopes of the values that are visited;
* `fold_reached`, …, `fold_body` -- each function of a visit commutes with it, given that the way into
  the scopes does;
* **`records_fold`** -- so an unguarded visit of copies records what a visit of the scopes does.
-/

namespace Assay.Visit

variable {V : Type}

/-! ## 1. States -/

/-- The state with other numbers for the scopes in which values are visited. -/
def State.fold (f : ScopeId → ScopeId) (s : State) : State :=
  { s with active := s.active.map fun a => { a with scope := f a.scope } }

variable {f : ScopeId → ScopeId}

namespace State

theorem fold_enterSegment (s : State) (segment : Segment) :
    (s.enterSegment segment).fold f = (s.fold f).enterSegment segment := by
  cases segment <;> rfl

theorem fold_leaveSegment (s : State) (segment : Segment) :
    (s.leaveSegment segment).fold f = (s.fold f).leaveSegment segment := by
  cases segment <;> rfl

theorem fold_enterPath (s : State) (path : Option String) :
    (s.enterPath path).fold f = (s.fold f).enterPath path := by
  cases path <;> rfl

theorem fold_leavePath (s : State) (path : Option String) :
    (s.leavePath path).fold f = (s.fold f).leavePath path := by
  cases path <;> rfl

theorem fold_push (s : State) (id : ScopeId) (place : Place) :
    (s.push id place).fold f = (s.fold f).push (f id) place := rfl

theorem fold_pop (s : State) : s.pop.fold f = (s.fold f).pop := by
  simp only [pop, fold, List.map_tail]

theorem fold_fail (s : State) (hurried : Bool) (fault : Option FaultId)
    (relative : Option String) :
    (s.fail hurried fault relative).fold f = (s.fold f).fail hurried fault relative := by
  by_cases shown : s.replacing = 0
  · cases fault with
    | none =>
      rw [fail_none shown, fail_none (s := s.fold f) shown]
      rfl
    | some id =>
      rw [fail_some shown, fail_some (s := s.fold f) shown]
      rfl
  · rw [fail_replacing shown, fail_replacing (s := s.fold f) shown]
    rfl

/-- A failure that may or may not happen. -/
theorem fold_ite (c : Prop) [Decidable c] (s t : State) :
    (if c then s else t).fold f = if c then s.fold f else t.fold f :=
  apply_ite (State.fold f) c s t

end State

namespace Outcome

theorem map_map (o : Outcome) (g h : State → State) : (o.map g).map h = o.map fun s => h (g s) := rfl

/-- What follows an end, with other numbers. -/
theorem next_fold {o : Outcome} {g g' : State → Outcome}
    (alike : ∀ s : State, g (s.fold f) = (g' s).map (State.fold f)) :
    (o.map (State.fold f)).next g = (o.next g').map (State.fold f) := by
  obtain ⟨state, error⟩ := o
  cases error with
  | some e => rfl
  | none => exact alike state

end Outcome

/-! ## 2. The parts of a visit -/

theorem fold_shown (mode : Mode) (showing : Showing) (run run' : State → Outcome)
    (alike : ∀ s : State, run (s.fold f) = (run' s).map (State.fold f)) (s : State) :
    shown mode showing run (s.fold f) = (shown mode showing run' s).map (State.fold f) := by
  cases showing with
  | nested => exact alike s
  | replaced fault =>
    have inner : run (s.fold f).hide = (run' s.hide).map (State.fold f) := alike s.hide
    unfold shown
    simp only [inner]
    exact Outcome.next_fold (o := (run' s.hide).map (·.unhide s.hit)) fun t => by
      simp only [Outcome.map, Outcome.ok, State.fold_ite, State.fold_fail]
      rfl
  | extended fault =>
    simp only [shown, alike]
    exact Outcome.next_fold fun t => by
      simp only [Outcome.map, Outcome.ok, State.fold_ite, State.fold_fail]
      rfl

section Parts

variable {enter enter' : Enter V} {count : Nat}
  (alike : ∀ j < count, ∀ value s,
    enter (f j) value (s.fold f) = (enter' j value s).map (State.fold f))
include alike

theorem fold_reached {target : ScopeId} (there : target < count) (place : Place) (depth : Nat)
    (segment : Segment) (value : Option (V × Locus)) (s : State) :
    reached enter (f target) place depth segment value (s.fold f) =
      (reached enter' target place depth segment value s).map (State.fold f) := by
  simp only [reached, ← State.fold_enterSegment, alike target there, Outcome.map_map,
    State.fold_leaveSegment]

theorem fold_reachedAll {target : ScopeId} (there : target < count) (place : Place) (depth : Nat)
    (values : List (Segment × Option (V × Locus))) (s : State) :
    reachedAll enter (f target) place depth values (s.fold f) =
      (reachedAll enter' target place depth values s).map (State.fold f) := by
  induction values generalizing s with
  | nil => rfl
  | cons first rest ih =>
    unfold reachedAll
    rw [fold_reached alike there]
    refine Outcome.next_fold fun t => ?_
    have halted : (t.fold f).halted = t.halted := rfl
    rw [halted]
    split
    · rfl
    · exact ih t

theorem fold_link (mode : Mode) (v : V) (place : Place) {l : LinkStep V} (there : l.target < count)
    (s : State) :
    link mode enter v place { l with target := f l.target } (s.fold f) =
      (link mode enter' v place l s).map (State.fold f) := by
  have behind := fold_shown (f := f) mode l.showing
    (fun t => reachedAll enter (f l.target) place t.active.length (l.transition.reach v) t)
    (fun t => reachedAll enter' l.target place t.active.length (l.transition.reach v) t)
    (fun t => by
      have depth : (t.fold f).active.length = t.active.length := List.length_map _
      rw [depth]
      exact fold_reachedAll alike there place _ _ t)
  simp only [link, ← State.fold_enterPath, behind, Outcome.map_map, State.fold_leavePath]

theorem fold_steps (mode : Mode) (v : V) (place : Place) {list : List (Step V)}
    (within : Within list count) (s : State) :
    steps mode enter v place (list.map (Step.retarget f)) (s.fold f) =
      (steps mode enter' v place list s).map (State.fold f) := by
  induction list generalizing s with
  | nil => rfl
  | cons step rest ih =>
    have further := ih fun l mem => within l (List.mem_cons_of_mem _ mem)
    have halted : (s.fold f).halted = s.halted := rfl
    rw [List.map_cons]
    unfold steps
    rw [halted]
    split
    · rfl
    · cases step with
      | guard holds =>
        simp only [Step.retarget]
        split
        · exact further s
        · rfl
      | rule rule =>
        simp only [Step.retarget, ← State.fold_fail, ← State.fold_ite]
        exact further _
      | link l =>
        simp only [Step.retarget]
        split
        · rw [fold_link alike mode v place (within l List.mem_cons_self)]
          exact Outcome.next_fold further
        · exact further s

theorem fold_inside (hurried : Bool) (id : ScopeId) {sc : Scope V} (within : Within sc.steps count)
    (v : V) (place : Place) (s : State) :
    inside ⟨hurried, false⟩ enter (f id) (sc.retarget f) v place (s.fold f) =
      (inside ⟨hurried, false⟩ enter' id sc v place s).map (State.fold f) := by
  simp only [inside, Bool.false_and, Bool.false_eq_true, if_false, ← State.fold_push, Scope.retarget,
    fold_steps alike _ v place within, Outcome.map_map, State.fold_pop]

theorem fold_body (hurried : Bool) (id : ScopeId) {sc : Scope V} (within : Within sc.steps count)
    (value : Option (V × Place)) (s : State) :
    body ⟨hurried, false⟩ enter (f id) (sc.retarget f) value (s.fold f) =
      (body ⟨hurried, false⟩ enter' id sc value s).map (State.fold f) := by
  have null (v : V) : (sc.retarget f).treatsAsNull v = sc.treatsAsNull v := rfl
  have presence : (sc.retarget f).presence = sc.presence := rfl
  unfold body
  simp only [null, presence]
  cases value.filter fun found => !sc.treatsAsNull found.1 with
  | none =>
    cases sc.presence with
    | required fault => exact congrArg Outcome.ok (State.fold_fail s hurried fault none).symm
    | «optional» => rfl
    | forbidden fault => rfl
  | some found =>
    cases sc.presence with
    | required fault => exact fold_inside alike hurried id within found.1 found.2 s
    | «optional» => exact fold_inside alike hurried id within found.1 found.2 s
    | forbidden fault => exact congrArg Outcome.ok (State.fold_fail s hurried fault none).symm

end Parts

/-! ## 3. Visits -/

section Visits

variable {scheme copy : Scheme V} (folds : Folds f copy.scopes scheme.scopes)
  (targets : ∀ sc ∈ copy.scopes, Within sc.steps copy.scopes.length)
include folds targets

/-- **A visit of a copy is a visit of the scope that it is a copy of.** -/
theorem fold_scope (hurried : Bool) (depth : Nat) {j : ScopeId} (there : j < copy.scopes.length)
    (value : Option (V × Place)) (s : State) :
    scope ⟨hurried, false⟩ scheme depth (f j) value (s.fold f) =
      (scope ⟨hurried, false⟩ copy depth j value s).map (State.fold f) := by
  induction depth generalizing j value s with
  | zero => rfl
  | succ depth ih =>
    have here := List.getElem?_eq_getElem there
    unfold scope
    rw [folds.here here, here]
    exact fold_body (fun k hk value s => ih hk value s) hurried j
      (targets _ (List.getElem_mem there)) value s

/-- **An unguarded visit of copies records what a visit of the scopes does.** -/
theorem records_fold (start : 0 < copy.scopes.length) (hurried : Bool) (depth : Nat) (v : V)
    (place : Place) :
    records ⟨hurried, false⟩ copy depth v place = records ⟨hurried, false⟩ scheme depth v place := by
  have alike := fold_scope folds targets hurried depth start (some (v, place)) .start
  have begin : State.start.fold f = .start := rfl
  rw [folds.root, begin] at alike
  exact (congrArg Outcome.result alike).symm

end Visits

end Assay.Visit
