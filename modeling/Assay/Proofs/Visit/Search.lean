import Assay.Proofs.Visit.Agreement
import Assay.Proofs.Visit.Hurry
import Assay.Validator

/-!
# What the verdict depends on

The verdict of a visit does not depend on what is reported. A scheme is taken apart into what it
checks and how it reports failures: at which paths, with which faults, and how links show what is
behind them. What it checks can be searched for the first failure on its own, and that search is all
that a hurried visit does, as long as no failure goes unreported.

* `Scheme.checks` -- the scopes of a scheme without paths, faults and showings;
* `Scheme.Outspoken` -- every failure has a fault to record;
* `search checks depth` -- what is found first: a failure, an error, or nothing;
* `Finds s finding o` -- the invariant: from the state `s` a hurried visit ends in `o` as the search
  says;
* `finds_fail`, `finds_reachedAll`, …, `finds_body` -- each function of a visit ends as the search of
  the same name says;
* **`verdict_of_checks`** -- so two outspoken schemes with the same checks give every value the same
  verdict.

**Silence is what could tell them apart.** A failure without a fault is lost in a nested link and
found by one that replaces or extends faults.
-/

namespace Assay

variable {V : Type}

/-! ## 1. What a scheme checks -/

/-- What null values are in a scope. -/
inductive Demand where
  | required
  | optional
  | forbidden
  deriving DecidableEq, Repr

/-- What a step checks: a test, or the values to which it leads and the scope that they are in. -/
inductive Check (V : Type) where
  | guard (holds : V → Bool)
  | rule (condition : Option (V → Bool)) (holds : V → Bool)
  | link (condition : Option (V → Bool)) (values : V → List (Option V)) (target : ScopeId)

/-- What a scope checks. -/
structure Checks (V : Type) where
  demand : Demand
  /-- The value counts as null. -/
  isNull : V → Bool
  steps : List (Check V)

def Presence.demand : Presence → Demand
  | .required _ => .required
  | .optional => .optional
  | .forbidden _ => .forbidden

/-- The values that a transition reaches, without the segments at which they stand. -/
def Transition.values (t : Transition V) (v : V) : List (Option V) :=
  (t.reach v).map fun found => found.2.map Prod.fst

def Step.check : Step V → Check V
  | .guard holds => .guard holds
  | .rule r => .rule r.condition r.holds
  | .link l => .link l.condition l.transition.values l.target

def Scope.checks (sc : Scope V) : Checks V :=
  ⟨sc.presence.demand, sc.treatsAsNull, sc.steps.map Step.check⟩

/-- **What a scheme checks**: its scopes without paths, faults and showings. -/
def Scheme.checks (s : Scheme V) : List (Checks V) := s.scopes.map Scope.checks

/-- Every failure of the scope has a fault to record. -/
structure Scope.Outspoken (sc : Scope V) : Prop where
  presence : sc.presence ≠ .required none ∧ sc.presence ≠ .forbidden none
  rule : ∀ r, .rule r ∈ sc.steps → r.fault ≠ none
  link : ∀ l, .link l ∈ sc.steps → l.showing ≠ .replaced none

/-- **Every failure has a fault to record.** -/
def Scheme.Outspoken (s : Scheme V) : Prop := ∀ sc ∈ s.scopes, sc.Outspoken

namespace Visit

/-! ## 2. The first failure -/

/-- What is found first. -/
inductive Finding where
  | nothing
  | failure
  | error (e : VisitError)
  deriving DecidableEq, Repr

namespace Finding

/-- What is found first in one place or, if there is nothing, in another. -/
def orElse (a b : Finding) : Finding :=
  match a with
  | nothing => b
  | failure | error _ => a

/-- What is found first in a list of places. -/
def first (findings : List Finding) : Finding := findings.foldr orElse nothing

/-- The value has no failure, unless an error is found first. -/
def verdict : Finding → Except VisitError Bool
  | nothing => .ok true
  | failure => .ok false
  | error e => .error e

end Finding

/-- A search of every scope with a value or a null value. -/
abbrev Search (V : Type) := ScopeId → Option V → Finding

namespace Search

/-- A test that runs and fails is what is looked for. -/
def rule (condition : Option (V → Bool)) (holds : V → Bool) (v : V) : Finding :=
  if applies condition v && !holds v then .failure else .nothing

/-- The values that a link leads to, one after another. -/
def link (finds : Search V) (values : List (Option V)) (target : ScopeId) : Finding :=
  .first (values.map (finds target))

/-- The steps of a scope, up to the first guard that the value does not pass. -/
def steps (finds : Search V) (v : V) : List (Check V) → Finding
  | [] => .nothing
  | .guard holds :: rest => if holds v then steps finds v rest else .nothing
  | .rule condition holds :: rest => (rule condition holds v).orElse (steps finds v rest)
  | .link condition values target :: rest =>
    (if applies condition v then link finds (values v) target else .nothing).orElse
      (steps finds v rest)

/-- A null value where one is required. -/
def missing (c : Checks V) : Finding :=
  match c.demand with
  | .required => .failure
  | .optional | .forbidden => .nothing

/-- A value where none may be; everywhere else its steps count. -/
def present (finds : Search V) (c : Checks V) (v : V) : Finding :=
  match c.demand with
  | .forbidden => .failure
  | .required | .optional => steps finds v c.steps

/-- A scope with a value or a null value; some values count as null. -/
def body (finds : Search V) (c : Checks V) (value : Option V) : Finding :=
  match value with
  | none => missing c
  | some v => if c.isNull v then missing c else present finds c v

end Search

/-- The search of what a scheme checks, down to a depth. -/
def search (checks : List (Checks V)) : (depth : Nat) → Search V
  | 0, _, _ => .error .tooDeep
  | depth + 1, id, value =>
    match checks[id]? with
    | none => .error (.unexpected ("scope " ++ scopeName id ++ " is not there"))
    | some c => Search.body (search checks depth) c value

/-! ## 3. The invariant -/

/-- **From a state, a hurried visit ends as a search says.** -/
inductive Finds (s : State) : Finding → Outcome → Prop where
  /-- Nothing was found, and nothing has changed. -/
  | nothing : Finds s .nothing (.ok s)
  /-- A failure was found, and the visit looks for nothing more. -/
  | failure {o : Outcome} (fine : o.error = none) (back : o.state.replacing = s.replacing)
      (counted : s.discovered < o.state.discovered)
      (hidden : s.replacing ≠ 0 → o.state.hit = true)
      (shown : s.replacing = 0 → o.state.stopped = true ∧ o.state.records ≠ []) :
      Finds s .failure o
  /-- An error was found. -/
  | error {o : Outcome} {e : VisitError} (ends : o.error = some e) : Finds s (.error e) o

/-- A failure that has content is found. -/
theorem finds_fail {s t : State} (counted : s.discovered ≤ t.discovered)
    (back : t.replacing = s.replacing) {fault : Option FaultId} (spoken : fault ≠ none)
    (relative : Option String) : Finds s .failure (.ok (t.fail true fault relative)) := by
  obtain ⟨f, rfl⟩ := Option.ne_none_iff_exists'.mp spoken
  by_cases hr : t.replacing = 0
  · rw [fail_some hr]
    exact .failure rfl back (Nat.lt_succ_of_le counted) (fun h => absurd (back ▸ hr) h)
      fun _ => ⟨by simp, by simp⟩
  · rw [fail_replacing hr]
    exact .failure rfl back (Nat.lt_succ_of_le counted) (fun _ => rfl)
      fun h => absurd (back.trans h) hr

/-- **What follows an end.** Where a failure was found nothing follows. -/
theorem Finds.next {s : State} {a b : Finding} {o : Outcome} (h : Finds s a o)
    {f : State → Outcome} (stops : ∀ t, t.halted = true → f t = .ok t) (hf : Finds s b (f s)) :
    Finds s (a.orElse b) (o.next f) := by
  cases h with
  | nothing => exact hf
  | error ends =>
    rw [Outcome.next_of_some ends]
    exact .error ends
  | failure fine back counted hidden shown =>
    have halted : o.state.halted = true := by
      by_cases hr : s.replacing = 0
      · exact halted_of_stopped (shown hr).1
      · simp [State.halted, back, hr, hidden hr]
    rw [Outcome.next_of_none fine, stops _ halted]
    exact .failure rfl back counted hidden shown

/-- An end does not depend on where the visit was when it began. -/
theorem Finds.moved {s s' : State} {a : Finding} {o : Outcome} (h : Finds s' a o)
    (hs : Alike s s') {f : State → State} (hf : ∀ t, Alike t (f t)) (back : f s' = s) :
    Finds s a (o.map f) := by
  cases h with
  | nothing =>
    have same : (Outcome.ok s').map f = .ok s := congrArg Outcome.ok back
    rw [same]
    exact .nothing
  | error ends => exact .error ends
  | failure fine replacing counted hidden shown =>
    refine .failure fine ?_ ?_ ?_ ?_
    · exact (hf _).replacing.trans (replacing.trans hs.replacing)
    · rw [Outcome.map_state, (hf _).discovered, ← hs.discovered]
      exact counted
    · rw [Outcome.map_state, (hf _).hit, ← hs.replacing]
      exact hidden
    · rw [Outcome.map_state, (hf _).stopped, (hf _).records, ← hs.replacing]
      exact shown

/-! ## 4. The parts of a visit -/

/-- A hurried way into the scopes that ends as a search says. -/
def Enter.Finds (enter : Enter V) (finds : Search V) : Prop :=
  ∀ id value s, s.halted = false → Visit.Finds s (finds id (value.map Prod.fst)) (enter id value s)

section Parts

variable {enter : Enter V} {finds : Search V} (he : enter.Finds finds)
include he

theorem finds_reached (target : ScopeId) (place : Place) (depth : Nat) (segment : Segment)
    (value : Option (V × Locus)) {s : State} (hs : s.halted = false) :
    Finds s (finds target (value.map Prod.fst))
      (reached enter target place depth segment value s) := by
  have hm := alike_enterSegment s segment
  have inner := he target (value.map fun found => (found.1, place.reach depth found.2)) _
    (running_of_alike hs hm)
  rw [fst_place] at inner
  exact inner.moved hm (alike_leaveSegment · segment) (by cases segment <;> rfl)

theorem finds_reachedAll (target : ScopeId) (place : Place) (depth : Nat)
    (values : List (Segment × Option (V × Locus))) {s : State} (hs : s.halted = false) :
    Finds s (.first (values.map fun found => finds target (found.2.map Prod.fst)))
      (reachedAll enter target place depth values s) := by
  induction values with
  | nil => exact .nothing
  | cons found rest ih =>
    refine (finds_reached he target place depth found.1 found.2 hs).next
      (fun t ht => by simp only [ht, if_true]) ?_
    simp only [hs, Bool.false_eq_true, if_false]
    exact ih

omit he in
/-- However a link shows failures, it has one where there is one behind it. -/
theorem finds_shown {showing : Showing} (spoken : showing ≠ .replaced none) (run : State → Outcome)
    {s : State} {a : Finding} (hrun : ∀ t, t.halted = false → Finds t a (run t))
    (hs : s.halted = false) : Finds s a (shown ⟨true, false⟩ showing run s) := by
  cases showing with
  | nested => exact hrun s hs
  | replaced fault =>
    have fault_ne : fault ≠ none := fun h => spoken (by rw [h])
    have hide : s.hide.halted = false := by
      simp [State.halted, State.hide, not_stopped_of_running hs]
    have inner := hrun s.hide hide
    simp only [shown]
    generalize run s.hide = o at inner ⊢
    cases inner with
    | nothing => exact .nothing
    | error ends =>
      rw [Outcome.next_of_some (by exact ends)]
      exact .error ends
    | failure fine back counted hidden shown =>
      have left : o.state.replacing - 1 = s.replacing := congrArg (· - 1) back
      rw [Outcome.next_of_none (by exact fine), if_pos (hidden (Nat.succ_ne_zero _))]
      exact finds_fail (s := s) (t := o.state.unhide s.hit) (Nat.le_of_lt counted) left fault_ne
        none
  | extended fault =>
    have inner := hrun s hs
    simp only [shown]
    generalize run s = o at inner ⊢
    cases inner with
    | nothing =>
      rw [Outcome.next_of_none rfl, Outcome.ok_state, if_neg (Nat.lt_irrefl _)]
      exact .nothing
    | error ends =>
      rw [Outcome.next_of_some ends]
      exact .error ends
    | failure fine back counted hidden shown =>
      rw [Outcome.next_of_none fine, if_pos counted]
      exact finds_fail (Nat.le_of_lt counted) back (Option.some_ne_none fault) none

theorem finds_link (v : V) (place : Place) {l : LinkStep V} (spoken : l.showing ≠ .replaced none)
    {s : State} (hs : s.halted = false) :
    Finds s (Search.link finds (l.transition.values v) l.target)
      (link ⟨true, false⟩ enter v place l s) := by
  have hm := alike_enterPath s l.path
  have behind : Search.link finds (l.transition.values v) l.target =
      .first ((l.transition.reach v).map fun found => finds l.target (found.2.map Prod.fst)) := by
    rw [Search.link, Transition.values, List.map_map]
    rfl
  rw [behind]
  have inner := finds_shown spoken
    (fun t => reachedAll enter l.target place t.active.length (l.transition.reach v) t)
    (fun t ht => finds_reachedAll he l.target place t.active.length _ ht) (running_of_alike hs hm)
  exact inner.moved hm (alike_leavePath · l.path) (by cases l.path <;> rfl)

theorem finds_steps (v : V) (place : Place) (list : List (Step V))
    (rules : ∀ r, .rule r ∈ list → r.fault ≠ none)
    (links : ∀ l, .link l ∈ list → l.showing ≠ .replaced none) {s : State}
    (hs : s.halted = false) :
    Finds s (Search.steps finds v (list.map Step.check))
      (steps ⟨true, false⟩ enter v place list s) := by
  induction list with
  | nil => exact .nothing
  | cons step rest ih =>
    have further := ih (fun r hr => rules r (List.mem_cons_of_mem _ hr))
      (fun l hl => links l (List.mem_cons_of_mem _ hl))
    have stops (t : State) (ht : t.halted = true) :
        steps ⟨true, false⟩ enter v place rest t = .ok t :=
      steps_halted ht rest
    unfold steps
    rw [if_neg (by simp [hs])]
    cases step with
    | guard holds =>
      simp only [List.map_cons, Step.check, Search.steps]
      split
      · exact further
      · exact .nothing
    | rule r =>
      simp only [List.map_cons, Step.check, Search.steps, Search.rule]
      split
      · exact (finds_fail (Nat.le_refl _) rfl (rules r List.mem_cons_self) r.path).next stops
          further
      · exact further
    | link l =>
      simp only [List.map_cons, Step.check, Search.steps]
      split
      · exact (finds_link he v place (links l List.mem_cons_self) hs).next stops further
      · exact further

theorem finds_inside (id : ScopeId) {sc : Scope V} (spoken : sc.Outspoken) (v : V) (place : Place)
    {s : State} (hs : s.halted = false) :
    Finds s (Search.steps finds v sc.checks.steps)
      (inside ⟨true, false⟩ enter id sc v place s) := by
  have hm := alike_push s id place
  have inner := finds_steps he v place sc.steps spoken.rule spoken.link (running_of_alike hs hm)
  exact inner.moved hm alike_pop rfl

omit he in
theorem finds_missing (id : ScopeId) {sc : Scope V} (spoken : sc.Outspoken) {s : State} :
    Finds s (Search.missing sc.checks) (body ⟨true, false⟩ enter id sc none s) := by
  have silent := spoken.presence
  unfold body Search.missing Scope.checks
  cases hp : sc.presence with
  | required fault =>
    exact finds_fail (Nat.le_refl _) rfl (fun h => silent.1 (by rw [hp, h])) none
  | «optional» => exact .nothing
  | forbidden fault => exact .nothing

theorem finds_body (id : ScopeId) {sc : Scope V} (spoken : sc.Outspoken)
    (value : Option (V × Place)) {s : State} (hs : s.halted = false) :
    Finds s (Search.body finds sc.checks (value.map Prod.fst))
      (body ⟨true, false⟩ enter id sc value s) := by
  cases value with
  | none => exact finds_missing id spoken
  | some found =>
    obtain ⟨v, place⟩ := found
    have null : sc.checks.isNull v = sc.treatsAsNull v := rfl
    simp only [Option.map_some, Search.body, null]
    by_cases hn : sc.treatsAsNull v
    · rw [if_pos hn, body_of_null hn]
      exact finds_missing id spoken
    · rw [if_neg hn]
      have silent := spoken.presence
      unfold body Search.present
      simp only [Option.filter, hn, Bool.not_false, if_true, Scope.checks]
      cases hp : sc.presence with
      | required fault => exact finds_inside he id spoken v place hs
      | «optional» => exact finds_inside he id spoken v place hs
      | forbidden fault =>
        exact finds_fail (Nat.le_refl _) rfl (fun h => silent.2 (by rw [hp, h])) none

end Parts

/-! ## 5. Visits -/

theorem finds_scope {scheme : Scheme V} (spoken : scheme.Outspoken) (depth : Nat) :
    (scope ⟨true, false⟩ scheme depth).Finds (search scheme.checks depth) := by
  induction depth with
  | zero => exact fun _ _ _ _ => .error rfl
  | succ depth ih =>
    intro id value s hs
    unfold scope search Scheme.checks
    rw [List.getElem?_map]
    cases here : scheme.scopes[id]? with
    | none => exact .error rfl
    | some sc => exact finds_body ih id (spoken sc (List.mem_of_getElem? here)) value hs

/-- Before anything is recorded, what a search finds is the verdict. -/
theorem Finds.verdict {a : Finding} {o : Outcome} (h : Finds .start a o) :
    (o.result.map FaultMap.ofRecords).map (·.isEmpty) = a.verdict := by
  cases h with
  | nothing => rfl
  | error ends =>
    rw [Outcome.result_eq_error_iff.mpr ends]
    rfl
  | failure fine back counted hidden shown =>
    have some_ : o.state.records.isEmpty = false := List.isEmpty_eq_false_iff.mpr (shown rfl).2
    rw [Outcome.result_eq_ok_iff.mpr ⟨fine, rfl⟩]
    show Except.ok (FaultMap.ofRecords o.state.records).isEmpty = .ok false
    rw [FaultMap.isEmpty_ofRecords, some_]

/-- A hurried visit of an outspoken scheme gives the verdict of the search. -/
theorem verdict_of_search {scheme : Scheme V} (spoken : scheme.Outspoken) (depth : Nat) (model : V)
    (place : Place) :
    (run ⟨true, false⟩ scheme depth model place).map (·.isEmpty) =
      (search scheme.checks depth scheme.root (some model)).verdict :=
  (finds_scope spoken depth scheme.root (some (model, place)) .start rfl).verdict

/-- Where a full visit ends with records, the search has their verdict, at every further depth. -/
theorem verdict_of_full {scheme : Scheme V} (spoken : scheme.Outspoken) {depth : Nat} {model : V}
    {place : Place} {all : FaultMap} (h : run ⟨false, false⟩ scheme depth model place = .ok all)
    (more : Nat) :
    (search scheme.checks (depth + more) scheme.root (some model)).verdict = .ok all.isEmpty := by
  obtain ⟨list, full, rfl⟩ := run_eq_ok_iff.mp h
  have deeper : records ⟨false, false⟩ scheme (depth + more) model place = .ok list :=
    (records_deeper (by rw [full]; exact fun e => by cases e) more).1.trans full
  obtain ⟨few, hurried, nothing, -, -⟩ := (hurries_scope false scheme (depth + more) scheme.root
    (some (model, place)) .start rfl).results.1 list deeper
  have same : few.isEmpty = list.isEmpty := by
    rw [Bool.eq_iff_iff, List.isEmpty_iff, List.isEmpty_iff, nothing]
  have made : run ⟨true, false⟩ scheme (depth + more) model place =
      .ok (FaultMap.ofRecords few) := run_eq_ok_iff.mpr ⟨few, hurried, rfl⟩
  rw [← verdict_of_search spoken (depth + more) model place, made, FaultMap.isEmpty_ofRecords,
    ← same, ← FaultMap.isEmpty_ofRecords]
  rfl

/-- **Paths, faults and showings do not change the verdict.** Two schemes that check the same, and in
    which every failure has a fault, are alike for every value: the hurried visits of both, which are
    not guarded, give the same verdict or end with the same error, down to any depth. Where a full
    visit of one of them ends with records, both give its verdict; and where the full visits of both
    end, each as deep as it may go, they have the same one. So the validators of the two agree. -/
theorem verdict_of_checks {s t : Scheme V} (same : s.checks = t.checks) (hs : s.Outspoken)
    (ht : t.Outspoken) (model : V) (place : Place) :
    (∀ depth, (run ⟨true, false⟩ s depth model place).map (·.isEmpty) =
      (run ⟨true, false⟩ t depth model place).map (·.isEmpty)) ∧
    (∀ depth all, run ⟨false, false⟩ s depth model place = .ok all →
      (run ⟨true, false⟩ s depth model place).map (·.isEmpty) = .ok all.isEmpty ∧
        (run ⟨true, false⟩ t depth model place).map (·.isEmpty) = .ok all.isEmpty) ∧
    (∀ depth depth' all all', run ⟨false, false⟩ s depth model place = .ok all →
      run ⟨false, false⟩ t depth' model place = .ok all' → all.isEmpty = all'.isEmpty) ∧
    (∀ v w : Validator V, v.scheme = s → w.scheme = t → v.loopProtection = false →
      w.loopProtection = false → v.isValid model place = w.isValid model place) := by
  have hurried (depth : Nat) : (run ⟨true, false⟩ s depth model place).map (·.isEmpty) =
      (run ⟨true, false⟩ t depth model place).map (·.isEmpty) := by
    rw [verdict_of_search hs, verdict_of_search ht, same]
    rfl
  refine ⟨hurried, fun depth all h => ?_, fun depth depth' all all' h h' => ?_, ?_⟩
  · have found := verdict_of_full hs h 0
    rw [Nat.add_zero, ← verdict_of_search hs depth model place] at found
    exact ⟨found, (hurried depth).symm.trans found⟩
  · -- both searches have ended at the sum of the depths
    have left := verdict_of_full hs h depth'
    have right := verdict_of_full ht h' depth
    rw [same, Nat.add_comm] at left
    exact Except.ok.inj (left.symm.trans right)
  · rintro v w rfl rfl hv hw
    unfold Validator.isValid Validator.visit
    rw [hv, hw]
    exact hurried Validator.depthLimit

/-- The test of a person by the age, which is put at a path, shown in some way, and has a fault or
    none. The person stands for the age. -/
def adults (path : String) (showing : Showing) (fault : Option FaultId) : Scheme Nat where
  rootType := "person"
  scopes := [
    ⟨"person", .optional, none, [
      .link ⟨none, .member "Age" fun n => some (n, .made), 1, some path, showing⟩,
      .rule ⟨none, (· < 150), some 0, none⟩]⟩,
    ⟨"age", .optional, none, [.rule ⟨none, (18 ≤ ·), fault, none⟩]⟩]
  registry := ⟨[Fault.error, Fault.ofMessage "too young" []]⟩
  template := FaultMap.empty
  resolved := []
  loopPossible := false

theorem outspoken_adults (path : String) {showing : Showing} (spoken : showing ≠ .replaced none)
    (fault : FaultId) : (adults path showing (some fault)).Outspoken := by
  have silent : Presence.optional ≠ .required none ∧ Presence.optional ≠ .forbidden none := by
    decide
  intro sc hsc
  simp only [adults, List.mem_cons, List.not_mem_nil, or_false] at hsc
  rcases hsc with rfl | rfl
  · refine ⟨silent, fun r hr => ?_, fun l hl => ?_⟩
    · rcases List.mem_cons.mp hr with hr | hr
      · cases hr
      · cases List.mem_singleton.mp hr
        exact Option.some_ne_none 0
    · rcases List.mem_cons.mp hl with hl | hl
      · cases hl
        exact spoken
      · cases List.mem_singleton.mp hl
  · refine ⟨silent, fun r hr => ?_, fun l hl => ?_⟩
    · cases List.mem_singleton.mp hr
      exact Option.some_ne_none fault
    · cases List.mem_singleton.mp hl

/-- The young person is shown with the fault of the age, or with two others. -/
theorem verdict_of_checks_adults :
    run ⟨false, false⟩ (adults "Age" .nested (some 1)) 2 7 .model = .ok ⟨[("Age", [1])]⟩ ∧
      run ⟨false, false⟩ (adults "Born" (.extended 1) (some 0)) 3 7 .model =
        .ok ⟨[("Born", [0, 1])]⟩ ∧
      (⟨[("Age", [1])]⟩ : FaultMap).isEmpty = (⟨[("Born", [0, 1])]⟩ : FaultMap).isEmpty ∧
      (run ⟨true, false⟩ (adults "Born" (.extended 1) (some 0)) 2 7 .model).map (·.isEmpty) =
        .ok false :=
  have alike := verdict_of_checks (s := adults "Age" .nested (some 1))
    (t := adults "Born" (.extended 1) (some 0)) rfl (outspoken_adults _ (by decide) 1)
    (outspoken_adults _ (by decide) 0) 7 .model
  ⟨rfl, rfl, alike.2.2.1 2 3 _ _ rfl rfl, (alike.2.1 2 _ rfl).2⟩

/-- A failure without a fault is lost in the one and found by the other. -/
example : (run ⟨true, false⟩ (adults "Age" .nested none) 2 7 .model).map (·.isEmpty) = .ok true ∧
    (run ⟨true, false⟩ (adults "Age" (.extended 1) none) 2 7 .model).map (·.isEmpty) =
      .ok false := ⟨rfl, rfl⟩

end Visit

end Assay
