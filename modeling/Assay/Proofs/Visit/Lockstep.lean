import Assay.Proofs.Visit.Balance
import Assay.Proofs.Visit.Entries

/-!
# Visits in lockstep

Two visits that take the same steps from the same state make the same entries and end alike, unless
one of them breaks off. This file says what the parts of two such visits have in common, and leaves
open why one of them breaks off.

* `BreaksOff why short long` -- the invariant: the runs are the same, or the short one ends with an
  error, and what the long one enters behind that point is a reason for it (`why`);
* `breaksOff_reached`, …, `breaksOff_body` -- each function of a visit keeps it, given that the ways
  into the scopes do and that the two go on alike inside a value;
* **`breaksOff_deeper`** -- a visit and one with a deeper bound: the first breaks off where its bound
  is reached. So what a visit enters and how it ends does not depend on a bound that it does not feel
  (`records_deeper`, `run_deeper`, `entries_deeper`).
-/

namespace Assay.Visit

variable {V : Type}

/-! ## 1. The invariant -/

/-- How a part of a visit ended, and what it entered. -/
structure Run where
  outcome : Outcome
  entries : List Entry

/-- Reasons to break off: the error, and what is entered behind it. -/
abbrev Reason := VisitError → List Entry → Prop

/-- Going on behind the point where a visit broke off is the same reason. -/
def Reason.Lasting (why : Reason) : Prop :=
  ∀ e rest more, why e rest → why e (rest ++ more)

/-- **The runs are the same, or the short one has broken off.** -/
inductive BreaksOff (why : Reason) (short long : Run) : Prop where
  | same (same : short = long)
  | off (e : VisitError) (rest : List Entry) (ends : short.outcome.error = some e)
      (made : long.entries = short.entries ++ rest) (reason : why e rest)

theorem breaksOff_refl {why : Reason} (run : Run) : BreaksOff why run run := .same rfl

theorem BreaksOff.map {why : Reason} {o o' : Outcome} {t t' : List Entry}
    (h : BreaksOff why ⟨o, t⟩ ⟨o', t'⟩) (f : State → State) :
    BreaksOff why ⟨o.map f, t⟩ ⟨o'.map f, t'⟩ := by
  cases h with
  | same same =>
    cases same
    exact breaksOff_refl _
  | off e rest ends made reason => exact .off e rest ends made reason

/-- More entries in front of two runs. -/
theorem BreaksOff.behind {why : Reason} {o o' : Outcome} {t t' : List Entry}
    (h : BreaksOff why ⟨o, t⟩ ⟨o', t'⟩) (front : List Entry) :
    BreaksOff why ⟨o, front ++ t⟩ ⟨o', front ++ t'⟩ := by
  cases h with
  | same same =>
    cases same
    exact breaksOff_refl _
  | off e rest ends made reason =>
    have made : t' = t ++ rest := made
    exact .off e rest ends (by rw [made, List.append_assoc]) reason

theorem Outcome.follow_of_some {o : Outcome} {e : VisitError} (h : o.error = some e)
    (f : State → List Entry) : o.follow f = [] := by
  unfold Outcome.follow
  rw [h]

theorem Outcome.follow_of_none {o : Outcome} (h : o.error = none) (f : State → List Entry) :
    o.follow f = f o.state := by
  unfold Outcome.follow
  rw [h]

/-- **What follows an end.** Behind the point where one run breaks off only the other goes on. -/
theorem BreaksOff.next {why : Reason} (lasting : why.Lasting) {o o' : Outcome}
    {t t' : List Entry} (h : BreaksOff why ⟨o, t⟩ ⟨o', t'⟩) {f f' : State → Outcome}
    {g g' : State → List Entry}
    (hf : BreaksOff why ⟨f o.state, g o.state⟩ ⟨f' o.state, g' o.state⟩) :
    BreaksOff why ⟨o.next f, t ++ o.follow g⟩ ⟨o'.next f', t' ++ o'.follow g'⟩ := by
  cases h with
  | same same =>
    cases same
    cases he : o.error with
    | some e =>
      rw [Outcome.next_of_some he, Outcome.next_of_some he, Outcome.follow_of_some he,
        Outcome.follow_of_some he]
      exact breaksOff_refl _
    | none =>
      rw [Outcome.next_of_none he, Outcome.next_of_none he, Outcome.follow_of_none he,
        Outcome.follow_of_none he]
      exact hf.behind t
  | off e rest ends made reason =>
    have ends : o.error = some e := ends
    have made : t' = t ++ rest := made
    rw [Outcome.next_of_some ends, Outcome.follow_of_some ends, List.append_nil]
    exact .off e _ ends (by rw [made, List.append_assoc]) (lasting e rest _ reason)

/-! ## 2. The parts of two visits -/

/-- A way into the scopes with the entries behind it. -/
structure Way (V : Type) where
  enter : Enter V
  trace : Trace V

/-- Two ways into the scopes that keep the invariant inside of given entries. -/
def Way.BreaksOff (why : Reason) (around : List Active) (short long : Way V) : Prop :=
  ∀ id value s, s.active = around →
    Visit.BreaksOff why ⟨short.enter id value s, short.trace around id value s⟩
      ⟨long.enter id value s, long.trace around id value s⟩

theorem active_enterSegment (s : State) (segment : Segment) :
    (s.enterSegment segment).active = s.active := by
  cases segment <;> rfl

theorem active_enterPath (s : State) (path : Option String) :
    (s.enterPath path).active = s.active := by
  cases path <;> rfl

theorem active_behind (s : State) (showing : Showing) :
    (s.behind showing).active = s.active := by
  cases showing <;> rfl

/-- How a link shows faults does not change whether it ends with an error. -/
theorem error_shown (mode : Mode) (showing : Showing) (f : State → Outcome) (s : State) :
    (shown mode showing f s).error = (f (s.behind showing)).error := by
  have next_ok (o : Outcome) (g : State → State) : (o.next fun t => .ok (g t)).error = o.error := by
    cases h : o.error with
    | some e => rw [Outcome.next_of_some h, h]
    | none => rw [Outcome.next_of_none h, Outcome.ok_error]
  cases showing with
  | nested => rfl
  | replaced fault => exact next_ok _ _
  | extended fault => exact next_ok _ _

/-- What a link shows depends on what is behind it only. -/
theorem shown_congr (hurried g g' : Bool) {showing : Showing} {f f' : State → Outcome} {s : State}
    (h : f (s.behind showing) = f' (s.behind showing)) :
    shown ⟨hurried, g⟩ showing f s = shown ⟨hurried, g'⟩ showing f' s := by
  cases showing with
  | nested => exact h
  | replaced fault =>
    have same : f s.hide = f' s.hide := h
    simp only [shown, same]
  | extended fault =>
    have same : f s = f' s := h
    simp only [shown, same]

section Parts

variable {why : Reason} (lasting : why.Lasting) {hurried g g' : Bool} {short long : Way V}
  {around : List Active} (hk : short.enter.Keeping) (he : Way.BreaksOff why around short long)
include lasting hk he

omit lasting hk in
theorem breaksOff_reached (target : ScopeId) (place : Place) (depth : Nat) (segment : Segment)
    (value : Option (V × Locus)) {s : State} (hs : s.active = around) :
    BreaksOff why
      ⟨reached short.enter target place depth segment value s,
        Trace.reached short.trace around target place depth segment value s⟩
      ⟨reached long.enter target place depth segment value s,
        Trace.reached long.trace around target place depth segment value s⟩ :=
  (he target _ _ ((active_enterSegment s segment).trans hs)).map (·.leaveSegment segment)

theorem breaksOff_reachedAll (target : ScopeId) (place : Place) (depth : Nat)
    (values : List (Segment × Option (V × Locus))) {s : State} (hs : s.active = around) :
    BreaksOff why
      ⟨reachedAll short.enter target place depth values s,
        Trace.reachedAll short.enter short.trace around target place depth values s⟩
      ⟨reachedAll long.enter target place depth values s,
        Trace.reachedAll long.enter long.trace around target place depth values s⟩ := by
  induction values generalizing s with
  | nil => exact breaksOff_refl _
  | cons first rest ih =>
    have kept := keeps_reached hk target place depth first.1 first.2 s
    refine (breaksOff_reached he target place depth first.1 first.2 hs).next lasting ?_
    split
    · exact breaksOff_refl _
    · exact ih (kept.active.trans hs)

omit lasting hk he in
theorem breaksOff_shown (showing : Showing) (f f' : State → Outcome) {t t' : List Entry} {s : State}
    (h : BreaksOff why ⟨f (s.behind showing), t⟩ ⟨f' (s.behind showing), t'⟩) :
    BreaksOff why ⟨shown ⟨hurried, g⟩ showing f s, t⟩ ⟨shown ⟨hurried, g'⟩ showing f' s, t'⟩ := by
  cases h with
  | same same =>
    obtain ⟨ends, rfl⟩ := Run.mk.inj same
    rw [shown_congr hurried g g' ends]
    exact breaksOff_refl _
  | off e rest ends made reason =>
    exact .off e rest ((error_shown _ showing f s).trans ends) made reason

theorem breaksOff_link (v : V) (place : Place) (step : LinkStep V) {s : State}
    (hs : s.active = around) :
    BreaksOff why
      ⟨link ⟨hurried, g⟩ short.enter v place step s,
        Trace.link short.enter short.trace around v place step s⟩
      ⟨link ⟨hurried, g'⟩ long.enter v place step s,
        Trace.link long.enter long.trace around v place step s⟩ := by
  have here : ((s.enterPath step.path).behind step.showing).active = around :=
    (active_behind _ _).trans ((active_enterPath s step.path).trans hs)
  have inner := breaksOff_reachedAll lasting hk he step.target place
    ((s.enterPath step.path).behind step.showing).active.length (step.transition.reach v) here
  exact (breaksOff_shown step.showing
    (fun t => reachedAll short.enter step.target place t.active.length (step.transition.reach v) t)
    (fun t => reachedAll long.enter step.target place t.active.length (step.transition.reach v) t)
    inner).map (·.leavePath step.path)

theorem breaksOff_steps (v : V) (place : Place) (list : List (Step V)) {s : State}
    (hs : s.active = around) :
    BreaksOff why
      ⟨steps ⟨hurried, g⟩ short.enter v place list s,
        Trace.steps ⟨hurried, g⟩ short.enter short.trace around v place list s⟩
      ⟨steps ⟨hurried, g'⟩ long.enter v place list s,
        Trace.steps ⟨hurried, g'⟩ long.enter long.trace around v place list s⟩ := by
  induction list generalizing s with
  | nil => exact breaksOff_refl _
  | cons step rest ih =>
    unfold steps Trace.steps
    split
    · exact breaksOff_refl _
    · cases step with
      | guard holds =>
        dsimp only
        split
        · exact ih hs
        · exact breaksOff_refl _
      | rule rule =>
        dsimp only
        split
        · exact ih ((keeps_fail s hurried rule.fault rule.path).active.trans hs)
        · exact ih hs
      | link l =>
        dsimp only
        split
        · have kept : Keeps s (link ⟨hurried, g⟩ short.enter v place l s).state :=
            keeps_link hk v place l s
          exact (breaksOff_link lasting hk he v place l hs).next lasting (ih (kept.active.trans hs))
        · exact ih hs

omit lasting hk he in
/-- Around the values that are entered the two visits are alike. -/
theorem breaksOff_body (short long : Way V) {id : ScopeId} {sc : Scope V} {s : State}
    (inner : ∀ v place, BreaksOff why
      ⟨inside ⟨hurried, g⟩ short.enter id sc v place s,
        Trace.inside ⟨hurried, g⟩ short.enter short.trace around id sc v place s⟩
      ⟨inside ⟨hurried, g'⟩ long.enter id sc v place s,
        Trace.inside ⟨hurried, g'⟩ long.enter long.trace around id sc v place s⟩)
    (value : Option (V × Place)) :
    BreaksOff why
      ⟨body ⟨hurried, g⟩ short.enter id sc value s,
        Trace.body ⟨hurried, g⟩ short.enter short.trace around id sc value s⟩
      ⟨body ⟨hurried, g'⟩ long.enter id sc value s,
        Trace.body ⟨hurried, g'⟩ long.enter long.trace around id sc value s⟩ := by
  unfold body Trace.body
  cases value.filter fun found => !sc.treatsAsNull found.1 with
  | none => exact breaksOff_refl _
  | some found =>
    cases sc.presence with
    | required fault => exact inner _ _
    | «optional» => exact inner _ _
    | forbidden fault => exact breaksOff_refl _

end Parts

/-! ## 3. Deeper visits -/

/-- The way into the scopes of a scheme. -/
def Way.scope (mode : Mode) (scheme : Scheme V) (depth : Nat) : Way V :=
  ⟨Visit.scope mode scheme depth, Trace.scope mode scheme depth⟩

/-- The bound on the depth was reached. -/
def TooDeep : Reason := fun e _ => e = .tooDeep

theorem tooDeep_lasting : TooDeep.Lasting := fun _ _ _ h => h

/-- **A visit breaks off before a deeper one only at its bound.** -/
theorem breaksOff_deeper (mode : Mode) (scheme : Scheme V) (depth more : Nat)
    (around : List Active) :
    Way.BreaksOff TooDeep around (Way.scope mode scheme depth)
      (Way.scope mode scheme (depth + more)) := by
  induction depth generalizing around with
  -- at the bound nothing has been entered yet, so whatever the deeper visit enters is behind it
  | zero => exact fun _ _ _ _ => .off .tooDeep _ rfl rfl rfl
  | succ depth ih =>
    intro id value s hs
    rw [Nat.succ_add]
    unfold Way.scope scope Trace.scope
    cases scheme.scopes[id]? with
    | none => exact breaksOff_refl _
    | some sc =>
      refine breaksOff_body (Way.scope mode scheme depth) (Way.scope mode scheme (depth + more))
        (fun v place => ?_) value
      unfold inside Trace.inside
      cases if mode.guarded && sc.type.sized then s.find? id place else none with
      | some first => exact breaksOff_refl _
      | none =>
        have pushed : (s.push id place).active = ⟨id, place, s.concrete s.path⟩ :: around :=
          congrArg (_ :: ·) hs
        exact ((breaksOff_steps tooDeep_lasting (keeps_scope mode scheme depth) (ih _) v place
          sc.steps pushed).map State.pop).behind [_]

/-- How a visit ends, if not at its bound, does not depend on it. -/
theorem records_deeper {mode : Mode} {scheme : Scheme V} {depth : Nat} {v : V} {place : Place}
    (h : records mode scheme depth v place ≠ .error .tooDeep) (more : Nat) :
    records mode scheme (depth + more) v place = records mode scheme depth v place ∧
      entries mode scheme (depth + more) v place = entries mode scheme depth v place := by
  cases breaksOff_deeper mode scheme depth more [] scheme.root (some (v, place)) .start rfl with
  | same same =>
    obtain ⟨outcomes, traces⟩ := Run.mk.inj same
    exact ⟨(congrArg Outcome.result outcomes).symm, traces.symm⟩
  | off e rest ends made reason =>
    cases reason
    exact absurd (Outcome.result_eq_error_iff.mpr ends) h

/-- **The bound is no part of a result**: a visit that does not end at its bound records the same under
    every higher one. -/
theorem run_deeper {mode : Mode} {scheme : Scheme V} {depth limit : Nat} {v : V} {place : Place}
    (h : run mode scheme depth v place ≠ .error .tooDeep) (higher : depth ≤ limit) :
    run mode scheme limit v place = run mode scheme depth v place := by
  obtain ⟨more, rfl⟩ := Nat.exists_eq_add_of_le higher
  have shallow : records mode scheme depth v place ≠ .error .tooDeep := fun ends =>
    h (run_eq_error_iff.mpr ends)
  rw [run, run, (records_deeper shallow more).1]

/-- A visit makes the entries of a deeper one, as far as it goes. -/
theorem entries_deeper (mode : Mode) (scheme : Scheme V) (depth more : Nat) (v : V)
    (place : Place) :
    entries mode scheme depth v place <+: entries mode scheme (depth + more) v place := by
  cases breaksOff_deeper mode scheme depth more [] scheme.root (some (v, place)) .start rfl with
  | same same =>
    have traces : entries mode scheme depth v place = entries mode scheme (depth + more) v place :=
      (Run.mk.inj same).2
    exact traces ▸ List.prefix_refl _
  | off e rest ends made reason => exact ⟨rest, made.symm⟩

end Assay.Visit
