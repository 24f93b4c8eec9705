import Assay.Visit

/-!
# What a visit leaves as it was

Every part of a visit enters levels and values and leaves them again, counts and records failures,
and may stop. This file fixes what one part may do to the state of the visit, however it ends:

* `Keeps s t` -- between `s` and `t` the levels, the values being visited and the number of
  replacing links are the same, the records have only been added to, and neither the count of
  failures nor a stop nor a hit has been taken back;
* `keeps_fail`, `keeps_reached`, …, `keeps_body` -- one lemma for each function of a visit, given
  that the way into the scopes behind it keeps the state;
* **`keeps_scope`** -- so the way into the scopes of a scheme keeps the state, at every depth.
-/

namespace Assay.Visit

variable {V : Type}

/-! ## 1. The relation -/

/-- **What no part of a visit takes back.** -/
structure Keeps (s t : State) : Prop where
  levels : t.levels = s.levels
  active : t.active = s.active
  replacing : t.replacing = s.replacing
  records : s.records <+: t.records
  discovered : s.discovered ≤ t.discovered
  stopped : s.stopped = true → t.stopped = true
  hit : s.hit = true → t.hit = true
  /-- Outside of replacing links there are no hits. -/
  hit_open : s.replacing = 0 → t.hit = s.hit

theorem Keeps.refl (s : State) : Keeps s s :=
  ⟨rfl, rfl, rfl, List.prefix_refl _, Nat.le_refl _, id, id, fun _ => rfl⟩

theorem Keeps.trans {s t u : State} (h : Keeps s t) (h' : Keeps t u) : Keeps s u where
  levels := h'.levels.trans h.levels
  active := h'.active.trans h.active
  replacing := h'.replacing.trans h.replacing
  records := h.records.trans h'.records
  discovered := Nat.le_trans h.discovered h'.discovered
  stopped e := h'.stopped (h.stopped e)
  hit e := h'.hit (h.hit e)
  hit_open e := (h'.hit_open (h.replacing.trans e)).trans (h.hit_open e)

/-- A way into the scopes that keeps every state. -/
def Enter.Keeping (enter : Enter V) : Prop := ∀ id value s, Keeps s (enter id value s).state

/-! ## 2. Ends of parts -/

@[simp] theorem Outcome.ok_state (s : State) : (Outcome.ok s).state = s := rfl

@[simp] theorem Outcome.ok_error (s : State) : (Outcome.ok s).error = none := rfl

@[simp] theorem Outcome.map_state (o : Outcome) (f : State → State) :
    (o.map f).state = f o.state := rfl

@[simp] theorem Outcome.map_error (o : Outcome) (f : State → State) :
    (o.map f).error = o.error := rfl

theorem Outcome.next_of_none {o : Outcome} (h : o.error = none) (f : State → Outcome) :
    o.next f = f o.state := by
  unfold Outcome.next
  rw [h]

theorem Outcome.next_of_some {o : Outcome} {e : VisitError} (h : o.error = some e)
    (f : State → Outcome) : o.next f = o := by
  unfold Outcome.next
  rw [h]

theorem Outcome.result_eq_ok_iff {o : Outcome} {l : List Record} :
    o.result = .ok l ↔ o.error = none ∧ o.state.records = l := by
  unfold Outcome.result
  cases o.error <;> simp

theorem Outcome.result_eq_error_iff {o : Outcome} {e : VisitError} :
    o.result = .error e ↔ o.error = some e := by
  unfold Outcome.result
  cases o.error <;> simp

/-- A visit ends with a map of faults if it ends with records, and then the map is theirs. -/
theorem run_eq_ok_iff {mode : Mode} {scheme : Scheme V} {depth : Nat} {v : V} {place : Place}
    {faults : FaultMap} : run mode scheme depth v place = .ok faults ↔
      ∃ list, records mode scheme depth v place = .ok list ∧ FaultMap.ofRecords list = faults := by
  unfold run
  cases records mode scheme depth v place <;> simp [Except.map]

theorem run_eq_error_iff {mode : Mode} {scheme : Scheme V} {depth : Nat} {v : V} {place : Place}
    {e : VisitError} : run mode scheme depth v place = .error e ↔
      records mode scheme depth v place = .error e := by
  unfold run
  cases records mode scheme depth v place <;> simp [Except.map]

/-- What follows an end keeps the state if both parts do. -/
theorem Keeps.next {s : State} {o : Outcome} {f : State → Outcome} (h : Keeps s o.state)
    (hf : ∀ t, Keeps t (f t).state) : Keeps s (o.next f).state := by
  cases he : o.error with
  | some e => rw [Outcome.next_of_some he]; exact h
  | none => rw [Outcome.next_of_none he]; exact h.trans (hf _)

/-! ## 3. Moves -/

/-- What a move leaves alone: everything but where the visit is. -/
structure Alike (s t : State) : Prop where
  records : t.records = s.records
  stopped : t.stopped = s.stopped
  replacing : t.replacing = s.replacing
  hit : t.hit = s.hit
  discovered : t.discovered = s.discovered

theorem alike_enterSegment (s : State) (segment : Segment) : Alike s (s.enterSegment segment) := by
  cases segment <;> exact ⟨rfl, rfl, rfl, rfl, rfl⟩

theorem alike_leaveSegment (s : State) (segment : Segment) : Alike s (s.leaveSegment segment) := by
  cases segment <;> exact ⟨rfl, rfl, rfl, rfl, rfl⟩

theorem alike_enterPath (s : State) (path : Option String) : Alike s (s.enterPath path) := by
  cases path <;> exact ⟨rfl, rfl, rfl, rfl, rfl⟩

theorem alike_leavePath (s : State) (path : Option String) : Alike s (s.leavePath path) := by
  cases path <;> exact ⟨rfl, rfl, rfl, rfl, rfl⟩

theorem alike_push (s : State) (id : ScopeId) (place : Place) : Alike s (s.push id place) :=
  ⟨rfl, rfl, rfl, rfl, rfl⟩

theorem alike_pop (s : State) : Alike s s.pop := ⟨rfl, rfl, rfl, rfl, rfl⟩

/-- There and back again, by the segment of a reached value. -/
theorem Keeps.leaveSegment {s t : State} {segment : Segment}
    (h : Keeps (s.enterSegment segment) t) : Keeps s (t.leaveSegment segment) := by
  cases segment with
  | stay => exact h
  | index i => exact { h with levels := congrArg List.tail h.levels }
  | key k => exact { h with levels := congrArg List.tail h.levels }

/-- There and back again, by the path of a link. -/
theorem Keeps.leavePath {s t : State} {path : Option String}
    (h : Keeps (s.enterPath path) t) : Keeps s (t.leavePath path) := by
  cases path with
  | none => exact h
  | some p => exact { h with levels := congrArg List.tail h.levels }

/-- There and back again, by the visit of a value. -/
theorem Keeps.pop {s t : State} {id : ScopeId} {place : Place} (h : Keeps (s.push id place) t) :
    Keeps s t.pop :=
  { h with active := congrArg List.tail h.active }

/-- There and back again, through a replacing link. -/
theorem Keeps.unhide {s t : State} (h : Keeps s.hide t) : Keeps s (t.unhide s.hit) :=
  { h with
    replacing := congrArg (· - 1) h.replacing
    hit := id
    hit_open := fun _ => rfl }

/-! ## 4. Failures -/

/-- Behind a replacing link a failure is a hit. -/
theorem fail_replacing {s : State} (h : s.replacing ≠ 0) (hurried : Bool)
    (fault : Option FaultId) (relative : Option String) :
    s.fail hurried fault relative =
      { s with discovered := s.discovered + 1, hit := true } := by
  have hne : (s.replacing != 0) = true := by simpa using h
  simp only [State.fail, hne, if_true]

/-- A failure without content leaves no record. -/
theorem fail_none {s : State} (h : s.replacing = 0) (hurried : Bool)
    (relative : Option String) :
    s.fail hurried none relative = { s with discovered := s.discovered + 1 } := by
  simp only [State.fail, h, bne_self_eq_false, Bool.false_eq_true, if_false]

theorem fail_some {s : State} (h : s.replacing = 0) (hurried : Bool) (id : FaultId)
    (relative : Option String) :
    s.fail hurried (some id) relative =
      { s with
        discovered := s.discovered + 1
        records := s.records ++ [⟨s.concrete (Path.along s.path relative), id⟩]
        stopped := s.stopped || hurried } := by
  simp only [State.fail, h, bne_self_eq_false, Bool.false_eq_true, if_false]
  rfl

/-- A failure adds at most one record, and hits at most the innermost replacing link. -/
theorem keeps_fail (s : State) (hurried : Bool) (fault : Option FaultId)
    (relative : Option String) : Keeps s (s.fail hurried fault relative) := by
  by_cases hr : s.replacing = 0
  · cases fault with
    | none =>
      rw [fail_none hr]
      exact ⟨rfl, rfl, rfl, List.prefix_refl _, Nat.le_succ _, id, id, fun _ => rfl⟩
    | some id =>
      rw [fail_some hr]
      exact ⟨rfl, rfl, rfl, List.prefix_append _ _, Nat.le_succ _, fun h => by simp [h],
        fun h => h, fun _ => rfl⟩
  · rw [fail_replacing hr]
    exact ⟨rfl, rfl, rfl, List.prefix_refl _, Nat.le_succ _, id, fun _ => rfl,
      fun h => absurd h hr⟩

/-! ## 5. The parts of a visit -/

section Parts

variable {mode : Mode} {enter : Enter V} (he : enter.Keeping)
include he

theorem keeps_reached (target : ScopeId) (place : Place) (depth : Nat) (segment : Segment)
    (value : Option (V × Locus)) (s : State) :
    Keeps s (reached enter target place depth segment value s).state := by
  unfold reached
  exact Keeps.leaveSegment (he _ _ _)

theorem keeps_reachedAll (target : ScopeId) (place : Place) (depth : Nat)
    (values : List (Segment × Option (V × Locus))) (s : State) :
    Keeps s (reachedAll enter target place depth values s).state := by
  induction values generalizing s with
  | nil => exact Keeps.refl s
  | cons first rest ih =>
    refine (keeps_reached he target place depth first.1 first.2 s).next fun t => ?_
    split
    · exact Keeps.refl t
    · exact ih t

omit he in
/-- A replacing link counts itself and keeps the hit of the links around it for later. -/
theorem keeps_shown (showing : Showing) {run : State → Outcome}
    (hrun : ∀ s, Keeps s (run s).state) (s : State) :
    Keeps s (shown mode showing run s).state := by
  cases showing with
  | nested => exact hrun s
  | replaced fault =>
    refine (hrun s.hide).unhide.next (o := (run s.hide).map (·.unhide s.hit)) fun t => ?_
    simp only [Outcome.ok_state]
    split
    · exact keeps_fail t _ _ _
    · exact Keeps.refl t
  | extended fault =>
    refine (hrun s).next fun t => ?_
    simp only [Outcome.ok_state]
    split
    · exact keeps_fail t _ _ _
    · exact Keeps.refl t

theorem keeps_link (v : V) (place : Place) (step : LinkStep V) (s : State) :
    Keeps s (link mode enter v place step s).state := by
  unfold link
  exact Keeps.leavePath (keeps_shown step.showing (fun t => keeps_reachedAll he _ _ _ _ t) _)

theorem keeps_steps (v : V) (place : Place) (list : List (Step V)) (s : State) :
    Keeps s (steps mode enter v place list s).state := by
  induction list generalizing s with
  | nil => exact Keeps.refl s
  | cons step rest ih =>
    unfold steps
    split
    · exact Keeps.refl s
    · cases step with
      | guard holds =>
        simp only
        split
        · exact ih s
        · exact Keeps.refl s
      | rule rule =>
        simp only
        split
        · exact (keeps_fail s _ _ _).trans (ih _)
        · exact ih s
      | link l =>
        simp only
        split
        · exact (keeps_link he v place l s).next ih
        · exact ih s

theorem keeps_inside (id : ScopeId) (sc : Scope V) (v : V) (place : Place) (s : State) :
    Keeps s (inside mode enter id sc v place s).state := by
  unfold inside
  split
  · exact Keeps.refl s
  · exact Keeps.pop (keeps_steps he v place sc.steps _)

theorem keeps_body (id : ScopeId) (sc : Scope V) (value : Option (V × Place)) (s : State) :
    Keeps s (body mode enter id sc value s).state := by
  unfold body
  cases value.filter fun found => !sc.treatsAsNull found.1 with
  | none =>
    cases sc.presence <;> simp only [Outcome.ok_state]
    · exact keeps_fail s _ _ _
    · exact Keeps.refl s
    · exact Keeps.refl s
  | some found =>
    cases sc.presence <;> simp only [Outcome.ok_state]
    · exact keeps_inside he id sc _ _ s
    · exact keeps_inside he id sc _ _ s
    · exact keeps_fail s _ _ _

end Parts

/-- A halted visit takes no further steps. -/
theorem steps_halted {mode : Mode} {enter : Enter V} {v : V} {place : Place} {s : State}
    (h : s.halted = true) (list : List (Step V)) :
    steps mode enter v place list s = .ok s := by
  cases list with
  | nil => rfl
  | cons step rest => simp only [steps, h, if_true]

/-- A value that counts as null is visited as a null value. -/
theorem body_of_null {mode : Mode} {enter : Enter V} {id : ScopeId} {sc : Scope V} {v : V}
    {place : Place} {s : State} (h : sc.treatsAsNull v = true) :
    body mode enter id sc (some (v, place)) s = body mode enter id sc none s := by
  simp only [body, Option.filter, h, Bool.not_true, Bool.false_eq_true, if_false]

/-! ## 6. The way into the scopes -/

/-- **Every entry into a scope keeps the state of the visit**, however it ends. -/
theorem keeps_scope (mode : Mode) (scheme : Scheme V) (depth : Nat) :
    (scope mode scheme depth).Keeping := by
  induction depth with
  | zero => exact fun _ _ s => Keeps.refl s
  | succ depth ih =>
    intro id value s
    unfold scope
    split
    · exact Keeps.refl s
    · exact keeps_body ih id _ value s

end Assay.Visit
