import Assay.Proofs.Fault.Records
import Assay.Proofs.Visit.Balance

/-!
# Hurried visits

A hurried visit ends its search with the first record. It is set beside the full visit of the same
value, from the same state, however deep the visit may go, whether or not it is guarded, and whether
or not the values on the way have a size.

* `Hurries s full hurried` -- the invariant: two ends that began in `s` are either the same, and
  nothing has stopped the visit, or the hurried one is ahead: it has made a record and stopped, and
  what it has recorded since `s` is a sublist of what the full one has, with the same first record;
* `hurries_fail`, `hurries_reached`, …, `hurries_body` -- each function of a visit keeps it;
* **`hurried_visit_agrees`** -- so both visits give the same verdict, and the hurried one only leaves
  out records behind the first, and errors behind it.

A hurried visit may hold more than one record: links that extend faults add theirs on the way back.
-/

namespace Assay.Visit

variable {V : Type}

/-! ## 1. The invariant -/

/-- The records made since `s` on the way to `t` and, ahead of it, to `u`. -/
def Thins (s t u : State) : Prop :=
  ∃ more fewer, t.records = s.records ++ more ∧ u.records = s.records ++ fewer ∧
    fewer.Sublist more ∧ fewer.head? = more.head?

/-- **A full and a hurried end that began in the same state.** -/
inductive Hurries (s : State) (full hurried : Outcome) : Prop where
  /-- Nothing has stopped them, and they are in the same place. -/
  | together (same : hurried = full) (running : full.error = none → full.state.stopped = false)
  /-- The hurried one has made a record and stopped. -/
  | ahead (unhidden : s.replacing = 0) (fine : hurried.error = none)
      (stopped : hurried.state.stopped = true) (counted : s.discovered < hurried.state.discovered)
      (recorded : s.records.length < hurried.state.records.length)
      (thins : full.error = none →
        s.discovered < full.state.discovered ∧ Thins s full.state hurried.state)

theorem Thins.after {s s' t u : State} (h : Thins s' t u) (hr : s.records <+: s'.records) :
    Thins s t u := by
  obtain ⟨more, fewer, ht, hu, hsub, hhead⟩ := h
  obtain ⟨made, hm⟩ := hr
  refine ⟨made ++ more, made ++ fewer, ?_, ?_, (List.Sublist.refl made).append hsub, ?_⟩
  · rw [ht, ← hm, List.append_assoc]
  · rw [hu, ← hm, List.append_assoc]
  · cases made with
    | nil => exact hhead
    | cons r rs => rfl

/-- The full visit may record more. -/
theorem Thins.grow {s t t' u : State} (h : Thins s t u) (hr : t.records <+: t'.records)
    (hu : s.records.length < u.records.length) : Thins s t' u := by
  obtain ⟨more, fewer, ht, hu', hsub, hhead⟩ := h
  obtain ⟨made, hm⟩ := hr
  refine ⟨more ++ made, fewer, ?_, hu', hsub.trans (List.sublist_append_left _ _), ?_⟩
  · rw [← hm, ht, List.append_assoc]
  · cases fewer with
    | nil => simp [hu'] at hu
    | cons r rs =>
      rw [hhead, List.head?_append]
      rw [List.head?_cons] at hhead
      rw [← hhead]
      rfl

/-- Both visits may record the same. -/
theorem Thins.snoc {s t u t' u' : State} {r : Record} (h : Thins s t u)
    (hu : s.records.length < u.records.length) (ht' : t'.records = t.records ++ [r])
    (hu' : u'.records = u.records ++ [r]) : Thins s t' u' := by
  obtain ⟨more, fewer, ht, hu₁, hsub, hhead⟩ := h
  refine ⟨more ++ [r], fewer ++ [r], by rw [ht', ht, List.append_assoc],
    by rw [hu', hu₁, List.append_assoc], hsub.append (List.Sublist.refl _), ?_⟩
  cases fewer with
  | nil => simp [hu₁] at hu
  | cons r rs =>
    rw [List.head?_append, List.head?_append, hhead]

/-! ## 2. Ends and what follows them -/

/-- An end does not depend on a common way to where the two began. -/
theorem Hurries.after {s s' : State} {full hurried : Outcome} (h : Hurries s' full hurried)
    (hr : s.records <+: s'.records) (hd : s.discovered ≤ s'.discovered)
    (hp : s'.replacing = s.replacing) : Hurries s full hurried := by
  cases h with
  | together same running => exact .together same running
  | ahead unhidden fine stopped counted recorded thins =>
    refine .ahead (hp ▸ unhidden) fine stopped (Nat.lt_of_le_of_lt hd counted)
      (Nat.lt_of_le_of_lt hr.length_le recorded) fun he => ?_
    obtain ⟨hc, ht⟩ := thins he
    exact ⟨Nat.lt_of_le_of_lt hd hc, ht.after hr⟩

/-- An end does not depend on where the two began. -/
theorem Hurries.moved {s s' : State} {full hurried : Outcome} (h : Hurries s' full hurried)
    (ha : Alike s s') : Hurries s full hurried :=
  h.after (ha.records ▸ List.prefix_refl _) (Nat.le_of_eq ha.discovered.symm) ha.replacing

/-- An end does not depend on a move back. -/
theorem Hurries.map {s : State} {full hurried : Outcome} (h : Hurries s full hurried)
    {f : State → State} (hf : ∀ t, Alike t (f t)) :
    Hurries s (full.map f) (hurried.map f) := by
  cases h with
  | together same running =>
    subst same
    exact .together rfl fun he => (hf _).stopped.trans (running he)
  | ahead unhidden fine stopped counted recorded thins =>
    refine .ahead unhidden fine ((hf _).stopped.trans stopped)
      (by rw [Outcome.map_state, (hf _).discovered]; exact counted)
      (by rw [Outcome.map_state, (hf _).records]; exact recorded) fun he => ?_
    obtain ⟨hc, more, fewer, ht, hu, hsub⟩ := thins he
    refine ⟨?_, more, fewer, (hf _).records.trans ht, (hf _).records.trans hu, hsub⟩
    rw [Outcome.map_state, (hf _).discovered]
    exact hc

/-- **What follows an end.** Where both visits are still together, what follows must be so related;
    a visit that has stopped does nothing, while the full one goes on. -/
theorem Hurries.next {s : State} {full hurried : Outcome} (h : Hurries s full hurried)
    (hk : Keeps s full.state) {f g : State → Outcome} (hf : ∀ t, Keeps t (f t).state)
    (hg : ∀ t, t.stopped = true → g t = .ok t)
    (hfg : ∀ t, t.stopped = false → Hurries t (f t) (g t)) :
    Hurries s (full.next f) (hurried.next g) := by
  cases h with
  | together same running =>
    subst same
    cases he : hurried.error with
    | some e =>
      rw [Outcome.next_of_some he, Outcome.next_of_some he]
      exact .together rfl fun hn => running hn
    | none =>
      rw [Outcome.next_of_none he, Outcome.next_of_none he]
      exact (hfg _ (running he)).after hk.records hk.discovered hk.replacing
  | ahead unhidden fine stopped counted recorded thins =>
    rw [Outcome.next_of_none fine, hg _ stopped]
    refine .ahead unhidden rfl stopped counted recorded fun he => ?_
    cases hfe : full.error with
    | some e =>
      rw [Outcome.next_of_some hfe, hfe] at he
      cases he
    | none =>
      obtain ⟨hc, ht⟩ := thins hfe
      rw [Outcome.next_of_none hfe]
      have hkf := hf full.state
      exact ⟨Nat.lt_of_lt_of_le hc hkf.discovered, ht.grow hkf.records recorded⟩

/-! ## 3. The parts of a visit -/

theorem halted_of_stopped {s : State} (h : s.stopped = true) : s.halted = true := by
  simp [State.halted, h]

/-- **A failure is where the two part**: the full visit goes on, the hurried one stops. -/
theorem hurries_fail {s : State} (hs : s.stopped = false) (fault : Option FaultId)
    (relative : Option String) :
    Hurries s (.ok (s.fail false fault relative)) (.ok (s.fail true fault relative)) := by
  by_cases hr : s.replacing = 0
  · cases fault with
    | none =>
      rw [fail_none hr, fail_none hr]
      exact .together rfl fun _ => hs
    | some id =>
      rw [fail_some hr, fail_some hr]
      refine .ahead hr rfl (by simp) (Nat.lt_succ_self _) (by simp) fun _ => ?_
      exact ⟨Nat.lt_succ_self _, [_], [_], rfl, rfl, List.Sublist.refl _, rfl⟩
  · rw [fail_replacing hr, fail_replacing hr]
    exact .together rfl fun _ => hs

/-- Visits that are still together may part at the failure of the link that they come out of. -/
theorem hurries_showing {s : State} {o : Outcome} (hk : Keeps s o.state)
    (running : o.error = none → o.state.stopped = false) (c : State → Prop) [DecidablePred c]
    (fault : Option FaultId) :
    Hurries s (o.next fun t => .ok (if c t then t.fail false fault none else t))
      (o.next fun t => .ok (if c t then t.fail true fault none else t)) := by
  cases hn : o.error with
  | some e =>
    rw [Outcome.next_of_some hn, Outcome.next_of_some hn]
    exact .together rfl running
  | none =>
    rw [Outcome.next_of_none hn, Outcome.next_of_none hn]
    split
    · exact (hurries_fail (running hn) fault none).after hk.records hk.discovered hk.replacing
    · exact .together rfl fun _ => running hn

/-- Two ways into the scopes, a full and a hurried one. -/
def Enter.Hurrying (full hurried : Enter V) : Prop :=
  ∀ id value s, s.stopped = false → Hurries s (full id value s) (hurried id value s)

section Parts

variable {guarded : Bool} {full hurried : Enter V} (hf : full.Keeping) (hh : hurried.Keeping)
  (he : full.Hurrying hurried)
include hf hh he

omit hf hh in
theorem hurries_reached (target : ScopeId) (place : Place) (depth : Nat) (segment : Segment)
    (value : Option (V × Locus)) {s : State} (hs : s.stopped = false) :
    Hurries s (reached full target place depth segment value s)
      (reached hurried target place depth segment value s) := by
  have hm := alike_enterSegment s segment
  exact ((he target _ _ (hm.stopped.trans hs)).moved hm).map (alike_leaveSegment · segment)

omit hh in
theorem hurries_reachedAll (target : ScopeId) (place : Place) (depth : Nat)
    (values : List (Segment × Option (V × Locus))) {s : State} (hs : s.stopped = false) :
    Hurries s (reachedAll full target place depth values s)
      (reachedAll hurried target place depth values s) := by
  induction values generalizing s with
  | nil => exact .together rfl fun _ => hs
  | cons first rest ih =>
    refine (hurries_reached he target place depth first.1 first.2 hs).next
      (keeps_reached hf _ _ _ _ _ _) (fun t => ?_) (fun t ht => ?_) fun t ht => ?_
    · split
      · exact Keeps.refl t
      · exact keeps_reachedAll hf _ _ _ _ t
    · simp only [halted_of_stopped ht, if_true]
    · split
      · exact .together rfl fun _ => ht
      · exact ih ht

omit hf hh he in
/-- Behind a replacing link nothing is recorded, so the two are together there. An extending link
    that was hurried through is left with its own fault. -/
theorem hurries_shown (showing : Showing) {f h : State → Outcome} (hf : ∀ s, Keeps s (f s).state)
    (hh : ∀ s, Keeps s (h s).state) (hfh : ∀ s, s.stopped = false → Hurries s (f s) (h s))
    {s : State} (hs : s.stopped = false) :
    Hurries s (shown ⟨false, guarded⟩ showing f s) (shown ⟨true, guarded⟩ showing h s) := by
  cases showing with
  | nested => exact hfh s hs
  | replaced fault =>
    have inner := hfh s.hide hs
    cases inner with
    | ahead unhidden => exact absurd unhidden (Nat.succ_ne_zero _)
    | together same running =>
      simp only [shown, same]
      exact hurries_showing (o := (f s.hide).map (·.unhide s.hit)) (hf s.hide).unhide running
        (fun _ => (f s.hide).state.hit = true) fault
  | extended fault =>
    simp only [shown]
    have inner := hfh s hs
    have hkf := hf s
    have hkh := hh s
    cases inner with
    | together same running =>
      rw [same]
      exact hurries_showing hkf running (s.discovered < ·.discovered) (some fault)
    | ahead unhidden fine stopped counted recorded thins =>
      rw [Outcome.next_of_none fine, if_pos counted,
        fail_some (hkh.replacing.trans unhidden)]
      refine .ahead unhidden rfl (by simp) (Nat.lt_succ_of_lt counted)
        (by simpa using Nat.lt_succ_of_lt recorded) fun hn => ?_
      cases hfe : (f s).error with
      | some e =>
        rw [Outcome.next_of_some hfe, hfe] at hn
        cases hn
      | none =>
        obtain ⟨hc, ht⟩ := thins hfe
        rw [Outcome.next_of_none hfe, if_pos hc, fail_some (hkf.replacing.trans unhidden)]
        -- both are back at the levels of `s`, so the link's own record is the same for both
        have here : (f s).state.levels = (h s).state.levels := hkf.levels.trans hkh.levels.symm
        refine ⟨Nat.lt_succ_of_lt hc, ht.snoc recorded rfl ?_⟩
        simp only [State.concrete, State.path, State.indexes, here, Outcome.ok_state]

theorem hurries_link (v : V) (place : Place) (step : LinkStep V) {s : State}
    (hs : s.stopped = false) :
    Hurries s (link ⟨false, guarded⟩ full v place step s)
      (link ⟨true, guarded⟩ hurried v place step s) := by
  have hm := alike_enterPath s step.path
  exact ((hurries_shown step.showing (fun t => keeps_reachedAll hf _ _ _ _ t)
    (fun t => keeps_reachedAll hh _ _ _ _ t) (fun t ht => hurries_reachedAll hf he _ _ _ _ ht)
    (hm.stopped.trans hs)).moved hm).map (alike_leavePath · step.path)

theorem hurries_steps (v : V) (place : Place) (list : List (Step V)) {s : State}
    (hs : s.stopped = false) :
    Hurries s (steps ⟨false, guarded⟩ full v place list s)
      (steps ⟨true, guarded⟩ hurried v place list s) := by
  induction list generalizing s with
  | nil => exact .together rfl fun _ => hs
  | cons step rest ih =>
    have goes (t : State) : Keeps t (steps ⟨false, guarded⟩ full v place rest t).state :=
      keeps_steps hf v place rest t
    have stops (t : State) (ht : t.stopped = true) :
        steps ⟨true, guarded⟩ hurried v place rest t = .ok t :=
      steps_halted (halted_of_stopped ht) rest
    unfold steps
    split
    · exact .together rfl fun _ => hs
    · cases step with
      | guard holds =>
        dsimp only
        split
        · exact ih hs
        · exact .together rfl fun _ => hs
      | rule rule =>
        dsimp only
        split
        · exact (hurries_fail hs rule.fault rule.path).next (keeps_fail _ _ _ _) goes stops
            fun _ => ih
        · exact ih hs
      | link l =>
        dsimp only
        split
        · exact (hurries_link hf hh he v place l hs).next (keeps_link hf _ _ _ _) goes stops
            fun _ => ih
        · exact ih hs

theorem hurries_inside (id : ScopeId) (sc : Scope V) (v : V) (place : Place) {s : State}
    (hs : s.stopped = false) :
    Hurries s (inside ⟨false, guarded⟩ full id sc v place s)
      (inside ⟨true, guarded⟩ hurried id sc v place s) := by
  simp only [inside]
  cases if guarded && sc.type.sized then s.find? id place else none with
  | some first => exact .together rfl fun _ => hs
  | none =>
    exact ((hurries_steps hf hh he v place sc.steps (s := s.push id place) hs).moved
      (alike_push s id place)).map alike_pop

theorem hurries_body (id : ScopeId) (sc : Scope V) (value : Option (V × Place)) {s : State}
    (hs : s.stopped = false) :
    Hurries s (body ⟨false, guarded⟩ full id sc value s)
      (body ⟨true, guarded⟩ hurried id sc value s) := by
  unfold body
  cases value.filter fun found => !sc.treatsAsNull found.1 with
  | none =>
    cases sc.presence <;> dsimp only
    · exact hurries_fail hs _ none
    · exact .together rfl fun _ => hs
    · exact .together rfl fun _ => hs
  | some found =>
    cases sc.presence <;> dsimp only
    · exact hurries_inside hf hh he id sc _ _ hs
    · exact hurries_inside hf hh he id sc _ _ hs
    · exact hurries_fail hs _ none

end Parts

/-! ## 4. Visits -/

theorem hurries_scope (guarded : Bool) (scheme : Scheme V) (depth : Nat) :
    (scope ⟨false, guarded⟩ scheme depth).Hurrying (scope ⟨true, guarded⟩ scheme depth) := by
  induction depth with
  | zero => exact fun _ _ s hs => .together rfl fun _ => hs
  | succ depth ih =>
    intro id value s hs
    unfold scope
    split
    · exact .together rfl fun _ => hs
    · exact hurries_body (keeps_scope _ scheme depth) (keeps_scope _ scheme depth) ih id _ value hs

/-- Two ends that began before anything was recorded give the same verdict. -/
theorem Hurries.results {full hurried : Outcome} (h : Hurries .start full hurried) :
    (∀ all, full.result = .ok all → ∃ few, hurried.result = .ok few ∧
      (few = [] ↔ all = []) ∧ few.head? = all.head? ∧ few.Sublist all) ∧
    (∀ e, hurried.result = .error e → full.result = .error e) ∧
    (∀ e, full.result = .error e →
      hurried.result = .error e ∨ ∃ few, hurried.result = .ok few ∧ few ≠ []) := by
  cases h with
  | together same running =>
    subst same
    exact ⟨fun all h => ⟨all, h, Iff.rfl, rfl, List.Sublist.refl _⟩, fun _ h => h,
      fun _ h => .inl h⟩
  | ahead unhidden fine stopped counted recorded thins =>
    have hne : hurried.state.records ≠ [] := List.ne_nil_of_length_pos recorded
    have hok : hurried.result = .ok hurried.state.records :=
      Outcome.result_eq_ok_iff.mpr ⟨fine, rfl⟩
    refine ⟨fun all h => ?_, fun e h => ?_, fun e h => .inr ⟨_, hok, hne⟩⟩
    · obtain ⟨he, rfl⟩ := Outcome.result_eq_ok_iff.mp h
      obtain ⟨-, more, fewer, ht, hu, hsub, hhead⟩ := thins he
      have hall : full.state.records = more := ht
      have hsome : hurried.state.records = fewer := hu
      refine ⟨_, hok, ⟨fun e => absurd e hne, fun e => ?_⟩, ?_, ?_⟩
      · rw [hall] at e
        rw [hsome]
        exact List.sublist_nil.mp (e ▸ hsub)
      · rw [hall, hsome]
        exact hhead
      · rw [hall, hsome]
        exact hsub
    · rw [hok] at h
      cases h

/-! ## 5. Fewer records, the same verdict -/

/-- **A hurried visit agrees with the full one.** Where the full visit ends with records, the hurried
    one ends with some of them in their order, the first among them, and with none only if there are
    none; so its verdict is that of the full visit. An error that ends the hurried visit ends the full
    one, and an error that ends the full one ends the hurried one unless it has found a record
    before. All this holds for every bound on the depth. -/
theorem hurried_visit_agrees (guarded : Bool) (scheme : Scheme V) (depth : Nat) (v : V)
    (place : Place) :
    (∀ all, records ⟨false, guarded⟩ scheme depth v place = .ok all →
      ∃ few, records ⟨true, guarded⟩ scheme depth v place = .ok few ∧
        (few = [] ↔ all = []) ∧ few.head? = all.head? ∧ few.Sublist all) ∧
    (∀ faults, run ⟨false, guarded⟩ scheme depth v place = .ok faults →
      (run ⟨true, guarded⟩ scheme depth v place).map (·.isEmpty) = .ok faults.isEmpty) ∧
    (∀ e, records ⟨true, guarded⟩ scheme depth v place = .error e →
      records ⟨false, guarded⟩ scheme depth v place = .error e) ∧
    (∀ e, records ⟨false, guarded⟩ scheme depth v place = .error e →
      records ⟨true, guarded⟩ scheme depth v place = .error e ∨
        ∃ few, records ⟨true, guarded⟩ scheme depth v place = .ok few ∧ few ≠ []) := by
  obtain ⟨hok, herror, hlost⟩ := (hurries_scope guarded scheme depth scheme.root
    (some (v, place)) .start rfl).results
  refine ⟨hok, fun faults h => ?_, herror, hlost⟩
  cases hfull : records ⟨false, guarded⟩ scheme depth v place with
  | error e =>
    rw [run, hfull] at h
    cases h
  | ok all =>
    obtain ⟨found, hfound, hnil, -, -⟩ := hok all hfull
    have hrun : records ⟨true, guarded⟩ scheme depth v place = .ok found := hfound
    rw [run, hfull] at h
    cases h
    rw [run, hrun]
    have same : found.isEmpty = all.isEmpty := by
      rw [Bool.eq_iff_iff, List.isEmpty_iff, List.isEmpty_iff, hnil]
    show Except.ok (FaultMap.ofRecords found).isEmpty = Except.ok (FaultMap.ofRecords all).isEmpty
    rw [FaultMap.isEmpty_ofRecords, FaultMap.isEmpty_ofRecords, same]

/-- A value without a size that fails, and leads to itself behind a link that replaces faults. -/
def token : Scheme Unit where
  rootType := "token"
  scopes := [
    ⟨⟨"token", false⟩, .optional, none, [
      .rule ⟨none, fun _ => false, some 0, none⟩,
      .link ⟨none, .model, 0, none, .replaced (some 1)⟩]⟩]
  registry := ⟨[Fault.error, Fault.ofMessage "worse" []]⟩
  template := FaultMap.empty
  resolved := []
  loopPossible := true

/-- Nothing tells that the value is met again, and the visits end with the first failure behind the
    link. -/
example : run ⟨false, true⟩ token 2 () .model = .ok ⟨[("", [0, 1])]⟩ ∧
    run ⟨true, true⟩ token 2 () .model = .ok ⟨[("", [0])]⟩ := by decide

/-- Lists of numbers that must be zero, with a fault for the whole list behind theirs. A list of more
    than three is visited again, as itself. -/
def zeros : Scheme (List Nat) where
  rootType := "zeros"
  scopes := [
    ⟨"zeros", .optional, none, [
      .link ⟨none, .collection fun l => l.map fun n => ([n], .made), 1, some "Items", .extended 1⟩,
      .link ⟨some fun l => 3 < l.length, .model, 0, none, .nested⟩]⟩,
    ⟨"zero", .optional, none, [.rule ⟨none, fun l => l == [0], some 0, none⟩]⟩]
  registry := ⟨[Fault.error, Fault.ofMessage "not all zero" []]⟩
  template := FaultMap.empty
  resolved := []
  loopPossible := true

/-- Three records of which the hurried visit makes two; a loop that ends both visits; and a loop that
    ends the full visit alone. -/
theorem hurried_visit_agrees_zeros :
    (records ⟨false, true⟩ zeros 3 [0, 1, 2] .model =
        .ok [⟨"Items.#1", 0⟩, ⟨"Items.#2", 0⟩, ⟨"Items", 1⟩] ∧
      ∃ few, records ⟨true, true⟩ zeros 3 [0, 1, 2] .model = .ok few ∧
        (few = [] ↔ [⟨"Items.#1", 0⟩, ⟨"Items.#2", 0⟩, ⟨"Items", 1⟩] = ([] : List Record)) ∧
        few.head? = some ⟨"Items.#1", 0⟩ ∧
        few.Sublist [⟨"Items.#1", 0⟩, ⟨"Items.#2", 0⟩, ⟨"Items", 1⟩]) ∧
    (run ⟨false, true⟩ zeros 3 [0, 1, 2] .model =
        .ok ⟨[("Items.#1", [0]), ("Items.#2", [0]), ("Items", [1])]⟩ ∧
      (run ⟨true, true⟩ zeros 3 [0, 1, 2] .model).map (·.isEmpty) = .ok false) ∧
    (records ⟨true, true⟩ zeros 3 [0, 0, 0, 0] .model = .error (.referenceLoop "zeros" "" "") ∧
      records ⟨false, true⟩ zeros 3 [0, 0, 0, 0] .model = .error (.referenceLoop "zeros" "" "")) ∧
    (records ⟨false, true⟩ zeros 3 [1, 0, 0, 0] .model = .error (.referenceLoop "zeros" "" "") ∧
      (records ⟨true, true⟩ zeros 3 [1, 0, 0, 0] .model = .error (.referenceLoop "zeros" "" "") ∨
        ∃ few, records ⟨true, true⟩ zeros 3 [1, 0, 0, 0] .model = .ok few ∧ few ≠ [])) :=
  ⟨⟨rfl, (hurried_visit_agrees true zeros 3 [0, 1, 2] .model).1 _ rfl⟩,
    ⟨rfl, (hurried_visit_agrees true zeros 3 [0, 1, 2] .model).2.1 _ rfl⟩,
    ⟨rfl, (hurried_visit_agrees true zeros 3 [0, 0, 0, 0] .model).2.2.1 _ rfl⟩,
    ⟨rfl, (hurried_visit_agrees true zeros 3 [1, 0, 0, 0] .model).2.2.2 _ rfl⟩⟩

end Assay.Visit
