import Assay.Proofs.Visit.Spot

/-!
# Where records come from

A visit arrives at the values that links lead to, and what it records it records where it has arrived.
This file says which arrivals there are and which failures a scope can have, and then that every
record is a failure at an arrival, in every mode and however deep the visit may go.

* `Arrives scheme model way id value hidden` -- the way of links leads from the model to a value in a
  scope; `hidden` tells whether one of the links replaces faults;
* `Fails sc value own id` -- a scope with a value can fail with a fault, at a path of its own;
* `sourced_fail`, `sourced_reached`, …, `sourced_body` -- each function of a visit records only such
  failures, given that the way into the scopes behind it does;
* **`records_sourced`** -- so every record is a failure at an arrival that is not hidden.
-/

namespace Assay.Visit

variable {V : Type}

/-! ## 1. Arrivals -/

/-- One stretch of a way: the path of a link, and the segment of the value it leads to. -/
structure Stretch where
  path : Option String
  segment : Segment
  deriving DecidableEq, Repr

/-- Where a way leads, the last stretch first. -/
def spotOf : List Stretch → Spot
  | [] => .root
  | stretch :: way => ((spotOf way).along stretch.path).into stretch.segment

/-- The steps that are taken for a value: those up to the first guard that it does not pass. -/
def taken (v : V) (steps : List (Step V)) : List (Step V) :=
  steps.takeWhile fun
    | .guard holds => holds v
    | .rule _ | .link _ => true

theorem mem_of_taken {v : V} {steps : List (Step V)} {step : Step V} (h : step ∈ taken v steps) :
    step ∈ steps :=
  List.takeWhile_subset _ h

/-- **The way of links leads from the model to a value in a scope.** -/
inductive Arrives (scheme : Scheme V) (model : V) :
    List Stretch → ScopeId → Option V → (hidden : Bool) → Prop where
  | root : Arrives scheme model [] scheme.root (some model) false
  | link {way : List Stretch} {id : ScopeId} {v : V} {hidden : Bool} {sc : Scope V}
      {l : LinkStep V} {segment : Segment} {value : Option (V × Locus)}
      (arrives : Arrives scheme model way id (some v) hidden)
      (here : scheme.scopes[id]? = some sc) (step : .link l ∈ taken v sc.steps)
      (runs : applies l.condition v = true) (reached : (segment, value) ∈ l.transition.reach v) :
      Arrives scheme model (⟨l.path, segment⟩ :: way) l.target (value.map Prod.fst)
        (hidden || l.showing.hides)

/-- A scope with a value, or with a null value, can fail with a fault at a path of its own. -/
inductive Fails (sc : Scope V) : Option V → Option String → FaultId → Prop where
  | presence {value : Option V} {id : FaultId} (carried : sc.presence.fault = some id) :
      Fails sc value none id
  | rule {v : V} {rule : RuleStep V} {id : FaultId} (step : .rule rule ∈ taken v sc.steps)
      (runs : applies rule.condition v = true) (fails : rule.holds v = false)
      (carried : rule.fault = some id) : Fails sc (some v) rule.path id
  | link {v : V} {l : LinkStep V} {id : FaultId} (step : .link l ∈ taken v sc.steps)
      (runs : applies l.condition v = true) (carried : l.showing.fault = some id) :
      Fails sc (some v) l.path id

/-- The record is of a failure of the scope that a way leads to, at a path of its own. The way is not
    hidden. -/
def RecordedAt (scheme : Scheme V) (model : V) (way : List Stretch) (own : Option String)
    (r : Record) : Prop :=
  ∃ id value sc, Arrives scheme model way id value false ∧ scheme.scopes[id]? = some sc ∧
    Fails sc value own r.fault ∧ r.path = ((spotOf way).along own).concrete

/-- The record is of a failure at an arrival that is not hidden. -/
def Source (scheme : Scheme V) (model : V) (r : Record) : Prop :=
  ∃ way own, RecordedAt scheme model way own r

/-- Where the values that a transition reaches stand. -/
theorem reach_segment {t : Transition V} {v : V} {segment : Segment}
    {value : Option (V × Locus)} (h : (segment, value) ∈ t.reach v) :
    (segment = .stay ∧ t.kind.itemSegment = none) ∨
      (∃ i, segment = .index i ∧ t.kind.itemSegment = some Path.marker) ∨
      ∃ entries entry, t = .dictionary entries ∧ entry ∈ entries v ∧
        segment = .key (Path.normalize entry.1) := by
  cases t with
  | member name select => exact .inl ⟨congrArg Prod.fst (List.mem_singleton.mp h), rfl⟩
  | model => exact .inl ⟨congrArg Prod.fst (List.mem_singleton.mp h), rfl⟩
  | nullable inner => exact .inl ⟨congrArg Prod.fst (List.mem_singleton.mp h), rfl⟩
  | collection items =>
    obtain ⟨i, hi, e⟩ := List.mem_mapIdx.mp h
    exact .inr (.inl ⟨i, (congrArg Prod.fst e).symm, rfl⟩)
  | dictionary entries =>
    obtain ⟨entry, hentry, e⟩ := List.mem_map.mp h
    exact .inr (.inr ⟨entries, entry, rfl, hentry, (congrArg Prod.fst e).symm⟩)
  | converted convert => exact .inl ⟨congrArg Prod.fst (List.mem_singleton.mp h), rfl⟩
  | cast narrow =>
    cases hn : narrow v with
    | none =>
      simp only [Transition.reach, hn] at h
      exact absurd h List.not_mem_nil
    | some inner =>
      simp only [Transition.reach, hn] at h
      exact .inl ⟨congrArg Prod.fst (List.mem_singleton.mp h), rfl⟩

/-! ## 2. The invariant -/

/-- What has been recorded between two states are failures at arrivals. -/
def Sourced (scheme : Scheme V) (model : V) (s t : State) : Prop :=
  ∀ r ∈ t.records, r ∈ s.records ∨ Source scheme model r

/-- The visit stands where the way leads. -/
structure Stands (scheme : Scheme V) (model : V) (way : List Stretch) (id : ScopeId)
    (value : Option V) (hidden : Bool) (s : State) : Prop where
  arrives : Arrives scheme model way id value hidden
  spot : s.spot = spotOf way
  behind : hidden = true → s.replacing ≠ 0

section Sourced

variable {scheme : Scheme V} {model : V}

theorem Sourced.refl (s : State) : Sourced scheme model s s := fun _ hr => .inl hr

theorem Sourced.trans {s t u : State} (h : Sourced scheme model s t)
    (h' : Sourced scheme model t u) : Sourced scheme model s u := fun r hr =>
  (h' r hr).elim (h r) .inr

/-- Moving does not record. -/
theorem Sourced.moved {s s' t t' : State} (h : Sourced scheme model s' t)
    (hs : s'.records = s.records) (ht : t'.records = t.records) : Sourced scheme model s t' := by
  unfold Sourced at h ⊢
  rwa [ht, ← hs]

theorem Sourced.next {s : State} {o : Outcome} {f : State → Outcome}
    (h : Sourced scheme model s o.state) (hf : Sourced scheme model o.state (f o.state).state) :
    Sourced scheme model s (o.next f).state := by
  cases he : o.error with
  | some e => rw [Outcome.next_of_some he]; exact h
  | none => rw [Outcome.next_of_none he]; exact h.trans hf

theorem Stands.keeps {way : List Stretch} {id : ScopeId} {value : Option V} {hidden : Bool}
    {s t : State} (h : Stands scheme model way id value hidden s) (hk : Keeps s t) :
    Stands scheme model way id value hidden t :=
  ⟨h.arrives, (spot_of_levels hk.levels).trans h.spot, fun e => hk.replacing ▸ h.behind e⟩

/-- Where faults are recorded, the way is not hidden. -/
theorem Stands.source {way : List Stretch} {id : ScopeId} {value : Option V} {hidden : Bool}
    {s : State} (h : Stands scheme model way id value hidden s) {sc : Scope V}
    (here : scheme.scopes[id]? = some sc) (open_ : s.replacing = 0) {own : Option String}
    {fault : FaultId} (fails : Fails sc value own fault) :
    Source scheme model ⟨(s.spot.along own).concrete, fault⟩ := by
  have shown : hidden = false := by
    cases hidden with
    | false => rfl
    | true => exact absurd open_ (h.behind rfl)
  subst shown
  exact ⟨way, own, id, value, sc, h.arrives, here, fails, by rw [h.spot]⟩

/-! ## 3. The parts of a visit -/

theorem sourced_fail {s : State} (hurried : Bool) (fault : Option FaultId)
    (relative : Option String)
    (h : ∀ id, fault = some id → s.replacing = 0 →
      Source scheme model ⟨(s.spot.along relative).concrete, id⟩) :
    Sourced scheme model s (s.fail hurried fault relative) := by
  by_cases hr : s.replacing = 0
  · cases fault with
    | none =>
      rw [fail_none hr]
      exact Sourced.refl s
    | some id =>
      rw [fail_some hr, concrete_along]
      intro r hmem
      rcases List.mem_append.mp hmem with hmem | hmem
      · exact .inl hmem
      · rw [List.mem_singleton.mp hmem]
        exact .inr (h id rfl hr)
  · rw [fail_replacing hr]
    exact Sourced.refl s

/-- A way into the scopes that records only failures at arrivals. -/
def Enter.Sourcing (scheme : Scheme V) (model : V) (enter : Enter V) : Prop :=
  ∀ way id value hidden s, Stands scheme model way id (value.map Prod.fst) hidden s →
    Sourced scheme model s (enter id value s).state

section Parts

variable {mode : Mode} {enter : Enter V} (hk : enter.Keeping)
  (he : Enter.Sourcing scheme model enter) {way : List Stretch} {id : ScopeId} {v : V}
  {hidden : Bool} {sc : Scope V} (here : scheme.scopes[id]? = some sc)
include hk he here

omit hk in
/-- The values behind a link are arrivals, a stretch further. -/
theorem sourced_reached {l : LinkStep V} {s t : State}
    (hs : Stands scheme model way id (some v) hidden s) (step : .link l ∈ taken v sc.steps)
    (runs : applies l.condition v = true) (ht : t.spot = s.spot.along l.path)
    (behind : (hidden || l.showing.hides) = true → t.replacing ≠ 0) {segment : Segment}
    {value : Option (V × Locus)} (reached : (segment, value) ∈ l.transition.reach v)
    (place : Place) (depth : Nat) :
    Sourced scheme model t (Visit.reached enter l.target place depth segment value t).state := by
  have moved := alike_enterSegment t segment
  have stands : Stands scheme model (⟨l.path, segment⟩ :: way) l.target
      ((value.map fun found => (found.1, place.reach depth found.2)).map Prod.fst)
      (hidden || l.showing.hides) (t.enterSegment segment) := by
    refine ⟨?_, ?_, fun e => moved.replacing ▸ behind e⟩
    · rw [fst_place]
      exact hs.arrives.link here step runs reached
    · rw [spot_enterSegment, ht, hs.spot]
      rfl
  have inner := he _ _ _ _ _ stands
  exact inner.moved moved.records (alike_leaveSegment _ segment).records

theorem sourced_reachedAll {l : LinkStep V} {s t : State}
    (hs : Stands scheme model way id (some v) hidden s) (step : .link l ∈ taken v sc.steps)
    (runs : applies l.condition v = true) (ht : t.spot = s.spot.along l.path)
    (behind : (hidden || l.showing.hides) = true → t.replacing ≠ 0)
    (values : List (Segment × Option (V × Locus))) (sub : values ⊆ l.transition.reach v)
    (place : Place) (depth : Nat) :
    Sourced scheme model t (reachedAll enter l.target place depth values t).state := by
  induction values generalizing t with
  | nil => exact Sourced.refl t
  | cons first rest ih =>
    obtain ⟨hfirst, hrest⟩ := List.cons_subset.mp sub
    have kept := keeps_reached hk l.target place depth first.1 first.2 t
    refine (sourced_reached he here hs step runs ht behind hfirst place depth).next ?_
    split
    · exact Sourced.refl _
    · exact ih ((spot_of_levels kept.levels).trans ht) (fun e => kept.replacing ▸ behind e) hrest

omit hk he here in
/-- A link fails where it leads. -/
theorem sourced_shown (mode : Mode) (showing : Showing) (run : State → Outcome) (s : State)
    (hrun : ∀ t, t.spot = s.spot → t.replacing = s.replacing + (if showing.hides then 1 else 0) →
      Keeps t (run t).state ∧ Sourced scheme model t (run t).state)
    (own : ∀ f, showing.fault = some f → s.replacing = 0 →
      Source scheme model ⟨s.spot.concrete, f⟩) :
    Sourced scheme model s (shown mode showing run s).state := by
  cases showing with
  | nested => exact (hrun s rfl rfl).2
  | replaced fault =>
    obtain ⟨kept, inner⟩ := hrun s.hide rfl rfl
    have back := Keeps.unhide kept
    refine Sourced.next (o := (run s.hide).map (·.unhide s.hit)) (inner.moved rfl rfl) ?_
    simp only [Outcome.ok_state, Outcome.map_state]
    split
    · refine sourced_fail mode.hurried fault none fun f hf hr => ?_
      rw [spot_of_levels back.levels]
      exact own f hf (back.replacing ▸ hr)
    · exact Sourced.refl _
  | extended fault =>
    obtain ⟨kept, inner⟩ := hrun s rfl rfl
    refine inner.next ?_
    simp only [Outcome.ok_state]
    split
    · refine sourced_fail mode.hurried (some fault) none fun f hf hr => ?_
      rw [spot_of_levels kept.levels]
      exact own f hf (kept.replacing ▸ hr)
    · exact Sourced.refl _

theorem sourced_link {l : LinkStep V} {s : State}
    (hs : Stands scheme model way id (some v) hidden s) (step : .link l ∈ taken v sc.steps)
    (runs : applies l.condition v = true) (place : Place) :
    Sourced scheme model s (link mode enter v place l s).state := by
  have moved := alike_enterPath s l.path
  have inner : Sourced scheme model (s.enterPath l.path) _ :=
    sourced_shown mode l.showing
      (fun t => reachedAll enter l.target place t.active.length (l.transition.reach v) t)
      (s.enterPath l.path)
      (fun t ht hr => by
        refine ⟨keeps_reachedAll hk _ _ _ _ t, ?_⟩
        rw [spot_enterPath] at ht
        refine sourced_reachedAll hk he here hs step runs ht (fun e => ?_) _
          (List.Subset.refl _) place _
        rw [hr, moved.replacing]
        cases hh : l.showing.hides with
        | true => exact Nat.succ_ne_zero _
        | false => exact hs.behind (by simpa [hh] using e))
      (fun f hf hr => by
        rw [spot_enterPath]
        exact hs.source here (moved.replacing ▸ hr) (.link step runs hf))
  exact inner.moved moved.records (alike_leavePath _ l.path).records

theorem sourced_steps (list : List (Step V)) (sub : taken v list ⊆ taken v sc.steps) {s : State}
    (hs : Stands scheme model way id (some v) hidden s) (place : Place) :
    Sourced scheme model s (steps mode enter v place list s).state := by
  induction list generalizing s with
  | nil => exact Sourced.refl s
  | cons step rest ih =>
    unfold steps
    split
    · exact Sourced.refl s
    · cases step with
      | guard holds =>
        dsimp only
        split
        · rename_i passes
          refine ih (fun x hx => sub ?_) hs
          simpa [taken, passes] using .inr hx
        · exact Sourced.refl s
      | rule rule =>
        dsimp only
        obtain ⟨hrule, hrest⟩ := List.cons_subset.mp (show .rule rule :: taken v rest ⊆ _ from sub)
        split
        · rename_i fails
          rw [Bool.and_eq_true, Bool.not_eq_true'] at fails
          have made : Sourced scheme model s (s.fail mode.hurried rule.fault rule.path) :=
            sourced_fail mode.hurried rule.fault rule.path fun f hf hr =>
              hs.source here hr (.rule hrule fails.1 fails.2 hf)
          exact made.trans (ih hrest (hs.keeps (keeps_fail s _ _ _)))
        · exact ih hrest hs
      | link l =>
        dsimp only
        obtain ⟨hlink, hrest⟩ := List.cons_subset.mp (show .link l :: taken v rest ⊆ _ from sub)
        split
        · rename_i runs
          exact (sourced_link hk he here hs hlink runs place).next
            (ih hrest (hs.keeps (keeps_link hk v place l s)))
        · exact ih hrest hs

theorem sourced_inside {s : State} (hs : Stands scheme model way id (some v) hidden s)
    (place : Place) : Sourced scheme model s (inside mode enter id sc v place s).state := by
  unfold inside
  split
  · exact Sourced.refl s
  · have pushed : Stands scheme model way id (some v) hidden (s.push id place) :=
      ⟨hs.arrives, hs.spot, hs.behind⟩
    exact (sourced_steps hk he here sc.steps (List.Subset.refl _) pushed place).moved rfl rfl

theorem sourced_body {value : Option (V × Place)} {s : State}
    (hs : Stands scheme model way id (value.map Prod.fst) hidden s) :
    Sourced scheme model s (body mode enter id sc value s).state := by
  have own (fault : Option FaultId) (carried : sc.presence.fault = fault) :
      Sourced scheme model s (s.fail mode.hurried fault none) :=
    sourced_fail mode.hurried fault none fun f hf hr =>
      hs.source here hr (.presence (carried.trans hf))
  unfold body
  cases hv : value.filter fun found => !sc.treatsAsNull found.1 with
  | none =>
    cases hp : sc.presence with
    | required fault => exact own fault (by rw [hp]; rfl)
    | «optional» => exact Sourced.refl s
    | forbidden fault => exact Sourced.refl s
  | some found =>
    have present : value = some found := (Option.filter_eq_some_iff.mp hv).1
    rw [present] at hs
    cases hp : sc.presence with
    | required fault => exact sourced_inside hk he here hs _
    | «optional» => exact sourced_inside hk he here hs _
    | forbidden fault => exact own fault (by rw [hp]; rfl)

end Parts

end Sourced

/-! ## 4. Visits -/

theorem sourcing_scope (mode : Mode) (scheme : Scheme V) (model : V) (depth : Nat) :
    Enter.Sourcing scheme model (scope mode scheme depth) := by
  induction depth with
  | zero => exact fun _ _ _ _ s _ => Sourced.refl s
  | succ depth ih =>
    intro way id value hidden s hs
    unfold scope
    cases here : scheme.scopes[id]? with
    | none => exact Sourced.refl s
    | some sc => exact sourced_body (keeps_scope mode scheme depth) ih here hs

/-- **Every record is a failure at an arrival that is not hidden.** -/
theorem records_sourced {mode : Mode} {scheme : Scheme V} {depth : Nat} {v : V} {place : Place}
    {list : List Record} (h : records mode scheme depth v place = .ok list) :
    ∀ r ∈ list, Source scheme v r := by
  obtain ⟨-, rfl⟩ := Outcome.result_eq_ok_iff.mp h
  intro r hr
  have start : Stands scheme v [] scheme.root (some v) false .start :=
    ⟨.root, rfl, fun e => by cases e⟩
  exact (sourcing_scope mode scheme v depth [] scheme.root (some (v, place)) false .start start r
    hr).resolve_left List.not_mem_nil

end Assay.Visit
