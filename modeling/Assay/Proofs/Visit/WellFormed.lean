import Assay.Proofs.Scheme.Template
import Assay.Proofs.Specification.Authored
import Assay.Proofs.Visit.Guard

/-!
# Everything that is shown has a well-formed path

A path grows on the way in by what was authored, by markers and by normalized keys, and shrinks where
something authored climbs. Each of these is a valid relative path, so no way leads to a path with an
empty segment or one that climbs, whatever the keys of a dictionary look like and however far above the
model a way would go.

* `Survey.Tidy s` -- the paths of the template so far are well-formed;
* `State.Tidy s` -- so is where a visit stands, where the values were entered that it is inside of, and
  what it has recorded; `Outcome.Tidy o` says it of an end, and of the two paths of a loop;
* `tidy_fail`, `tidy_reached`, …, `tidy_body` -- each function of a visit keeps it, where the steps of
  the scopes have valid paths;
* **`paths_wellFormed`** -- so all paths that a scheme or a visit of it shows are well-formed.
-/

namespace Assay

open Assay.Path

variable {V : Type}

/-! ## 1. Surveys -/

/-- The paths of the template are well-formed. -/
def Survey.Tidy (s : Survey) : Prop := ∀ path ∈ s.template.paths, WellFormed path

theorem Scope.Placed.along {sc : Scope V} (h : sc.Placed) {st : Step V} (mem : st ∈ sc.steps)
    {path : String} (hp : WellFormed path) : WellFormed (Path.along path st.path) :=
  wellFormed_along hp (h st mem)

namespace Survey

theorem tidy_note {s : Survey} (h : s.Tidy) {path : String} (hp : WellFormed path)
    (fault : Option FaultId) (hidden : Bool) : (s.note path fault hidden).Tidy := by
  unfold note
  split
  · intro p mem
    rcases FaultMap.mem_paths_pushUnique mem with mem | rfl
    · exact h p mem
    · exact hp
  · exact h

/-- **Surveys of scopes with valid paths stay tidy.** -/
theorem tidy_invariant {scopes : List (Scope V)} (placed : ∀ sc ∈ scopes, sc.Placed) :
    Invariant scopes WellFormed Tidy where
  along sc there _ mem _ hp := (placed sc there).along mem hp
  item kind path hp := by
    cases kind with
    | collection => exact wellFormed_resolve hp valid_marker
    | dictionary => exact wellFormed_resolve hp valid_marker
    | _ => exact hp
  note _ _ _ _ _ _ _ hidden hp h := tidy_note h hp _ hidden
  resolve s base relative h := by cases relative <;> exact h
  noteLoop s _ hidden hp h :=
    tidy_note (s := { s with registry := _, loopPossible := true }) h hp _ hidden

end Survey

namespace Visit

/-! ## 2. States -/

/-- Where the visit stands, where it has entered the values it is inside of, and where it has recorded
    faults, the paths are well-formed. -/
structure State.Tidy (s : State) : Prop where
  path : WellFormed s.path
  active : ∀ a ∈ s.active, WellFormed a.path
  records : ∀ r ∈ s.records, WellFormed r.path

/-- The paths of records and of a loop are well-formed. -/
structure Outcome.Tidy (o : Outcome) : Prop where
  records : ∀ r ∈ o.state.records, WellFormed r.path
  loop : ∀ name first second, o.error = some (.referenceLoop name first second) →
    WellFormed first ∧ WellFormed second

theorem State.Tidy.concrete {path : String} (hp : WellFormed path) (s : State) :
    WellFormed (s.concrete path) := by
  rw [State.concrete, indexes_eq]
  exact wellFormed_fill hp s.spot.indexes

/-- Back where it was, a visit is tidy if its records are. -/
theorem State.Tidy.back {s t : State} (h : s.Tidy) (kept : Keeps s t)
    (records : ∀ r ∈ t.records, WellFormed r.path) : t.Tidy := by
  refine ⟨?_, fun a ha => h.active a (kept.active ▸ ha), records⟩
  rw [State.path, kept.levels]
  exact h.path

theorem State.Tidy.enter {s : State} (h : s.Tidy) {relative : String}
    (hr : valid relative = true) (index : Option Nat) : (s.enter relative index).Tidy :=
  ⟨wellFormed_resolve h.path hr, h.active, h.records⟩

theorem State.Tidy.enterPath {s : State} (h : s.Tidy) {path : Option String}
    (hp : ∀ p, path = some p → valid p = true) : (s.enterPath path).Tidy := by
  cases path with
  | none => exact h
  | some p => exact h.enter (hp p rfl) none

/-- A reached value stands at the path, at an item of it, or at a normalized key. -/
theorem State.Tidy.enterSegment {s : State} (h : s.Tidy) {t : Transition V} {v : V}
    {segment : Segment} {value : Option (V × Locus)} (reached : (segment, value) ∈ t.reach v) :
    (s.enterSegment segment).Tidy := by
  rcases reach_segment reached with ⟨rfl, -⟩ | ⟨i, rfl, -⟩ | ⟨entries, entry, -, -, rfl⟩
  · exact h
  · exact h.enter valid_marker (some i)
  · exact h.enter (valid_normalize entry.1) none

theorem Outcome.Tidy.ok {s : State} (h : s.Tidy) : (Outcome.ok s).Tidy :=
  ⟨h.records, fun _ _ _ ends => by cases ends⟩

theorem Outcome.Tidy.map {o : Outcome} (h : o.Tidy) {f : State → State}
    (same : ∀ s, (f s).records = s.records) : (o.map f).Tidy :=
  ⟨fun r mem => h.records r (same o.state ▸ mem), h.loop⟩

theorem Outcome.Tidy.next {o : Outcome} (h : o.Tidy) {f : State → Outcome}
    (hf : (f o.state).Tidy) : (o.next f).Tidy := by
  cases ends : o.error with
  | some e => rw [Outcome.next_of_some ends]; exact h
  | none => rw [Outcome.next_of_none ends]; exact hf

theorem tidy_fail {s : State} (h : s.Tidy) (hurried : Bool) (fault : Option FaultId)
    {relative : Option String} (hr : ∀ r, relative = some r → valid r = true) :
    (s.fail hurried fault relative).Tidy := by
  refine h.back (keeps_fail s hurried fault relative) fun r mem => ?_
  by_cases open_ : s.replacing = 0
  · cases fault with
    | none =>
      rw [fail_none open_] at mem
      exact h.records r mem
    | some id =>
      rw [fail_some open_] at mem
      rcases List.mem_append.mp mem with mem | mem
      · exact h.records r mem
      · rw [List.mem_singleton.mp mem]
        exact State.Tidy.concrete (wellFormed_along h.path hr) s
  · rw [fail_replacing open_] at mem
    exact h.records r mem

/-! ## 3. The parts of a visit -/

/-- A way into the scopes that keeps visits tidy. -/
def Enter.Tidying (enter : Enter V) : Prop := ∀ id value s, s.Tidy → (enter id value s).Tidy

section Parts

variable {mode : Mode} {enter : Enter V} (hk : enter.Keeping) (he : enter.Tidying)
include hk he

omit hk in
theorem tidy_reached {t : Transition V} {v : V} {segment : Segment}
    {value : Option (V × Locus)} (found : (segment, value) ∈ t.reach v) (target : ScopeId)
    (place : Place) (depth : Nat) {s : State} (h : s.Tidy) :
    (reached enter target place depth segment value s).Tidy :=
  (he target _ _ (h.enterSegment found)).map fun u => (alike_leaveSegment u segment).records

theorem tidy_reachedAll {t : Transition V} {v : V} (values : List (Segment × Option (V × Locus)))
    (sub : values ⊆ t.reach v) (target : ScopeId) (place : Place) (depth : Nat) {s : State}
    (h : s.Tidy) : (reachedAll enter target place depth values s).Tidy := by
  induction values generalizing s with
  | nil => exact .ok h
  | cons first rest ih =>
    obtain ⟨hfirst, hrest⟩ := List.cons_subset.mp sub
    have head := tidy_reached he hfirst target place depth h
    have back := h.back (keeps_reached hk target place depth first.1 first.2 s) head.records
    refine head.next ?_
    split
    · exact .ok back
    · exact ih hrest back

omit hk he in
/-- How faults show is no matter of where. -/
theorem tidy_shown {showing : Showing} {run : State → Outcome} (hrun : ∀ s, Keeps s (run s).state)
    (tidy : ∀ s : State, s.Tidy → (run s).Tidy) {s : State} (h : s.Tidy) :
    (shown mode showing run s).Tidy := by
  have failed {t : State} (back : t.Tidy) (fault : Option FaultId) :
      (t.fail mode.hurried fault none).Tidy := tidy_fail back mode.hurried fault fun _ => nofun
  cases showing with
  | nested => exact tidy s h
  | replaced fault =>
    have hid : s.hide.Tidy := ⟨h.path, h.active, h.records⟩
    have inner := tidy s.hide hid
    have back := h.back (Keeps.unhide (hrun s.hide)) inner.records
    simp only [shown]
    have out : ((run s.hide).map (·.unhide s.hit)).Tidy := inner.map fun _ => rfl
    refine out.next (.ok ?_)
    split
    · exact failed back fault
    · exact back
  | extended fault =>
    have inner := tidy s h
    have back := h.back (hrun s) inner.records
    simp only [shown]
    refine inner.next (.ok ?_)
    split
    · exact failed back (some fault)
    · exact back

theorem tidy_link {v : V} {l : LinkStep V} (hl : ∀ p, l.path = some p → valid p = true)
    (place : Place) {s : State} (h : s.Tidy) : (link mode enter v place l s).Tidy := by
  refine Outcome.Tidy.map (tidy_shown (fun t => keeps_reachedAll hk _ _ _ _ t)
    (fun t ht => ?_) (h.enterPath hl)) fun u => (alike_leavePath u l.path).records
  exact tidy_reachedAll hk he _ (List.Subset.refl _) l.target place _ ht

theorem tidy_steps {v : V} (list : List (Step V))
    (placed : ∀ st ∈ list, ∀ p, st.path = some p → valid p = true) (place : Place) {s : State}
    (h : s.Tidy) : (steps mode enter v place list s).Tidy := by
  induction list generalizing s with
  | nil => exact .ok h
  | cons step rest ih =>
    obtain ⟨hstep, hrest⟩ := List.forall_mem_cons.mp placed
    have further {t : State} (back : t.Tidy) : (steps mode enter v place rest t).Tidy :=
      ih hrest back
    unfold steps
    split
    · exact .ok h
    · cases step with
      | guard holds =>
        dsimp only
        split
        · exact further h
        · exact .ok h
      | rule rule =>
        dsimp only
        split
        · exact further (tidy_fail h mode.hurried rule.fault hstep)
        · exact further h
      | link l =>
        dsimp only
        split
        · have head : (link mode enter v place l s).Tidy := tidy_link hk he hstep place h
          exact head.next (further (h.back (keeps_link hk v place l s) head.records))
        · exact further h

theorem tidy_inside (id : ScopeId) {sc : Scope V} (placed : sc.Placed) (v : V) (place : Place)
    {s : State} (h : s.Tidy) : (inside mode enter id sc v place s).Tidy := by
  have here : WellFormed (s.concrete s.path) := State.Tidy.concrete h.path s
  unfold inside
  split
  · -- the value was entered where it is active, and is met again where the visit stands
    rename_i first met
    refine ⟨h.records, fun name a b ends => ?_⟩
    cases ends
    split at met
    · exact ⟨h.active first (List.mem_of_find?_eq_some met), here⟩
    · cases met
  · have pushed : (s.push id place).Tidy :=
      ⟨h.path, List.forall_mem_cons.mpr ⟨here, h.active⟩, h.records⟩
    exact (tidy_steps hk he sc.steps placed place pushed).map fun _ => rfl

theorem tidy_body (id : ScopeId) {sc : Scope V} (placed : sc.Placed)
    (value : Option (V × Place)) {s : State} (h : s.Tidy) :
    (body mode enter id sc value s).Tidy := by
  have failed (fault : Option FaultId) : (Outcome.ok (s.fail mode.hurried fault none)).Tidy :=
    .ok (tidy_fail h mode.hurried fault fun _ => nofun)
  unfold body
  cases value.filter fun found => !sc.treatsAsNull found.1 with
  | none =>
    cases sc.presence with
    | required fault => exact failed fault
    | «optional» => exact .ok h
    | forbidden fault => exact .ok h
  | some found =>
    cases sc.presence with
    | required fault => exact tidy_inside hk he id placed _ _ h
    | «optional» => exact tidy_inside hk he id placed _ _ h
    | forbidden fault => exact failed fault

end Parts

/-- **A visit stays tidy**, if the steps of all scopes have valid paths. -/
theorem tidying_scope (mode : Mode) {scheme : Scheme V} (placed : ∀ sc ∈ scheme.scopes, sc.Placed)
    (depth : Nat) : Enter.Tidying (scope mode scheme depth) := by
  induction depth with
  | zero => exact fun _ _ s h => ⟨h.records, fun _ _ _ ends => by cases ends⟩
  | succ depth ih =>
    intro id value s h
    unfold scope
    cases here : scheme.scopes[id]? with
    | none => exact ⟨h.records, fun _ _ _ ends => by cases ends⟩
    | some sc =>
      exact tidy_body (keeps_scope mode scheme depth) ih id
        (placed sc (List.mem_of_getElem? here)) value h

end Visit

/-! ## 4. Schemes that were built -/

/-- **All paths that are shown are well-formed**: those of the template, those that any visit of any
    model records, and both paths of a loop. They are empty, or valid and without `<`. -/
theorem paths_wellFormed {catalogue : Catalogue V} (written : catalogue.Written) {root : SpecId}
    {scheme : Scheme V} (built : Scheme.build? catalogue root = .ok scheme) :
    (∀ path ∈ scheme.template.paths, WellFormed path) ∧
      ∀ mode depth model place,
        (∀ faults, Visit.run mode scheme depth model place = .ok faults →
          ∀ path ∈ faults.paths, WellFormed path) ∧
        ∀ name first second,
          Visit.run mode scheme depth model place = .error (.referenceLoop name first second) →
          WellFormed first ∧ WellFormed second := by
  have placed := placed_of_build written built
  refine ⟨?_, fun mode depth model place => ?_⟩
  · obtain ⟨registry, template⟩ := template_of_build built
    rw [template]
    exact Survey.invariant_scope (Survey.tidy_invariant placed) _ 0 "" [0] false _
      wellFormed_empty fun path mem => absurd mem List.not_mem_nil
  · have start : Visit.State.Tidy .start := ⟨wellFormed_empty,
      fun a ha => absurd ha List.not_mem_nil, fun r hr => absurd hr List.not_mem_nil⟩
    have tidy := Visit.tidying_scope mode placed depth scheme.root (some (model, place)) .start start
    refine ⟨fun faults ends path mem => ?_, fun name first second ends => ?_⟩
    · obtain ⟨list, made, rfl⟩ := Visit.run_eq_ok_iff.mp ends
      obtain ⟨-, rfl⟩ := Visit.Outcome.result_eq_ok_iff.mp made
      obtain ⟨r, hr, rfl⟩ := FaultMap.mem_paths_ofRecords mem
      exact tidy.records r hr
    · have error := Visit.run_eq_error_iff.mp ends
      exact tidy.loop name first second (Visit.Outcome.result_eq_error_iff.mp error)

/-- A chest whose drawers are put at the top, from above the model; one of its keys is not a path. -/
def chestCalls : List (Call (List Nat)) := [
  .act .optional,
  .act (.link (.dictionary fun l => l.map fun n =>
    (if n = 0 then ".<a..b." else "", [n], .part "drawer")) 1),
  .set (.path "<<<Top")]

/-- A drawer names itself beside itself, and the drawer of seven leads back to itself. -/
def drawerCalls : List (Call (List Nat)) := [
  .act .optional,
  .act (.rule (· != [0]) (Fault.ofMessage "empty" [])),
  .set (.name "Id"),
  .act (.link (.member "Back" fun l => if l = [7] then some (l, .same) else none) 1)]

def chest : Catalogue (List Nat) := ⟨[
  ⟨"chest", (Draft.write? "chest" chestCalls).toOption⟩,
  ⟨"drawer", (Draft.write? "drawer" drawerCalls).toOption⟩]⟩

theorem written_chest : chest.Written := by
  intro id d defined
  rcases id with _ | _ | id
  · exact @Draft.written_of_toOption _ "chest" chestCalls d defined
  · exact @Draft.written_of_toOption _ "drawer" drawerCalls d defined
  · cases defined

/-- The path of a record and the two of a loop, from a key that had to be normalized. -/
theorem paths_wellFormed_chest :
    ∃ scheme, chest.Written ∧ Scheme.build? chest 0 = .ok scheme ∧
      Visit.run ⟨false, true⟩ scheme 9 [0, 3] .model = .ok ⟨[("Top.a.Id", [0])]⟩ ∧
      Visit.run ⟨false, true⟩ scheme 9 [0, 7] .model =
        .error (.referenceLoop "drawer" "Top._" "Top._.Back") ∧
      WellFormed "Top.a.Id" ∧ WellFormed "Top._" ∧ WellFormed "Top._.Back" := by
  obtain ⟨scheme, built⟩ : ∃ scheme, Scheme.build? chest 0 = .ok scheme := ⟨_, rfl⟩
  have recorded : Visit.run ⟨false, true⟩ scheme 9 [0, 3] .model = .ok ⟨[("Top.a.Id", [0])]⟩ := by
    cases built
    rfl
  have looped : Visit.run ⟨false, true⟩ scheme 9 [0, 7] .model =
      .error (.referenceLoop "drawer" "Top._" "Top._.Back") := by
    cases built
    rfl
  obtain ⟨-, shown⟩ := paths_wellFormed written_chest built
  obtain ⟨first, second⟩ := (shown ⟨false, true⟩ 9 [0, 7] .model).2 _ _ _ looped
  exact ⟨scheme, written_chest, built, recorded, looped,
    (shown ⟨false, true⟩ 9 [0, 3] .model).1 _ recorded "Top.a.Id" List.mem_cons_self, first, second⟩

end Assay
