import Assay.Proofs.Visit.Arrival
import Assay.Proofs.Visit.Hurry
import Assay.Scheme.Compile

/-!
# What a hurried visit records

A hurried visit stops with its first record, but it does not end there. It goes back through the links
it has come along, and a link that extends faults adds its own to what it has let through, whether or
not the visit has stopped. What a hurried visit records is therefore known from the place of its first
record alone.

* `Wrapped scheme model way id value around` -- the way leads from the model to a value in a scope, no
  link of it replaces faults, and `around` is what its extending links add, the innermost first;
* `First scheme model first later` -- the first record is a failure at the end of such a way, and the
  links around it add the later ones;
* `Prompt around s o` -- the invariant: a visit that has not been stopped in `s` and ends in `o` has
  recorded nothing in between, or it has stopped with a first record and what the links behind `s`
  have added;
* `prompt_fail`, `prompt_reached`, …, `prompt_body` -- each function of a hurried visit keeps it;
* **`hurried_records_first`** -- so a hurried visit records nothing, or the first failure and one more
  fault for each extending link on the way to it.

**A hurried visit may record more than one fault**: `hurried_visit_records_two`.
-/

namespace Assay.Visit

variable {V : Type}

/-! ## 1. First records -/

/-- What a link at a spot adds to the faults that it lets through. -/
def added (showing : Showing) (spot : Spot) : List Record :=
  match showing with
  | .extended fault => [⟨spot.concrete, fault⟩]
  | .nested | .replaced _ => []

/-- **The way leads to a value in a scope, nothing hides it, and its links add these records**, the
    innermost first. -/
inductive Wrapped (scheme : Scheme V) (model : V) :
    List Stretch → ScopeId → Option V → (around : List Record) → Prop where
  | root : Wrapped scheme model [] scheme.root (some model) []
  | link {way : List Stretch} {id : ScopeId} {v : V} {around : List Record} {sc : Scope V}
      {l : LinkStep V} {segment : Segment} {value : Option (V × Locus)}
      (wrapped : Wrapped scheme model way id (some v) around)
      (here : scheme.scopes[id]? = some sc) (step : .link l ∈ taken v sc.steps)
      (runs : applies l.condition v = true) (reached : (segment, value) ∈ l.transition.reach v)
      (shows : l.showing.hides = false) :
      Wrapped scheme model (⟨l.path, segment⟩ :: way) l.target (value.map Prod.fst)
        (added l.showing ((spotOf way).along l.path) ++ around)

/-- The record is of a failure of the scope that a way leads to, at a path of its own, and the links
    of the way add the later ones. -/
def First (scheme : Scheme V) (model : V) (first : Record) (later : List Record) : Prop :=
  ∃ way id value sc own, Wrapped scheme model way id value later ∧ scheme.scopes[id]? = some sc ∧
    Fails sc value own first.fault ∧ first.path = ((spotOf way).along own).concrete

/-- Where no link extends faults, nothing is added. -/
theorem Wrapped.nothing {scheme : Scheme V} {model : V} {way : List Stretch} {id : ScopeId}
    {value : Option V} {around : List Record} (h : Wrapped scheme model way id value around)
    (plain : ∀ sc ∈ scheme.scopes, ∀ l, .link l ∈ sc.steps → ∀ f, l.showing ≠ .extended f) :
    around = [] := by
  induction h with
  | root => rfl
  | @link way id v around sc l segment value wrapped here step runs reached shows ih =>
    have apart := plain sc (List.mem_of_getElem? here) l (mem_of_taken step)
    rw [ih, List.append_nil]
    cases hl : l.showing with
    | nested => rfl
    | replaced fault => rfl
    | extended fault => exact absurd hl (apart fault)

/-! ## 2. The invariant -/

/-- **What a part of a hurried visit has recorded**, which began before the visit was stopped. -/
inductive Prompt (scheme : Scheme V) (model : V) (around : List Record) (s : State) (o : Outcome) :
    Prop where
  /-- Nothing is recorded, and the visit has not been stopped. -/
  | silent (running : o.state.stopped = false) (records : o.state.records = s.records)
  /-- The visit has stopped with a first record, and links have added others on the way back. -/
  | stopped (first : Record) (made : List Record) (unhidden : s.replacing = 0)
      (fine : o.error = none) (stopped : o.state.stopped = true)
      (counted : s.discovered < o.state.discovered)
      (records : o.state.records = s.records ++ first :: made)
      (source : First scheme model first (made ++ around))

/-- The visit stands where the way leads, and knows what is added on the way back. Behind a replacing
    link there is no way back with records. -/
structure Enclosed (scheme : Scheme V) (model : V) (way : List Stretch) (id : ScopeId)
    (value : Option V) (around : List Record) (s : State) : Prop where
  running : s.stopped = false
  spot : s.spot = spotOf way
  wrapped : s.replacing = 0 → Wrapped scheme model way id value around

section Prompt

variable {scheme : Scheme V} {model : V} {around : List Record}

theorem prompt_ok {s : State} (hs : s.stopped = false) :
    Prompt scheme model around s (.ok s) := .silent hs rfl

/-- What a part has recorded does not depend on where the visit was before. -/
theorem Prompt.moved {s s' : State} {o : Outcome} (h : Prompt scheme model around s' o)
    (hs : Alike s s') {f : State → State} (hf : ∀ t, Alike t (f t)) :
    Prompt scheme model around s (o.map f) := by
  cases h with
  | silent running records =>
    exact .silent ((hf _).stopped.trans running)
      ((hf _).records.trans (records.trans hs.records))
  | stopped first made unhidden fine stopped counted records source =>
    refine .stopped first made (hs.replacing ▸ unhidden) fine ((hf _).stopped.trans stopped) ?_ ?_
      source
    · rw [Outcome.map_state, (hf _).discovered, ← hs.discovered]
      exact counted
    · rw [Outcome.map_state, (hf _).records, ← hs.records]
      exact records

/-- Two parts one after the other, where the first one has not stopped the visit. -/
theorem Prompt.behind {s t : State} {o : Outcome} (h : Prompt scheme model around t o)
    (hk : Keeps s t) (records : t.records = s.records) : Prompt scheme model around s o := by
  cases h with
  | silent running records' => exact .silent running (records'.trans records)
  | stopped first made unhidden fine stopped counted records' source =>
    exact .stopped first made (hk.replacing ▸ unhidden) fine stopped
      (Nat.lt_of_le_of_lt hk.discovered counted) (records ▸ records') source

/-- **What follows a part.** After a stop nothing follows. -/
theorem Prompt.next {s : State} {o : Outcome} (h : Prompt scheme model around s o)
    (hk : Keeps s o.state) {f : State → Outcome} (stops : ∀ t, t.stopped = true → f t = .ok t)
    (hf : o.state.stopped = false → Prompt scheme model around o.state (f o.state)) :
    Prompt scheme model around s (o.next f) := by
  cases h with
  | silent running records =>
    cases he : o.error with
    | some e =>
      rw [Outcome.next_of_some he]
      exact .silent running records
    | none =>
      rw [Outcome.next_of_none he]
      exact (hf running).behind hk records
  | stopped first made unhidden fine stopped counted records source =>
    rw [Outcome.next_of_none fine, stops _ stopped]
    exact .stopped first made unhidden rfl stopped counted records source

theorem Enclosed.keeps {way : List Stretch} {id : ScopeId} {value : Option V} {s t : State}
    (h : Enclosed scheme model way id value around s) (hk : Keeps s t)
    (running : t.stopped = false) : Enclosed scheme model way id value around t :=
  ⟨running, (spot_of_levels hk.levels).trans h.spot, fun hr => h.wrapped (hk.replacing ▸ hr)⟩

/-! ## 3. The parts of a visit -/

/-- A failure that has content stops the visit, unless it is hidden. -/
theorem prompt_fail {s : State} (hs : s.stopped = false) (fault : Option FaultId)
    (relative : Option String)
    (source : ∀ f, fault = some f → s.replacing = 0 →
      First scheme model ⟨(s.spot.along relative).concrete, f⟩ around) :
    Prompt scheme model around s (.ok (s.fail true fault relative)) := by
  by_cases hr : s.replacing = 0
  · cases fault with
    | none =>
      rw [fail_none hr]
      exact .silent hs rfl
    | some f =>
      rw [fail_some hr, concrete_along]
      exact .stopped _ [] hr rfl (by simp) (Nat.lt_succ_self _) rfl (source f rfl hr)
  · rw [fail_replacing hr]
    exact .silent hs rfl

/-- Where faults are recorded, a failure is a first record. -/
theorem Enclosed.first {way : List Stretch} {id : ScopeId} {value : Option V} {s : State}
    (h : Enclosed scheme model way id value around s) {sc : Scope V}
    (here : scheme.scopes[id]? = some sc) (shown : s.replacing = 0) {own : Option String}
    {fault : FaultId} (fails : Fails sc value own fault) :
    First scheme model ⟨(s.spot.along own).concrete, fault⟩ around :=
  ⟨way, id, value, sc, own, h.wrapped shown, here, fails, by rw [h.spot]⟩

/-- A hurried way into the scopes. -/
def Enter.Prompt (scheme : Scheme V) (model : V) (enter : Enter V) : Prop :=
  ∀ way id value around s, Enclosed scheme model way id (value.map Prod.fst) around s →
    Visit.Prompt scheme model around s (enter id value s)

section Parts

variable {guarded : Bool} {enter : Enter V} (hk : enter.Keeping)
  (he : Enter.Prompt scheme model enter) {way : List Stretch} {id : ScopeId} {v : V}
  {sc : Scope V} (here : scheme.scopes[id]? = some sc)
include hk he here

omit hk in
/-- The values behind a link are a stretch further, and the link is around them. -/
theorem prompt_reached {l : LinkStep V} {s t : State}
    (hs : Enclosed scheme model way id (some v) around s) (step : .link l ∈ taken v sc.steps)
    (runs : applies l.condition v = true) (running : t.stopped = false)
    (ht : t.spot = s.spot.along l.path)
    (shows : t.replacing = 0 → s.replacing = 0 ∧ l.showing.hides = false) {segment : Segment}
    {value : Option (V × Locus)} (reached : (segment, value) ∈ l.transition.reach v)
    (place : Place) (depth : Nat) :
    Prompt scheme model (added l.showing (s.spot.along l.path) ++ around) t
      (Visit.reached enter l.target place depth segment value t) := by
  have moved := alike_enterSegment t segment
  have within : Enclosed scheme model (⟨l.path, segment⟩ :: way) l.target
      ((value.map fun found => (found.1, place.reach depth found.2)).map Prod.fst)
      (added l.showing (s.spot.along l.path) ++ around) (t.enterSegment segment) := by
    refine ⟨moved.stopped.trans running, ?_, fun hr => ?_⟩
    · rw [spot_enterSegment, ht, hs.spot]
      rfl
    · obtain ⟨open_, shows⟩ := shows (moved.replacing ▸ hr)
      rw [fst_place, hs.spot]
      exact (hs.wrapped open_).link here step runs reached shows
  exact (he _ _ _ _ _ within).moved moved (alike_leaveSegment · segment)

theorem prompt_reachedAll {l : LinkStep V} {s t : State}
    (hs : Enclosed scheme model way id (some v) around s) (step : .link l ∈ taken v sc.steps)
    (runs : applies l.condition v = true) (running : t.stopped = false)
    (ht : t.spot = s.spot.along l.path)
    (shows : t.replacing = 0 → s.replacing = 0 ∧ l.showing.hides = false)
    (values : List (Segment × Option (V × Locus))) (sub : values ⊆ l.transition.reach v)
    (place : Place) (depth : Nat) :
    Prompt scheme model (added l.showing (s.spot.along l.path) ++ around) t
      (reachedAll enter l.target place depth values t) := by
  induction values generalizing t with
  | nil => exact prompt_ok running
  | cons first rest ih =>
    obtain ⟨hfirst, hrest⟩ := List.cons_subset.mp sub
    have kept := keeps_reached hk l.target place depth first.1 first.2 t
    refine (prompt_reached he here hs step runs running ht shows hfirst place depth).next kept
      (fun u hu => by simp only [halted_of_stopped hu, if_true]) fun still => ?_
    split
    · exact prompt_ok still
    · exact ih still ((spot_of_levels kept.levels).trans ht) (fun hr => shows (kept.replacing ▸ hr))
        hrest

omit hk he here in
/-- The failure of a link that nothing has stopped is a first record. -/
theorem prompt_showing {s : State} {o : Outcome} (hk : Keeps s o.state)
    (running : o.state.stopped = false) (records : o.state.records = s.records)
    (c : State → Prop) [DecidablePred c] (fault : Option FaultId)
    (own : ∀ f, fault = some f → s.replacing = 0 →
      First scheme model ⟨s.spot.concrete, f⟩ around) :
    Prompt scheme model around s
      (o.next fun t => .ok (if c t then t.fail true fault none else t)) := by
  cases he : o.error with
  | some e =>
    rw [Outcome.next_of_some he]
    exact .silent running records
  | none =>
    rw [Outcome.next_of_none he]
    split
    · have failed : Prompt scheme model around o.state (.ok (o.state.fail true fault none)) := by
        refine prompt_fail running fault none fun f hf hr => ?_
        rw [spot_of_levels hk.levels]
        exact own f hf (hk.replacing ▸ hr)
      exact failed.behind hk records
    · exact .silent running records

omit hk he here in
/-- A link adds its own fault to what it has let through, and otherwise it fails where it leads. -/
theorem prompt_shown (showing : Showing) (run : State → Outcome) {s : State}
    (hs : s.stopped = false)
    (hrun : ∀ t, t.stopped = false → t.spot = s.spot →
      t.replacing = s.replacing + (if showing.hides then 1 else 0) →
      Keeps t (run t).state ∧ Prompt scheme model (added showing s.spot ++ around) t (run t))
    (own : ∀ f, showing.fault = some f → s.replacing = 0 →
      First scheme model ⟨s.spot.concrete, f⟩ around) :
    Prompt scheme model around s (shown ⟨true, guarded⟩ showing run s) := by
  cases showing with
  | nested => exact (hrun s hs rfl rfl).2
  | replaced fault =>
    obtain ⟨kept, inner⟩ := hrun s.hide hs rfl rfl
    cases inner with
    | silent running records =>
      exact prompt_showing (o := (run s.hide).map (·.unhide s.hit)) kept.unhide running records
        (fun _ => (run s.hide).state.hit = true) fault own
    | stopped first made unhidden => exact absurd unhidden (Nat.succ_ne_zero _)
  | extended fault =>
    obtain ⟨kept, inner⟩ := hrun s hs rfl rfl
    simp only [shown]
    cases inner with
    | silent running records =>
      exact prompt_showing kept running records (s.discovered < ·.discovered) (some fault) own
    | stopped first made unhidden fine stopped counted records source =>
      rw [Outcome.next_of_none fine, if_pos counted, fail_some (kept.replacing.trans unhidden),
        concrete_along, spot_of_levels kept.levels]
      refine .stopped first (made ++ [⟨s.spot.concrete, fault⟩]) unhidden rfl (by simp)
        (Nat.lt_succ_of_lt counted) ?_ ?_
      · rw [Outcome.ok_state, records, List.append_assoc, List.cons_append]
        rfl
      · rw [List.append_assoc]
        exact source

theorem prompt_link {l : LinkStep V} {s : State}
    (hs : Enclosed scheme model way id (some v) around s) (step : .link l ∈ taken v sc.steps)
    (runs : applies l.condition v = true) (place : Place) :
    Prompt scheme model around s (link ⟨true, guarded⟩ enter v place l s) := by
  have moved := alike_enterPath s l.path
  let behind (t : State) : Outcome :=
    reachedAll enter l.target place t.active.length (l.transition.reach v) t
  have inner : Prompt scheme model around (s.enterPath l.path)
      (shown ⟨true, guarded⟩ l.showing behind (s.enterPath l.path)) :=
    prompt_shown l.showing behind
      (moved.stopped.trans hs.running)
      (fun t running ht hr => by
        refine ⟨keeps_reachedAll hk _ _ _ _ t, ?_⟩
        rw [spot_enterPath] at ht ⊢
        refine prompt_reachedAll hk he here hs step runs running ht (fun h0 => ?_) _
          (List.Subset.refl _) place _
        rw [hr, moved.replacing] at h0
        cases hh : l.showing.hides with
        | true => simp [hh] at h0
        | false => exact ⟨by simpa [hh] using h0, rfl⟩)
      (fun f hf hr => by
        rw [spot_enterPath]
        exact hs.first here (moved.replacing ▸ hr) (.link step runs hf))
  exact inner.moved moved (alike_leavePath · l.path)

theorem prompt_steps (list : List (Step V)) (sub : taken v list ⊆ taken v sc.steps) {s : State}
    (hs : Enclosed scheme model way id (some v) around s) (place : Place) :
    Prompt scheme model around s (steps ⟨true, guarded⟩ enter v place list s) := by
  induction list generalizing s with
  | nil => exact prompt_ok hs.running
  | cons step rest ih =>
    have stops (t : State) (ht : t.stopped = true) :
        steps ⟨true, guarded⟩ enter v place rest t = .ok t :=
      steps_halted (halted_of_stopped ht) rest
    unfold steps
    split
    · exact prompt_ok hs.running
    · cases step with
      | guard holds =>
        dsimp only
        split
        · rename_i passes
          refine ih (fun x hx => sub ?_) hs
          simpa [taken, passes] using .inr hx
        · exact prompt_ok hs.running
      | rule rule =>
        dsimp only
        obtain ⟨hrule, hrest⟩ := List.cons_subset.mp (show .rule rule :: taken v rest ⊆ _ from sub)
        split
        · rename_i fails
          rw [Bool.and_eq_true, Bool.not_eq_true'] at fails
          have kept := keeps_fail s true rule.fault rule.path
          have made : Prompt scheme model around s (.ok (s.fail true rule.fault rule.path)) :=
            prompt_fail hs.running rule.fault rule.path fun f hf hr =>
              hs.first here hr (.rule hrule fails.1 fails.2 hf)
          exact made.next kept stops fun still => ih hrest (hs.keeps kept still)
        · exact ih hrest hs
      | link l =>
        dsimp only
        obtain ⟨hlink, hrest⟩ := List.cons_subset.mp (show .link l :: taken v rest ⊆ _ from sub)
        split
        · rename_i runs
          have kept : Keeps s (link ⟨true, guarded⟩ enter v place l s).state :=
            keeps_link hk v place l s
          exact (prompt_link hk he here hs hlink runs place).next kept stops fun still =>
            ih hrest (hs.keeps kept still)
        · exact ih hrest hs

theorem prompt_inside {s : State} (hs : Enclosed scheme model way id (some v) around s)
    (place : Place) :
    Prompt scheme model around s (inside ⟨true, guarded⟩ enter id sc v place s) := by
  unfold inside
  split
  · exact .silent hs.running rfl
  · have pushed : Enclosed scheme model way id (some v) around (s.push id place) :=
      ⟨hs.running, hs.spot, hs.wrapped⟩
    exact (prompt_steps hk he here sc.steps (List.Subset.refl _) pushed place).moved
      (alike_push s id place) alike_pop

theorem prompt_body {value : Option (V × Place)} {s : State}
    (hs : Enclosed scheme model way id (value.map Prod.fst) around s) :
    Prompt scheme model around s (body ⟨true, guarded⟩ enter id sc value s) := by
  have own (fault : Option FaultId) (carried : sc.presence.fault = fault) :
      Prompt scheme model around s (.ok (s.fail true fault none)) :=
    prompt_fail hs.running fault none fun f hf hr =>
      hs.first here hr (.presence (carried.trans hf))
  unfold body
  cases hv : value.filter fun found => !sc.treatsAsNull found.1 with
  | none =>
    cases hp : sc.presence with
    | required fault => exact own fault (by rw [hp]; rfl)
    | «optional» => exact prompt_ok hs.running
    | forbidden fault => exact prompt_ok hs.running
  | some found =>
    have present : value = some found := (Option.filter_eq_some_iff.mp hv).1
    rw [present] at hs
    cases hp : sc.presence with
    | required fault => exact prompt_inside hk he here hs _
    | «optional» => exact prompt_inside hk he here hs _
    | forbidden fault => exact own fault (by rw [hp]; rfl)

end Parts

end Prompt

/-! ## 4. Visits -/

theorem prompt_scope (guarded : Bool) (scheme : Scheme V) (model : V) (depth : Nat) :
    Enter.Prompt scheme model (scope ⟨true, guarded⟩ scheme depth) := by
  induction depth with
  | zero => exact fun _ _ _ _ s hs => .silent hs.running rfl
  | succ depth ih =>
    intro way id value around s hs
    unfold scope
    cases here : scheme.scopes[id]? with
    | none => exact .silent hs.running rfl
    | some sc => exact prompt_body (keeps_scope ⟨true, guarded⟩ scheme depth) ih here hs

/-- The records of a hurried visit. -/
theorem prompt_records {guarded : Bool} {scheme : Scheme V} {depth : Nat} {model : V}
    {place : Place} {list : List Record}
    (h : records ⟨true, guarded⟩ scheme depth model place = .ok list) :
    list = [] ∨ ∃ first later, list = first :: later ∧ First scheme model first later := by
  obtain ⟨-, rfl⟩ := Outcome.result_eq_ok_iff.mp h
  have start : Enclosed scheme model [] scheme.root (some model) [] .start :=
    ⟨rfl, rfl, fun _ => .root⟩
  cases prompt_scope guarded scheme model depth [] scheme.root (some (model, place)) [] .start
    start with
  | silent running records => exact .inl records
  | stopped first made unhidden fine stopped counted records source =>
    exact .inr ⟨first, made, records, (List.append_nil made) ▸ source⟩

/-- The first record of a hurried visit is that of the full one, if the full one ends with records. -/
theorem head?_of_full {guarded : Bool} {scheme : Scheme V} {depth : Nat} {model : V} {place : Place}
    {few all : List Record} (h : records ⟨true, guarded⟩ scheme depth model place = .ok few)
    (full : records ⟨false, guarded⟩ scheme depth model place = .ok all) :
    all.head? = few.head? := by
  obtain ⟨found, hurried, -, same, -⟩ := (hurries_scope guarded scheme depth scheme.root
    (some (model, place)) .start rfl).results.1 all full
  obtain rfl : few = found := Except.ok.inj (h.symm.trans hurried)
  exact same.symm

/-- **A hurried visit records nothing, or a first failure and what the links around it add.** The
    first record is a failure at the end of a way of links on which nothing is hidden, and the one
    that a full visit records first. Each link of the way that extends faults adds one record at its
    own spot, the innermost first; there are no others. So the map holds one fault for the first
    failure and one for each such link, and where no link extends faults it holds one fault at
    most. -/
theorem hurried_records_first {guarded : Bool} {scheme : Scheme V} {depth : Nat} {model : V}
    {place : Place} {faults : FaultMap}
    (h : run ⟨true, guarded⟩ scheme depth model place = .ok faults) :
    ((faults.ids = [] ∧
        ∀ all, records ⟨false, guarded⟩ scheme depth model place = .ok all → all = []) ∨
      ∃ first later, First scheme model first later ∧
        faults = FaultMap.ofRecords (first :: later) ∧ faults.ids.length = later.length + 1 ∧
        ∀ all, records ⟨false, guarded⟩ scheme depth model place = .ok all →
          all.head? = some first) ∧
    ((∀ sc ∈ scheme.scopes, ∀ l, .link l ∈ sc.steps → ∀ f, l.showing ≠ .extended f) →
      faults.ids.length ≤ 1) := by
  obtain ⟨list, hlist, rfl⟩ := run_eq_ok_iff.mp h
  have counted : (FaultMap.ofRecords list).ids.length = list.length := by
    rw [(FaultMap.ids_ofRecords list).length_eq, List.length_map]
  have full (all : List Record) (ends : records ⟨false, guarded⟩ scheme depth model place = .ok all) :
      all.head? = list.head? := head?_of_full hlist ends
  rcases prompt_records hlist with rfl | ⟨first, later, rfl, source⟩
  · exact ⟨.inl ⟨rfl, fun all ends => List.head?_eq_none_iff.mp (full all ends)⟩,
      fun _ => Nat.zero_le _⟩
  · refine ⟨.inr ⟨first, later, source, rfl, counted, full⟩, fun plain => ?_⟩
    obtain ⟨way, id, value, sc, own, wrapped, -⟩ := source
    rw [counted, wrapped.nothing plain]
    exact Nat.le_refl 1

/-- A person with an age, and a fault for the person behind that of the age. The person stands for the
    age. -/
def person : Catalogue Nat := ⟨[
  ⟨"person", some ⟨"person", [
    .action .optional,
    .action (.link (.member "Age" fun n => some (n, .made)) 1),
    .parameter (.extraMessage "check the person")], [], none⟩⟩,
  ⟨"age", some ⟨"age", [
    .action .optional,
    .action (.rule (18 ≤ ·) (Fault.ofMessage "too young" []))], [], none⟩⟩]⟩

/-- The person made ready. -/
def personScheme : Scheme Nat where
  rootType := "person"
  scopes := [
    ⟨"person", .optional, none, [
      .link ⟨none, .member "Age" fun n => some (n, .made), 1, some "Age", .extended 0⟩]⟩,
    ⟨"age", .optional, none, [.rule ⟨none, (18 ≤ ·), some 1, none⟩]⟩]
  registry := ⟨[{ Fault.empty with extraMessages := ["check the person"] },
    Fault.ofMessage "too young" []]⟩
  template := ⟨[("Age", [1, 0])]⟩
  resolved := [(("", "Age"), "Age")]
  loopPossible := false

/-- The visit of a young person: its age is the first failure, and the link to it adds another. -/
theorem hurried_records_first_person :
    run ⟨true, false⟩ personScheme 2 7 .model = .ok ⟨[("Age", [1, 0])]⟩ ∧
      ∃ first later, First personScheme 7 first later ∧
        (⟨[("Age", [1, 0])]⟩ : FaultMap) = FaultMap.ofRecords (first :: later) ∧
        2 = later.length + 1 ∧ some ⟨"Age", 1⟩ = some first := by
  have made : run ⟨true, false⟩ personScheme 2 7 .model = .ok ⟨[("Age", [1, 0])]⟩ := rfl
  rcases (hurried_records_first made).1 with ⟨nothing, -⟩ | ⟨first, later, source, same, count, full⟩
  · exact absurd nothing (by decide)
  · exact ⟨made, first, later, source, same, count, full [⟨"Age", 1⟩, ⟨"Age", 0⟩] rfl⟩

/-- **A hurried visit may record more than one fault.** -/
theorem hurried_visit_records_two :
    Scheme.build? person 0 = .ok personScheme ∧
      ¬ ∀ depth model faults, run ⟨true, false⟩ personScheme depth model .model = .ok faults →
        faults.ids.length ≤ 1 := by
  refine ⟨rfl, fun h => ?_⟩
  have two := h 2 7 ⟨[("Age", [1, 0])]⟩ rfl
  exact absurd two (by decide)

end Assay.Visit
