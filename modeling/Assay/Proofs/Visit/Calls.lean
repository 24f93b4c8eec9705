import Assay.Proofs.Visit.Guard

/-!
# The calls of a visit

A visit comes to a scope from a value that it has entered, and to that one from another, back to the
model. These values are what is active around a call, and each of them was reached by a link of the
scope of the next one.

* `Called mode scheme model place around id value` -- from the values `around`, links lead to a value
  in a scope; in a guarded visit no scope is inside one value twice, if it can tell its values apart;
* `Made e` -- the entry is of a value to which the visit was called from what is active around it;
* `Excuse limit e` -- the error is a loop in a guarded visit, a call to a scope that is not there, or
  a call with as many values around it as the bound allows;
* `explained_reached`, …, `explained_body` -- each function of a visit makes only such entries and
  ends only with such errors, given that the way into the scopes does;
* **`explained_entries`**, **`explained_error`** -- so does the whole visit.

What bounds the values that are active around a call therefore bounds how deep visits go.
-/

namespace Assay.Visit

variable {V : Type}

/-! ## 1. Calls -/

section Calls

variable (mode : Mode) (scheme : Scheme V) (model : V) (place : Place)

/-- **Links lead from the model, through the values that are active, to a value in a scope.** -/
inductive Called : List Active → ScopeId → Option (V × Place) → Prop where
  | root : Called [] scheme.root (some (model, place))
  | link {around : List Active} {id : ScopeId} {v : V} {p : Place} {sc : Scope V} {l : LinkStep V}
      {segment : Segment} {value : Option (V × Locus)} (called : Called around id (some (v, p)))
      (fresh : mode.guarded = true → scheme.sized id = true → (id, p) ∉ around.map Active.key)
      (here : scheme.scopes[id]? = some sc) (step : .link l ∈ sc.steps)
      (reached : (segment, value) ∈ l.transition.reach v) (path : String) :
      Called (⟨id, p, path⟩ :: around) l.target
        (value.map fun found => (found.1, p.reach (around.length + 1) found.2))

/-- The entry is of a value to which the visit was called from what is active around it. -/
structure Made (e : Entry) : Prop where
  called : ∃ v, Called mode scheme model place e.around e.value.scope (some (v, e.value.place))
  fresh : mode.guarded = true → scheme.sized e.value.scope = true →
    e.value.key ∉ e.around.map Active.key

/-- Why a visit may end with an error, where at most `limit` values may be active. -/
inductive Excuse (limit : Nat) : VisitError → Prop where
  | loop {name first second : String} (guarded : mode.guarded = true) :
      Excuse limit (.referenceLoop name first second)
  | absent {around : List Active} {id : ScopeId} {value : Option (V × Place)} (text : String)
      (called : Called mode scheme model place around id value) (none : scheme.scopes[id]? = none) :
      Excuse limit (.unexpected text)
  | deep {around : List Active} {id : ScopeId} {value : Option (V × Place)}
      (called : Called mode scheme model place around id value) (full : around.length = limit) :
      Excuse limit .tooDeep

/-- What a part of a visit enters was called for, and it ends only with an excuse. -/
structure Explained (limit : Nat) (run : Run) : Prop where
  entries : ∀ e ∈ run.entries, Made mode scheme model place e
  error : ∀ e, run.outcome.error = some e → Excuse mode scheme model place limit e

end Calls

section Explained

variable {mode : Mode} {scheme : Scheme V} {model : V} {place : Place}

/-- In a guarded visit no scope is inside one value twice, if it can tell its values apart. -/
theorem Called.distinct {around : List Active} {id : ScopeId} {value : Option (V × Place)}
    (h : Called mode scheme model place around id value) (guarded : mode.guarded = true) :
    Distinct scheme around := by
  induction h with
  | root => exact distinct_nil scheme
  | link called fresh here step reached path ih => exact ih.cons (fresh guarded)

theorem Made.distinct {e : Entry} (h : Made mode scheme model place e)
    (guarded : mode.guarded = true) : Distinct scheme (e.value :: e.around) := by
  obtain ⟨v, called⟩ := h.called
  exact (called.distinct guarded).cons (h.fresh guarded)

theorem Entry.again_eq_false {e : Entry}
    (h : scheme.sized e.value.scope = true → e.value.key ∉ e.around.map Active.key) :
    e.again scheme = false := by
  refine Bool.and_eq_false_imp.mpr fun sized => ?_
  refine List.any_eq_false.mpr fun a ha same => h sized ?_
  rw [← beq_iff_eq.mp same]
  exact List.mem_map_of_mem ha

/-! ## 2. The parts of a visit -/

variable {limit : Nat}

theorem explained_ok (s : State) : Explained mode scheme model place limit ⟨.ok s, []⟩ :=
  ⟨fun _ he => absurd he List.not_mem_nil, fun _ h => by cases h⟩

theorem Explained.map {o : Outcome} {t : List Entry}
    (h : Explained mode scheme model place limit ⟨o, t⟩) (f : State → State) :
    Explained mode scheme model place limit ⟨o.map f, t⟩ := ⟨h.entries, h.error⟩

theorem Explained.next {o : Outcome} {t : List Entry}
    (h : Explained mode scheme model place limit ⟨o, t⟩) {f : State → Outcome}
    {g : State → List Entry}
    (hf : Explained mode scheme model place limit ⟨f o.state, g o.state⟩) :
    Explained mode scheme model place limit ⟨o.next f, t ++ o.follow g⟩ := by
  cases he : o.error with
  | some e =>
    rw [Outcome.next_of_some he, Outcome.follow_of_some he, List.append_nil]
    exact h
  | none =>
    rw [Outcome.next_of_none he, Outcome.follow_of_none he]
    refine ⟨fun e mem => ?_, hf.error⟩
    rcases List.mem_append.mp mem with mem | mem
    · exact h.entries e mem
    · exact hf.entries e mem

/-- A way into the scopes that explains what it enters and how it ends, inside of given entries. -/
def Way.Explained (mode : Mode) (scheme : Scheme V) (model : V) (place : Place) (limit : Nat)
    (around : List Active) (way : Way V) : Prop :=
  ∀ id value s, s.active = around → Called mode scheme model place around id value →
    Visit.Explained mode scheme model place limit
      ⟨way.enter id value s, way.trace around id value s⟩

section Parts

variable {way : Way V} {around : List Active} (hk : way.enter.Keeping)
  (he : Way.Explained mode scheme model place limit around way)
include hk he

omit hk in
theorem explained_reached {target : ScopeId} {p : Place} {depth : Nat} (segment : Segment)
    {value : Option (V × Locus)}
    (called : Called mode scheme model place around target
      (value.map fun found => (found.1, p.reach depth found.2)))
    {s : State} (hs : s.active = around) :
    Explained mode scheme model place limit
      ⟨reached way.enter target p depth segment value s,
        Trace.reached way.trace around target p depth segment value s⟩ :=
  (he target _ _ ((active_enterSegment s segment).trans hs) called).map (·.leaveSegment segment)

theorem explained_reachedAll (target : ScopeId) (p : Place) (depth : Nat)
    (values : List (Segment × Option (V × Locus)))
    (called : ∀ segment value, (segment, value) ∈ values →
      Called mode scheme model place around target
        (value.map fun found => (found.1, p.reach depth found.2)))
    {s : State} (hs : s.active = around) :
    Explained mode scheme model place limit
      ⟨reachedAll way.enter target p depth values s,
        Trace.reachedAll way.enter way.trace around target p depth values s⟩ := by
  induction values generalizing s with
  | nil => exact explained_ok s
  | cons first rest ih =>
    have kept := keeps_reached hk target p depth first.1 first.2 s
    have head := explained_reached he first.1 (called first.1 first.2 List.mem_cons_self) hs
    refine head.next ?_
    split
    · exact explained_ok _
    · exact ih (fun segment value mem => called segment value (List.mem_cons_of_mem _ mem))
        (kept.active.trans hs)

theorem explained_link {v : V} {p : Place} {l : LinkStep V}
    (called : ∀ segment value, (segment, value) ∈ l.transition.reach v →
      Called mode scheme model place around l.target
        (value.map fun found => (found.1, p.reach around.length found.2)))
    {s : State} (hs : s.active = around) :
    Explained mode scheme model place limit
      ⟨link mode way.enter v p l s, Trace.link way.enter way.trace around v p l s⟩ := by
  have here : ((s.enterPath l.path).behind l.showing).active = around :=
    (active_behind _ _).trans ((active_enterPath s l.path).trans hs)
  have inner := explained_reachedAll hk he l.target p
    ((s.enterPath l.path).behind l.showing).active.length (l.transition.reach v)
    (by rw [here]; exact called) here
  refine ⟨inner.entries, fun e ends => inner.error e ?_⟩
  rw [link, Outcome.map_error, error_shown] at ends
  exact ends

theorem explained_steps {v : V} {p : Place} (list : List (Step V))
    (called : ∀ l, .link l ∈ list → ∀ segment value, (segment, value) ∈ l.transition.reach v →
      Called mode scheme model place around l.target
        (value.map fun found => (found.1, p.reach around.length found.2)))
    {s : State} (hs : s.active = around) :
    Explained mode scheme model place limit
      ⟨steps mode way.enter v p list s,
        Trace.steps mode way.enter way.trace around v p list s⟩ := by
  induction list generalizing s with
  | nil => exact explained_ok s
  | cons step rest ih =>
    have further := @ih fun l hl => called l (List.mem_cons_of_mem _ hl)
    unfold steps Trace.steps
    split
    · exact explained_ok s
    · cases step with
      | guard holds =>
        dsimp only
        split
        · exact further hs
        · exact explained_ok s
      | rule rule =>
        dsimp only
        split
        · exact further ((keeps_fail s mode.hurried rule.fault rule.path).active.trans hs)
        · exact further hs
      | link l =>
        dsimp only
        split
        · have kept : Keeps s (link mode way.enter v p l s).state := keeps_link hk v p l s
          exact (explained_link hk he (called l List.mem_cons_self) hs).next
            (further (kept.active.trans hs))
        · exact further hs

end Parts

/-! ## 3. Visits -/

/-- Around a value that is entered, the values that its links reach are called for. -/
theorem explained_inside {way : Way V} (hk : way.enter.Keeping) {around : List Active}
    (he : ∀ value, Way.Explained mode scheme model place limit (value :: around) way)
    {id : ScopeId} {sc : Scope V} (here : scheme.scopes[id]? = some sc) {v : V} {p : Place}
    (called : Called mode scheme model place around id (some (v, p))) {s : State}
    (hs : s.active = around) :
    Explained mode scheme model place limit
      ⟨inside mode way.enter id sc v p s, Trace.inside mode way.enter way.trace around id sc v p s⟩
    := by
  unfold inside Trace.inside
  rw [find?_references mode here]
  cases met : (s.references mode scheme).find? fun a => a.scope == id && a.place == p with
  | some first =>
    refine ⟨fun _ he => absurd he List.not_mem_nil, fun e ends => ?_⟩
    cases ends
    exact .loop (of_found met).1
  | none =>
    have fresh := fresh_of_not_found met
    rw [hs] at fresh
    have pushed : (s.push id p).active = ⟨id, p, s.concrete s.path⟩ :: around :=
      congrArg (_ :: ·) hs
    have inner := explained_steps hk (he _) (v := v) (p := p) sc.steps
      (fun l step segment value reached =>
        called.link fresh here step reached (s.concrete s.path)) pushed
    refine ⟨fun e mem => ?_, inner.error⟩
    rcases List.mem_cons.mp mem with rfl | mem
    · exact ⟨⟨v, called⟩, fresh⟩
    · exact inner.entries e mem

theorem explained_body {way : Way V} (hk : way.enter.Keeping) {around : List Active}
    (he : ∀ value, Way.Explained mode scheme model place limit (value :: around) way)
    {id : ScopeId} {sc : Scope V} (here : scheme.scopes[id]? = some sc)
    {value : Option (V × Place)} (called : Called mode scheme model place around id value)
    {s : State} (hs : s.active = around) :
    Explained mode scheme model place limit
      ⟨body mode way.enter id sc value s, Trace.body mode way.enter way.trace around id sc value s⟩
    := by
  unfold body Trace.body
  cases hv : value.filter fun found => !sc.treatsAsNull found.1 with
  | none => cases sc.presence <;> exact explained_ok _
  | some found =>
    obtain rfl : value = some found := (Option.filter_eq_some_iff.mp hv).1
    cases sc.presence with
    | required fault => exact explained_inside hk he here called hs
    | «optional» => exact explained_inside hk he here called hs
    | forbidden fault => exact explained_ok _

/-- **A visit explains what it enters and how it ends.** -/
theorem explained_scope {depth : Nat} {around : List Active}
    (full : depth + around.length = limit) :
    Way.Explained mode scheme model place limit around (Way.scope mode scheme depth) := by
  induction depth generalizing around with
  | zero =>
    intro id value s hs called
    refine ⟨fun _ he => absurd he List.not_mem_nil, fun e ends => ?_⟩
    cases ends
    exact .deep called (by omega)
  | succ depth ih =>
    intro id value s hs called
    -- one level less is left, and one more value is active
    have inner (a : Active) : Way.Explained mode scheme model place limit (a :: around)
        (Way.scope mode scheme depth) := ih (by rw [List.length_cons]; omega)
    unfold Way.scope scope Trace.scope
    cases here : scheme.scopes[id]? with
    | none =>
      refine ⟨fun _ he => absurd he List.not_mem_nil, fun e ends => ?_⟩
      cases ends
      exact .absent _ called here
    | some sc => exact explained_body (keeps_scope mode scheme depth) inner here called hs

end Explained

/-- A visit begins with nothing around it, so as many values may be active as its bound says. -/
theorem explained_visit (mode : Mode) (scheme : Scheme V) (depth : Nat) (v : V) (place : Place) :
    Explained mode scheme v place depth
      ⟨scope mode scheme depth scheme.root (some (v, place)) .start,
        entries mode scheme depth v place⟩ :=
  explained_scope (Nat.add_zero depth) scheme.root (some (v, place)) .start rfl .root

/-- The entries of a visit are of values to which it was called. -/
theorem explained_entries {mode : Mode} {scheme : Scheme V} {depth : Nat} {v : V} {place : Place} :
    ∀ e ∈ entries mode scheme depth v place, Made mode scheme v place e :=
  (explained_visit mode scheme depth v place).entries

/-- A visit that ends with an error has an excuse. -/
theorem explained_error {mode : Mode} {scheme : Scheme V} {depth : Nat} {v : V} {place : Place}
    {e : VisitError} (h : records mode scheme depth v place = .error e) :
    Excuse mode scheme v place depth e :=
  (explained_visit mode scheme depth v place).error e (Outcome.result_eq_error_iff.mp h)

end Assay.Visit
