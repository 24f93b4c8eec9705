import Assay.Visit

/-!
# The entries of a visit

A visit enters scopes with values that are neither null nor forbidden, one inside another and one
beside another. This file writes its entries down in the order in which it makes them.

* `Entry` -- an entry, with the entries around it that are still active; `Entry.again` tells whether
  one of them is of the same scope with the same value, which values without a size cannot tell;
* `Distinct scheme around` -- no scope is inside one value twice, where values can be told apart;
* `State.references mode scheme s` -- the active values that a visit looks among, and
  **`find?_references`** -- it looks among no others;
* `Trace.reached`, `Trace.reachedAll`, …, `Trace.scope` -- the entries of each function of a visit;
* `entries mode scheme depth v place` -- the entries of a visit, down to a depth.

**What is active around an entry is told by where it is made**: an entry is active while the steps of
its scope are taken. The values that the state of the visit keeps do not come into it; only where the
visit is, and whether it has halted, is read from the state.
-/

namespace Assay.Visit

variable {V : Type}

/-! ## 1. Entries -/

/-- The scope and the identity of a value that is being visited. -/
def Active.key (a : Active) : ScopeId × Place := (a.scope, a.place)

/-- An entry into a scope, and the entries that are still active around it, the innermost first. -/
structure Entry where
  value : Active
  around : List Active
  deriving DecidableEq, Repr

/-- The scope is already inside the value, and its values can be told apart. -/
def Entry.again (scheme : Scheme V) (e : Entry) : Bool :=
  scheme.sized e.value.scope && e.around.any fun a => a.key == e.value.key

/-! ## 2. Values that can be told apart -/

theorem sized_of_scope {scheme : Scheme V} {id : ScopeId} {sc : Scope V}
    (here : scheme.scopes[id]? = some sc) : scheme.sized id = sc.type.sized := by
  rw [Scheme.sized, here, Option.any_some]

/-- The values whose scopes can tell them apart. -/
def watched (scheme : Scheme V) (around : List Active) : List Active :=
  around.filter fun a => scheme.sized a.scope

/-- No scope that can tell its values apart is inside one of them more than once. -/
def Distinct (scheme : Scheme V) (around : List Active) : Prop :=
  ((watched scheme around).map Active.key).Nodup

theorem distinct_nil (scheme : Scheme V) : Distinct scheme [] := List.nodup_nil

/-- One more value may be entered if it is new, or if nothing can be told of it. -/
theorem Distinct.cons {scheme : Scheme V} {around : List Active} (h : Distinct scheme around)
    {a : Active} (fresh : scheme.sized a.scope = true → a.key ∉ around.map Active.key) :
    Distinct scheme (a :: around) := by
  unfold Distinct watched
  rw [List.filter_cons]
  split
  · rename_i sized
    rw [List.map_cons]
    refine List.nodup_cons.mpr ⟨fun mem => fresh sized ?_, h⟩
    exact (List.filter_sublist.map Active.key).subset mem
  · exact h

/-- Where all values can be told apart, no scope is inside one of them more than once. -/
theorem Distinct.nodup {scheme : Scheme V} {around : List Active} (h : Distinct scheme around)
    (sized : ∀ a ∈ around, scheme.sized a.scope = true) : (around.map Active.key).Nodup := by
  unfold Distinct watched at h
  rwa [List.filter_eq_self.mpr sized] at h

/-- The active values that a visit looks among: none if it is not guarded, and none without a size. -/
def State.references (mode : Mode) (scheme : Scheme V) (s : State) : List Active :=
  if mode.guarded then watched scheme s.active else []

/-- **A visit looks among its references alone.** -/
theorem find?_references (mode : Mode) {scheme : Scheme V} {id : ScopeId} {sc : Scope V}
    (here : scheme.scopes[id]? = some sc) (s : State) (place : Place) :
    (if mode.guarded && sc.type.sized then s.find? id place else none) =
      (s.references mode scheme).find? fun a => a.scope == id && a.place == place := by
  -- only values of the scope itself are looked for, so all of them have a size or none has
  have own {a : Active} (same : (a.scope == id && a.place == place) = true) :
      scheme.sized a.scope = sc.type.sized := by
    rw [beq_iff_eq.mp (Bool.and_eq_true_iff.mp same).1, sized_of_scope here]
  unfold State.references State.find?
  cases mode.guarded with
  | false => rfl
  | true =>
    rw [Bool.true_and, if_pos rfl, watched, List.find?_filter]
    cases sized : sc.type.sized with
    | true =>
      refine congrArg (s.active.find? ·) (funext fun a => ?_)
      rw [Bool.eq_iff_iff, decide_eq_true_iff]
      exact ⟨fun same => ⟨(own same).trans sized, same⟩, And.right⟩
    | false =>
      refine (List.find?_eq_none.mpr fun a _ found => ?_).symm
      obtain ⟨kept, same⟩ := of_decide_eq_true found
      exact Bool.false_ne_true (sized.symm.trans ((own same).symm.trans kept))

section References

variable {mode : Mode} {scheme : Scheme V} {s : State} {id : ScopeId} {place : Place}

/-- What was looked for and found is active, the visit is guarded, and the value has a size. -/
theorem of_found {first : Active} (h : ((s.references mode scheme).find? fun a =>
    a.scope == id && a.place == place) = some first) :
    mode.guarded = true ∧ scheme.sized id = true ∧ first ∈ s.active ∧ first.key = (id, place) := by
  have same := List.find?_some h
  rw [Bool.and_eq_true, beq_iff_eq, beq_iff_eq] at same
  obtain ⟨guarded, kept⟩ : mode.guarded = true ∧ first ∈ watched scheme s.active := by
    have mem := List.mem_of_find?_eq_some h
    unfold State.references at mem
    split at mem
    · exact ⟨‹_›, mem⟩
    · cases mem
  obtain ⟨mem, sized⟩ := List.mem_filter.mp kept
  exact ⟨guarded, same.1 ▸ sized, mem, Prod.ext same.1 same.2⟩

/-- What was looked for and not found is not active. -/
theorem fresh_of_not_found (h : ((s.references mode scheme).find? fun a =>
    a.scope == id && a.place == place) = none) (guarded : mode.guarded = true)
    (sized : scheme.sized id = true) : (id, place) ∉ s.active.map Active.key := by
  intro mem
  obtain ⟨a, ha, key⟩ := List.mem_map.mp mem
  obtain ⟨rfl, rfl⟩ := Prod.mk.inj key
  rw [State.references, if_pos guarded] at h
  have other := List.find?_eq_none.mp h a (List.mem_filter.mpr ⟨ha, sized⟩)
  simp at other

end References

/-! ## 3. Traces -/

/-- The entries behind a way into the scopes, inside of given entries. -/
abbrev Trace (V : Type) := List Active → ScopeId → Option (V × Place) → State → List Entry

/-- The entries of what follows an end without an error. -/
def Outcome.follow (o : Outcome) (f : State → List Entry) : List Entry :=
  match o.error with
  | some _ => []
  | none => f o.state

/-- Where the values behind a link are visited. -/
def State.behind (s : State) (showing : Showing) : State := if showing.hides then s.hide else s

/-! ## 4. The parts of a visit -/

namespace Trace

section Parts

variable (mode : Mode) (enter : Enter V) (trace : Trace V) (around : List Active)

def reached (target : ScopeId) (place : Place) (depth : Nat) (segment : Segment)
    (value : Option (V × Locus)) (s : State) : List Entry :=
  trace around target (value.map fun found => (found.1, place.reach depth found.2))
    (s.enterSegment segment)

def reachedAll (target : ScopeId) (place : Place) (depth : Nat) :
    List (Segment × Option (V × Locus)) → State → List Entry
  | [], _ => []
  | (segment, value) :: rest, s =>
    reached trace around target place depth segment value s ++
      (Visit.reached enter target place depth segment value s).follow fun s =>
        if s.halted then [] else reachedAll target place depth rest s

def link (v : V) (place : Place) (step : LinkStep V) (s : State) : List Entry :=
  let s := (s.enterPath step.path).behind step.showing
  reachedAll enter trace around step.target place s.active.length (step.transition.reach v) s

def steps (v : V) (place : Place) : List (Step V) → State → List Entry
  | [], _ => []
  | step :: rest, s =>
    if s.halted then []
    else match step with
      | .guard holds => if holds v then steps v place rest s else []
      | .rule rule =>
        steps v place rest
          (if applies rule.condition v && !rule.holds v then
            s.fail mode.hurried rule.fault rule.path
          else s)
      | .link l =>
        if applies l.condition v then
          link enter trace around v place l s ++
            (Visit.link mode enter v place l s).follow (steps v place rest)
        else steps v place rest s

/-- A guarded visit does not enter a value that the scope is inside of, if it can tell. -/
def inside (id : ScopeId) (sc : Scope V) (v : V) (place : Place) (s : State) : List Entry :=
  match if mode.guarded && sc.type.sized then s.find? id place else none with
  | some _ => []
  | none =>
    let value : Active := ⟨id, place, s.concrete s.path⟩
    ⟨value, around⟩ ::
      steps mode enter trace (value :: around) v place sc.steps (s.push id place)

def body (id : ScopeId) (sc : Scope V) (value : Option (V × Place)) (s : State) : List Entry :=
  match value.filter fun found => !sc.treatsAsNull found.1 with
  | none => []
  | some (v, place) =>
    match sc.presence with
    | .forbidden _ => []
    | _ => inside mode enter trace around id sc v place s

end Parts

/-- The entries behind the way into the scopes of a scheme, down to a depth. -/
def scope (mode : Mode) (scheme : Scheme V) : (depth : Nat) → Trace V
  | 0, _, _, _, _ => []
  | depth + 1, around, id, value, s =>
    match scheme.scopes[id]? with
    | none => []
    | some sc =>
      body mode (Visit.scope mode scheme depth) (scope mode scheme depth) around id sc value s

end Trace

/-! ## 5. Visits -/

/-- **The entries of a visit** of a value with an identity, down to a depth. -/
def entries (mode : Mode) (scheme : Scheme V) (depth : Nat) (v : V) (place : Place) : List Entry :=
  Trace.scope mode scheme depth [] scheme.root (some (v, place)) .start

end Assay.Visit
