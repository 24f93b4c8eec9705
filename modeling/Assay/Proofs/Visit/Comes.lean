import Assay.Proofs.Visit.Agreement
import Assay.Proofs.Visit.Arrival

/-!
# What a full visit comes to

A visit arrives at values that it then passes over: null values, values that may not be there, values
behind a link that replaces faults. This file says which values a full visit does look at, and that it
misses no rule that fails there.

* `Account.PartOf a b` -- the account `b` has all the failures of `a`, unless it is cut off;
* `ComesTo scheme model way id value` -- the way leads to the value openly, through scopes that look at
  the values on it;
* **`partOf_of_comesTo`** -- so what is meant there is a part of what the scheme means;
* **`recorded_of_comesTo`** -- and a full visit that ends has recorded the rules that fail there.
-/

namespace Assay.Visit

variable {V : Type}

/-! ## 1. Parts of an account -/

namespace Account

/-- **If the whole is not cut off, neither is the part**, and its failures are among those of the
    whole. -/
def PartOf (a b : Account) : Prop := b.error = none → a.error = none ∧ a.failures ⊆ b.failures

theorem PartOf.refl (a : Account) : a.PartOf a := fun whole => ⟨whole, List.Subset.refl _⟩

theorem PartOf.trans {a b c : Account} (h : a.PartOf b) (h' : b.PartOf c) : a.PartOf c := by
  intro whole
  obtain ⟨outer, found⟩ := h' whole
  obtain ⟨inner, kept⟩ := h outer
  exact ⟨inner, List.Subset.trans kept found⟩

theorem partOf_nothing (a : Account) : nothing.PartOf a := fun _ => ⟨rfl, List.nil_subset _⟩

theorem partOf_andThen_left (a b : Account) : a.PartOf (a.andThen b) := by
  intro whole
  refine ⟨?_, (prefix_andThen a b).subset⟩
  cases cut : a.error with
  | none => rfl
  | some e =>
    rw [andThen_of_some cut, cut] at whole
    cases whole

theorem partOf_andThen_right (a b : Account) : b.PartOf (a.andThen b) := by
  intro whole
  have read : a.error = none := (partOf_andThen_left a b whole).1
  rw [andThen_of_none read] at whole ⊢
  exact ⟨whole, List.subset_append_right _ _⟩

/-- The first of two accounts is a part of both together, and so is what is a part of the second. -/
theorem partOf_andThen {a b c : Account} (h : a = b ∨ a.PartOf c) : a.PartOf (b.andThen c) := by
  rcases h with rfl | part
  · exact partOf_andThen_left a c
  · exact part.trans (partOf_andThen_right b c)

theorem partOf_concat {accounts : List Account} {a : Account} (mem : a ∈ accounts) :
    a.PartOf (concat accounts) := by
  induction accounts with
  | nil => exact absurd mem List.not_mem_nil
  | cons first rest ih => exact partOf_andThen ((List.mem_cons.mp mem).imp id ih)

/-- A link that does not replace faults keeps those behind it. -/
theorem partOf_shown (a : Account) {showing : Showing} (shows : showing.hides = false)
    (spot : Spot) : a.PartOf (a.shown showing spot) := by
  cases showing with
  | nested => exact PartOf.refl a
  | replaced fault => cases shows
  | extended fault =>
    simp only [shown]
    split
    · exact PartOf.refl a
    · exact partOf_andThen_left a _

end Account

/-- What one step means that is taken. -/
def Meaning.step (means : Meaning V) (v : V) (spot : Spot) : Step V → Account
  | .guard _ => .nothing
  | .rule rule =>
    if applies rule.condition v && !rule.holds v then
      .one ⟨(spot.along rule.path).concrete, rule.fault⟩
    else .nothing
  | .link l => if applies l.condition v then means.link v spot l else .nothing

/-- What a step means that is taken is a part of what all steps mean. -/
theorem partOf_steps (means : Meaning V) {v : V} (spot : Spot) {list : List (Step V)}
    {step : Step V} (mem : step ∈ taken v list) :
    (means.step v spot step).PartOf (means.steps v spot list) := by
  induction list with
  | nil => exact absurd mem List.not_mem_nil
  | cons first rest ih =>
    cases first with
    | guard holds =>
      cases passes : holds v with
      | false =>
        simp only [taken, List.takeWhile_cons, passes, Bool.false_eq_true, if_false] at mem
        exact absurd mem List.not_mem_nil
      | true =>
        simp only [taken, List.takeWhile_cons, passes, if_true, List.mem_cons] at mem
        rw [Meaning.steps, if_pos passes]
        rcases mem with rfl | mem
        · exact Account.partOf_nothing _
        · exact ih mem
    | rule rule =>
      have cases := List.mem_cons.mp (show step ∈ .rule rule :: taken v rest from mem)
      exact Account.partOf_andThen (b := means.step v spot (.rule rule))
        (cases.imp (congrArg _) ih)
    | link l =>
      have cases := List.mem_cons.mp (show step ∈ .link l :: taken v rest from mem)
      exact Account.partOf_andThen (b := means.step v spot (.link l)) (cases.imp (congrArg _) ih)

/-! ## 2. Values that are looked at -/

/-- The scope looks at the value: it does not count as null there, and there may be one. -/
structure Admits (sc : Scope V) (v : V) : Prop where
  counts : sc.treatsAsNull v = false
  allowed : ∀ fault, sc.presence ≠ .forbidden fault

/-- A rule of the scope fails that is run for the value, with a fault at a path of its own. -/
inductive Denies (sc : Scope V) (v : V) : Option String → FaultId → Prop where
  | rule {rule : RuleStep V} {fault : FaultId} (admits : Admits sc v)
      (step : .rule rule ∈ taken v sc.steps) (runs : applies rule.condition v = true)
      (fails : rule.holds v = false) (carried : rule.fault = some fault) :
      Denies sc v rule.path fault

/-- **A full visit comes to the value**: a way of links leads to it, none of them replaces faults, and
    the scopes on the way look at their values. -/
inductive ComesTo (scheme : Scheme V) (model : V) : List Stretch → ScopeId → Option V → Prop where
  | root : ComesTo scheme model [] scheme.root (some model)
  | link {way : List Stretch} {id : ScopeId} {v : V} {sc : Scope V} {l : LinkStep V}
      {segment : Segment} {value : Option (V × Locus)}
      (comes : ComesTo scheme model way id (some v)) (here : scheme.scopes[id]? = some sc)
      (admits : Admits sc v) (step : .link l ∈ taken v sc.steps)
      (runs : applies l.condition v = true) (shows : l.showing.hides = false)
      (reached : (segment, value) ∈ l.transition.reach v) :
      ComesTo scheme model (⟨l.path, segment⟩ :: way) l.target (value.map Prod.fst)

theorem Denies.fails {sc : Scope V} {v : V} {own : Option String} {fault : FaultId}
    (h : Denies sc v own fault) : Fails sc (some v) own fault := by
  obtain ⟨-, step, runs, fails, carried⟩ := h
  exact .rule step runs fails carried

/-- What a full visit comes to it arrives at. -/
theorem ComesTo.arrives {scheme : Scheme V} {model : V} {way : List Stretch} {id : ScopeId}
    {value : Option V} (h : ComesTo scheme model way id value) :
    Arrives scheme model way id value false := by
  induction h with
  | root => exact .root
  | link comes here admits step runs shows reached ih =>
    have behind := ih.link here step runs reached
    rwa [shows, Bool.or_false] at behind

/-! ## 3. Failures that are not missed -/

/-- What is meant by a step of a scope that looks at the value. -/
theorem partOf_meaning {scheme : Scheme V} {id : ScopeId} {sc : Scope V} {v : V}
    (here : scheme.scopes[id]? = some sc) (admits : Admits sc v) {step : Step V}
    (mem : step ∈ taken v sc.steps) (depth : Nat) (spot : Spot) :
    ((meaning scheme depth).step v spot step).PartOf
      (meaning scheme (depth + 1) id (some v) spot) := by
  have looks : meaning scheme (depth + 1) id (some v) spot =
      (meaning scheme depth).steps v spot sc.steps := by
    simp only [meaning, here, Meaning.body, admits.counts, Bool.false_eq_true, if_false,
      Meaning.present]
    cases presence : sc.presence with
    | required fault => rfl
    | «optional» => rfl
    | forbidden fault => exact absurd presence (admits.allowed fault)
  rw [looks]
  exact partOf_steps _ spot mem

/-- An account that is cut off at once is a part of those that are cut off, too. -/
theorem partOf_of_cut {a b c : Account} {e : VisitError} (cut : a.error = some e)
    (h : a.PartOf c) : b.PartOf c := by
  intro whole
  have read := (h whole).1
  rw [cut] at read
  cases read

/-- **What is meant by a value that a full visit comes to is a part of what the scheme means.** The
    links on the way go down a level each. -/
theorem partOf_of_comesTo {scheme : Scheme V} {model : V} (depth : Nat) {way : List Stretch}
    {id : ScopeId} {value : Option V} (h : ComesTo scheme model way id value) :
    ∃ less, (meaning scheme less id value (spotOf way)).PartOf
      (meaning scheme depth scheme.root (some model) .root) := by
  induction h with
  | root => exact ⟨depth, Account.PartOf.refl _⟩
  | @link way id v sc l segment value comes here admits step runs shows reached ih =>
    obtain ⟨less, part⟩ := ih
    cases less with
    | zero => exact ⟨0, partOf_of_cut rfl part⟩
    | succ less =>
      refine ⟨less, Account.PartOf.trans ?_ part⟩
      have own : (meaning scheme less).step v (spotOf way) (.link l) =
          (meaning scheme less).link v (spotOf way) l := if_pos runs
      have meant := partOf_meaning here admits step less (spotOf way)
      rw [own] at meant
      refine Account.PartOf.trans ?_ meant
      have reachedOne := Account.partOf_concat (List.mem_map_of_mem (f := fun found =>
        meaning scheme less l.target (found.2.map Prod.fst)
          (((spotOf way).along l.path).into found.1)) reached)
      exact reachedOne.trans (Account.partOf_shown _ shows _)

/-- A full visit that ends, guarded or not, has read all that the scheme means. -/
theorem read_of_records {scheme : Scheme V} {guarded : Bool} {depth : Nat} {model : V} {place : Place}
    {list : List Record} (ends : records ⟨false, guarded⟩ scheme depth model place = .ok list) :
    (meaning scheme depth scheme.root (some model) .root).error = none ∧
      (meaning scheme depth scheme.root (some model) .root).records = list := by
  have plain : records ⟨false, false⟩ scheme depth model place = .ok list := by
    cases guarded with
    | false => exact ends
    | true =>
      rcases records_guarded false scheme depth model place with same | ⟨_, _, _, lost⟩
      · exact same.symm.trans ends
      · cases lost.symm.trans ends
  have means : (meaning scheme depth scheme.root (some model) .root).result = .ok list :=
    (agrees_scope scheme depth scheme.root (some (model, place)) .start rfl).result.symm.trans plain
  unfold Account.result at means
  split at means
  · cases means
  · rename_i read
    exact ⟨read, Except.ok.inj means⟩

/-- **A full visit misses no rule that fails where it comes to.** If it ends, guarded or not, it has
    recorded the fault at the path of the rule. -/
theorem recorded_of_comesTo {scheme : Scheme V} {guarded : Bool} {depth : Nat} {model : V}
    {place : Place} {list : List Record}
    (ends : records ⟨false, guarded⟩ scheme depth model place = .ok list) {way : List Stretch}
    {id : ScopeId} {v : V} {sc : Scope V} (comes : ComesTo scheme model way id (some v))
    (here : scheme.scopes[id]? = some sc) {own : Option String} {fault : FaultId}
    (denies : Denies sc v own fault) : ⟨((spotOf way).along own).concrete, fault⟩ ∈ list := by
  obtain ⟨whole, rfl⟩ := read_of_records ends
  obtain ⟨less, part⟩ := partOf_of_comesTo depth comes
  cases less with
  | zero => cases (part whole).1
  | succ less =>
    cases denies with
    | @rule rule _ admits step runs fails carried =>
      have own : (meaning scheme less).step v (spotOf way) (.rule rule) =
          .one ⟨((spotOf way).along rule.path).concrete, rule.fault⟩ :=
        if_pos (by rw [runs, fails]; rfl)
      have meant := partOf_meaning here admits step less (spotOf way)
      rw [own] at meant
      have found := (meant.trans part whole).2 List.mem_cons_self
      exact List.mem_filterMap.mpr ⟨_, found, by rw [Failure.record?, carried]; rfl⟩

end Assay.Visit
