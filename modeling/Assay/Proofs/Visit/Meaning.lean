import Assay.Proofs.Visit.Spot

/-!
# What a scheme means

A visit works with flags: how many replacing links it is behind, whether the innermost of them has
been hit, how many failures there were, whether to stop. This file says without any of them what the
visit of a value amounts to. An account is the failures in order, and the error that cuts them off;
the account of a scope is made of the accounts of its steps, and the account of a link of the accounts
of the values it reaches.

* `meaning scheme depth` -- the account of every scope with every value at every spot, down to a depth;
* `Cut a b` -- the account `a` is `b`, or it is a beginning of `b` that the bound on the depth cut off;
* **`meaning_deeper`** -- so once an account is not cut off by the bound, a deeper bound changes
  nothing.

**An account is read lazily.** A replacing link stands for one failure as soon as the values behind it
have one, so an error behind that failure is not part of the meaning of the link.
-/

namespace Assay.Visit

variable {V : Type}

/-! ## 1. Accounts -/

/-- A failure: where it is recorded, and its fault if it has content. -/
structure Failure where
  path : String
  fault : Option FaultId
  deriving DecidableEq, Repr

/-- The record of a failure that has content. -/
def Failure.record? (f : Failure) : Option Record := f.fault.map (⟨f.path, ·⟩)

/-- Failures in order, and the error that cuts them off. -/
structure Account where
  failures : List Failure
  error : Option VisitError
  deriving DecidableEq, Repr

namespace Account

def nothing : Account := ⟨[], none⟩

def one (f : Failure) : Account := ⟨[f], none⟩

/-- Nothing but an error. -/
def lost (e : VisitError) : Account := ⟨[], some e⟩

/-- One account and, unless it is cut off, another. -/
def andThen (a b : Account) : Account :=
  match a.error with
  | some _ => a
  | none => ⟨a.failures ++ b.failures, b.error⟩

/-- Accounts one after another. -/
def concat (accounts : List Account) : Account := accounts.foldr andThen nothing

/-- The account of what is behind a link, as the link shows it at its spot. -/
def shown (a : Account) (showing : Showing) (spot : Spot) : Account :=
  match showing with
  | .nested => a
  | .replaced fault => if a.failures = [] then a else one ⟨spot.concrete, fault⟩
  | .extended fault =>
    if a.failures = [] then a else a.andThen (one ⟨spot.concrete, some fault⟩)

/-- The records of the failures that have content. -/
def records (a : Account) : List Record := a.failures.filterMap Failure.record?

def result (a : Account) : Except VisitError (List Record) :=
  match a.error with
  | some e => .error e
  | none => .ok a.records

theorem andThen_of_none {a : Account} (h : a.error = none) (b : Account) :
    a.andThen b = ⟨a.failures ++ b.failures, b.error⟩ := by
  unfold andThen
  rw [h]

theorem andThen_of_some {a : Account} {e : VisitError} (h : a.error = some e) (b : Account) :
    a.andThen b = a := by
  unfold andThen
  rw [h]

theorem prefix_andThen (a b : Account) : a.failures <+: (a.andThen b).failures := by
  cases h : a.error with
  | some e => exact ⟨[], by rw [andThen_of_some h, List.append_nil]⟩
  | none => exact ⟨b.failures, by rw [andThen_of_none h]⟩

theorem andThen_ne_nil {a : Account} (h : a.failures ≠ []) (b : Account) :
    (a.andThen b).failures ≠ [] := by
  intro hab
  have hp := prefix_andThen a b
  rw [hab] at hp
  exact h (List.prefix_nil.mp hp)

end Account

/-! ## 2. The meaning of a scheme -/

/-- What every scope means, with a value or a null value, at a spot. -/
abbrev Meaning (V : Type) := ScopeId → Option V → Spot → Account

namespace Meaning

/-- A link: the values it reaches one after another, shown as it says. -/
def link (means : Meaning V) (v : V) (spot : Spot) (l : LinkStep V) : Account :=
  let here := spot.along l.path
  (Account.concat ((l.transition.reach v).map fun found =>
    means l.target (found.2.map Prod.fst) (here.into found.1))).shown l.showing here

/-- The steps of a scope, up to the first guard that the value does not pass. -/
def steps (means : Meaning V) (v : V) (spot : Spot) : List (Step V) → Account
  | [] => .nothing
  | .guard holds :: rest => if holds v then steps means v spot rest else .nothing
  | .rule rule :: rest =>
    let own : Account :=
      if applies rule.condition v && !rule.holds v then
        .one ⟨(spot.along rule.path).concrete, rule.fault⟩
      else .nothing
    own.andThen (steps means v spot rest)
  | .link l :: rest =>
    let behind : Account := if applies l.condition v then link means v spot l else .nothing
    behind.andThen (steps means v spot rest)

/-- A null value is a failure where one is required. -/
def missing (sc : Scope V) (spot : Spot) : Account :=
  match sc.presence with
  | .required fault => .one ⟨spot.concrete, fault⟩
  | .optional | .forbidden _ => .nothing

/-- A value is a failure where none may be; everywhere else its steps count. -/
def present (means : Meaning V) (sc : Scope V) (v : V) (spot : Spot) : Account :=
  match sc.presence with
  | .forbidden fault => .one ⟨spot.concrete, fault⟩
  | .required _ | .optional => steps means v spot sc.steps

/-- A scope with a value or a null value; some values count as null. -/
def body (means : Meaning V) (sc : Scope V) (value : Option V) (spot : Spot) : Account :=
  match value with
  | none => missing sc spot
  | some v => if sc.treatsAsNull v then missing sc spot else present means sc v spot

end Meaning

/-- What the scopes of a scheme mean, down to a depth. -/
def meaning (scheme : Scheme V) : (depth : Nat) → Meaning V
  | 0, _, _, _ => .lost .tooDeep
  | depth + 1, id, value, spot =>
    match scheme.scopes[id]? with
    | none => .lost (.unexpected ("scope " ++ scopeName id ++ " is not there"))
    | some sc => Meaning.body (meaning scheme depth) sc value spot

/-! ## 3. Going deeper -/

/-- The account is the other, or a beginning of it that ends with the bound on the depth. -/
def Cut (a b : Account) : Prop :=
  a = b ∨ (a.error = some .tooDeep ∧ a.failures <+: b.failures)

theorem cut_lost (b : Account) : Cut (.lost .tooDeep) b := .inr ⟨rfl, List.nil_prefix⟩

theorem Cut.andThen {a b c d : Account} (h : Cut a b) (h' : Cut c d) :
    Cut (a.andThen c) (b.andThen d) := by
  rcases h with rfl | ⟨he, hp⟩
  · cases ha : a.error with
    | some e => exact .inl (by rw [Account.andThen_of_some ha, Account.andThen_of_some ha])
    | none =>
      rw [Account.andThen_of_none ha, Account.andThen_of_none ha]
      rcases h' with rfl | ⟨hc, hq⟩
      · exact .inl rfl
      · exact .inr ⟨hc, (List.prefix_append_right_inj _).mpr hq⟩
  · rw [Account.andThen_of_some he]
    exact .inr ⟨he, hp.trans (b.prefix_andThen d)⟩

theorem Cut.shown {a b : Account} (h : Cut a b) (showing : Showing) (spot : Spot) :
    Cut (a.shown showing spot) (b.shown showing spot) := by
  rcases h with rfl | ⟨he, hp⟩
  · exact .inl rfl
  · by_cases ha : a.failures = []
    · have hs : a.shown showing spot = a := by cases showing <;> simp [Account.shown, ha]
      rw [hs]
      exact .inr ⟨he, ha ▸ List.nil_prefix⟩
    · have hb : b.failures ≠ [] := fun e => ha (List.prefix_nil.mp (e ▸ hp))
      cases showing with
      | nested => exact .inr ⟨he, hp⟩
      | replaced fault => exact .inl (by simp [Account.shown, ha, hb])
      | extended fault =>
        simp only [Account.shown, ha, hb, if_false]
        exact Cut.andThen (.inr ⟨he, hp⟩) (.inl rfl)

theorem cut_concat {α : Type} (list : List α) {f g : α → Account} (h : ∀ x, Cut (f x) (g x)) :
    Cut (Account.concat (list.map f)) (Account.concat (list.map g)) := by
  induction list with
  | nil => exact .inl rfl
  | cons x rest ih => exact (h x).andThen ih

/-- Meanings of which one is cut off earlier. -/
def Meaning.Cuts (shallow deep : Meaning V) : Prop :=
  ∀ id value spot, Cut (shallow id value spot) (deep id value spot)

section Deeper

variable {shallow deep : Meaning V} (hc : shallow.Cuts deep)
include hc

theorem cut_link (v : V) (spot : Spot) (l : LinkStep V) :
    Cut (shallow.link v spot l) (deep.link v spot l) :=
  Cut.shown (cut_concat _ fun _ => hc _ _ _) _ _

theorem cut_steps (v : V) (spot : Spot) (list : List (Step V)) :
    Cut (shallow.steps v spot list) (deep.steps v spot list) := by
  induction list with
  | nil => exact .inl rfl
  | cons step rest ih =>
    cases step with
    | guard holds =>
      simp only [Meaning.steps]
      split
      · exact ih
      · exact .inl rfl
    | rule rule => exact Cut.andThen (.inl rfl) ih
    | link l =>
      simp only [Meaning.steps]
      split
      · exact (cut_link hc v spot l).andThen ih
      · exact Cut.andThen (.inl rfl) ih

theorem cut_body (sc : Scope V) (value : Option V) (spot : Spot) :
    Cut (shallow.body sc value spot) (deep.body sc value spot) := by
  cases value with
  | none => exact .inl rfl
  | some v =>
    simp only [Meaning.body]
    split
    · exact .inl rfl
    · unfold Meaning.present
      cases sc.presence with
      | required fault => exact cut_steps hc v spot sc.steps
      | «optional» => exact cut_steps hc v spot sc.steps
      | forbidden fault => exact .inl rfl

end Deeper

theorem cuts_meaning (scheme : Scheme V) (depth more : Nat) :
    (meaning scheme depth).Cuts (meaning scheme (depth + more)) := by
  induction depth with
  | zero => exact fun _ _ _ => cut_lost _
  | succ depth ih =>
    intro id value spot
    rw [Nat.succ_add]
    unfold meaning
    split
    · exact .inl rfl
    · exact cut_body ih _ value spot

/-- **A deeper bound changes no account that the bound has not cut off.** -/
theorem meaning_deeper (scheme : Scheme V) (depth more : Nat) (id : ScopeId) (value : Option V)
    (spot : Spot) (h : (meaning scheme depth id value spot).error ≠ some .tooDeep) :
    meaning scheme (depth + more) id value spot = meaning scheme depth id value spot := by
  rcases cuts_meaning scheme depth more id value spot with same | ⟨cut, -⟩
  · exact same.symm
  · exact absurd cut h

end Assay.Visit
