import Mathlib.Data.List.Nodup
import Assay.Proofs.Visit.Lockstep

/-!
# Guarded visits

A guarded visit differs from an unguarded one in a single place: it does not enter a value that the
scope is already inside of, if it can tell by where the value lies. Both keep the list of these values,
so as long as none is met again they go through the same states.

* `MetAgain scheme e entry` -- the entry is into a value that is active around it, and the error tells
  where it was entered and where it is met again;
* **`breaksOff_guarded`** -- a guarded visit is the unguarded one, or it breaks off at an entry that
  the unguarded one makes and that meets a value again;
* **`records_guarded`** -- so a guarded visit ends as the unguarded one, or with a loop.
-/

namespace Assay.Visit

variable {V : Type}

/-! ## 1. Values that are met again -/

/-- **The entry meets a value again**: the values of its scope have a size, there is one entry around it
    of the same scope with the same value, and the error has the paths of both. -/
def MetAgain (scheme : Scheme V) (e : VisitError) (entry : Entry) : Prop :=
  ∃ sc first, scheme.scopes[entry.value.scope]? = some sc ∧ sc.type.sized = true ∧
    first ∈ entry.around ∧ first.key = entry.value.key ∧
    (∀ a ∈ entry.around, a.key = entry.value.key → a = first) ∧
    e = .referenceLoop sc.typeName first.path entry.value.path

/-- Of entries around each other, two of one value are the same. -/
theorem Distinct.eq_of_key {scheme : Scheme V} {around : List Active} (h : Distinct scheme around)
    {a b : Active} (ha : a ∈ around) (hb : b ∈ around) (sized : scheme.sized b.scope = true)
    (same : a.key = b.key) : a = b := by
  have scope : a.scope = b.scope := congrArg Prod.fst same
  exact List.inj_on_of_nodup_map h (List.mem_filter.mpr ⟨ha, scope ▸ sized⟩)
    (List.mem_filter.mpr ⟨hb, sized⟩) same

/-- The next entry would have met a value again. -/
def Loops (scheme : Scheme V) : Reason :=
  fun e rest => ∃ entry more, rest = entry :: more ∧ MetAgain scheme e entry

theorem loops_lasting (scheme : Scheme V) : (Loops scheme).Lasting := by
  rintro e rest more ⟨entry, others, rfl, again⟩
  exact ⟨entry, others ++ more, rfl, again⟩

theorem MetAgain.again {scheme : Scheme V} {e : VisitError} {entry : Entry}
    (h : MetAgain scheme e entry) : entry.again scheme = true := by
  obtain ⟨sc, first, here, sized, mem, key, -, -⟩ := h
  have met : (entry.around.any fun a => a.key == entry.value.key) = true :=
    List.any_eq_true.mpr ⟨first, mem, beq_iff_eq.mpr key⟩
  rw [Entry.again, sized_of_scope here, sized, met, Bool.and_self]

/-! ## 2. Where the two part -/

/-- **A guarded visit is the unguarded one until a value is met again.** -/
theorem breaksOff_guarded (hurried : Bool) (scheme : Scheme V) (depth : Nat)
    (around : List Active) (distinct : Distinct scheme around) :
    Way.BreaksOff (Loops scheme) around (Way.scope ⟨hurried, true⟩ scheme depth)
      (Way.scope ⟨hurried, false⟩ scheme depth) := by
  induction depth generalizing around with
  | zero => exact fun _ _ _ _ => breaksOff_refl _
  | succ depth ih =>
    intro id value s hs
    unfold Way.scope scope Trace.scope
    cases here : scheme.scopes[id]? with
    | none => exact breaksOff_refl _
    | some sc =>
      refine breaksOff_body (Way.scope ⟨hurried, true⟩ scheme depth)
        (Way.scope ⟨hurried, false⟩ scheme depth) (fun v place => ?_) value
      simp only [inside, Trace.inside, Bool.false_and, Bool.false_eq_true, if_false]
      have looked : (if true && sc.type.sized then s.find? id place else none) = _ :=
        find?_references ⟨hurried, true⟩ here s place
      rw [looked]
      have pushed : (s.push id place).active = ⟨id, place, s.concrete s.path⟩ :: around :=
        congrArg (_ :: ·) hs
      cases met : (s.references ⟨hurried, true⟩ scheme).find? fun a =>
        a.scope == id && a.place == place with
      | some first =>
        -- the unguarded visit enters here, with `first` among what is around the entry
        obtain ⟨-, sized, mem, key⟩ := of_found met
        rw [hs] at mem
        have scope : first.scope = id := congrArg Prod.fst key
        refine .off _ _ rfl rfl ⟨_, _, rfl, sc, first, here, (sized_of_scope here).symm.trans sized,
          mem, key, fun a ha same => ?_, rfl⟩
        exact distinct.eq_of_key ha mem (scope ▸ sized) (same.trans key.symm)
      | none =>
        have fresh := fresh_of_not_found met rfl
        rw [hs] at fresh
        have inner := ih _ (distinct.cons (a := ⟨id, place, s.concrete s.path⟩) fresh)
        exact ((breaksOff_steps (loops_lasting scheme) (keeps_scope _ scheme depth) inner v place
          sc.steps pushed).map State.pop).behind [_]

/-! ## 3. Visits -/

/-- A guarded visit makes the records and the entries of the unguarded one, or it ends at the entry
    that comes next. -/
theorem guarded_cases (hurried : Bool) (scheme : Scheme V) (depth : Nat) (v : V) (place : Place) :
    (records ⟨hurried, true⟩ scheme depth v place = records ⟨hurried, false⟩ scheme depth v place ∧
      entries ⟨hurried, true⟩ scheme depth v place =
        entries ⟨hurried, false⟩ scheme depth v place) ∨
    ∃ e entry more, records ⟨hurried, true⟩ scheme depth v place = .error e ∧
      entries ⟨hurried, false⟩ scheme depth v place =
        entries ⟨hurried, true⟩ scheme depth v place ++ entry :: more ∧
      MetAgain scheme e entry := by
  cases breaksOff_guarded hurried scheme depth [] (distinct_nil scheme) scheme.root (some (v, place))
    .start rfl with
  | same same =>
    obtain ⟨outcomes, traces⟩ := Run.mk.inj same
    exact .inl ⟨congrArg Outcome.result outcomes, traces⟩
  | off e rest ends made reason =>
    obtain ⟨entry, more, rfl, again⟩ := reason
    exact .inr ⟨e, entry, more, Outcome.result_eq_error_iff.mpr ends, made, again⟩

/-- **A guarded visit records what the unguarded one does, unless it ends with a loop.** -/
theorem records_guarded (hurried : Bool) (scheme : Scheme V) (depth : Nat) (v : V) (place : Place) :
    records ⟨hurried, true⟩ scheme depth v place = records ⟨hurried, false⟩ scheme depth v place ∨
      ∃ name first second, records ⟨hurried, true⟩ scheme depth v place =
        .error (.referenceLoop name first second) := by
  rcases guarded_cases hurried scheme depth v place with ⟨same, -⟩ | ⟨e, entry, -, ends, -, again⟩
  · exact .inl same
  · obtain ⟨sc, first, -, -, -, -, -, rfl⟩ := again
    exact .inr ⟨_, _, _, ends⟩

end Assay.Visit
