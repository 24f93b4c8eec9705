import Mathlib.Data.List.TakeWhile
import Assay.Proofs.Visit.Calls

/-!
# Where guarded visits end

The entries of the unguarded visit say how the guarded one ends. As long as none of them meets a
value again the two visits are the same; the first one that does is where the guarded visit ends.

* `again_of_made` -- an entry of a guarded visit meets nothing again;
* `guarded_eq_or_stops` -- a guarded visit is the unguarded one, or what it has entered is all that
  the unguarded one enters before it meets a value again;
* **`guarded_visit_exact`** -- so the guarded visit ends with a loop exactly if the unguarded one
  meets a value again, and there.

**A value that is met beside itself is not met again.** The entry it had before is not active any
more, so it is not among those around the second one.
-/

namespace Assay.Visit

variable {V : Type}

/-! ## 1. The first entry that meets a value again -/

theorem find?_of_fresh {scheme : Scheme V} {list : List Entry}
    (h : ∀ e ∈ list, e.again scheme = false) : list.find? (Entry.again scheme) = none :=
  List.find?_eq_none.mpr fun e mem => by rw [h e mem]; exact Bool.false_ne_true

theorem again_of_made {mode : Mode} {scheme : Scheme V} {model : V} {place : Place} {e : Entry}
    (h : Made mode scheme model place e) (guarded : mode.guarded = true) :
    e.again scheme = false :=
  Entry.again_eq_false (h.fresh guarded)

/-- A guarded visit is the unguarded one, which meets nothing again; or it ends with a loop where the
    unguarded one meets a value again for the first time. -/
theorem guarded_eq_or_stops (hurried : Bool) (scheme : Scheme V) (depth : Nat) (model : V)
    (place : Place) :
    (records ⟨hurried, true⟩ scheme depth model place =
        records ⟨hurried, false⟩ scheme depth model place ∧
      entries ⟨hurried, true⟩ scheme depth model place =
        entries ⟨hurried, false⟩ scheme depth model place ∧
      ∀ e ∈ entries ⟨hurried, false⟩ scheme depth model place, e.again scheme = false) ∨
    ∃ error e before behind, records ⟨hurried, true⟩ scheme depth model place = .error error ∧
      MetAgain scheme error e ∧ entries ⟨hurried, true⟩ scheme depth model place = before ∧
      entries ⟨hurried, false⟩ scheme depth model place = before ++ e :: behind ∧
      ∀ earlier ∈ before, earlier.again scheme = false := by
  have fresh : ∀ e ∈ entries ⟨hurried, true⟩ scheme depth model place, e.again scheme = false :=
    fun e mem => again_of_made (explained_entries e mem) rfl
  rcases guarded_cases hurried scheme depth model place with ⟨same, traces⟩ |
    ⟨error, e, behind, ends, made, again⟩
  · exact .inl ⟨same, traces, traces ▸ fresh⟩
  · exact .inr ⟨error, e, _, behind, ends, again, rfl, made, fresh⟩

/-- An unguarded visit does not end with a loop. -/
theorem records_ne_loop {hurried : Bool} {scheme : Scheme V} {depth : Nat} {model : V}
    {place : Place} {name first second : String} :
    records ⟨hurried, false⟩ scheme depth model place ≠
      .error (.referenceLoop name first second) := by
  intro h
  cases explained_error h with
  | loop guarded => cases guarded

/-- **Loop protection is exact.** The entries of the unguarded visit down to any depth are a beginning
    of those further down, so all together they are one sequence, which may have no end. As long as
    none of them meets a value that is active around it, the guarded visit records what the unguarded
    one does. Otherwise it ends with a loop, at the first such entry and however deep it may go, with
    the paths of the active value and of the entry. It ends with a loop for no other reason, and it
    enters what the unguarded visit enters before that. -/
theorem guarded_visit_exact (hurried : Bool) (scheme : Scheme V) (depth : Nat) (model : V)
    (place : Place) :
    (∀ more, entries ⟨hurried, false⟩ scheme depth model place <+:
      entries ⟨hurried, false⟩ scheme (depth + more) model place) ∧
    (match (entries ⟨hurried, false⟩ scheme depth model place).find? (Entry.again scheme) with
      | none =>
        records ⟨hurried, true⟩ scheme depth model place =
          records ⟨hurried, false⟩ scheme depth model place
      | some e => ∃ error, MetAgain scheme error e ∧
        ∀ more, records ⟨hurried, true⟩ scheme (depth + more) model place = .error error) ∧
    (∀ name first second, records ⟨hurried, true⟩ scheme depth model place =
        .error (.referenceLoop name first second) →
      ∃ e ∈ entries ⟨hurried, false⟩ scheme depth model place, e.again scheme = true) ∧
    entries ⟨hurried, true⟩ scheme depth model place =
      (entries ⟨hurried, false⟩ scheme depth model place).takeWhile fun e => !e.again scheme := by
  refine ⟨fun more => entries_deeper _ scheme depth more model place, ?_⟩
  rcases guarded_eq_or_stops hurried scheme depth model place with
    ⟨same, traces, fresh⟩ | ⟨error, e, before, behind, ends, met, guarded, plain, fresh⟩
  · refine ⟨by rw [find?_of_fresh fresh]; exact same, fun name first second h => ?_, ?_⟩
    · exact absurd (same ▸ h) records_ne_loop
    · refine traces.trans (List.takeWhile_eq_self_iff.mpr fun e mem => ?_).symm
      rw [fresh e mem]
      rfl
  · have first : (before ++ e :: behind).find? (Entry.again scheme) = some e := by
      rw [List.find?_append, find?_of_fresh fresh, Option.none_or, List.find?_cons_of_pos met.again]
    have stop : (before ++ e :: behind).takeWhile (fun e => !e.again scheme) = before := by
      rw [List.takeWhile_append_of_pos fun e mem => by rw [fresh e mem]; rfl,
        List.takeWhile_cons_of_neg (by rw [met.again]; exact Bool.false_ne_true), List.append_nil]
    have ended : records ⟨hurried, true⟩ scheme depth model place ≠ .error .tooDeep := by
      obtain ⟨sc, active, -, -, -, -, -, rfl⟩ := met
      rw [ends]
      exact fun h => by cases h
    rw [plain, guarded, first, stop]
    exact ⟨⟨error, met, fun more => (records_deeper ended more).1.trans ends⟩,
      fun _ _ _ _ => ⟨e, List.mem_append_right _ List.mem_cons_self, met.again⟩, rfl⟩

/-- Pairs of which both sides are one leaf, and leaves with a number: behind a leaf other than zero
    there is the same leaf again. -/
def twins : Scheme Nat where
  rootType := "pair"
  scopes := [
    ⟨"pair", .optional, none, [
      .link ⟨none, .member "Left" fun n => some (n, .shared 1), 1, some "Left", .nested⟩,
      .link ⟨none, .member "Right" fun n => some (n, .shared 1), 1, some "Right", .nested⟩]⟩,
    ⟨"leaf", .optional, none, [
      .link ⟨none, .member "Next" fun n => if n = 0 then none else some (n, .shared 1), 1,
        some "Next", .nested⟩]⟩]
  registry := ⟨[]⟩
  template := FaultMap.empty
  resolved := []
  loopPossible := true

/-- The leaf is entered on the left and on the right, and never met again. -/
example : (entries ⟨false, false⟩ twins 3 0 .model).map (fun e => (e.value.path, e.again twins)) =
    [("", false), ("Left", false), ("Right", false)] := by decide

/-- The leaf is met behind itself, on the left already. -/
theorem guarded_visit_exact_twins :
    ∃ error e, (entries ⟨true, false⟩ twins 4 1 .model).find? (Entry.again twins) = some e ∧
      MetAgain twins error e ∧ error = .referenceLoop "leaf" "Left" "Left.Next" ∧
      ∀ more, records ⟨true, true⟩ twins (4 + more) 1 .model = .error error := by
  have here := (guarded_visit_exact true twins 4 1 .model).2.1
  have first : (entries ⟨true, false⟩ twins 4 1 .model).find? (Entry.again twins) =
      some ⟨⟨1, ⟨.shared 1, []⟩, "Left.Next"⟩,
        [⟨1, ⟨.shared 1, []⟩, "Left"⟩, ⟨0, .model, ""⟩]⟩ := by decide
  rw [first] at here
  obtain ⟨error, met, ends⟩ := here
  have loop : Except.error error = .error (.referenceLoop "leaf" "Left" "Left.Next") :=
    (ends 0).symm.trans (by rfl)
  exact ⟨error, _, first, met, by cases loop; rfl, ends⟩

end Assay.Visit
