import Assay.Proofs.Fault.Writes
import Assay.Proofs.Visit.Balance
import Assay.Proofs.Visit.Entries

/-!
# What a caller finds

Whatever part of a visit is called, and however the call ends, the caller finds the visit where it left
it. What was recorded meanwhile stands behind what was there, and this can be said of the map of faults
too: paths that came later stand behind the others, and faults behind those of their path.

* `Balanced mode scheme s t` -- what a caller in the state `s` finds in the state `t`;
* **`calls_balanced`** -- every call of a part of a visit is balanced, on every exit.
-/

namespace Assay.Visit

variable {V : Type}

/-- What has been recorded so far, by path. -/
def State.faults (s : State) : FaultMap := .ofRecords s.records

/-- **What a caller finds.** The levels, the active values, those of them that are looked for, and the
    number of replacing links are the same as before; faults have only been added behind others; no failure
    was forgotten and no stop taken back; a hit is kept, and outside of replacing links there is no new
    one. -/
structure Balanced (mode : Mode) (scheme : Scheme V) (s t : State) : Prop extends Keeps s t where
  references : t.references mode scheme = s.references mode scheme
  faults : s.faults.Begins t.faults

theorem Keeps.balanced {s t : State} (h : Keeps s t) (mode : Mode) (scheme : Scheme V) :
    Balanced mode scheme s t where
  toKeeps := h
  references := by rw [State.references, State.references, h.active]
  faults := FaultMap.begins_ofRecords h.records

/-- **Every call is balanced, on every exit.** Whatever the state in which a scope, a value reached by a
    link, the steps of a scope or a link is called, with or without loop protection, in a hurry or not, and
    whether it ends with an error or without one: the caller finds its levels, its active values and its
    replacing links as they were, and all that was recorded, counted or noticed before. -/
theorem calls_balanced (mode : Mode) (scheme : Scheme V) (depth : Nat) (s : State) :
    (∀ id value, Balanced mode scheme s (scope mode scheme depth id value s).state) ∧
    (∀ target place level segment value,
      Balanced mode scheme s
        (reached (scope mode scheme depth) target place level segment value s).state) ∧
    (∀ v place list,
      Balanced mode scheme s (steps mode (scope mode scheme depth) v place list s).state) ∧
    ∀ v place step,
      Balanced mode scheme s (link mode (scope mode scheme depth) v place step s).state := by
  have keeping := keeps_scope mode scheme depth
  refine ⟨fun id value => ?_, fun target place level segment value => ?_,
    fun v place list => ?_, fun v place step => ?_⟩
  · exact (keeping id value s).balanced mode scheme
  · exact (keeps_reached keeping target place level segment value s).balanced mode scheme
  · exact (keeps_steps keeping v place list s).balanced mode scheme
  · exact (keeps_link keeping v place step s).balanced mode scheme

/-- A list whose items fail and then lead back to themselves, behind a link that replaces faults. -/
def knots : Scheme Nat where
  rootType := "list"
  scopes := [
    ⟨"list", .optional, none, [.link ⟨none,
      .collection fun n => (List.range n).map fun i => (i, .part (toString i)), 1, some "Items",
      .replaced (some 0)⟩]⟩,
    ⟨"item", .optional, none, [.link ⟨none, .model, 1, some "Self", .nested⟩]⟩]
  registry := ⟨[]⟩
  template := FaultMap.empty
  resolved := []
  loopPossible := true

/-- An error two levels down and behind a replacing link gives the state back as it was. -/
example : scope ⟨false, true⟩ knots 4 0 (some (2, .model)) .start =
    ⟨.start, some (.referenceLoop "item" "Items.#0" "Items.#0.Self")⟩ := by decide

end Assay.Visit
