import Mathlib.Data.List.Induction
import Mathlib.Data.List.Nodup

/-!
# First occurrences

A list with only the first occurrence of each item (`List.eraseDups`) is how an order of discovery is
written down: of the specifications that are referred to, of the paths that faults are recorded at, and
of the faults in a registry, which are told apart by an equality of their own.

* `eraseDups_snoc`, `eraseDups_concat` -- one more item is new or changes nothing;
* `any_eraseDups` -- what is equal to an item is equal to a first occurrence;
* `pairwise_eraseDups`, `nodup_eraseDups` -- no item is there twice;
* `eraseDups_prefix`, `eraseDups_append_of_subset`, `eraseDups_append_congr` -- what comes behind;
* **`eraseDups_append_flatMap`** -- reading an item once more brings nothing new;
* `eraseDups_filterMap` -- what is read off the first occurrences, if no two items read alike.
-/

namespace Assay

/-! ## 1. Up to an equivalence -/

section

variable {α : Type} [BEq α] [EquivBEq α]

/-- One more item is new or equal to one that is there. -/
theorem eraseDups_snoc (l : List α) (a : α) :
    (l ++ [a]).eraseDups = if l.any (· == a) then l.eraseDups else l.eraseDups ++ [a] := by
  match l with
  | [] => simp [List.eraseDups_cons]
  | b :: rest =>
    have ih := eraseDups_snoc (rest.filter fun c => !c == b) a
    rw [List.cons_append, List.eraseDups_cons, List.filter_append, List.any_cons,
      List.eraseDups_cons]
    cases same : a == b with
    | true =>
      have again : (b == a) = true := BEq.symm same
      simp [same, again]
    | false =>
      have other : (b == a) = false := by rw [BEq.comm, same]
      -- the first item takes away nothing that is equal to the new one
      have kept : (rest.filter fun c => !c == b).any (· == a) = rest.any (· == a) := by
        rw [List.any_filter]
        refine congrArg rest.any (funext fun c => ?_)
        cases near : c == a with
        | false => rw [Bool.and_false]
        | true =>
          have apart : (c == b) = false := (BEq.congr_left near).trans same
          rw [apart]
          rfl
      have last : [a].filter (fun c => !c == b) = [a] := by simp [same]
      rw [last, ih, kept, other, Bool.false_or]
      split <;> rfl
termination_by l.length
decreasing_by exact Nat.lt_succ_of_le (List.length_filter_le _ _)

/-- What is equal to an item of a list is equal to one of the first occurrences. -/
theorem any_eraseDups (l : List α) (a : α) : l.eraseDups.any (· == a) = l.any (· == a) := by
  induction l using List.reverseRecOn with
  | nil => rfl
  | append_singleton l b ih =>
    rw [eraseDups_snoc, List.any_append]
    split
    · rename_i again
      rw [ih]
      cases same : b == a with
      | false => simp [same]
      | true =>
        have alike : (fun c => c == b) = fun c : α => c == a := funext fun c => BEq.congr_right same
        rw [alike] at again
        simp [again]
    · rw [List.any_append, ih]

/-- **No two first occurrences are equal.** -/
theorem pairwise_eraseDups (l : List α) : l.eraseDups.Pairwise fun a b => (a == b) = false := by
  induction l using List.reverseRecOn with
  | nil => exact .nil
  | append_singleton l a ih =>
    rw [eraseDups_snoc]
    split
    · exact ih
    · rename_i fresh
      rw [Bool.not_eq_true, ← any_eraseDups, List.any_eq_false] at fresh
      exact List.pairwise_append.mpr ⟨ih, List.pairwise_singleton _ _, fun b hb c hc => by
        rw [List.mem_singleton.mp hc]
        simpa using fresh b hb⟩

end

/-! ## 2. Up to identity -/

variable {α : Type} [BEq α] [LawfulBEq α]

theorem eraseDups_concat [DecidableEq α] (l : List α) (a : α) :
    (l ++ [a]).eraseDups = if a ∈ l then l.eraseDups else l.eraseDups ++ [a] := by
  rw [eraseDups_snoc]
  exact if_congr (by simp) rfl rfl

theorem nodup_eraseDups [DecidableEq α] (l : List α) : l.eraseDups.Nodup :=
  (pairwise_eraseDups l).imp fun apart => by simpa using apart

theorem eraseDups_prefix (l more : List α) : l.eraseDups <+: (l ++ more).eraseDups := by
  rw [List.eraseDups_append]
  exact List.prefix_append _ _

/-- Items that were there already change nothing. -/
theorem eraseDups_append_of_subset [DecidableEq α] {l more : List α} (known : more ⊆ l) :
    (l ++ more).eraseDups = l.eraseDups := by
  induction more using List.reverseRecOn with
  | nil => rw [List.append_nil]
  | append_singleton more a ih =>
    obtain ⟨front, last⟩ := List.append_subset.mp known
    have old : a ∈ l ++ more := List.mem_append_left _ (last List.mem_cons_self)
    rw [← List.append_assoc, eraseDups_concat, if_pos old, ih front]

/-- What comes behind a list depends on its first occurrences only. -/
theorem eraseDups_append_congr [DecidableEq α] {l m : List α} (same : l.eraseDups = m.eraseDups)
    (more : List α) : (l ++ more).eraseDups = (m ++ more).eraseDups := by
  induction more using List.reverseRecOn with
  | nil => rwa [List.append_nil, List.append_nil]
  | append_singleton more a ih =>
    have met : a ∈ l ++ more ↔ a ∈ m ++ more := by
      rw [← List.mem_eraseDups, ih, List.mem_eraseDups]
    rw [← List.append_assoc, ← List.append_assoc, eraseDups_concat, eraseDups_concat, ih]
    simp only [met]

/-- **Reading an item once more brings nothing new**, wherever it stands. -/
theorem eraseDups_append_flatMap {β : Type} [DecidableEq β] [DecidableEq α] (front : List α)
    (items : List β) (read : β → List α) :
    (front ++ items.eraseDups.flatMap read).eraseDups =
      (front ++ items.flatMap read).eraseDups := by
  induction items using List.reverseRecOn with
  | nil => rfl
  | append_singleton items b ih =>
    rw [List.flatMap_append, List.flatMap_singleton, ← List.append_assoc, eraseDups_concat]
    split
    · rename_i again
      rw [ih, eraseDups_append_of_subset fun a mem => List.mem_append_right _
        (List.mem_flatMap.mpr ⟨b, again, mem⟩)]
    · rw [List.flatMap_append, List.flatMap_singleton, ← List.append_assoc]
      exact eraseDups_append_congr ih _

/-- If no two items read alike, what is read off the first occurrences are the first occurrences of what
    is read. -/
theorem eraseDups_filterMap {β : Type} [DecidableEq α] [BEq β] [LawfulBEq β] [DecidableEq β]
    {read : α → Option β} (apart : ∀ a b c, read a = some c → read b = some c → a = b)
    (items : List α) : (items.filterMap read).eraseDups = items.eraseDups.filterMap read := by
  induction items using List.reverseRecOn with
  | nil => rfl
  | append_singleton items a ih =>
    rw [List.filterMap_append, eraseDups_concat]
    cases found : read a with
    | none =>
      rw [List.filterMap_cons_none found, List.filterMap_nil, List.append_nil, ih]
      split
      · rfl
      · rw [List.filterMap_append, List.filterMap_cons_none found, List.filterMap_nil,
          List.append_nil]
    | some c =>
      have again : c ∈ items.filterMap read ↔ a ∈ items := by
        rw [List.mem_filterMap]
        constructor
        · rintro ⟨b, mem, same⟩
          exact apart b a c same found ▸ mem
        · exact fun mem => ⟨a, mem, found⟩
      rw [List.filterMap_cons_some found, List.filterMap_nil, eraseDups_concat, ih]
      simp only [again]
      split
      · rfl
      · rw [List.filterMap_append, List.filterMap_cons_some found, List.filterMap_nil]

end Assay
