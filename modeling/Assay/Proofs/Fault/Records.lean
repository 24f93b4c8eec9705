import Mathlib.Data.List.Induction
import Assay.Fault.Map
import Assay.Keyed

/-!
# Records in a map of faults

A map of faults is read by what it lists: `m.Lists path id` says that the fault `id` stands at `path`.
Writing to a map adds one such pair and changes no other, whichever way it is written to:

* `lists_push`, `lists_pushUnique` -- what a map lists after one more fault;
* **`lists_ofRecords`** -- the map of records lists exactly the records;
* `isEmpty_ofRecords` -- and it is empty only if there are none;
* `paths_push` -- a path that is new comes last; `mem_paths_ofRecords` -- the paths are those of the
  records;
* `ids_ofRecords` -- path by path it holds their faults, each as often as it was recorded.
-/

namespace Assay.FaultMap

/-! ## 1. What a map lists -/

/-- The fault stands at the path. -/
def Lists (m : FaultMap) (path : String) (id : FaultId) : Prop :=
  ∃ ids, m.get? path = some ids ∧ id ∈ ids

theorem get?_push (m : FaultMap) (path p : String) (id : FaultId) :
    (m.push path id).get? p =
      if p = path then some ((m.get? path).getD [] ++ [id]) else m.get? p := by
  obtain ⟨entries⟩ := m
  simp only [get?, push]
  induction entries with
  | nil =>
    rw [pushInto, Keyed.lookup_cons_if]
    rfl
  | cons entry rest ih =>
    obtain ⟨q, ids⟩ := entry
    unfold pushInto
    by_cases hq : q = path
    · subst hq
      rw [if_pos rfl, Keyed.lookup_cons_if, Keyed.lookup_cons_if, Keyed.lookup_cons_if, if_pos rfl]
      by_cases h : p = q
      · rw [if_pos h, if_pos h]
        rfl
      · rw [if_neg h, if_neg h, if_neg h]
    · rw [if_neg hq, Keyed.lookup_cons_if, Keyed.lookup_cons_if, Keyed.lookup_cons_if,
        if_neg (Ne.symm hq), ih]
      by_cases hp : p = q
      · subst hp
        rw [if_pos rfl, if_neg hq, if_pos rfl]
      · rw [if_neg hp, if_neg hp]

theorem lists_push (m : FaultMap) (path p : String) (id i : FaultId) :
    (m.push path id).Lists p i ↔ m.Lists p i ∨ (p = path ∧ i = id) := by
  unfold Lists
  rw [get?_push]
  by_cases h : p = path
  · subst h
    cases m.get? p <;> simp
  · simp [h]

theorem lists_pushUnique (m : FaultMap) (path p : String) (id i : FaultId) :
    (m.pushUnique path id).Lists p i ↔ m.Lists p i ∨ (p = path ∧ i = id) := by
  unfold pushUnique
  split
  · rename_i hc
    constructor
    · exact Or.inl
    · rintro (h | ⟨rfl, rfl⟩)
      · exact h
      · have hmem : i ∈ (m.get? p).getD [] := by simpa using hc
        cases hg : m.get? p with
        | none => rw [hg] at hmem; exact absurd hmem List.not_mem_nil
        | some ids => exact ⟨ids, hg, by rw [hg] at hmem; exact hmem⟩
  · exact lists_push m path p id i

theorem not_lists_empty (p : String) (i : FaultId) : ¬ empty.Lists p i := by
  rintro ⟨ids, h, -⟩
  cases h

/-! ## 2. The map of records -/

theorem lists_foldl (records : List Record) (m : FaultMap) (p : String) (i : FaultId) :
    (records.foldl (fun m r => m.push r.path r.fault) m).Lists p i ↔
      m.Lists p i ∨ (⟨p, i⟩ : Record) ∈ records := by
  induction records generalizing m with
  | nil => simp
  | cons r rest ih =>
    rw [List.foldl_cons, ih, lists_push, List.mem_cons, Record.mk.injEq, or_assoc]

/-- **The map of records lists the records.** -/
theorem lists_ofRecords (records : List Record) (p : String) (i : FaultId) :
    (ofRecords records).Lists p i ↔ (⟨p, i⟩ : Record) ∈ records := by
  rw [ofRecords, lists_foldl]
  exact or_iff_right (not_lists_empty p i)

theorem isEmpty_push (m : FaultMap) (path : String) (id : FaultId) :
    (m.push path id).isEmpty = false := by
  obtain ⟨entries⟩ := m
  cases entries with
  | nil => rfl
  | cons entry rest =>
    simp only [isEmpty, push, pushInto]
    split <;> rfl

theorem isEmpty_ofRecords (records : List Record) :
    (ofRecords records).isEmpty = records.isEmpty := by
  rcases List.eq_nil_or_concat records with rfl | ⟨init, r, rfl⟩
  · rfl
  · simp [ofRecords, isEmpty_push]

theorem map_pushInto (path : String) (id : FaultId) (entries : List (String × List FaultId)) :
    (pushInto path id entries).map Prod.fst = if path ∈ entries.map Prod.fst then
      entries.map Prod.fst else entries.map Prod.fst ++ [path] := by
  induction entries with
  | nil => rfl
  | cons entry rest ih =>
    obtain ⟨p, ids⟩ := entry
    unfold pushInto
    by_cases here : p = path
    · simp [here]
    · rw [if_neg here, List.map_cons, List.map_cons, ih]
      by_cases later : path ∈ rest.map Prod.fst
      · rw [if_pos later, if_pos (List.mem_cons_of_mem _ later)]
      · have fresh : path ∉ p :: rest.map Prod.fst := fun mem =>
          (List.mem_cons.mp mem).elim (fun same => here same.symm) later
        rw [if_neg later, if_neg fresh, List.cons_append]

/-- A path that is written to for the first time comes last. -/
theorem paths_push (m : FaultMap) (path : String) (id : FaultId) :
    (m.push path id).paths = if path ∈ m.paths then m.paths else m.paths ++ [path] :=
  map_pushInto path id m.entries

theorem mem_paths_push {m : FaultMap} {path p : String} {id : FaultId}
    (h : p ∈ (m.push path id).paths) : p ∈ m.paths ∨ p = path := by
  rw [paths_push] at h
  split at h
  · exact .inl h
  · exact (List.mem_append.mp h).imp_right List.mem_singleton.mp

theorem mem_paths_pushUnique {m : FaultMap} {path p : String} {id : FaultId}
    (h : p ∈ (m.pushUnique path id).paths) : p ∈ m.paths ∨ p = path := by
  unfold pushUnique at h
  split at h
  · exact .inl h
  · exact mem_paths_push h

/-- The paths of the map are those of the records. -/
theorem mem_paths_ofRecords {records : List Record} {p : String}
    (h : p ∈ (ofRecords records).paths) : ∃ r ∈ records, r.path = p := by
  induction records using List.reverseRecOn with
  | nil => exact absurd h List.not_mem_nil
  | append_singleton records r ih =>
    rw [ofRecords, List.foldl_append] at h
    rcases mem_paths_push h with h | rfl
    · obtain ⟨other, mem, same⟩ := ih h
      exact ⟨other, List.mem_append_left _ mem, same⟩
    · exact ⟨r, List.mem_append_right _ List.mem_cons_self, rfl⟩

/-! ## 3. All faults of a map -/

theorem ids_push (m : FaultMap) (path : String) (id : FaultId) :
    (m.push path id).ids.Perm (id :: m.ids) := by
  obtain ⟨entries⟩ := m
  simp only [ids, push]
  induction entries with
  | nil => exact List.Perm.refl _
  | cons entry rest ih =>
    obtain ⟨q, ids⟩ := entry
    unfold pushInto
    split
    · rw [List.flatMap_cons, List.flatMap_cons, List.append_assoc]
      exact List.perm_middle
    · rw [List.flatMap_cons, List.flatMap_cons]
      exact (ih.append_left ids).trans List.perm_middle

theorem mem_ids_pushUnique {m : FaultMap} {path : String} {id i : FaultId}
    (h : i ∈ (m.pushUnique path id).ids) : i ∈ m.ids ∨ i = id := by
  unfold pushUnique at h
  split at h
  · exact .inl h
  · exact (List.mem_cons.mp ((ids_push m path id).mem_iff.mp h)).symm

theorem ids_foldl (records : List Record) (m : FaultMap) :
    (records.foldl (fun m r => m.push r.path r.fault) m).ids.Perm
      (records.map (·.fault) ++ m.ids) := by
  induction records generalizing m with
  | nil => exact List.Perm.refl _
  | cons r rest ih =>
    have later := ih (m.push r.path r.fault)
    exact later.trans (((ids_push m r.path r.fault).append_left _).trans List.perm_middle)

/-- **The map of records holds the faults of the records.** -/
theorem ids_ofRecords (records : List Record) :
    (ofRecords records).ids.Perm (records.map (·.fault)) := by
  have all := ids_foldl records empty
  rwa [show empty.ids = [] from rfl, List.append_nil] at all

end Assay.FaultMap
