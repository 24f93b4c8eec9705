import Assay.Proofs.Fault.Records
import Assay.Proofs.FirstOccurrence

/-!
# Maps of faults, write by write

A map of faults is written to in two ways: a fault is put behind the others of its path, or it is put
there unless the path has it already. This file says what a map holds after any row of writes, as a
list of its entries.

* `Write` -- one write, of the one kind or the other; `ofWrites` puts a row of them into a map;
* `leftAt path writes` -- the faults that they leave at a path;
* `get?_ofWrites` -- what is found at a path; `paths_ofWrites` -- the paths in the order in which they
  were first written to;
* **`entries_ofWrites`** -- so each path has one entry, in that order, with what was left at it;
* `ofRecords_eq` -- records are a row of writes of one kind;
* `Begins` -- one map is the beginning of another; `begins_write`, **`begins_ofWrites`** -- a write takes
  nothing back and moves nothing, and so does no row of them.
-/

namespace Assay.FaultMap

/-! ## 1. Writes -/

/-- A fault written at a path: behind the others in any case, or only once. -/
structure Write where
  path : String
  fault : FaultId
  once : Bool
  deriving DecidableEq, Repr

/-- The map with one more write. -/
def write (m : FaultMap) (w : Write) : FaultMap :=
  if w.once then m.pushUnique w.path w.fault else m.push w.path w.fault

/-- The map of a row of writes. -/
def ofWrites (writes : List Write) : FaultMap := writes.foldl write empty

/-- What a write makes of the faults at its path. -/
def Write.into (ids : List FaultId) (w : Write) : List FaultId :=
  if w.once = true ∧ w.fault ∈ ids then ids else ids ++ [w.fault]

/-- The faults that writes leave at a path. -/
def leftAt (path : String) (writes : List Write) : List FaultId :=
  (writes.filter (·.path = path)).foldl Write.into []

theorem ofWrites_concat (writes : List Write) (w : Write) :
    ofWrites (writes ++ [w]) = (ofWrites writes).write w := by
  rw [ofWrites, List.foldl_append]
  rfl

theorem leftAt_concat (path : String) (writes : List Write) (w : Write) :
    leftAt path (writes ++ [w]) =
      if w.path = path then w.into (leftAt path writes) else leftAt path writes := by
  rw [leftAt, List.filter_append]
  by_cases here : w.path = path
  · rw [List.filter_cons_of_pos (by simpa using here), List.filter_nil, List.foldl_append,
      if_pos here]
    rfl
  · rw [List.filter_cons_of_neg (by simpa using here), List.filter_nil, List.append_nil,
      if_neg here]
    rfl

/-! ## 2. What one write does -/

/-- A path is one of the map if something is found at it. -/
theorem mem_paths_iff (m : FaultMap) (path : String) : path ∈ m.paths ↔ (m.get? path).isSome := by
  obtain ⟨entries⟩ := m
  simp only [paths, get?]
  induction entries with
  | nil => simp
  | cons entry rest ih =>
    obtain ⟨p, ids⟩ := entry
    rw [List.map_cons, List.mem_cons, Keyed.lookup_cons_if, ih]
    by_cases here : path = p
    · simp [here]
    · simp [here]

/-- **A write changes nothing, or it is a push.** -/
theorem write_cases (m : FaultMap) (w : Write) :
    (∃ ids, m.get? w.path = some ids ∧ w.into ids = ids ∧ m.write w = m) ∨
      (w.into ((m.get? w.path).getD []) = (m.get? w.path).getD [] ++ [w.fault] ∧
        m.write w = m.push w.path w.fault) := by
  unfold write Write.into
  by_cases once : w.once = true
  · rw [if_pos once, pushUnique]
    by_cases known : w.fault ∈ (m.get? w.path).getD []
    · refine .inl ?_
      rw [if_pos (List.contains_iff_mem.mpr known)]
      cases found : m.get? w.path with
      | none =>
        rw [found] at known
        exact absurd known List.not_mem_nil
      | some ids =>
        rw [found] at known
        exact ⟨ids, rfl, if_pos ⟨once, known⟩, rfl⟩
    · refine .inr ⟨if_neg fun h => known h.2, ?_⟩
      rw [if_neg fun mem => known (List.contains_iff_mem.mp mem)]
  · exact .inr ⟨if_neg fun h => once h.1, if_neg once⟩

theorem get?_write (m : FaultMap) (w : Write) (path : String) :
    (m.write w).get? path =
      if path = w.path then some (w.into ((m.get? w.path).getD [])) else m.get? path := by
  rcases write_cases m w with ⟨ids, found, same, unchanged⟩ | ⟨grown, pushed⟩
  · rw [unchanged, found, Option.getD_some, same]
    split
    · rename_i here
      rw [here, found]
    · rfl
  · rw [pushed, get?_push, grown]

theorem paths_write (m : FaultMap) (w : Write) :
    (m.write w).paths = if w.path ∈ m.paths then m.paths else m.paths ++ [w.path] := by
  rcases write_cases m w with ⟨ids, found, -, unchanged⟩ | ⟨-, pushed⟩
  · have there : w.path ∈ m.paths := by
      rw [mem_paths_iff, found]
      rfl
    rw [unchanged, if_pos there]
  · rw [pushed, paths_push]

/-! ## 3. What writes leave -/

/-- **Paths stand in the order in which they were first written to.** -/
theorem paths_ofWrites (writes : List Write) :
    (ofWrites writes).paths = (writes.map (·.path)).eraseDups := by
  induction writes using List.reverseRecOn with
  | nil => rfl
  | append_singleton writes w ih =>
    rw [ofWrites_concat, paths_write, List.map_append, List.map_singleton, eraseDups_concat, ih]
    simp only [List.mem_eraseDups]

/-- Nothing is left at a path that was never written to. -/
theorem leftAt_of_never {writes : List Write} {path : String}
    (never : path ∉ writes.map (·.path)) : leftAt path writes = [] := by
  have none : writes.filter (·.path = path) = [] := List.filter_eq_nil_iff.mpr fun w mem same =>
    never (List.mem_map.mpr ⟨w, mem, of_decide_eq_true same⟩)
  rw [leftAt, none]
  rfl

/-- **What is found at a path is what was left there.** -/
theorem get?_ofWrites (writes : List Write) (path : String) :
    (ofWrites writes).get? path =
      if path ∈ writes.map (·.path) then some (leftAt path writes) else none := by
  induction writes using List.reverseRecOn with
  | nil => rfl
  | append_singleton writes w ih =>
    have before : ((ofWrites writes).get? path).getD [] = leftAt path writes := by
      rw [ih]
      split
      · rfl
      · rename_i never
        exact (leftAt_of_never never).symm
    rw [ofWrites_concat, get?_write, leftAt_concat, List.map_append, List.map_singleton]
    by_cases here : path = w.path
    · rw [if_pos here, ← here, before, if_pos rfl, if_pos (List.mem_concat_self)]
    · rw [if_neg here, if_neg (Ne.symm here), ih]
      simp [here]

theorem getD_get?_ofWrites (writes : List Write) (path : String) :
    ((ofWrites writes).get? path).getD [] = leftAt path writes := by
  rw [get?_ofWrites]
  split
  · rfl
  · rename_i never
    exact (leftAt_of_never never).symm

/-- A map without repeated paths is what is found at its paths. -/
theorem entries_eq {m : FaultMap} (once : m.paths.Nodup) :
    m.entries = m.paths.map fun path => (path, (m.get? path).getD []) := by
  obtain ⟨entries⟩ := m
  simp only [paths, get?] at once ⊢
  induction entries with
  | nil => rfl
  | cons entry rest ih =>
    obtain ⟨p, ids⟩ := entry
    rw [List.map_cons, List.nodup_cons] at once
    rw [List.map_cons, List.map_cons, Keyed.lookup_cons_if, if_pos rfl]
    refine congrArg (_ :: ·) ((ih once.2).trans (List.map_congr_left fun path mem => ?_))
    have other : path ≠ p := fun same => once.1 (same ▸ mem)
    rw [Keyed.lookup_cons_if, if_neg other]

/-- **Each path has one entry**, in the order of first writes, with what was left at it. -/
theorem entries_ofWrites (writes : List Write) :
    (ofWrites writes).entries =
      (writes.map (·.path)).eraseDups.map fun path => (path, leftAt path writes) := by
  have paths := paths_ofWrites writes
  rw [entries_eq (paths ▸ nodup_eraseDups _), paths]
  refine List.map_congr_left fun path mem => ?_
  rw [get?_ofWrites, if_pos (List.mem_eraseDups.mp mem)]
  rfl

/-! ## 4. Writes of one kind -/

/-- A record put behind the others. -/
def each (r : Record) : Write := ⟨r.path, r.fault, false⟩

/-- A record put there once. -/
def once (r : Record) : Write := ⟨r.path, r.fault, true⟩

theorem ofRecords_eq (records : List Record) : ofRecords records = ofWrites (records.map each) := by
  rw [ofRecords, ofWrites, List.foldl_map]
  rfl

/-! ## 5. Maps that grow -/

/-- The beginning of a map: its paths come first in the map, and at each of them its faults do. -/
structure Begins (m more : FaultMap) : Prop where
  paths : m.paths <+: more.paths
  faults : ∀ path ids, m.get? path = some ids → ∃ all, more.get? path = some all ∧ ids <+: all

theorem Begins.refl (m : FaultMap) : m.Begins m :=
  ⟨List.prefix_refl _, fun _ ids found => ⟨ids, found, List.prefix_refl _⟩⟩

theorem Begins.trans {m more most : FaultMap} (h : m.Begins more) (h' : more.Begins most) :
    m.Begins most where
  paths := h.paths.trans h'.paths
  faults path ids found := by
    obtain ⟨early, found, first⟩ := h.faults path ids found
    obtain ⟨all, found, next⟩ := h'.faults path early found
    exact ⟨all, found, first.trans next⟩

theorem Write.prefix_into (ids : List FaultId) (w : Write) : ids <+: w.into ids := by
  unfold Write.into
  split
  · exact List.prefix_refl ids
  · exact List.prefix_append ids _

/-- **A write takes nothing back and moves nothing.** -/
theorem begins_write (m : FaultMap) (w : Write) : m.Begins (m.write w) where
  paths := by
    rw [paths_write]
    split
    · exact List.prefix_refl _
    · exact List.prefix_append _ _
  faults path ids found := by
    rw [get?_write]
    split
    · rename_i here
      rw [← here, found, Option.getD_some]
      exact ⟨_, rfl, w.prefix_into ids⟩
    · exact ⟨ids, found, List.prefix_refl ids⟩

/-- Writes are the beginning of more writes. -/
theorem begins_ofWrites (writes more : List Write) :
    (ofWrites writes).Begins (ofWrites (writes ++ more)) := by
  induction more using List.reverseRecOn with
  | nil =>
    rw [List.append_nil]
    exact Begins.refl _
  | append_singleton more w ih =>
    rw [← List.append_assoc, ofWrites_concat]
    exact ih.trans (begins_write _ w)

/-- Records are the beginning of more records. -/
theorem begins_ofRecords {before after : List Record} (h : before <+: after) :
    (ofRecords before).Begins (ofRecords after) := by
  obtain ⟨more, rfl⟩ := h
  rw [ofRecords_eq, ofRecords_eq, List.map_append]
  exact begins_ofWrites _ _

end Assay.FaultMap
