import Std.Data.HashMap.Lemmas
import Assay.Proofs.Fault.Writes

/-!
# Entries found by position

A map of faults looks for a path by going through its entries. A table from paths to positions finds the
entry of a path at once, but has to be kept in step with the entries: a position that is not one of theirs
cannot be read at all, and one of another path gives the wrong faults.

* `Positioned` -- entries with a table of their positions; reading a position without an entry is an error;
* `Aligned x m` -- the entries are those of the map `m`, and the table has the first position of each path;
* `Aligned.get?`, `Aligned.push`, `Aligned.pushUnique` -- then reading and writing find an entry at every
  position they look at, do what the map does, and keep both in step;
* **`aligned_ofWrites`** -- so does any row of writes;
* **`multimap_of_writes`** -- what a map of faults is after a row of writes, with a table or without.
-/

namespace Assay.FaultMap

variable {m : FaultMap} {path : String} {id : FaultId} {position : Nat}

/-! ## 1. Positions of paths -/

/-- Behind entries of other paths, a fault that is put behind the others of its path leaves them alone. -/
theorem pushInto_behind {front : List (String × List FaultId)} (others : path ∉ front.map Prod.fst)
    (id : FaultId) (entries : List (String × List FaultId)) :
    pushInto path id (front ++ entries) = front ++ pushInto path id entries := by
  induction front with
  | nil => rfl
  | cons entry rest ih =>
    obtain ⟨p, ids⟩ := entry
    rw [List.map_cons, List.mem_cons, not_or] at others
    rw [List.cons_append, pushInto, if_neg (Ne.symm others.1), ih others.2, List.cons_append]

/-- The entry of a path stands behind entries of other paths, as many as its position says. -/
theorem cut_at_position (h : m.paths.idxOf? path = some position) :
    ∃ front ids behind, m.entries = front ++ (path, ids) :: behind ∧ front.length = position ∧
      path ∉ front.map Prod.fst := by
  obtain ⟨inside, here, first⟩ := List.idxOf?_eq_some_iff.mp h
  simp only [paths, List.length_map, List.getElem_map] at inside here first
  refine ⟨m.entries.take position, m.entries[position].2, m.entries.drop (position + 1), ?_,
    List.length_take_of_le (Nat.le_of_lt inside), fun earlier => ?_⟩
  · rw [← here, ← List.drop_eq_getElem_cons inside, List.take_append_drop]
  · obtain ⟨entry, mem, same⟩ := List.mem_map.mp earlier
    obtain ⟨j, before, rfl⟩ := List.mem_take_iff_getElem.mp mem
    exact first j (Nat.lt_of_lt_of_le before (Nat.min_le_left _ _)) same

/-- **At the position of a path there is its entry**, with what is found at the path, and a fault that is
    recorded there changes this entry only. -/
theorem entry_of_position (h : m.paths.idxOf? path = some position) :
    ∃ ids, m.entries[position]? = some (path, ids) ∧ m.get? path = some ids ∧
      ∀ id, (m.push path id).entries = m.entries.set position (path, ids ++ [id]) := by
  obtain ⟨front, ids, behind, cut, rfl, others⟩ := cut_at_position h
  have unknown : front.lookup path = none := by
    rw [List.lookup_eq_none_iff]
    rintro ⟨p, faults⟩ mem
    exact bne_iff_ne.mpr fun same => others (List.mem_map.mpr ⟨_, mem, same.symm⟩)
  refine ⟨ids, ?_, ?_, fun id => ?_⟩
  · rw [cut, List.getElem?_append_right (Nat.le_refl _), Nat.sub_self, List.getElem?_cons_zero]
  · rw [get?, cut, List.lookup_append, unknown, Option.none_or, List.lookup_cons_self]
  · rw [push, cut, pushInto_behind others, pushInto, if_pos rfl,
      List.set_append_right _ _ (Nat.le_refl _), Nat.sub_self, List.set_cons_zero]

/-- A path without a position gets an entry of its own, behind the others. -/
theorem push_of_new (h : path ∉ m.paths) :
    (m.push path id).entries = m.entries ++ [(path, [id])] := by
  have behind := pushInto_behind h id []
  rwa [List.append_nil] at behind

/-- It gets the next position, and the others keep theirs. -/
theorem position_concat {paths : List String} (new : path ∉ paths) (other : String) :
    (paths ++ [path]).idxOf? other =
      if path == other then some paths.length else paths.idxOf? other := by
  rw [List.idxOf?, List.findIdx?_append, List.findIdx?_singleton]
  by_cases same : path = other
  · have missing : paths.findIdx? (· == other) = none := List.idxOf?_eq_none_iff.mpr (same ▸ new)
    simp [missing, same]
  · simp [same]

/-- Where no path is repeated, the position of a path is the one its entry has. -/
theorem position_iff (once : m.paths.Nodup) :
    m.paths.idxOf? path = some position ↔ ∃ ids, m.entries[position]? = some (path, ids) := by
  constructor
  · intro h
    obtain ⟨ids, there, -⟩ := entry_of_position h
    exact ⟨ids, there⟩
  · rintro ⟨ids, there⟩
    have here : m.paths[position]? = some path := by rw [paths, List.getElem?_map, there]; rfl
    obtain ⟨inside, same⟩ := List.getElem?_eq_some_iff.mp here
    refine List.idxOf?_eq_some_iff.mpr ⟨inside, same, fun j before again => ?_⟩
    have twice := once.getElem_inj_iff.mp (again.trans same.symm)
    exact absurd twice (Nat.ne_of_lt before)

/-! ## 2. A table beside the entries -/

/-- Entries with a table of their positions. -/
structure Positioned where
  entries : List (String × List FaultId)
  positions : Std.HashMap String Nat

namespace Positioned

def empty : Positioned := ⟨[], ∅⟩

/-- The entry at a position. A position without an entry is the error. -/
def entryAt (x : Positioned) (position : Nat) : Except Nat (String × List FaultId) :=
  match x.entries[position]? with
  | some entry => .ok entry
  | none => .error position

/-- The faults recorded at a path. -/
def get? (x : Positioned) (path : String) : Except Nat (Option (List FaultId)) :=
  match x.positions[path]? with
  | some position => (x.entryAt position).map fun entry => some entry.2
  | none => .ok none

/-- Records a fault at a path: in the entry at its position, or in a new one. -/
def push (x : Positioned) (path : String) (id : FaultId) : Except Nat Positioned :=
  match x.positions[path]? with
  | some position => (x.entryAt position).map fun entry =>
    { x with entries := x.entries.set position (entry.1, entry.2 ++ [id]) }
  | none => .ok ⟨x.entries ++ [(path, [id])], x.positions.insert path x.entries.length⟩

/-- Records a fault at a path unless it is already there. -/
def pushUnique (x : Positioned) (path : String) (id : FaultId) : Except Nat Positioned :=
  (x.get? path).bind fun there => if (there.getD []).contains id then .ok x else x.push path id

/-- The entries and the table with one more write. -/
def write (x : Positioned) (w : Write) : Except Nat Positioned :=
  if w.once then x.pushUnique w.path w.fault else x.push w.path w.fault

/-- The entries and the table of a row of writes. -/
def ofWrites (writes : List Write) : Except Nat Positioned := writes.foldlM write empty

end Positioned

/-- The entries are those of the map, and the table has the first position of each path. -/
structure Aligned (x : Positioned) (m : FaultMap) : Prop where
  entries : x.entries = m.entries
  positions : ∀ path, x.positions[path]? = m.paths.idxOf? path

theorem aligned_empty : Aligned .empty .empty := ⟨rfl, fun _ => Std.HashMap.getElem?_empty⟩

section

variable {x : Positioned} (h : Aligned x m)
include h

/-- A position of the table is the position of an entry, and of the one of its path. -/
theorem Aligned.entryAt (known : m.paths.idxOf? path = some position) :
    ∃ ids, x.entryAt position = .ok (path, ids) ∧ m.get? path = some ids := by
  obtain ⟨ids, there, found, -⟩ := entry_of_position known
  refine ⟨ids, ?_, found⟩
  rw [Positioned.entryAt, h.entries, there]

/-- **Reading finds an entry**, and gives what the map has. -/
theorem Aligned.get? (path : String) : x.get? path = .ok (m.get? path) := by
  rw [Positioned.get?, h.positions]
  cases known : m.paths.idxOf? path with
  | some position =>
    obtain ⟨ids, there, found⟩ := h.entryAt known
    rw [found]
    dsimp only
    rw [there]
    rfl
  | none =>
    have missing : m.get? path = none := by
      rw [← Option.not_isSome_iff_eq_none, ← mem_paths_iff]
      exact List.idxOf?_eq_none_iff.mp known
    rw [missing]

/-- **Recording a fault finds the entry of its path**, and keeps the entries and the table in step. -/
theorem Aligned.push (path : String) (id : FaultId) :
    ∃ y, x.push path id = .ok y ∧ Aligned y (m.push path id) := by
  rw [Positioned.push, h.positions]
  cases known : m.paths.idxOf? path with
  | some position =>
    obtain ⟨ids, there, -, pushed⟩ := entry_of_position known
    have listed : path ∈ m.paths := List.isSome_idxOf?.mp (known ▸ rfl)
    dsimp only
    rw [Positioned.entryAt, h.entries, there]
    refine ⟨_, rfl, (pushed id).symm, fun other => ?_⟩
    rw [paths_push, if_pos listed]
    exact h.positions other
  | none =>
    have missing := List.idxOf?_eq_none_iff.mp known
    refine ⟨_, rfl, ?_, fun other => ?_⟩
    · rw [push_of_new missing, h.entries]
    · have size : x.entries.length = m.paths.length := by rw [h.entries, paths, List.length_map]
      rw [paths_push, if_neg missing, position_concat missing, Std.HashMap.getElem?_insert,
        h.positions, size]

theorem Aligned.pushUnique (path : String) (id : FaultId) :
    ∃ y, x.pushUnique path id = .ok y ∧ Aligned y (m.pushUnique path id) := by
  rw [Positioned.pushUnique, h.get? path, Except.bind, FaultMap.pushUnique]
  split
  · exact ⟨x, rfl, h⟩
  · exact h.push path id

theorem Aligned.write (w : Write) : ∃ y, x.write w = .ok y ∧ Aligned y (m.write w) := by
  unfold Positioned.write FaultMap.write
  split
  · exact h.pushUnique w.path w.fault
  · exact h.push w.path w.fault

theorem Aligned.writes (writes : List Write) :
    ∃ y, writes.foldlM Positioned.write x = .ok y ∧ Aligned y (writes.foldl FaultMap.write m) := by
  induction writes generalizing x m with
  | nil => exact ⟨x, rfl, h⟩
  | cons w rest ih =>
    obtain ⟨y, written, aligned⟩ := h.write w
    rw [List.foldlM_cons, written]
    exact ih aligned

end

/-- **A row of writes finds an entry at every position it looks at**, and keeps the entries and the table
    in step. -/
theorem aligned_ofWrites (writes : List Write) :
    ∃ x, Positioned.ofWrites writes = .ok x ∧ Aligned x (ofWrites writes) :=
  aligned_empty.writes writes

/-! ## 3. The whole of it -/

/-- What is listed path by path is what is found at each path. -/
theorem entries_get? (writes : List Write) :
    (ofWrites writes).entries.map (fun entry => (entry.1, some entry.2)) =
      (ofWrites writes).paths.map fun path => (path, (ofWrites writes).get? path) := by
  rw [entries_ofWrites, paths_ofWrites, List.map_map]
  refine List.map_congr_left fun path mem => ?_
  rw [get?_ofWrites, if_pos (List.mem_eraseDups.mp mem)]
  rfl

/-- **A map of faults is a multimap in the order of first writes.** After any row of writes its paths are
    those that were written to, each once and in the order of the first writes to them. At a path there are
    the faults that were written there, in order, without those that were to be there once and were there
    when they came; nothing is found exactly at the paths that were never written to. The entries, one
    after another, are the paths with what is found at them. One more write changes what is found at its
    own path only. With a table of positions the same is found, and no position is ever without an entry:
    the table has exactly the positions of the entries. -/
theorem multimap_of_writes (writes : List Write) :
    (ofWrites writes).paths = (writes.map (·.path)).eraseDups ∧
    (ofWrites writes).paths.Nodup ∧
    (∀ path, (ofWrites writes).get? path =
      if path ∈ writes.map (·.path) then some (leftAt path writes) else none) ∧
    (ofWrites writes).entries.map (fun entry => (entry.1, some entry.2)) =
      (ofWrites writes).paths.map (fun path => (path, (ofWrites writes).get? path)) ∧
    (∀ w path, ((ofWrites writes).write w).get? path =
      if path = w.path then some (w.into (leftAt path writes)) else (ofWrites writes).get? path) ∧
    ∃ x, Positioned.ofWrites writes = .ok x ∧ x.entries = (ofWrites writes).entries ∧
      (∀ (path : String) (position : Nat), x.positions[path]? = some position ↔
        ∃ ids, x.entries[position]? = some (path, ids)) ∧
      ∀ path, x.get? path = .ok ((ofWrites writes).get? path) := by
  have paths := paths_ofWrites writes
  have once : (ofWrites writes).paths.Nodup := paths ▸ nodup_eraseDups _
  obtain ⟨x, written, aligned⟩ := aligned_ofWrites writes
  refine ⟨paths, once, get?_ofWrites writes, entries_get? writes, fun w path => ?_, x, written,
    aligned.entries, fun path position => ?_, aligned.get?⟩
  · rw [get?_write]
    split
    · rename_i here
      rw [here, getD_get?_ofWrites]
    · rfl
  · rw [aligned.positions, aligned.entries]
    exact position_iff once

/-- Of the faults written at `b` one comes again in both ways, and only the second way leaves it twice. -/
example :
    (ofWrites [⟨"b", 1, false⟩, ⟨"a", 0, false⟩, ⟨"b", 2, false⟩, ⟨"b", 2, true⟩,
      ⟨"b", 1, false⟩]).entries = [("b", [1, 2, 1]), ("a", [0])] := by decide

end Assay.FaultMap
