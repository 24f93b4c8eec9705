import Mathlib.Data.List.Induction
import Mathlib.Data.List.Nodup
import Assay.Result

/-!
# Rendered results

A result is put into words path by path, and the name of the translation is looked up for each path
anew. So a name that is not there is noticed at the first path, and not at all if there is none. This
file says what rendering gives for either kind of name, and what a table made from lists by path
holds.

* `worded table path ids` -- the messages that a table of a translation has for faults at a path;
* `render?_of_table`, `render?_of_missing` -- rendering with a name that is there, and with another;
* `reportBy` -- the report in a table of a translation; `report?_of_table`: it is the one that is given;
* `messageMapIn?_eq_error_iff`, `report?_eq_error_iff` -- so a name that is not there is an error
  exactly if there is a fault;
* `get?_byPath` -- a table of lists holds the lists that are not empty.
-/

namespace Assay

open Message

/-! ## 1. Tables of lists -/

namespace Keyed

variable {α : Type}

theorem ofList_concat (pairs : List (String × α)) (pair : String × α) :
    ofList (pairs ++ [pair]) = (ofList pairs).insert pair.1 pair.2 := by
  rw [ofList, insertAll, List.foldl_append]
  rfl

/-- A table made from pairs with different keys holds these pairs. -/
theorem get?_ofList {pairs : List (String × α)} (once : (pairs.map Prod.fst).Nodup) (key : String)
    (value : α) : (ofList pairs).get? key = some value ↔ (key, value) ∈ pairs := by
  induction pairs using List.reverseRecOn with
  | nil => simp [ofList, insertAll, empty, get?]
  | append_singleton pairs pair ih =>
    rw [List.map_append, List.nodup_append] at once
    obtain ⟨front, -, apart⟩ := once
    rw [ofList_concat, get?_insert, List.mem_append, List.mem_singleton]
    split
    · rename_i here
      have fresh : (key, value) ∉ pairs := fun mem =>
        apart key (List.mem_map_of_mem mem) pair.1 (List.mem_singleton.mpr rfl) here
      rw [or_iff_right fresh, Option.some.injEq, Prod.ext_iff]
      exact ⟨fun same => ⟨here, same.symm⟩, fun same => same.2.symm⟩
    · rename_i other
      have not : (key, value) ≠ pair := fun same => other (congrArg Prod.fst same)
      rw [or_iff_left not]
      exact ih front

end Keyed

namespace Result

/-- **A table of lists holds the lists that are not empty.** -/
theorem get?_byPath {lists : List (String × List String)} (once : (lists.map Prod.fst).Nodup)
    (path : String) (items : List String) :
    (byPath lists).get? path = some items ↔ items ≠ [] ∧ (path, items) ∈ lists := by
  have kept (keep : String × List String → Bool) : ((lists.filter keep).map Prod.fst).Nodup :=
    once.sublist (List.filter_sublist.map _)
  rw [byPath, Keyed.get?_ofList (kept _), List.mem_filter, and_comm]
  simp

/-! ## 2. Rendering -/

/-- The messages that a table of a translation has for faults at a path. -/
def worded (table : List Translated) (path : String) (ids : List FaultId) : List String :=
  ids.flatMap fun id =>
    match table[id]? with
    | some translated => Wordings.Translated.at translated path
    | none => []

variable {r : Result} {name : String}

theorem messages?_eq (w : Wordings) (name path : String) (ids : List FaultId) :
    w.messages? name path ids = (w.tables.get? name).map (worded · path ids) := rfl

/-- **With a name that is there every path gets its messages.** -/
theorem render?_of_table {table : List Translated} (found : r.wordings.tables.get? name = some table) :
    r.render? name = some (r.faults.entries.map fun (path, ids) => (path, worded table path ids)) := by
  have step : (fun (entry : String × List FaultId) =>
      (r.wordings.messages? name entry.1 entry.2).map (entry.1, ·)) =
        fun entry => pure (entry.1, worded table entry.1 entry.2) := by
    funext entry
    rw [messages?_eq, found]
    rfl
  exact (congrArg (r.faults.entries.mapM ·) step).trans List.mapM_pure

/-- The report in a table of a translation. -/
def reportBy (r : Result) (name : String) (table : List Translated) : Report :=
  ⟨!r.anyFaults, name, r.codes,
    r.faults.entries.map fun (path, ids) => ⟨path, worded table path ids, r.codesOf ids⟩⟩

theorem report?_of_table (asked : Option String) {table : List Translated}
    (found : r.wordings.tables.get? (asked.getD r.wordings.defaultName) = some table) :
    r.report? asked = .ok (r.reportBy (asked.getD r.wordings.defaultName) table) := by
  have paired {α β γ : Type} (f : α → β) (g : β × α → γ) (l : List α) :
      ((l.map f).zip l).map g = l.map fun a => g (f a, a) := by
    induction l with
    | nil => rfl
    | cons a l ih => exact congrArg (_ :: ·) ih
  rw [report?, render?_of_table found]
  exact congrArg (fun entries => Except.ok (Report.mk _ _ _ entries)) (paired _ _ r.faults.entries)

/-- With another name the first path is an error, if there is one. -/
theorem render?_of_missing (missing : r.wordings.tables.get? name = none) :
    r.render? name = if r.anyFaults then none else some [] := by
  rw [render?, anyFaults, FaultMap.isEmpty]
  cases r.faults.entries with
  | nil => rfl
  | cons entry rest =>
    obtain ⟨path, ids⟩ := entry
    simp only [List.mapM_cons, messages?_eq, missing, Option.map_none]
    rfl

theorem render?_eq_none_iff : r.render? name = none ↔
    r.wordings.tables.get? name = none ∧ r.anyFaults = true := by
  cases found : r.wordings.tables.get? name with
  | none =>
    rw [render?_of_missing found]
    cases r.anyFaults <;> simp
  | some table => simp [render?_of_table found]

/-- **Messages in an unknown translation are an error exactly if there is a fault.** -/
theorem messageMapIn?_eq_error_iff (e : String) : r.messageMapIn? name = .error e ↔
    e = name ∧ r.wordings.tables.get? name = none ∧ r.anyFaults = true := by
  rw [← render?_eq_none_iff, messageMapIn?]
  cases r.render? name with
  | none => simp [eq_comm]
  | some lists => simp

/-- **So is a report in an unknown translation.** -/
theorem report?_eq_error_iff (e : String) : r.report? (some name) = .error e ↔
    e = name ∧ r.wordings.tables.get? name = none ∧ r.anyFaults = true := by
  rw [← render?_eq_none_iff, report?, Option.getD_some]
  cases r.render? name with
  | none => simp [eq_comm]
  | some lists => simp

end Result

end Assay
