import Mathlib.Data.List.DropRight
import Assay.Proofs.Path.WellFormed

/-!
# Relative paths as arithmetic

A valid relative path is a run of `<` and then segments. Read at a well-formed path, it takes one
segment off the end for each `<` and appends the others; the top of the model is the empty list, and
nothing is above it. So the texts can be forgotten: what counts is how many segments go and which ones
come.

* `climbing levels` -- the run of `<` that climbs so many levels; `rise_climbing`, `core_climbing` --
  what stands behind it is what is appended;
* `valid_iff_segments` -- the valid paths are those that are put together from such a run and levels;
* `address_resolve`, `address_climb` -- reading drops the last segments and appends;
* **`resolve_arithmetic`** -- all of it together, and climbing first and appending then is the same.
-/

namespace Assay.Path

open Assay.Text

/-! ## 1. Climbing and the rest -/

/-- The relative path that climbs some levels and appends nothing. -/
def climbing (levels : Nat) : String := String.ofList (List.replicate levels '<')

theorem toList_climbing (levels : Nat) (rest : String) :
    (climbing levels ++ rest).toList = List.replicate levels '<' ++ rest.toList := by
  simp [climbing]

/-- Behind a run of `<`, what does not begin with `<` is the rest. -/
theorem span_climbing (levels : Nat) {text : List Char} (h : text.head? ≠ some '<') :
    (List.replicate levels '<' ++ text).takeWhile (· == '<') = List.replicate levels '<' ∧
      (List.replicate levels '<' ++ text).dropWhile (· == '<') = text := by
  induction levels with
  | zero =>
    cases text with
    | nil => exact ⟨rfl, rfl⟩
    | cons c rest =>
      have hc : c ≠ '<' := fun same => h (congrArg some same)
      have stops : ¬(c == '<') = true := by simpa using hc
      exact ⟨List.takeWhile_cons_of_neg stops, List.dropWhile_cons_of_neg stops⟩
  | succ levels ih => exact ⟨congrArg ('<' :: ·) ih.1, ih.2⟩

theorem rise_climbing (levels : Nat) {rest : String} (h : rest.toList.head? ≠ some '<') :
    rise (climbing levels ++ rest) = levels := by
  rw [rise, toList_climbing, (span_climbing levels h).1, List.length_replicate]

theorem core_climbing (levels : Nat) {rest : String} (h : rest.toList.head? ≠ some '<') :
    core (climbing levels ++ rest) = rest := by
  rw [core, toList_climbing, (span_climbing levels h).2, String.ofList_toList]

/-- Every text climbs some levels and appends the rest. -/
theorem eq_climbing_core (relative : String) :
    relative = climbing (rise relative) ++ core relative := by
  have run : relative.toList.takeWhile (· == '<') = List.replicate (rise relative) '<' := by
    refine List.eq_replicate_iff.mpr ⟨rfl, fun c hc => ?_⟩
    have stays : (c == '<') = true := List.mem_takeWhile_imp (p := (· == '<')) hc
    exact beq_iff_eq.mp stays
  rw [← String.toList_inj, toList_climbing, ← run, core, String.toList_ofList,
    List.takeWhile_append_dropWhile]

/-- What is appended does not begin with `<`. -/
theorem head?_core (relative : String) : (core relative).toList.head? ≠ some '<' := by
  intro climbs
  have stopped := List.head?_dropWhile_not (· == '<') relative.toList
  rw [core, String.toList_ofList] at climbs
  rw [climbs] at stopped
  exact absurd stopped (by decide)

/-! ## 2. Valid paths -/

/-- The address of what was put together from levels is these levels. -/
theorem address_of_levels {segs : List String} (levels : ∀ s ∈ segs, IsLevel s)
    (dotless : ∀ s ∈ segs, '.' ∉ s.toList) : address (ofSegments segs) = segs := by
  refine address_ofSegments ⟨dotless, ?_⟩
  rintro rfl
  exact (levels "" List.mem_cons_self).1 rfl

/-- Levels that are put together do not climb. -/
theorem notMem_of_levels {segs : List String} (levels : ∀ s ∈ segs, IsLevel s)
    (dotless : ∀ s ∈ segs, '.' ∉ s.toList) : '<' ∉ (ofSegments segs).toList := by
  rcases wellFormed_ofSegments dotless levels with empty | ⟨-, flat⟩
  · rw [empty]
    exact List.not_mem_nil
  · exact flat

/-- **The valid paths** are a run of `<` with at least one level behind it, or a run of `<` alone. -/
theorem valid_iff_segments (text : String) :
    valid text = true ↔
      (∃ levels segs, segs ≠ [] ∧ (∀ s ∈ segs, s ≠ "" ∧ '<' ∉ s.toList ∧ '.' ∉ s.toList) ∧
        text = climbing levels ++ ofSegments segs) ∨
      ∃ levels, 0 < levels ∧ text = climbing levels := by
  have whole := eq_climbing_core text
  constructor
  · intro ok
    obtain ⟨named, levels⟩ := (valid_iff text).mp ok
    by_cases empty : core text = ""
    · rw [empty, String.append_empty] at whole
      refine .inr ⟨rise text, Nat.pos_of_ne_zero fun flat => named ?_, whole⟩
      rw [whole, flat]
      rfl
    · refine .inl ⟨rise text, address (core text), address_ne_nil empty, fun s hs => ?_, ?_⟩
      · have level := levels s hs
        exact ⟨level.1, level.2, (isAddress_address (core text)).dotless s hs⟩
      · rwa [ofSegments_address]
  · rintro (⟨levels, segs, inhabited, each, rfl⟩ | ⟨levels, positive, rfl⟩)
    · have own : ∀ s ∈ segs, IsLevel s := fun s hs => ⟨(each s hs).1, (each s hs).2.1⟩
      have dotless : ∀ s ∈ segs, '.' ∉ s.toList := fun s hs => (each s hs).2.2
      have flat : (ofSegments segs).toList.head? ≠ some '<' := fun climbs =>
        notMem_of_levels own dotless (List.mem_of_head? climbs)
      have back := core_climbing levels flat
      have address : address (ofSegments segs) = segs := address_of_levels own dotless
      refine (valid_iff _).mpr ⟨fun empty => inhabited ?_, ?_⟩
      · rw [empty] at back
        rw [← address, ← back]
        rfl
      · rw [back, address]
        exact own
    · have back : core (climbing levels ++ "") = "" := core_climbing levels (by simp)
      have climbs : rise (climbing levels ++ "") = levels := rise_climbing levels (by simp)
      rw [String.append_empty] at back climbs
      refine (valid_iff _).mpr ⟨fun empty => ?_, ?_⟩
      · rw [empty] at climbs
        exact absurd climbs positive.ne
      · rw [back]
        exact fun s hs => absurd hs List.not_mem_nil

/-! ## 3. Reading -/

/-- **Reading drops the last segments and appends**, if the path is well formed and what is appended
    is made of levels. -/
theorem address_resolve {base relative : String} (hb : WellFormed base)
    (hr : ∀ s ∈ address (core relative), IsLevel s) :
    address (resolve base relative) =
      (address base).rdrop (rise relative) ++ address (core relative) := by
  rw [resolve_eq]
  refine address_of_levels (fun s hs => ?_) (notMem_left base (core relative) _)
  rcases List.mem_append.mp hs with hs | hs
  · exact (wellFormed_iff base).mp hb s (List.mem_of_mem_take hs)
  · exact hr s hs

/-- Climbing drops the last segments. -/
theorem address_climb {base : String} (hb : WellFormed base) (levels : Nat) :
    address (resolve base (climbing levels)) = (address base).rdrop levels := by
  have bare : ("" : String).toList.head? ≠ some '<' := by simp
  have climbs := rise_climbing levels bare
  have none := core_climbing levels bare
  rw [String.append_empty] at climbs none
  have read := @address_resolve base (climbing levels) hb
    (by rw [none]; exact fun s hs => absurd hs List.not_mem_nil)
  rw [climbs, none] at read
  exact read.trans (List.append_nil _)

/-- **A relative path is read by arithmetic on segments.** Every text climbs some levels and appends a
    rest that does not begin with `<`. If it is valid, then read at a well-formed path it takes as many
    segments off the end, or all if there are fewer, and appends its own; and it can be read in two
    steps, first climbing and then appending. The valid paths are exactly the texts of a run of `<` and
    at least one level behind it, and of a run of `<` alone. -/
theorem resolve_arithmetic :
    (∀ relative, ∃ levels rest, relative = climbing levels ++ rest ∧
      rest.toList.head? ≠ some '<') ∧
    (∀ base levels rest, WellFormed base → valid (climbing levels ++ rest) = true →
      rest.toList.head? ≠ some '<' →
      address (resolve base (climbing levels ++ rest)) =
          (address base).rdrop levels ++ address rest ∧
        resolve (resolve base (climbing levels)) rest =
          resolve base (climbing levels ++ rest)) ∧
    ∀ text, valid text = true ↔
      (∃ levels segs, segs ≠ [] ∧ (∀ s ∈ segs, s ≠ "" ∧ '<' ∉ s.toList ∧ '.' ∉ s.toList) ∧
        text = climbing levels ++ ofSegments segs) ∨
      ∃ levels, 0 < levels ∧ text = climbing levels := by
  refine ⟨fun relative => ?_, fun base levels rest hb hr flat => ?_, valid_iff_segments⟩
  · exact ⟨rise relative, core relative, eq_climbing_core relative, head?_core relative⟩
  · have climbs := rise_climbing levels flat
    have appends := core_climbing levels flat
    have whole := @address_resolve base (climbing levels ++ rest) hb ((valid_iff _).mp hr).2
    rw [climbs, appends] at whole
    refine ⟨whole, ?_⟩
    -- behind the climb nothing climbs any more, so the second step only appends
    have still : rise rest = 0 := by
      rw [rise, show rest.toList.takeWhile (· == '<') = [] from (span_climbing 0 flat).1]
      rfl
    rw [resolve_eq_of_flat _ still, address_climb hb, ← whole, ofSegments_address]

/-- Four levels up from three, with two segments behind; and one level up alone. -/
theorem resolve_arithmetic_lines :
    WellFormed "Orders.#.Lines" ∧ valid (climbing 4 ++ "Total.Net") = true ∧
      "Total.Net".toList.head? ≠ some '<' ∧
      address (resolve "Orders.#.Lines" (climbing 4 ++ "Total.Net")) = ["Total", "Net"] ∧
      resolve (resolve "Orders.#.Lines" (climbing 1)) "Total" = "Orders.#.Total" := by
  have path : WellFormed "Orders.#.Lines" := .inr ⟨by decide, by decide⟩
  have deep : valid (climbing 4 ++ "Total.Net") = true := by decide
  have near : valid (climbing 1 ++ "Total") = true := by decide
  have flat : "Total.Net".toList.head? ≠ some '<' := by decide
  obtain ⟨-, read, -⟩ := resolve_arithmetic
  exact ⟨path, deep, flat, (read _ 4 "Total.Net" path deep flat).1.trans (by decide),
    (read _ 1 "Total" path near (by decide)).2.trans (by decide)⟩

end Assay.Path
