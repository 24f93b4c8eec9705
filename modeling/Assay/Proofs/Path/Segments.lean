import Mathlib.Data.List.TakeWhile
import Assay.Path.Resolve
import Assay.Proofs.Text.Split

/-!
# Paths as segments

Reading one path against another cuts and joins texts, dot by dot. On segments it is arithmetic:
leave the last few and append. The empty path is the one place where texts and segments part, since
it has one empty segment and addresses the model itself; so an `address` has no segment there.

* `segments_ofSegments` -- segments without dots are what they are put together from;
* `ancestor_eq` -- climbing leaves one segment for each level, or fails;
* **`segments_resolve`** -- the segments of any relative path read at any base.
-/

namespace Assay.Path

open Assay.Text

/-! ## 1. Cutting and joining -/

theorem segments_ne_nil (path : String) : segments path ≠ [] := by
  simpa [segments, parts] using splitAt_ne_nil '.' path.toList

theorem notMem_of_mem_segments {path s : String} (h : s ∈ segments path) : '.' ∉ s.toList := by
  obtain ⟨part, hp, rfl⟩ := List.mem_map.mp h
  rw [String.toList_ofList]
  exact notMem_of_mem_splitAt part hp

theorem segments_ofSegments {segs : List String} (hne : segs ≠ [])
    (h : ∀ s ∈ segs, '.' ∉ s.toList) : segments (ofSegments segs) = segs := by
  have hcut : splitAt '.' (joinWith '.' (segs.map String.toList)) = segs.map String.toList := by
    refine splitAt_joinWith (by simpa using hne) fun part hp => ?_
    obtain ⟨s, hs, rfl⟩ := List.mem_map.mp hp
    exact h s hs
  simp [segments, ofSegments, parts, join, hcut, List.map_map, Function.comp_def]

theorem ofSegments_append {front back : List String} (hf : front ≠ []) (hb : back ≠ []) :
    ofSegments (front ++ back) = ofSegments front ++ "." ++ ofSegments back := by
  unfold ofSegments join
  rw [List.map_append, joinWith_append (by simpa using hf) (by simpa using hb),
    ← String.toList_inj]
  simp

/-- A dot between two texts separates their segments. -/
theorem segments_dot (front back : List Char) :
    segments (String.ofList (front ++ '.' :: back)) =
      segments (String.ofList front) ++ segments (String.ofList back) := by
  simp [segments, parts, splitAt_append]

theorem segments_empty : segments "" = [""] := rfl

theorem eq_empty_of_segments {path : String} (h : segments path = [""]) : path = "" := by
  rw [← ofSegments_segments path, h]
  rfl

/-- The segments on the way from the model to what a path addresses. -/
def address (path : String) : List String := if path = "" then [] else segments path

/-! ## 2. Climbing -/

/-- One level up is what stands before the last dot. -/
theorem ancestor_succ (levels : Nat) (up : List Char) {last : List Char} (h : '.' ∉ last) :
    ancestor (levels + 1) (up ++ '.' :: last) = ancestor levels up := by
  have hrev : (up ++ '.' :: last).reverse = last.reverse ++ '.' :: up.reverse := by simp
  have hdrop : (last.reverse ++ '.' :: up.reverse).dropWhile (· != '.') = '.' :: up.reverse := by
    rw [List.dropWhile_append_of_pos fun c hc => by
      simpa using fun e : c = '.' => h (e ▸ List.mem_reverse.mp hc)]
    rfl
  simp only [ancestor, climb, hrev, hdrop]

theorem ancestor_succ_of_notMem (levels : Nat) {base : List Char} (h : '.' ∉ base) :
    ancestor (levels + 1) base = none := by
  have hdrop : base.reverse.dropWhile (· != '.') = [] := by
    rw [List.dropWhile_eq_nil_iff]
    intro c hc
    have : c ≠ '.' := fun e => h (e ▸ List.mem_reverse.mp hc)
    simpa using this
  simp only [ancestor, climb, hdrop, Option.map_none]

/-- Climbing leaves the last segments, if there are more than that. -/
theorem ancestor_eq (levels : Nat) (base : List Char) :
    ancestor levels base =
      if levels < (splitAt '.' base).length then
        some (joinWith '.' ((splitAt '.' base).take ((splitAt '.' base).length - levels)))
      else none := by
  induction levels generalizing base with
  | zero =>
    have hpos : 0 < (splitAt '.' base).length := List.length_pos_iff.mpr (splitAt_ne_nil _ _)
    rw [if_pos hpos, Nat.sub_zero, List.take_length, joinWith_splitAt]
    simp [ancestor, climb]
  | succ levels ih =>
    by_cases hd : '.' ∈ base
    · -- the last dot of the base is the first one of its reverse
      obtain ⟨last, up, hrev, hlast⟩ := List.eq_append_cons_of_mem (List.mem_reverse.mpr hd)
      have hbase : base = up.reverse ++ '.' :: last.reverse := by
        rw [← List.reverse_reverse base, hrev]
        simp
      have hlast' : '.' ∉ last.reverse := mt List.mem_reverse.mp hlast
      have hcut : splitAt '.' base = splitAt '.' up.reverse ++ [last.reverse] := by
        rw [hbase, splitAt_append, splitAt_of_notMem hlast']
      rw [hcut, hbase, ancestor_succ levels _ hlast', ih up.reverse, List.length_append,
        List.length_singleton]
      by_cases hl : levels < (splitAt '.' up.reverse).length
      · have hcount : (splitAt '.' up.reverse).length + 1 - (levels + 1) =
            (splitAt '.' up.reverse).length - levels := by omega
        rw [if_pos hl, if_pos (Nat.succ_lt_succ hl), hcount,
          List.take_append_of_le_length (Nat.sub_le _ _)]
      · rw [if_neg hl, if_neg (by omega)]
    · rw [ancestor_succ_of_notMem levels hd, splitAt_of_notMem hd]
      simp

/-! ## 3. Reading a relative path -/

/-- How many levels a relative path climbs. -/
def rise (relative : String) : Nat := (relative.toList.takeWhile (· == '<')).length

/-- What a relative path appends when it has climbed. -/
def core (relative : String) : String := String.ofList (relative.toList.dropWhile (· == '<'))

theorem segments_below (base relative : List Char) :
    segments (String.ofList (below base relative)) =
      address (String.ofList base) ++ segments (String.ofList relative) := by
  cases base with
  | nil => rfl
  | cons c rest =>
    have hne : String.ofList (c :: rest) ≠ "" := by simp
    rw [address, if_neg hne, below, if_neg (by simp), segments_dot]

theorem segments_join {parts : List (List Char)} (hne : parts ≠ [])
    (h : ∀ part ∈ parts, '.' ∉ part) :
    segments (String.ofList (joinWith '.' parts)) = parts.map String.ofList := by
  rw [segments, Text.parts, String.toList_ofList, splitAt_joinWith hne h]

theorem segments_take (base : String) {count : Nat} (h : 0 < count) :
    segments (String.ofList (joinWith '.' ((splitAt '.' base.toList).take count))) =
      (segments base).take count := by
  have hne : (splitAt '.' base.toList).take count ≠ [] := by
    rw [ne_eq, List.take_eq_nil_iff]
    rintro (e | e)
    · exact Nat.ne_of_gt h e
    · exact splitAt_ne_nil _ _ e
  rw [segments_join hne fun part hp => notMem_of_mem_splitAt part (List.mem_of_mem_take hp),
    List.map_take]
  rfl

/-- **The segments of a relative path read at a base**, whatever texts the two are. -/
theorem segments_resolve (base relative : String) :
    segments (resolve base relative) =
      if relative = "" then segments base
      else if rise relative = 0 then address base ++ segments relative
      else if rise relative < (segments base).length then
        (segments base).take ((segments base).length - rise relative) ++ address (core relative)
      else segments (core relative) := by
  have hlen : (segments base).length = (splitAt '.' base.toList).length := List.length_map ..
  by_cases he : relative = ""
  · rw [if_pos he, he]
    rfl
  have hrel : relative.toList.isEmpty = false := by simpa using he
  have hrise : (relative.toList.takeWhile (· == '<')).length = rise relative := rfl
  rw [if_neg he]
  simp only [resolve, hrel, hrise, Bool.false_eq_true, if_false]
  by_cases hr : rise relative = 0
  · rw [if_pos hr, if_pos hr, segments_below, String.ofList_toList, String.ofList_toList]
  rw [if_neg hr, if_neg hr, ancestor_eq, hlen]
  by_cases hl : rise relative < (splitAt '.' base.toList).length
  · rw [if_pos hl, if_pos hl]
    have hup := segments_take base (Nat.sub_pos_of_lt hl)
    dsimp only
    cases hc : relative.toList.dropWhile (· == '<') with
    | nil =>
      have hcore : core relative = "" := by rw [core, hc]
      rw [hcore, List.isEmpty_nil, if_pos rfl, hup]
      exact (List.append_nil _).symm
    | cons c rest =>
      have hcore : core relative = String.ofList (c :: rest) := by rw [core, hc]
      have hne : String.ofList (c :: rest) ≠ "" := by simp
      rw [List.isEmpty_cons, if_neg (by decide), segments_dot, hup, hcore, address, if_neg hne]
  · rw [if_neg hl, if_neg hl]
    rfl

theorem rise_eq_zero {relative : String} (h : '<' ∉ relative.toList) : rise relative = 0 := by
  unfold rise
  cases hr : relative.toList with
  | nil => rfl
  | cons c rest =>
    have hc : c ≠ '<' := fun e => h (by simp [hr, e])
    simp [hc]

/-- What does not climb is appended. -/
theorem segments_resolve_flat (base : String) {relative : String} (hne : relative ≠ "")
    (h : '<' ∉ relative.toList) :
    segments (resolve base relative) = address base ++ segments relative := by
  rw [segments_resolve, if_neg hne, if_pos (rise_eq_zero h)]

theorem resolve_flat (base : String) {relative : String} (hne : relative ≠ "")
    (h : rise relative = 0) :
    resolve base relative = if base = "" then relative else base ++ "." ++ relative := by
  have hrel : relative.toList.isEmpty = false := by simpa using hne
  have hrise : (relative.toList.takeWhile (· == '<')).length = 0 := h
  simp only [resolve, hrel, hrise, Bool.false_eq_true, if_false, if_true, below]
  by_cases hb : base = ""
  · subst hb
    rw [if_pos rfl, if_pos (by rfl), String.ofList_toList]
  · rw [if_neg hb, if_neg (by simpa using hb), ← String.toList_inj]
    simp

end Assay.Path
