import Mathlib.Data.List.Forall2
import Assay.Path.Index
import Assay.Proofs.Path.Segments

/-!
# Filled paths

Filling a path touches its bare markers only.

* `Fills indexes s t` -- what one segment may become;
* **`segments_fill`** -- filling goes segment by segment, as long as positions have no dots in them.
-/

namespace Assay.Path

/-! ## 1. Segment by segment -/

/-- A segment stays as it is, or it is a bare marker and gets a position. -/
def Fills (indexes : List String) (s t : String) : Prop :=
  t = s ∨ (s = marker ∧ ∃ i ∈ indexes, t = "#" ++ i)

theorem Fills.mono {indexes more : List String} {s t : String} (h : Fills indexes s t)
    (hsub : indexes ⊆ more) : Fills more s t := by
  rcases h with same | ⟨hs, i, hi, ht⟩
  · exact .inl same
  · exact .inr ⟨hs, i, hsub hi, ht⟩

theorem forall₂_fillBack (indexes segs : List String) :
    List.Forall₂ (Fills indexes) segs (fillBack indexes segs) := by
  fun_induction fillBack indexes segs with
  | case1 segs => exact List.forall₂_same.mpr fun s _ => .inl rfl
  | case2 => exact .nil
  | case3 index indexes segs ih =>
    exact .cons (.inr ⟨rfl, index, List.mem_cons_self, rfl⟩)
      (ih.imp fun s t h => h.mono (List.subset_cons_self index indexes))
  | case4 index indexes seg segs hne ih => exact .cons (.inl rfl) ih

theorem fillBack_ne_nil (indexes : List String) {segs : List String} (h : segs ≠ []) :
    fillBack indexes segs ≠ [] := by
  intro e
  have hlen := (forall₂_fillBack indexes segs).length_eq
  rw [e] at hlen
  exact h (List.length_eq_zero_iff.mp hlen)

theorem mem_fillBack {indexes segs : List String} {t : String} (h : t ∈ fillBack indexes segs) :
    t ∈ segs ∨ ∃ i ∈ indexes, t = "#" ++ i := by
  fun_induction fillBack indexes segs with
  | case1 segs => exact .inl h
  | case2 => exact absurd h List.not_mem_nil
  | case3 index indexes segs ih =>
    rcases List.mem_cons.mp h with rfl | h
    · exact .inr ⟨index, List.mem_cons_self, rfl⟩
    · exact (ih h).imp (List.mem_cons_of_mem _)
        fun ⟨i, hi, same⟩ => ⟨i, List.mem_cons_of_mem _ hi, same⟩
  | case4 index indexes seg segs hne ih =>
    rcases List.mem_cons.mp h with rfl | h
    · exact .inl List.mem_cons_self
    · exact (ih h).imp_left (List.mem_cons_of_mem _)

theorem notMem_fillBack {indexes segs : List String} (hi : ∀ i ∈ indexes, '.' ∉ i.toList)
    (hs : ∀ s ∈ segs, '.' ∉ s.toList) : ∀ t ∈ fillBack indexes segs, '.' ∉ t.toList := by
  intro t ht
  rcases mem_fillBack ht with ht | ⟨i, mem, rfl⟩
  · exact hs t ht
  · simpa using hi i mem

/-- The texts of positions are of digits only. -/
theorem isDigit_positions (positions : List Nat) :
    ∀ i ∈ positions.map toString, ∀ c ∈ i.toList, c.isDigit = true := by
  intro i hi c hc
  obtain ⟨n, -, rfl⟩ := List.mem_map.mp hi
  have hd : c ∈ Nat.toDigits 10 n := by simpa [Nat.repr] using hc
  exact Nat.isDigit_of_mem_toDigits (by decide) (by decide) hd

theorem notMem_positions (positions : List Nat) : ∀ i ∈ positions.map toString, '.' ∉ i.toList :=
  fun i hi hdot => absurd (isDigit_positions positions i hi '.' hdot) (by decide)

theorem positions_ne_empty (positions : List Nat) : ∀ i ∈ positions.map toString, i ≠ "" := by
  intro i hi
  obtain ⟨n, -, rfl⟩ := List.mem_map.mp hi
  simp [Nat.repr]

/-- The segments with their markers filled. -/
def filled (indexes segs : List String) : List String :=
  (fillBack (indexes.drop (indexes.length - segs.count marker)) segs.reverse).reverse

theorem segments_filled (path : String) {indexes : List String}
    (h : ∀ i ∈ indexes, '.' ∉ i.toList) :
    segments (fill path indexes) = filled indexes (segments path) := by
  refine segments_ofSegments ?_ fun t ht => ?_
  · simpa using fillBack_ne_nil _ (List.reverse_ne_nil_iff.mpr (segments_ne_nil path))
  · refine notMem_fillBack (fun i hi => h i (List.mem_of_mem_drop hi)) (fun s hs => ?_) t
      (List.mem_reverse.mp ht)
    exact notMem_of_mem_segments (List.mem_reverse.mp hs)

/-- **Filling goes segment by segment.** -/
theorem segments_fill (path : String) {indexes : List String}
    (h : ∀ i ∈ indexes, '.' ∉ i.toList) :
    List.Forall₂ (Fills indexes) (segments path) (segments (fill path indexes)) := by
  have back : List.Forall₂ (Fills indexes) (segments path).reverse
      (fillBack (indexes.drop (indexes.length - (segments path).count marker))
        (segments path).reverse) :=
    (forall₂_fillBack _ _).imp fun _ _ hs => hs.mono (List.drop_subset _ _)
  have front := List.forall₂_reverse_iff.mpr back
  rw [List.reverse_reverse] at front
  rw [segments_filled path h]
  exact front

theorem fill_eq_empty_iff (path : String) {indexes : List String}
    (h : ∀ i ∈ indexes, '.' ∉ i.toList) : fill path indexes = "" ↔ path = "" := by
  constructor
  · intro e
    have both := segments_fill path h
    rw [e, segments_empty] at both
    obtain ⟨s, rest, hs, hrest, hp⟩ := List.forall₂_cons_right_iff.mp both
    rw [List.forall₂_nil_right_iff.mp hrest] at hp
    rcases hs with rfl | ⟨-, i, -, hi⟩
    · exact eq_empty_of_segments hp
    · exact absurd hi (by simp)
  · rintro rfl
    have both := segments_fill "" h
    obtain ⟨t, rest, ht, hrest, hf⟩ := List.forall₂_cons_left_iff.mp both
    rw [List.forall₂_nil_left_iff.mp hrest] at hf
    rcases ht with rfl | ⟨hm, -⟩
    · exact eq_empty_of_segments hf
    · exact absurd hm (by decide)

/-! ## 2. Items below a filled path -/

/-- The position that is put in for an item: its own, unless the path has fewer markers than there
    are positions. Then it is that of the outermost collection the path was moved out of. -/
def childPosition {α : Type} (path : String) (position : α) (indexes : List α) : α :=
  if indexes.length ≤ (segments path).count marker then position
  else indexes.getD (indexes.length - (segments path).count marker - 1) position

theorem drop_surplus {α : Type} (path : String) (position : α) (indexes : List α) :
    (position :: indexes).drop (indexes.length - (segments path).count marker) =
      childPosition path position indexes ::
        indexes.drop (indexes.length - (segments path).count marker) := by
  unfold childPosition
  generalize (segments path).count marker = markers
  by_cases h : indexes.length ≤ markers
  · rw [if_pos h, Nat.sub_eq_zero_of_le h]
    rfl
  · obtain ⟨d, hd⟩ : ∃ d, indexes.length - markers = d + 1 :=
      ⟨indexes.length - markers - 1, by omega⟩
    have hlt : d < indexes.length := by omega
    rw [if_neg h, hd, List.drop_succ_cons, Nat.add_sub_cancel, List.drop_eq_getElem_cons hlt]
    simp [hlt]

theorem ofSegments_singleton (s : String) : ofSegments [s] = s := by
  simp [ofSegments, Text.join, Text.joinWith]

theorem count_address (path : String) :
    (address path).count marker = (segments path).count marker := by
  unfold address
  split
  · rename_i he
    subst he
    decide
  · rfl

/-- The last marker is the item's own, so it is filled first. -/
theorem fill_marker (path position : String) (indexes : List String) :
    fill (resolve path marker) (position :: indexes) =
      ofSegments ((fillBack (indexes.drop (indexes.length - (segments path).count marker))
        (address path).reverse).reverse ++ ["#" ++ childPosition path position indexes]) := by
  have hsegs : segments (resolve path marker) = address path ++ [marker] :=
    segments_resolve_flat path (by decide) (by decide)
  have hback : (address path ++ [marker]).reverse = marker :: (address path).reverse := by simp
  unfold fill
  simp only [hsegs, List.count_append, count_address, List.count_singleton_self, List.length_cons,
    Nat.add_sub_add_right, drop_surplus, hback, fillBack, if_true, List.reverse_cons]

/-- **The path of an item, filled, is an item of the filled path.** -/
theorem fill_child (path position : String) {indexes : List String}
    (h : ∀ i ∈ indexes, '.' ∉ i.toList) :
    fill (resolve path marker) (position :: indexes) =
      resolve (fill path indexes) ("#" ++ childPosition path position indexes) := by
  rw [fill_marker]
  generalize childPosition path position indexes = child
  have hflat : rise ("#" ++ child) = 0 := by simp [rise]
  rw [resolve_flat _ (by simp) hflat]
  by_cases hp : path = ""
  · subst hp
    rw [if_pos ((fill_eq_empty_iff "" h).mpr rfl)]
    have hnone : (segments "").count marker = 0 := by decide
    rw [hnone, Nat.sub_zero, List.drop_length]
    exact ofSegments_singleton _
  · rw [if_neg (mt (fill_eq_empty_iff path h).mp hp)]
    have haddr : address path = segments path := if_neg hp
    have hne : (fillBack (indexes.drop (indexes.length - (segments path).count marker))
        (segments path).reverse).reverse ≠ [] := by
      simpa using fillBack_ne_nil _ (List.reverse_ne_nil_iff.mpr (segments_ne_nil path))
    rw [haddr, ofSegments_append hne (List.cons_ne_nil _ _), ofSegments_singleton]
    rfl

end Assay.Path
