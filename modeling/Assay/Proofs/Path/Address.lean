import Assay.Proofs.Path.Fill

/-!
# Addresses

On the segments of an address, reading a relative path is plain arithmetic: leave the last segments,
append the others. Filling markers from the back does the same to all that is left as to the whole, so
the two can be done in either order.

* `IsAddress a` -- the segments are those of some text, and not one empty segment;
* **`resolve_eq`** -- a relative path read at any text, on segments;
* `filled_append`, `filled_take` -- the back of filled segments does not change their front;
* **`fill_resolve`** -- a relative path without bare markers, read at a path and then filled, is the
  relative path read at the filled path.
-/

namespace Assay.Path

open Assay.Text

/-! ## 1. Segments that are an address -/

/-- The segments have no dots in them, and they are not the one empty segment of the empty text. -/
structure IsAddress (a : List String) : Prop where
  dotless : ∀ s ∈ a, '.' ∉ s.toList
  named : a ≠ [""]

theorem isAddress_nil : IsAddress [] :=
  ⟨fun _ h => absurd h List.not_mem_nil, (List.cons_ne_nil _ _).symm⟩

theorem address_of_ne {path : String} (h : path ≠ "") : address path = segments path := if_neg h

theorem address_ne_nil {path : String} (h : path ≠ "") : address path ≠ [] :=
  address_of_ne h ▸ segments_ne_nil path

theorem isAddress_address (path : String) : IsAddress (address path) := by
  unfold address
  split
  · exact isAddress_nil
  · rename_i he
    exact ⟨fun s hs => notMem_of_mem_segments hs, mt eq_empty_of_segments he⟩

theorem isAddress_index (position : Nat) : IsAddress [indexSegment position] := by
  refine ⟨fun s hs => ?_, by simp [indexSegment]⟩
  have dotless := notMem_positions [position] _ List.mem_cons_self
  rw [List.mem_singleton.mp hs]
  simpa [indexSegment] using dotless

theorem IsAddress.append {a b : List String} (ha : IsAddress a) (hb : IsAddress b) :
    IsAddress (a ++ b) := by
  refine ⟨fun s hs => ?_, fun same => ?_⟩
  · rcases List.mem_append.mp hs with hs | hs
    · exact ha.dotless s hs
    · exact hb.dotless s hs
  · rcases List.append_eq_singleton_iff.mp same with ⟨-, same⟩ | ⟨same, -⟩
    · exact hb.named same
    · exact ha.named same

/-- The text of an address has that address. -/
theorem address_ofSegments {a : List String} (h : IsAddress a) : address (ofSegments a) = a := by
  by_cases ha : a = []
  · rw [ha]
    rfl
  · have segs : segments (ofSegments a) = a := segments_ofSegments ha h.dotless
    have hne : ofSegments a ≠ "" := by
      intro he
      rw [he, segments_empty] at segs
      exact h.named segs.symm
    rw [address, if_neg hne, segs]

theorem address_indexSegment (position : Nat) :
    address (indexSegment position) = [indexSegment position] := by
  have same := address_ofSegments (isAddress_index position)
  rwa [ofSegments_singleton] at same

theorem ofSegments_address (path : String) : ofSegments (address path) = path := by
  unfold address
  split
  · rename_i he
    rw [he]
    rfl
  · exact ofSegments_segments path

theorem address_inj {p q : String} : address p = address q ↔ p = q :=
  ⟨fun h => by rw [← ofSegments_address p, h, ofSegments_address], fun h => h ▸ rfl⟩

theorem eq_of_segments {p q : String} (h : segments p = segments q) : p = q := by
  rw [← ofSegments_segments p, h, ofSegments_segments]

/-! ## 2. Reading relative paths -/

theorem rise_indexSegment (position : Nat) : rise (indexSegment position) = 0 := by
  simp [rise, indexSegment]

theorem core_of_flat {relative : String} (h : rise relative = 0) : core relative = relative := by
  have none : relative.toList.takeWhile (· == '<') = [] := List.length_eq_zero_iff.mp h
  have all := List.takeWhile_append_dropWhile (p := (· == '<')) (l := relative.toList)
  rw [none, List.nil_append] at all
  rw [core, all, String.ofList_toList]

/-- What does not climb is appended. -/
theorem resolve_eq_of_flat (base : String) {relative : String} (h : rise relative = 0) :
    resolve base relative = ofSegments (address base ++ address relative) := by
  by_cases he : relative = ""
  · subst he
    exact (ofSegments_address base).symm.trans (congrArg ofSegments (List.append_nil _).symm)
  · rw [resolve_flat base he h]
    by_cases hb : base = ""
    · subst hb
      exact (ofSegments_address relative).symm
    · rw [if_neg hb, ofSegments_append (address_ne_nil hb) (address_ne_nil he), ofSegments_address,
        ofSegments_address]

/-- What is left of an address and what is appended to it has no dots in its segments. -/
theorem notMem_left (base relative : String) (count : Nat) :
    ∀ s ∈ (address base).take count ++ address relative, '.' ∉ s.toList := by
  intro s hs
  rcases List.mem_append.mp hs with hs | hs
  · exact (isAddress_address base).dotless s (List.mem_of_mem_take hs)
  · exact (isAddress_address relative).dotless s hs

/-- **A relative path read at a text**: the address of the text without its last segments, and the
    segments that are appended. If it climbs above the model, these are all. -/
theorem resolve_eq (base relative : String) :
    resolve base relative =
      ofSegments ((address base).take ((address base).length - rise relative) ++
        address (core relative)) := by
  by_cases hr : rise relative = 0
  · rw [resolve_eq_of_flat base hr, hr, core_of_flat hr, Nat.sub_zero, List.take_length]
  have he : relative ≠ "" := by
    rintro rfl
    exact hr rfl
  apply eq_of_segments
  rw [segments_resolve, if_neg he, if_neg hr]
  by_cases deep : rise relative < (address base).length
  · have hb : base ≠ "" := by
      rintro rfl
      exact absurd deep (Nat.not_lt_zero _)
    have front : (address base).take ((address base).length - rise relative) ≠ [] := by
      rw [ne_eq, List.take_eq_nil_iff]
      rintro (none | none)
      · omega
      · exact address_ne_nil hb none
    rw [segments_ofSegments (List.append_ne_nil_of_left_ne_nil front _)
      (notMem_left base (core relative) _), ← address_of_ne hb, if_pos deep]
  · rw [Nat.sub_eq_zero_of_le (Nat.not_lt.mp deep), List.take_zero, List.nil_append,
      ofSegments_address, if_neg ?_]
    -- the model itself has one segment and no address
    by_cases hb : base = ""
    · rw [hb, segments_empty, List.length_singleton]
      omega
    · rwa [← address_of_ne hb]

/-- A relative path that does not climb is appended. -/
theorem resolve_ofSegments_flat {a : List String} (ha : IsAddress a) {relative : String}
    (h : rise relative = 0) :
    resolve (ofSegments a) relative = ofSegments (a ++ address relative) := by
  rw [resolve_eq_of_flat _ h, address_ofSegments ha]

/-! ## 3. Filling what is left -/

theorem length_fillBack (indexes segs : List String) :
    (fillBack indexes segs).length = segs.length :=
  (forall₂_fillBack indexes segs).length_eq.symm

theorem length_filled (indexes segs : List String) :
    (filled indexes segs).length = segs.length := by
  rw [filled, List.length_reverse, length_fillBack, List.length_reverse]

theorem filled_nil (indexes : List String) : filled indexes [] = [] :=
  List.length_eq_zero_iff.mp (length_filled indexes [])

/-- Without markers there is nothing to fill. -/
theorem fillBack_of_notMem (indexes : List String) {segs : List String} (h : marker ∉ segs) :
    fillBack indexes segs = segs := by
  fun_induction fillBack indexes segs with
  | case1 segs => rfl
  | case2 => rfl
  | case3 index indexes segs ih => exact absurd List.mem_cons_self h
  | case4 index indexes seg segs hne ih => rw [ih (mt (List.mem_cons_of_mem seg) h)]

/-- Segments that are met later are filled from the positions that are left. -/
theorem fillBack_append (indexes front back : List String) :
    fillBack indexes (front ++ back) =
      fillBack indexes front ++ fillBack (indexes.drop (front.count marker)) back := by
  induction front generalizing indexes with
  | nil => cases indexes <;> cases back <;> rfl
  | cons seg front ih =>
    cases indexes with
    | nil => simp [fillBack]
    | cons index indexes =>
      by_cases hm : seg = marker
      · subst hm
        simp [fillBack, ih]
      · simp [fillBack, hm, ih]

/-- Segments without markers are passed over. -/
theorem fillBack_append_plain (indexes : List String) {front : List String} (h : marker ∉ front)
    (back : List String) : fillBack indexes (front ++ back) = front ++ fillBack indexes back := by
  rw [fillBack_append, fillBack_of_notMem indexes h, List.count_eq_zero_of_not_mem h, List.drop_zero]

/-- As long as there is a position left, no marker stays bare. -/
theorem notMem_of_fillBack {index : String} (shown : index ≠ "") {indexes segs : List String}
    (h : fillBack (index :: indexes) segs = segs) : marker ∉ segs := by
  induction segs with
  | nil => exact List.not_mem_nil
  | cons seg segs ih =>
    by_cases bare : seg = marker
    · rw [fillBack, if_pos bare, bare] at h
      have same : "#" ++ index = marker := (List.cons.inj h).1
      exact absurd (by simpa [marker] using same) shown
    · rw [fillBack, if_neg bare] at h
      have rest : marker ∉ segs := ih (List.cons.inj h).2
      exact List.not_mem_cons_of_ne_of_not_mem (Ne.symm bare) rest

/-- The markers of the back are filled first, from the positions that the front leaves. -/
theorem filled_append {indexes front back : List String}
    (h : (front ++ back).count marker ≤ indexes.length ∨ marker ∉ back) :
    filled indexes (front ++ back) = filled indexes front ++
      (fillBack (indexes.drop (indexes.length - (front ++ back).count marker))
        back.reverse).reverse := by
  have left : indexes.length - (front ++ back).count marker + back.count marker =
      indexes.length - front.count marker := by
    rw [List.count_append] at h ⊢
    rcases h with h | h
    · omega
    · rw [List.count_eq_zero_of_not_mem h]
      rfl
  unfold filled
  rw [List.reverse_append, fillBack_append, List.count_reverse, List.drop_drop, left,
    List.reverse_append]

/-- **The front of filled segments**, if there is a position for every marker. -/
theorem filled_take {indexes segs : List String} (h : segs.count marker ≤ indexes.length)
    {count : Nat} (le : count ≤ segs.length) :
    filled indexes (segs.take count) = (filled indexes segs).take count := by
  have both : segs.take count ++ segs.drop count = segs := List.take_append_drop count segs
  have whole := filled_append (.inl (both.symm ▸ h) : _ ∨ marker ∉ segs.drop count)
  have front : (filled indexes (segs.take count)).length = count := by
    rw [length_filled, List.length_take, Nat.min_eq_left le]
  rw [both] at whole
  rw [whole, List.take_left' front]

/-- Segments without markers stay as they are, behind filled ones. -/
theorem filled_append_plain (indexes front : List String) {back : List String}
    (h : marker ∉ back) : filled indexes (front ++ back) = filled indexes front ++ back := by
  rw [filled_append (.inr h), fillBack_of_notMem _ (mt List.mem_reverse.mp h), List.reverse_reverse]

/-! ## 4. Filled texts -/

section Filled

variable {indexes : List String} (dotless : ∀ i ∈ indexes, '.' ∉ i.toList)
include dotless

theorem fill_ofSegments {segs : List String} (h : ∀ s ∈ segs, '.' ∉ s.toList) :
    fill (ofSegments segs) indexes = ofSegments (filled indexes segs) := by
  by_cases hs : segs = []
  · rw [hs, filled_nil]
    exact (fill_eq_empty_iff "" dotless).mpr rfl
  · rw [fill, segments_ofSegments hs h]
    rfl

theorem address_fill (path : String) :
    address (fill path indexes) = filled indexes (address path) := by
  by_cases hp : path = ""
  · subst hp
    rw [(fill_eq_empty_iff "" dotless).mpr rfl]
    exact (filled_nil indexes).symm
  · rw [address, if_neg (mt (fill_eq_empty_iff path dotless).mp hp), segments_filled path dotless,
      address, if_neg hp]

/-- **Reading and filling can be done in either order**, if the relative path has no bare markers and
    there is a position for every marker of the path. -/
theorem fill_resolve {path relative : String}
    (count : (segments path).count marker ≤ indexes.length)
    (plain : marker ∉ segments (core relative)) :
    fill (resolve path relative) indexes = resolve (fill path indexes) relative := by
  have back : marker ∉ address (core relative) := by
    unfold address
    split
    · exact List.not_mem_nil
    · exact plain
  rw [← count_address] at count
  rw [resolve_eq, fill_ofSegments dotless (notMem_left path _ _), filled_append_plain _ _ back,
    filled_take count (Nat.sub_le _ _), resolve_eq, address_fill dotless, length_filled]

end Filled

end Assay.Path
