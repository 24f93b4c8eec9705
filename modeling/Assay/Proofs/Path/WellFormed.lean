import Assay.Proofs.Path.Address
import Assay.Proofs.Path.Normalize

/-!
# Well-formed paths

What a visit shows is meant to be read as a run of names and positions, so no segment may be empty and
none may climb. On the text of a path that is said by its first and last character and by doubled
dots; on its segments it is one and the same condition for each.

* `IsLevel s` -- the segment stands for one level: it is not empty and has no `<` in it;
* `WellFormed path` -- the path is empty, or it is valid and has no `<` in it;
* `valid_iff`, **`wellFormed_iff`** -- both are said of every segment of an address;
* **`wellFormed_resolve`** -- a valid relative path, climbing or not, leads from well-formed to
  well-formed paths, also above the model;
* `wellFormed_fill` -- so do positions that are put in for markers;
* `valid_normalize`, `valid_beside` -- normalized keys, and names put beside a value, are valid.
-/

namespace Assay.Path

open Assay.Text

/-! ## 1. Texts without empty parts -/

/-- The first part is empty if the text is, or if it begins with a separator. -/
theorem nil_mem_splitAt (sep : Char) (text : List Char) :
    [] ∈ splitAt sep text ↔
      text = [] ∨ text.head? = some sep ∨ [] ∈ (splitAt sep text).tail := by
  cases text with
  | nil => simp [splitAt]
  | cons c rest =>
    by_cases hc : c = sep
    · simp [splitAt, hc]
    · cases hs : splitAt sep rest with
      | nil => exact absurd hs (splitAt_ne_nil sep rest)
      | cons part parts => simp [splitAt, hc, hs]

/-- A part behind the first is empty if the text ends with a dot or has a doubled one. -/
theorem nil_mem_tail_splitAt (text : List Char) :
    [] ∈ (splitAt '.' text).tail ↔ text.getLast? = some '.' ∨ doubledDot text = true := by
  induction text with
  | nil => simp [splitAt, doubledDot]
  | cons c rest ih =>
    have last : (c :: rest).getLast? = some '.' ↔
        (rest = [] ∧ c = '.') ∨ rest.getLast? = some '.' := by
      cases rest <;> simp
    by_cases hc : c = '.'
    · subst hc
      have doubled : doubledDot ('.' :: rest) = true ↔
          rest.head? = some '.' ∨ doubledDot rest = true := by
        cases rest with
        | nil => simp [doubledDot]
        | cons d more =>
          by_cases hd : d = '.'
          · simp [doubledDot, hd]
          · simp [doubledDot, hd]
      simp only [splitAt, if_true, List.tail_cons]
      rw [nil_mem_splitAt, ih, last, doubled]
      tauto
    · have doubled : doubledDot (c :: rest) = doubledDot rest := by
        rw [doubledDot]
        rintro - rfl
        exact absurd rfl hc
      have tail : (splitAt '.' (c :: rest)).tail = (splitAt '.' rest).tail := by
        cases hs : splitAt '.' rest with
        | nil => exact absurd hs (splitAt_ne_nil '.' rest)
        | cons part parts => simp [splitAt, hc, hs]
      rw [tail, ih, last, doubled]
      tauto

/-! ## 2. Levels -/

/-- The segment stands for one level. -/
def IsLevel (segment : String) : Prop := segment ≠ "" ∧ '<' ∉ segment.toList

/-- The path is empty, or it is valid and does not climb. -/
def WellFormed (path : String) : Prop := path = "" ∨ (valid path = true ∧ '<' ∉ path.toList)

/-- A character of a text other than the dot is in one of its segments. -/
theorem mem_segments_of_mem {path : String} {c : Char} (hc : c ≠ '.') :
    c ∈ path.toList ↔ ∃ s ∈ segments path, c ∈ s.toList := by
  constructor
  · intro h
    rw [← joinWith_splitAt '.' path.toList] at h
    obtain ⟨part, hp, h⟩ := (mem_joinWith h).resolve_left hc
    exact ⟨String.ofList part, List.mem_map_of_mem hp, by rwa [String.toList_ofList]⟩
  · rintro ⟨s, hs, h⟩
    obtain ⟨part, hp, rfl⟩ := List.mem_map.mp hs
    rw [String.toList_ofList] at h
    exact subset_of_mem_splitAt hp h

/-- What a valid path has to satisfy behind its run of `<`. -/
theorem levels_iff {path : String} (h : path ≠ "") :
    (path.toList.head? ≠ some '.' ∧ path.toList.getLast? ≠ some '.' ∧
        doubledDot path.toList = false ∧ '<' ∉ path.toList) ↔ ∀ s ∈ segments path, IsLevel s := by
  have chars : path.toList ≠ [] := by simpa using h
  have parts : (∀ s ∈ segments path, s ≠ "") ↔ [] ∉ splitAt '.' path.toList := by
    simp only [segments, Text.parts, List.forall_mem_map, ne_eq, String.ofList_eq_empty_iff]
    exact ⟨fun all mem => all [] mem rfl, fun none part mem same => none (same ▸ mem)⟩
  have climbs : '<' ∉ path.toList ↔ ∀ s ∈ segments path, '<' ∉ s.toList := by
    rw [mem_segments_of_mem (by decide)]
    push Not
    rfl
  have each : (∀ s ∈ segments path, IsLevel s) ↔
      (∀ s ∈ segments path, s ≠ "") ∧ ∀ s ∈ segments path, '<' ∉ s.toList :=
    ⟨fun all => ⟨fun s hs => (all s hs).1, fun s hs => (all s hs).2⟩,
      fun both s hs => ⟨both.1 s hs, both.2 s hs⟩⟩
  rw [each, ← climbs, parts, nil_mem_splitAt, nil_mem_tail_splitAt]
  cases doubledDot path.toList <;> simp [chars, and_assoc]

/-- **A path is valid if what it appends is made of levels.** -/
theorem valid_iff (path : String) :
    valid path = true ↔ path ≠ "" ∧ ∀ s ∈ address (core path), IsLevel s := by
  unfold valid
  cases hp : path.toList with
  | nil =>
    have empty : path = "" := by simpa using hp
    simp [empty]
  | cons c rest =>
    have named : path ≠ "" := by
      rintro rfl
      cases hp
    have whole : core path = String.ofList ((c :: rest).dropWhile (· == '<')) := by
      rw [core, hp]
    dsimp only
    cases hcore : (c :: rest).dropWhile (· == '<') with
    | nil =>
      have empty : core path = "" := by rw [whole, hcore]
      simp [named, empty, address]
    | cons d more =>
      rw [hcore] at whole
      have left : core path ≠ "" := by simp [whole]
      rw [address_of_ne left, ← levels_iff left, whole, String.toList_ofList]
      simp [named, and_assoc]

/-- **A path is well formed if its address is made of levels.** -/
theorem wellFormed_iff (path : String) : WellFormed path ↔ ∀ s ∈ address path, IsLevel s := by
  by_cases he : path = ""
  · subst he
    exact iff_of_true (.inl rfl) fun s hs => absurd hs List.not_mem_nil
  · constructor
    · rintro (rfl | ⟨ok, flat⟩)
      · exact absurd rfl he
      · have own := ((valid_iff path).mp ok).2
        rwa [core_of_flat (rise_eq_zero flat)] at own
    · intro levels
      have flat : '<' ∉ path.toList := by
        rw [mem_segments_of_mem (by decide)]
        rintro ⟨s, hs, climbs⟩
        rw [← address_of_ne he] at hs
        exact (levels s hs).2 climbs
      refine .inr ⟨(valid_iff path).mpr ⟨he, ?_⟩, flat⟩
      rwa [core_of_flat (rise_eq_zero flat)]

theorem wellFormed_empty : WellFormed "" := .inl rfl

/-- Levels without dots make a well-formed path. -/
theorem wellFormed_ofSegments {a : List String} (dotless : ∀ s ∈ a, '.' ∉ s.toList)
    (levels : ∀ s ∈ a, IsLevel s) : WellFormed (ofSegments a) := by
  have named : a ≠ [""] := by
    rintro rfl
    exact (levels "" List.mem_cons_self).1 rfl
  rw [wellFormed_iff, address_ofSegments ⟨dotless, named⟩]
  exact levels

/-! ## 3. Paths that are read and filled -/

/-- **A valid relative path leads to a well-formed path** from every well-formed path: what is left of
    that path and what is appended are levels, and above the model only the latter is left. -/
theorem wellFormed_resolve {base relative : String} (hb : WellFormed base)
    (hr : valid relative = true) : WellFormed (resolve base relative) := by
  rw [resolve_eq]
  refine wellFormed_ofSegments (notMem_left base (core relative) _) fun s hs => ?_
  rcases List.mem_append.mp hs with hs | hs
  · exact (wellFormed_iff base).mp hb s (List.mem_of_mem_take hs)
  · exact ((valid_iff relative).mp hr).2 s hs

theorem wellFormed_along {base : String} (hb : WellFormed base) {relative : Option String}
    (hr : ∀ r, relative = some r → valid r = true) : WellFormed (along base relative) := by
  cases relative with
  | none => exact hb
  | some r => exact wellFormed_resolve hb (hr r rfl)

/-- **Positions put in for markers are levels.** -/
theorem wellFormed_fill {path : String} (h : WellFormed path) (positions : List Nat) :
    WellFormed (fill path (positions.map toString)) := by
  rw [wellFormed_iff] at h ⊢
  rw [address_fill (notMem_positions positions)]
  intro t ht
  rcases mem_fillBack (List.mem_reverse.mp ht) with ht | ⟨i, hi, rfl⟩
  · exact h t (List.mem_reverse.mp ht)
  · have digits := isDigit_positions positions i (List.mem_of_mem_drop hi)
    refine ⟨by simp, fun climbs => ?_⟩
    have hi : '<' ∈ i.toList := by simpa using climbs
    exact absurd (digits '<' hi) (by decide)

/-! ## 4. Relative paths that are valid -/

theorem valid_marker : valid marker = true := by decide

theorem segments_remnants {text : String} (remains : remnants text ≠ []) :
    segments (String.ofList (joinWith '.' (remnants text))) = (remnants text).map String.ofList :=
  segments_join remains fun part hp => notMem_of_mem_splitAt part (List.mem_filter.mp hp).1

/-- **Every text is valid when it is normalized.** -/
theorem valid_normalize (text : String) : valid (normalize text) = true := by
  have named := normalize_ne_empty text
  rw [normalize_eq] at named ⊢
  split
  · rename_i untouched
    exact (Bool.and_eq_true_iff.mp untouched).1
  · rename_i touched
    split
    · decide
    · rename_i remains
      rw [if_neg touched, if_neg remains] at named
      refine ((wellFormed_iff _).mpr fun s hs => ?_).resolve_left named |>.1
      rw [address_of_ne named, segments_remnants remains] at hs
      obtain ⟨part, hp, rfl⟩ := List.mem_map.mp hs
      refine ⟨by simpa using remnants_ne_nil hp, ?_⟩
      rw [String.toList_ofList]
      exact notMem_remnants hp

/-- A name may stand below a value or beside it. -/
theorem valid_beside {name : String} (h : isName name = true) :
    valid name = true ∧ valid ("<" ++ name) = true := by
  unfold isName at h
  simp only [Bool.and_eq_true, Bool.not_eq_true', List.contains_eq_mem, decide_eq_false_iff_not] at h
  obtain ⟨⟨ok, -⟩, flat⟩ := h
  have same : core ("<" ++ name) = core name := by simp [core]
  refine ⟨ok, (valid_iff _).mpr ⟨by simp, ?_⟩⟩
  rw [same]
  exact ((valid_iff name).mp ok).2

end Assay.Path
