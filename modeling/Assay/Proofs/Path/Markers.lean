import Mathlib.Data.List.DropRight
import Assay.Proofs.Path.Address

/-!
# Which position a marker gets

Positions are put in for bare markers by counting from the back of a path, and nobody looks at which
collection a marker belongs to. So everything is said by counts: how many markers stand behind a
marker, how many there are, and how many positions.

* `numbered index?` -- a marker with the position that is put in for it, if there is one;
* `filled_middle` -- what any one segment becomes, by the number of markers behind it;
* `strip_fill` -- taking positions out again leaves the markers;
* **`segments_fill_counted`** -- counted from the left if there are positions enough, counted from the
  right if there are not;
* `fill_drop` -- positions for which there is no marker are passed over;
* **`fill_resolve_counted`** -- so climbing out of collections and putting positions in can be done in
  either order: the positions that are passed over are those of the markers that were left.
-/

namespace Assay.Path

/-! ## 1. One segment -/

/-- A marker with the position that is put in for it, if there is one. -/
def numbered : Option String → String
  | none => marker
  | some index => "#" ++ index

/-- The segment that is met first takes the first position, if it is a marker. -/
theorem fillBack_cons (indexes : List String) (s : String) (segs : List String) :
    fillBack indexes (s :: segs) =
      (if s = marker then numbered indexes.head? else s) ::
        fillBack (if s = marker then indexes.tail else indexes) segs := by
  by_cases bare : s = marker
  · rw [if_pos bare, if_pos bare, bare]
    cases indexes with
    | nil => simp only [fillBack, numbered, List.head?_nil, List.tail_nil]
    | cons index more =>
      simp only [fillBack, numbered, List.head?_cons, List.tail_cons, if_true]
  · rw [if_neg bare, if_neg bare]
    cases indexes with
    | nil => simp only [fillBack]
    | cons index more => simp only [fillBack, if_neg bare]

/-- **What a segment becomes**: a marker is met after those behind it have taken their positions, from
    those that are not passed over. -/
theorem filled_middle (indexes front back : List String) (s : String) :
    ∃ before behind, before.length = front.length ∧ behind.length = back.length ∧
      filled indexes (front ++ s :: back) = before ++ (if s = marker then
          numbered indexes[indexes.length - (front ++ s :: back).count marker + back.count marker]?
        else s) :: behind := by
  have turned : (front ++ s :: back).reverse = back.reverse ++ s :: front.reverse := by simp
  unfold filled
  rw [turned, fillBack_append, fillBack_cons, List.drop_drop, List.count_reverse,
    List.head?_drop, List.reverse_append, List.reverse_cons, List.append_assoc,
    List.singleton_append]
  refine ⟨_, _, ?_, ?_, rfl⟩
  · rw [List.length_reverse, length_fillBack, List.length_reverse]
  · rw [List.length_reverse, length_fillBack, List.length_reverse]

/-- Texts of digits have no dots in them. -/
theorem dotless_of_digits {indexes : List String}
    (digits : ∀ i ∈ indexes, ∀ c ∈ i.toList, c.isDigit = true) : ∀ i ∈ indexes, '.' ∉ i.toList :=
  fun i mem dot => absurd (digits i mem '.' dot) (by decide)

/-! ## 2. Taking positions out again -/

/-- The segment with its position taken out, if it is a marker. -/
def unnumbered (segment : String) : String := if isIndex segment then marker else segment

theorem unnumbered_unnumbered (segment : String) :
    unnumbered (unnumbered segment) = unnumbered segment := by
  by_cases shown : isIndex segment = true
  · have clear : unnumbered segment = marker := if_pos shown
    rw [clear]
    decide
  · have kept : unnumbered segment = segment := if_neg shown
    rw [kept, kept]

theorem segments_strip (path : String) :
    segments (strip path) = (segments path).map unnumbered := by
  refine segments_ofSegments (by simpa using segments_ne_nil path) fun t mem => ?_
  obtain ⟨s, hs, rfl⟩ := List.mem_map.mp mem
  split
  · decide
  · exact notMem_of_mem_segments hs

/-- A segment that a position was put in for is a marker again without it. -/
theorem unnumbered_of_fills {indexes : List String}
    (digits : ∀ i ∈ indexes, ∀ c ∈ i.toList, c.isDigit = true) {s t : String}
    (fills : Fills indexes s t) (clear : unnumbered s = s) : unnumbered t = s := by
  rcases fills with rfl | ⟨rfl, i, mem, rfl⟩
  · exact clear
  · have shown : isIndex ("#" ++ i) = true := by
      simpa [isIndex] using digits i mem
    rw [unnumbered, if_pos shown]

/-- **Taking positions out, after they were put in, leaves the markers.** -/
theorem strip_fill (path : String) {indexes : List String}
    (digits : ∀ i ∈ indexes, ∀ c ∈ i.toList, c.isDigit = true) :
    strip (fill (strip path) indexes) = strip path := by
  apply eq_of_segments
  have each := segments_fill (strip path) (dotless_of_digits digits)
  have clear : ∀ s ∈ segments (strip path), unnumbered s = s := by
    rw [segments_strip]
    intro s mem
    obtain ⟨own, -, rfl⟩ := List.mem_map.mp mem
    exact unnumbered_unnumbered own
  rw [segments_strip]
  generalize segments (fill (strip path) indexes) = shown at each ⊢
  generalize segments (strip path) = bare at each clear ⊢
  induction each with
  | nil => rfl
  | cons fills _ ih =>
    obtain ⟨first, rest⟩ := List.forall_mem_cons.mp clear
    rw [List.map_cons, unnumbered_of_fills digits fills first, ih rest]

/-! ## 3. Positions by counting -/

/-- **Which position every marker gets.** Filling a path keeps the number of its segments and every
    segment that is no bare marker. If there is a position for each marker, they are counted from the
    left: the outermost position that is left goes to the first marker. If there are too few, they are
    counted from the right, and the markers that are not reached stay bare. Taking positions out, after
    they were put in, leaves the markers. -/
theorem segments_fill_counted (path : String) {indexes : List String}
    (digits : ∀ i ∈ indexes, ∀ c ∈ i.toList, c.isDigit = true) :
    (segments (fill path indexes)).length = (segments path).length ∧
    (∀ front s back, segments path = front ++ s :: back →
      ∃ before t behind, segments (fill path indexes) = before ++ t :: behind ∧
        before.length = front.length ∧ behind.length = back.length ∧
        (s ≠ marker → t = s) ∧
        (s = marker → (segments path).count marker ≤ indexes.length →
          ∃ i, indexes[indexes.length - 1 - front.count marker]? = some i ∧ t = "#" ++ i) ∧
        (s = marker → indexes.length < (segments path).count marker →
          t = numbered indexes[back.count marker]?)) ∧
    strip (fill (strip path) indexes) = strip path := by
  have dotless := dotless_of_digits digits
  refine ⟨(segments_fill path dotless).length_eq.symm, fun front s back parts => ?_,
    strip_fill path digits⟩
  obtain ⟨before, behind, left, right, becomes⟩ := filled_middle indexes front back s
  rw [segments_filled path dotless, parts, becomes]
  refine ⟨before, _, behind, rfl, left, right, fun other => if_neg other, ?_, ?_⟩
  · intro bare enough
    subst bare
    have all : (front ++ marker :: back).count marker =
        front.count marker + (back.count marker + 1) := by
      rw [List.count_append, List.count_cons_self]
    have there : indexes.length - 1 - front.count marker < indexes.length := by omega
    have same : indexes.length - (front ++ marker :: back).count marker + back.count marker =
        indexes.length - 1 - front.count marker := by omega
    refine ⟨_, List.getElem?_eq_getElem there, ?_⟩
    rw [if_pos rfl, same, List.getElem?_eq_getElem there]
    rfl
  · intro bare few
    rw [if_pos bare, Nat.sub_eq_zero_of_le (Nat.le_of_lt few), Nat.zero_add]

/-- With three positions, the last of two markers gets the second one, and of four markers the first
    stays bare while the one behind it gets the last position. -/
theorem segments_fill_counted_rooms :
    (∀ i ∈ ["3", "14", "0"], ∀ c ∈ i.toList, c.isDigit = true) ∧
      fill "#.Room.#" ["3", "14", "0"] = "#0.Room.#14" ∧
      fill "#.#.#7.#.Room.#" ["3", "14", "0"] = "#.#0.#7.#14.Room.#3" ∧
      (∃ before t behind, segments (fill "#.Room.#" ["3", "14", "0"]) = before ++ t :: behind ∧
        before.length = 2 ∧ ∃ i, ["3", "14", "0"][1]? = some i ∧ t = "#" ++ i) ∧
      (∃ before t behind, segments (fill "#.#.#7.#.Room.#" ["3", "14", "0"]) =
        before ++ t :: behind ∧ before.length = 1 ∧ t = numbered ["3", "14", "0"][2]?) ∧
      strip (fill (strip "#.#.#7.#.Room.#") ["3", "14", "0"]) = strip "#.#.#7.#.Room.#" := by
  have digits : ∀ i ∈ ["3", "14", "0"], ∀ c ∈ i.toList, c.isDigit = true :=
    isDigit_positions [3, 14, 0]
  obtain ⟨-, enough, -⟩ := segments_fill_counted "#.Room.#" digits
  obtain ⟨-, few, back⟩ := segments_fill_counted "#.#.#7.#.Room.#" digits
  obtain ⟨before, t, behind, parts, second, -, -, counted, -⟩ :=
    enough ["#", "Room"] "#" [] (by decide)
  obtain ⟨before', t', behind', parts', first, -, -, -, counted'⟩ :=
    few ["#"] "#" ["#7", "#", "Room", "#"] (by decide)
  exact ⟨digits, by decide, by decide, ⟨before, t, behind, parts, second, counted rfl (by decide)⟩,
    ⟨before', t', behind', parts', first, counted' rfl (by decide)⟩, back⟩

/-! ## 4. Climbing out of collections -/

/-- Positions for which there is no marker are passed over, the innermost first. -/
theorem fill_drop (path : String) {indexes : List String} {count : Nat}
    (surplus : count + (segments path).count marker ≤ indexes.length) :
    fill path (indexes.drop count) = fill path indexes := by
  have same : count + (indexes.length - count - (segments path).count marker) =
      indexes.length - (segments path).count marker := by omega
  simp only [fill, List.length_drop, List.drop_drop, same]

theorem count_ofSegments {segs : List String} (dotless : ∀ s ∈ segs, '.' ∉ s.toList) :
    (segments (ofSegments segs)).count marker = segs.count marker := by
  by_cases none : segs = []
  · rw [none]
    decide
  · rw [segments_ofSegments none dotless]

/-- A relative path without bare markers leaves those of the segments that it leaves. -/
theorem count_resolve {path relative : String} (plain : marker ∉ segments (core relative)) :
    (segments (resolve path relative)).count marker +
      ((address path).rtake (rise relative)).count marker = (segments path).count marker := by
  have own : (address (core relative)).count marker = 0 := by
    rw [count_address]
    exact List.count_eq_zero_of_not_mem plain
  rw [resolve_eq, count_ofSegments (notMem_left path (core relative) _), List.count_append, own,
    Nat.add_zero, List.rtake, ← List.count_append, List.take_append_drop, count_address]

/-- **Climbing and putting positions in.** If every bare marker of a path has a position and a relative
    path has no bare markers behind its climbing, then it is the same to read it and put the positions
    in, or to put them in and read it then, whatever texts the two are. The positions that are passed
    over are exactly those of the markers that were left by climbing, and the other markers have one
    each. -/
theorem fill_resolve_counted {path relative : String} {indexes : List String}
    (dotless : ∀ i ∈ indexes, '.' ∉ i.toList)
    (each : (segments path).count marker = indexes.length)
    (plain : marker ∉ segments (core relative)) :
    let lost := ((address path).rtake (rise relative)).count marker
    fill (resolve path relative) indexes = resolve (fill path indexes) relative ∧
      fill (resolve path relative) indexes = fill (resolve path relative) (indexes.drop lost) ∧
      (segments (resolve path relative)).count marker = (indexes.drop lost).length := by
  intro lost
  have left : (segments (resolve path relative)).count marker + lost = indexes.length :=
    (count_resolve plain).trans each
  refine ⟨fill_resolve dotless (Nat.le_of_eq each) plain, ?_, ?_⟩
  · exact (fill_drop (resolve path relative) (by omega)).symm
  · rw [List.length_drop]
    omega

/-- Climbing two levels out of three collections leaves two of them, and out of one that has no marker
    of its own left. -/
theorem fill_resolve_counted_lines :
    (∀ i ∈ ["5", "2", "0"], '.' ∉ i.toList) ∧
      (segments "#.Orders.#.Lines.#").count marker = ["5", "2", "0"].length ∧
      marker ∉ segments (core "<<<Total") ∧
      fill (resolve "#.Orders.#.Lines.#" "<<<Total") ["5", "2", "0"] =
        resolve "#0.Orders.#2.Lines.#5" "<<<Total" ∧
      fill (resolve "#.Orders.#.Lines.#" "<<<Total") ["5", "2", "0"] =
        fill "#.Orders.Total" ["0"] := by
  have dotless : ∀ i ∈ ["5", "2", "0"], '.' ∉ i.toList := by decide
  have each : (segments "#.Orders.#.Lines.#").count marker = ["5", "2", "0"].length := by decide
  have plain : marker ∉ segments (core "<<<Total") := by decide
  obtain ⟨both, passed, -⟩ := fill_resolve_counted dotless each plain
  exact ⟨dotless, each, plain, both.trans (by decide), passed.trans (by decide)⟩

/-- Where a marker has no position, the two orders differ. -/
example : fill (resolve "#.#" "<") ["5"] = "#5" ∧ resolve (fill "#.#" ["5"]) "<" = "#" := by decide

end Assay.Path
