import Assay.Proofs.Path.Fill
import Assay.Proofs.Visit.Arrival
import Assay.Scheme.Compile

/-!
# Where items are recorded

The items of a collection stand below the path of the link that leads to them, each at a marker with
its position. Positions find their markers by counting. This file says what comes of it when a link
has left collections on its way, so that its path has fewer markers than there are positions.

* `concrete_item` -- where the scope of an item stands, as a segment below the path of the link;
* **`items_recorded`** -- so an item is recorded under its own position exactly if the link has left
  no collection, or the outermost one it has left stands at the same position;
* **`items_share_a_path`** -- otherwise its position is lost, and two items are recorded as one.
-/

namespace Assay.Visit

variable {V : Type}

/-! ## 1. The place of an item -/

/-- How many markers a spot has for its positions. -/
def Spot.markers (s : Spot) : Nat := (Path.segments s.path).count Path.marker

/-- The position under which an item of a collection at the spot is recorded. -/
def Spot.itemPosition (s : Spot) (position : Nat) : Nat :=
  Path.childPosition s.path position s.indexes

theorem childPosition_map {α β : Type} (f : α → β) (path : String) (position : α)
    (indexes : List α) :
    Path.childPosition path (f position) (indexes.map f) =
      f (Path.childPosition path position indexes) := by
  unfold Path.childPosition
  rw [List.length_map]
  split
  · rfl
  · simp only [List.getD_eq_getElem?_getD, List.getElem?_map, Option.getD_map]

/-- **An item stands at a marker below the path of its collection.** -/
theorem concrete_item (s : Spot) (position : Nat) :
    (s.into (.index position)).concrete =
      Path.resolve s.concrete (Path.indexSegment (s.itemPosition position)) := by
  have hfill := Path.fill_child s.path (toString position) (Path.notMem_positions s.indexes)
  rw [childPosition_map] at hfill
  exact hfill

theorem itemPosition_eq_iff (s : Spot) (position : Nat) :
    s.itemPosition position = position ↔
      s.indexes.length ≤ s.markers ∨
        s.indexes[s.indexes.length - s.markers - 1]? = some position := by
  change (if s.indexes.length ≤ s.markers then position
    else s.indexes.getD (s.indexes.length - s.markers - 1) position) = position ↔ _
  by_cases h : s.indexes.length ≤ s.markers
  · simp [h]
  · have hlt : s.indexes.length - s.markers - 1 < s.indexes.length := by omega
    simp [h, hlt]

/-- Different positions are different segments. -/
theorem resolve_indexSegment_inj (base : String) (i j : Nat) :
    Path.resolve base (Path.indexSegment i) = Path.resolve base (Path.indexSegment j) ↔ i = j := by
  have flat (n : Nat) : Path.rise (Path.indexSegment n) = 0 := by
    simp [Path.rise, Path.indexSegment]
  have some (n : Nat) : Path.indexSegment n ≠ "" := by simp [Path.indexSegment]
  rw [Path.resolve_flat base (some i) (flat i), Path.resolve_flat base (some j) (flat j)]
  constructor
  · intro h
    have hseg : Path.indexSegment i = Path.indexSegment j := by
      split at h
      · exact h
      · simpa using h
    have htext : (toString i).toList = (toString j).toList := by
      simpa [Path.indexSegment] using congrArg String.toList hseg
    have hread := congrArg (Nat.ofDigitChars 10 · 0) htext
    simpa [Nat.repr, Nat.ofDigitChars_ten_toDigits] using hread
  · rintro rfl
    rfl

/-! ## 2. Records of items -/

/-- **Where items are recorded.** Every record of a visit, in any mode, is of a failure at the end of
    a way. If the way ends with an item of a collection and the failure has no path of its own, it is
    recorded below the path of the link, at a marker with a position. That is the item's own position
    exactly if the path of the link has a marker for every position around it, or if it was moved out
    of collections the outermost of which stands at that same position. -/
theorem items_recorded (scheme : Scheme V) (model : V) :
    (∀ mode depth place list, records mode scheme depth model place = .ok list →
      ∀ r ∈ list, ∃ way own, RecordedAt scheme model way own r) ∧
    ∀ way path position r,
      RecordedAt scheme model (⟨path, .index position⟩ :: way) none r →
      let base := (spotOf way).along path
      r.path = Path.resolve base.concrete (Path.indexSegment (base.itemPosition position)) ∧
        (r.path = Path.resolve base.concrete (Path.indexSegment position) ↔
          base.indexes.length ≤ base.markers ∨
            base.indexes[base.indexes.length - base.markers - 1]? = some position) := by
  refine ⟨fun _ _ _ _ h => records_sourced h, fun way path position r h => ?_⟩
  obtain ⟨id, value, sc, -, -, -, hpath⟩ := h
  intro base
  have stands : r.path =
      Path.resolve base.concrete (Path.indexSegment (base.itemPosition position)) :=
    hpath.trans (concrete_item base position)
  refine ⟨stands, ?_⟩
  rw [stands, resolve_indexSegment_inj, itemPosition_eq_iff]

/-- Items with tags that are shown beside the items, and all are bad. The item with a number has as
    many tags. -/
def tags : Catalogue (List Nat) := ⟨[
  ⟨"items", some ⟨"items", [
    .action .optional,
    .action (.link (.collection fun l => l.map fun n => ([n], .made)) 1),
    .parameter (.path "Items")], [], none⟩⟩,
  ⟨"item", some ⟨"item", [
    .action .optional,
    .action (.link (.collection fun l => (l.flatMap List.range).map fun n => ([n], .made)) 2),
    .parameter (.path "<Tags")], [], none⟩⟩,
  ⟨"tag", some ⟨"tag", [.action .optional, .action (.rule (fun _ => false) Fault.error)], [],
    none⟩⟩]⟩

/-- The link to the items. -/
def itemsLink : LinkStep (List Nat) :=
  ⟨none, .collection fun l => l.map fun n => ([n], .made), 1, some "Items", .nested⟩

/-- The link of an item to its tags, which leaves the items. -/
def tagsLink : LinkStep (List Nat) :=
  ⟨none, .collection fun l => (l.flatMap List.range).map fun n => ([n], .made), 2, some "<Tags",
    .nested⟩

/-- No tag is good. -/
def tagRule : RuleStep (List Nat) := ⟨none, fun _ => false, some 0, none⟩

/-- The items made ready. -/
def tagsScheme : Scheme (List Nat) where
  rootType := "items"
  scopes := [
    ⟨"items", .optional, none, [.link itemsLink]⟩,
    ⟨"item", .optional, none, [.link tagsLink]⟩,
    ⟨"tag", .optional, none, [.rule tagRule]⟩]
  registry := ⟨[Fault.error]⟩
  template := ⟨[("Items.Tags.#", [0])]⟩
  resolved := [
    (("Items.Tags", "#"), "Items.Tags.#"), (("Items.#", "<Tags"), "Items.Tags"),
    (("Items", "#"), "Items.#"), (("", "Items"), "Items")]
  loopPossible := false

/-- The visit arrives at both tags of the second item. -/
theorem arrives_tags {n : Nat} (h : n < 2) :
    Arrives tagsScheme [0, 2] [⟨some "<Tags", .index n⟩, ⟨some "Items", .index 1⟩] 2 (some [n])
      false := by
  have second : (Segment.index 1, some ([2], Locus.made)) ∈ itemsLink.transition.reach [0, 2] := by
    decide
  have item : Arrives tagsScheme [0, 2] [⟨some "Items", .index 1⟩] 1 (some [2]) false :=
    Arrives.link (l := itemsLink) .root rfl List.mem_cons_self rfl second
  have tag : (Segment.index n, some ([n], Locus.made)) ∈ tagsLink.transition.reach [2] := by
    rcases n with _ | _ | n
    · decide
    · decide
    · omega
  exact Arrives.link (l := tagsLink) item rfl List.mem_cons_self rfl tag

theorem recordedAt_tags {n : Nat} (h : n < 2) :
    RecordedAt tagsScheme [0, 2] [⟨some "<Tags", .index n⟩, ⟨some "Items", .index 1⟩] none
      ⟨"Items.Tags.#1", 0⟩ := by
  have bad : Fails ⟨"tag", .optional, none, [.rule tagRule]⟩ (some [n]) tagRule.path 0 :=
    .rule List.mem_cons_self rfl rfl rfl
  refine ⟨2, some [n], _, arrives_tags h, rfl, bad, ?_⟩
  rcases n with _ | _ | n
  · decide
  · decide
  · omega

/-- The second tag of the second item is recorded under its own position, the first one is not. -/
theorem items_recorded_tags :
    (∃ way own, RecordedAt tagsScheme [0, 2] way own ⟨"Items.Tags.#1", 0⟩) ∧
      ("Items.Tags.#1" = Path.resolve "Items.Tags" (Path.indexSegment 1) ↔
        1 ≤ 0 ∨ [1][0]? = some 1) ∧
      ("Items.Tags.#1" = Path.resolve "Items.Tags" (Path.indexSegment 0) ↔
        1 ≤ 0 ∨ [1][0]? = some 0) :=
  ⟨(items_recorded tagsScheme [0, 2]).1 ⟨false, true⟩ 4 .model _ rfl _ List.mem_cons_self,
    ((items_recorded tagsScheme [0, 2]).2 _ _ 1 _ (recordedAt_tags (by decide))).2,
    ((items_recorded tagsScheme [0, 2]).2 _ _ 0 _ (recordedAt_tags (by decide))).2⟩

/-- **Two items are recorded as one.** The first tag of the second item is recorded at the position
    of the item, where the second tag is. -/
theorem items_share_a_path :
    Scheme.build? tags 0 = .ok tagsScheme ∧
      records ⟨false, true⟩ tagsScheme 4 [0, 2] .model =
        .ok [⟨"Items.Tags.#1", 0⟩, ⟨"Items.Tags.#1", 0⟩] ∧
      ¬ ∀ way path position r,
        RecordedAt tagsScheme [0, 2] (⟨path, .index position⟩ :: way) none r →
          r.path = Path.resolve ((spotOf way).along path).concrete
            (Path.indexSegment position) := by
  refine ⟨rfl, rfl, fun h => ?_⟩
  have first := h _ _ 0 _ (recordedAt_tags (by decide))
  exact absurd first (by decide)

end Assay.Visit
