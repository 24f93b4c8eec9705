import Assay.Proofs.Path.Arithmetic
import Assay.Proofs.Scheme.Template
import Assay.Proofs.Visit.Comes

/-!
# What is named beside an entry

A name given to a rule stands beside the value: one level is left, and the name is appended. The survey
counts an entry of a dictionary as one level, whatever its key. A visit puts the key into the path,
and a key may be several segments. So the level that is left is the whole entry for the one, and the
last segment of its key for the other.

* `leading key` -- the segments of a key that are not left;
* `resolve_beside` -- they stand between the path of the link and the name;
* `besideEntry` -- where a visit records a fault that is named beside the entry of a key;
* `besideEntry_eq_iff`, `besideEntry_congr_iff` -- when that is beside the entries of the link, and
  when it is the same for two keys;
* **`recorded_beside_entries`** -- a failing rule of an entry is recorded there by every full visit,
  while the template lists it beside the entries of the link;
* **`key_moves_record`** -- so the key of an entry does show in a path that should have left it.
-/

namespace Assay

variable {V : Type}

/-! ## 1. Names beside keys -/

namespace Path

/-- The segments of a key, made harmless, in front of the last one. -/
def leading (key : String) : List String := (segments (normalize key)).dropLast

/-- The segments of a key are levels. -/
theorem isLevel_key (key : String) : ∀ s ∈ segments (normalize key), IsLevel s := by
  have safe : WellFormed (normalize key) := .inr ⟨valid_normalize key, notMem_normalize key⟩
  have levels := (wellFormed_iff _).mp safe
  rwa [address_of_ne (normalize_ne_empty key)] at levels

theorem isAddress_leading (key : String) : IsAddress (leading key) := by
  refine ⟨fun s mem => notMem_of_mem_segments (List.dropLast_subset _ mem), fun same => ?_⟩
  have empty : "" ∈ leading key := by
    rw [same]
    exact List.mem_cons_self
  exact (isLevel_key key _ (List.dropLast_subset _ empty)).1 rfl

theorem head?_of_flat {name : String} (flat : rise name = 0) : name.toList.head? ≠ some '<' := by
  rw [← core_of_flat flat]
  exact head?_core name

/-- A name beside a value leaves one level. -/
theorem rise_beside {name : String} (flat : rise name = 0) : rise ("<" ++ name) = 1 :=
  rise_climbing 1 (head?_of_flat flat)

theorem core_beside {name : String} (flat : rise name = 0) : core ("<" ++ name) = name :=
  core_climbing 1 (head?_of_flat flat)

/-- **A name beside a segment that was appended**: of several segments only the last one is left. -/
theorem resolve_beside (base : String) {segment name : String} (shown : segment ≠ "")
    (plain : rise segment = 0) (flat : rise name = 0) :
    resolve (resolve base segment) ("<" ++ name) =
      ofSegments (address base ++ (segments segment).dropLast ++ address name) := by
  have below : address (resolve base segment) = address base ++ segments segment := by
    rw [resolve_eq_of_flat base plain,
      address_ofSegments ((isAddress_address base).append (isAddress_address segment)),
      address_of_ne shown]
  rw [resolve_eq, below, rise_beside flat, core_beside flat, ← List.dropLast_eq_take,
    List.dropLast_append_of_ne_nil (segments_ne_nil segment)]

/-- Beside the marker of an entry is beside all entries. -/
theorem resolve_beside_marker (base : String) {name : String} (flat : rise name = 0) :
    resolve (resolve base marker) ("<" ++ name) = resolve base name := by
  have one : (segments marker).dropLast = [] := by decide
  rw [resolve_beside base (by decide) (by decide) flat, one, List.append_nil,
    resolve_eq_of_flat base flat]

/-- Segments without markers stand where they are put in, and change nothing else. -/
theorem filled_insert (indexes front back : List String) {between : List String}
    (plain : marker ∉ between) :
    filled indexes (front ++ between ++ back) =
      (filled indexes (front ++ back)).take front.length ++ between ++
        (filled indexes (front ++ back)).drop front.length := by
  have same : (front ++ between ++ back).count marker = (front ++ back).count marker := by
    simp only [List.count_append, List.count_eq_zero_of_not_mem plain, Nat.add_zero]
  unfold filled
  rw [same]
  generalize indexes.drop (indexes.length - (front ++ back).count marker) = left
  have parts := fillBack_append left back.reverse front.reverse
  have front' : (fillBack (left.drop (back.reverse.count marker)) front.reverse).reverse.length =
      front.length := by
    rw [List.length_reverse, length_fillBack, List.length_reverse]
  rw [List.reverse_append, List.reverse_append, List.reverse_append, parts, fillBack_append,
    fillBack_append_plain _ (mt List.mem_reverse.mp plain), List.reverse_append,
    List.reverse_append, List.reverse_reverse, List.reverse_append, List.take_left' front',
    List.drop_left' front', List.append_assoc]

/-- Segments that are put behind filled ones are kept as they are if none is a marker, or if there are
    no positions, and else not. -/
theorem filled_append_eq_iff {indexes : List String} (shown : ∀ i ∈ indexes, i ≠ "")
    (front back : List String) :
    filled indexes (front ++ back) = filled indexes front ++ back ↔
      marker ∉ back ∨ indexes = [] := by
  constructor
  · intro same
    by_contra other
    obtain ⟨bare, some⟩ := not_or.mp other
    rw [not_not] at bare
    -- a marker of the back is met while a position is left
    have count : 0 < (front ++ back).count marker :=
      List.count_pos_iff.mpr (List.mem_append_right front bare)
    have length : 0 < indexes.length := List.length_pos_iff.mpr some
    obtain ⟨i, more, left⟩ : ∃ i more,
        indexes.drop (indexes.length - (front ++ back).count marker) = i :: more := by
      refine List.exists_cons_of_ne_nil fun none => ?_
      have := List.drop_eq_nil_iff.mp none
      omega
    have taken : i ∈ indexes := List.mem_of_mem_drop (left ▸ List.mem_cons_self)
    rw [filled, left, List.reverse_append, fillBack_append, List.reverse_append] at same
    have kept : (fillBack (i :: more) back.reverse).reverse = back := by
      refine List.append_inj_right same ?_
      rw [List.length_reverse, length_fillBack, List.length_reverse, length_filled]
    have stays := congrArg List.reverse kept
    rw [List.reverse_reverse] at stays
    exact notMem_of_fillBack (shown i taken) stays (List.mem_reverse.mpr bare)
  · rintro (plain | none)
    · exact filled_append_plain indexes front plain
    · subst none
      simp only [filled, List.drop_nil, fillBack, List.reverse_reverse]

end Path

/-! ## 2. Where entries record -/

namespace Visit

/-- **Where a visit records a fault that is named beside the entry of a key**, below the path of the
    link to the dictionary. -/
def Spot.besideEntry (link : Spot) (key name : String) : String :=
  ((link.into (.key (Path.normalize key))).along (some ("<" ++ name))).concrete

section Beside

variable (link : Spot) {name : String} (flat : Path.rise name = 0)
include flat

/-- The leading segments of the key stand between the path of the link and the name. -/
theorem address_besideEntry (key : String) :
    Path.address (link.besideEntry key name) = Path.filled (link.indexes.map toString)
      (Path.address link.path ++ Path.leading key ++ Path.address name) := by
  have proper := ((Path.isAddress_address link.path).append (Path.isAddress_leading key)).append
    (Path.isAddress_address name)
  have generic := Path.resolve_beside link.path (Path.normalize_ne_empty key)
    (Path.rise_eq_zero (Path.notMem_normalize key)) flat
  unfold Spot.besideEntry Spot.concrete
  rw [Path.address_fill (Path.notMem_positions _)]
  refine congrArg (Path.filled (link.indexes.map toString)) ?_
  exact (congrArg Path.address generic).trans (Path.address_ofSegments proper)

/-- **When a fault is recorded beside the entries of its link**: the key is a single segment, and no
    position is left that a marker in the name could take. -/
theorem besideEntry_eq_iff (key : String) :
    link.besideEntry key name = Path.resolve link.concrete name ↔
      Path.leading key = [] ∧ (Path.marker ∉ Path.address name ∨ link.indexes = []) := by
  have beside : Path.address (Path.resolve link.concrete name) =
      Path.filled (link.indexes.map toString) (Path.address link.path) ++ Path.address name := by
    rw [Path.resolve_eq_of_flat _ flat, Path.address_ofSegments
      ((Path.isAddress_address _).append (Path.isAddress_address name)), Spot.concrete,
      Path.address_fill (Path.notMem_positions _)]
  have named := Path.filled_append_eq_iff (Path.positions_ne_empty link.indexes)
    (Path.address link.path) (Path.address name)
  rw [List.map_eq_nil_iff] at named
  rw [← Path.address_inj, address_besideEntry link flat, beside, ← named]
  constructor
  · intro same
    have lengths := congrArg List.length same
    simp only [Path.length_filled, List.length_append] at lengths
    have none : Path.leading key = [] := List.length_eq_zero_iff.mp (by omega)
    rw [none, List.append_nil] at same
    exact ⟨none, same⟩
  · rintro ⟨none, same⟩
    rwa [none, List.append_nil]

/-- A name that is a marker takes a position, where one is left. -/
example : Spot.besideEntry ⟨"Books.#.Notes", [1]⟩ "a" "Label" = "Books.#1.Notes.Label" ∧
    Spot.besideEntry ⟨"Books.#.Notes", [1]⟩ "a" "#" = "Books.#.Notes.#1" := by decide

/-- **When two keys make no difference**: they have the same leading segments. -/
theorem besideEntry_congr_iff {key other : String} (plain : Path.marker ∉ Path.leading key)
    (plain' : Path.marker ∉ Path.leading other) :
    link.besideEntry key name = link.besideEntry other name ↔
      Path.leading key = Path.leading other := by
  rw [← Path.address_inj, address_besideEntry link flat, address_besideEntry link flat,
    Path.filled_insert _ _ _ plain, Path.filled_insert _ _ _ plain', List.append_cancel_right_eq,
    List.append_cancel_left_eq]

end Beside

/-! ## 3. Entries that fail -/

/-- **Faults that are named beside the entries of a dictionary.** Let a rule fail in the scope of an
    entry that a full visit comes to, and let it have a name, or the path that stands beside the value.
    Then every full visit that ends has recorded the fault beside the entry. This is beside the
    entries of the link, at its path followed by the name, exactly if the key of the entry is a single
    segment and no position is left for a marker in the name; and keys without markers lead to the same
    path exactly if their leading segments are the same. The template, wherever the survey goes the
    same way, has the fault at the path of the link followed by the name, whatever the key. -/
theorem recorded_beside_entries {catalogue : Catalogue V} {root : SpecId} {scheme : Scheme V}
    (built : Scheme.build? catalogue root = .ok scheme) {model : V} {way : List Stretch}
    {path : Option String} {key : String} {id : ScopeId} {v : V} {sc : Scope V}
    (comes : ComesTo scheme model (⟨path, .key (Path.normalize key)⟩ :: way) id (some v))
    (here : scheme.scopes[id]? = some sc) {placement : Placement} {name : String}
    (named : placement = .name name ∨ placement = .path ("<" ++ name)) (flat : Path.rise name = 0)
    {fault : FaultId} (denies : Denies sc v (some placement.beside) fault) :
    let link := (spotOf way).along path
    (∀ guarded depth place list, records ⟨false, guarded⟩ scheme depth model place = .ok list →
      ⟨link.besideEntry key name, fault⟩ ∈ list) ∧
    (link.besideEntry key name = Path.resolve link.concrete name ↔
      Path.leading key = [] ∧ (Path.marker ∉ Path.address name ∨ link.indexes = [])) ∧
    (∀ other, Path.marker ∉ Path.leading key → Path.marker ∉ Path.leading other →
      (link.besideEntry key name = link.besideEntry other name ↔
        Path.leading key = Path.leading other)) ∧
    ((Acyclic scheme.scopes ∨ ∃ rest, Survey.Walks scheme.scopes (id :: rest)
        (surveyOf (⟨path, .key (Path.normalize key)⟩ :: way)) false) →
      scheme.template.Lists (Path.resolve (Path.along (surveyOf way) path) name) fault) := by
  intro link
  have beside : placement.beside = "<" ++ name := by
    rcases named with rfl | rfl <;> rfl
  rw [beside] at denies
  refine ⟨fun _ _ _ _ ends => recorded_of_comesTo ends comes here denies,
    besideEntry_eq_iff link flat key,
    fun _ plain plain' => besideEntry_congr_iff link flat plain plain', fun walked => ?_⟩
  obtain ⟨rest, walks⟩ : ∃ rest, Survey.Walks scheme.scopes (id :: rest)
      (surveyOf (⟨path, .key (Path.normalize key)⟩ :: way)) false :=
    walked.elim (fun acyclic => walks_surveyOf acyclic comes.arrives) fun walks => walks
  obtain ⟨registry, template⟩ := template_of_build built
  have listed : (Survey.ofScopes registry scheme.scopes).template.Lists _ fault :=
    Survey.lists_of_walks walks here (carries_of_fails denies.fails)
  have level : Path.along (surveyOf (⟨path, .key (Path.normalize key)⟩ :: way))
      (some ("<" ++ name)) = Path.resolve (Path.along (surveyOf way) path) name :=
    Path.resolve_beside_marker _ flat
  rwa [level, ← template] at listed

/-- Books with notes, two to each book, and the notes of book seven are bad. This is told at the label
    of the notes. -/
def books : Catalogue (List Nat) := ⟨[
  ⟨"books", some ⟨"books", [
    .action .optional,
    .action (.link (.collection fun l => l.map fun n => ([n], .made)) 1),
    .parameter (.path "Books")], [], none⟩⟩,
  ⟨"book", some ⟨"book", [
    .action .optional,
    .action (.link (.dictionary fun l => [("a", l, .made), ("v1.0", l, .made)]) 2),
    .parameter (.path "Notes")], [], none⟩⟩,
  ⟨"note", some ⟨"note", [
    .action .optional,
    .action (.rule (· != [7]) Fault.error),
    .parameter (.name "Label")], [], none⟩⟩]⟩

/-- The link to the books. -/
def bookLink : LinkStep (List Nat) :=
  ⟨none, .collection fun l => l.map fun n => ([n], .made), 1, some "Books", .nested⟩

/-- The link of a book to its notes. -/
def noteLink : LinkStep (List Nat) :=
  ⟨none, .dictionary fun l => [("a", l, .made), ("v1.0", l, .made)], 2, some "Notes", .nested⟩

def noteRule : RuleStep (List Nat) := ⟨none, (· != [7]), some 0, some "<Label"⟩

/-- The books made ready. -/
def booksScheme : Scheme (List Nat) where
  rootType := "books"
  scopes := [
    ⟨"books", .optional, none, [.link bookLink]⟩,
    ⟨"book", .optional, none, [.link noteLink]⟩,
    ⟨"note", .optional, none, [.rule noteRule]⟩]
  registry := ⟨[Fault.error]⟩
  template := ⟨[("Books.#.Notes.Label", [0])]⟩
  resolved := [
    (("Books.#.Notes.#", "<Label"), "Books.#.Notes.Label"),
    (("Books.#.Notes", "#"), "Books.#.Notes.#"), (("Books.#", "Notes"), "Books.#.Notes"),
    (("Books", "#"), "Books.#"), (("", "Books"), "Books")]
  loopPossible := false

theorem build_books : Scheme.build? books 0 = .ok booksScheme := rfl

theorem acyclic_books : Acyclic booksScheme.scopes := by
  refine acyclic_of_rising fun id sc l here step => ?_
  rcases id with _ | _ | _ | id
  · cases here
    cases List.mem_singleton.mp step
    exact Nat.zero_lt_one
  · cases here
    cases List.mem_singleton.mp step
    exact Nat.one_lt_two
  · cases here
    cases List.mem_singleton.mp step
  · cases here

/-- A full visit comes to both notes of the second book. -/
theorem comesTo_books {key : String}
    (entry : (Segment.key key, some ([7], Locus.made)) ∈ noteLink.transition.reach [7]) :
    ComesTo booksScheme [0, 7] [⟨some "Notes", .key key⟩, ⟨some "Books", .index 1⟩] 2 (some [7]) := by
  have looks (sc : Scope (List Nat)) (v : List Nat) (optional : sc.presence = .optional)
      (isNull : sc.isNull = none) : Admits sc v :=
    ⟨by rw [Scope.treatsAsNull, isNull], fun _ other => by cases optional.symm.trans other⟩
  have second : (Segment.index 1, some ([7], Locus.made)) ∈ bookLink.transition.reach [0, 7] := by
    decide
  have book : ComesTo booksScheme [0, 7] [⟨some "Books", .index 1⟩] 1 (some [7]) :=
    ComesTo.link (l := bookLink) .root rfl (looks _ _ rfl rfl) List.mem_cons_self rfl rfl second
  exact ComesTo.link (l := noteLink) book rfl (looks _ _ rfl rfl) List.mem_cons_self rfl rfl entry

/-- The rule of a note fails for seven. -/
theorem denies_books : Denies ⟨"note", .optional, none, [.rule noteRule]⟩ [7]
    (some (Placement.name "Label").beside) 0 :=
  @Denies.rule _ _ _ noteRule _ ⟨rfl, fun _ other => by cases other⟩ List.mem_cons_self rfl rfl rfl

/-- The note `a` of the second book is recorded at the label of the notes, the note `v1.0` is not. -/
theorem recorded_beside_entries_books :
    Scheme.build? books 0 = .ok booksScheme ∧
      records ⟨false, true⟩ booksScheme 4 [0, 7] .model =
        .ok [⟨"Books.#1.Notes.Label", 0⟩, ⟨"Books.#1.Notes.v1.Label", 0⟩] ∧
      (⟨"Books.#1.Notes.Label", 0⟩ : Record) ∈
        [⟨"Books.#1.Notes.Label", 0⟩, ⟨"Books.#1.Notes.v1.Label", 0⟩] ∧
      "Books.#1.Notes.Label" = Path.resolve "Books.#1.Notes" "Label" ∧
      "Books.#1.Notes.v1.Label" ≠ Path.resolve "Books.#1.Notes" "Label" ∧
      "Books.#1.Notes.Label" ≠ "Books.#1.Notes.v1.Label" ∧
      booksScheme.template.Lists "Books.#.Notes.Label" 0 := by
  have made : records ⟨false, true⟩ booksScheme 4 [0, 7] .model =
      .ok [⟨"Books.#1.Notes.Label", 0⟩, ⟨"Books.#1.Notes.v1.Label", 0⟩] := rfl
  obtain ⟨recorded, single, same, listed⟩ := recorded_beside_entries build_books
    (@comesTo_books (Path.normalize "a") (by decide)) rfl (.inl rfl) (by decide) denies_books
  obtain ⟨-, several, -, -⟩ := recorded_beside_entries build_books
    (@comesTo_books (Path.normalize "v1.0") (by decide)) rfl (.inl rfl) (by decide) denies_books
  exact ⟨build_books, made, recorded true 4 .model _ made, single.mpr (by decide),
    fun e => absurd (several.mp e) (by decide),
    fun e => absurd ((same "v1.0" (by decide) (by decide)).mp e) (by decide),
    listed (.inl acyclic_books)⟩

/-- **A key moves a record.** The two notes of the second book fail alike, but only the one is recorded
    at the label of the notes, where the template has the fault. -/
theorem key_moves_record :
    Scheme.build? books 0 = .ok booksScheme ∧
      records ⟨false, true⟩ booksScheme 4 [0, 7] .model =
        .ok [⟨"Books.#1.Notes.Label", 0⟩, ⟨"Books.#1.Notes.v1.Label", 0⟩] ∧
      booksScheme.template = ⟨[("Books.#.Notes.Label", [0])]⟩ ∧
      ¬ ∀ way path key id v sc placement name fault,
        ComesTo booksScheme [0, 7] (⟨path, .key (Path.normalize key)⟩ :: way) id (some v) →
          booksScheme.scopes[id]? = some sc → placement = Placement.name name →
          Denies sc v (some placement.beside) fault →
          ((spotOf way).along path).besideEntry key name =
            Path.resolve ((spotOf way).along path).concrete name := by
  refine ⟨build_books, rfl, rfl, fun every => ?_⟩
  have entry := every _ _ "v1.0" _ _ _ _ "Label" _
    (@comesTo_books (Path.normalize "v1.0") (by decide)) rfl rfl denies_books
  exact absurd entry (by decide)

end Visit

end Assay
