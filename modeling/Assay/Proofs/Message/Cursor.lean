import Assay.Proofs.FirstOccurrence
import Assay.Proofs.Message.Search
import Assay.Proofs.Message.Spelling

/-!
# Substitution with a cursor

Substitution can be done in place: a loop goes over the matches of a search, and a cursor stands where the
text begins that has not been put out yet. A match that is replaced moves the cursor behind it; one that is
malformed or declined does not, so it is put out with the text around it later on. The function that is
asked about placeholders may remember what it was asked before.

* `Replaces` -- what becomes of the pieces of a text one after another, and of the memory of the function;
* `slice?` -- a part of a text by its positions, if they are in order and in range;
* `splice`, `listed` -- the loops of substitution and of listing over the matches of a search;
* **`spliceFrom_eq`** -- the loop takes no part out of order, and puts out what becomes of the pieces;
* **`substitute_lossless`** -- a text has one splitting; substitution replaces in it what the function
  accepts and nothing else, and the placeholders that are listed are those that the function is asked about.
-/

namespace Assay.Message

open Placeholder

/-! ## 1. What becomes of pieces -/

/-- A function that is asked about placeholders one after another, with what it remembers. -/
abbrev Replacer (σ : Type) := σ → Placeholder → Option String × σ

/-- The function that remembers all placeholders it was asked about. -/
def recording (replace : Placeholder → Option String) : Replacer (List Placeholder) :=
  fun asked p => (replace p, asked ++ [p])

variable {σ : Type} {replacer : Replacer σ}

/-- **What becomes of pieces.** The function is asked about each placeholder in order. What it accepts is
    replaced by its answer; a placeholder it declines, a group that spells no placeholder and a character
    that stands for itself stay as they are. -/
inductive Replaces (replacer : Replacer σ) : σ → List Piece → List Char → σ → Prop
  | nil (memory : σ) : Replaces replacer memory [] [] memory
  | plain {memory last : σ} {rest : List Piece} {out : List Char} (c : Char) :
      Replaces replacer memory rest out last →
      Replaces replacer memory (.plain c :: rest) (c :: out) last
  | malformed {memory last : σ} {rest : List Piece} {inner out : List Char} :
      (∀ name params, Legible name params → inner ≠ spelled name params) →
      Replaces replacer memory rest out last →
      Replaces replacer memory (.group inner :: rest) ((Piece.group inner).text ++ out) last
  | declined {memory next last : σ} {rest : List Piece} {out : List Char} {name : String}
      {params : Params} : Legible name params →
      replacer memory ⟨name, spell name params, params⟩ = (none, next) →
      Replaces replacer next rest out last →
      Replaces replacer memory (.group (spelled name params) :: rest)
        ((Piece.group (spelled name params)).text ++ out) last
  | replaced {memory next last : σ} {rest : List Piece} {out : List Char} {name : String}
      {params : Params} {value : String} : Legible name params →
      replacer memory ⟨name, spell name params, params⟩ = (some value, next) →
      Replaces replacer next rest out last →
      Replaces replacer memory (.group (spelled name params) :: rest) (value.toList ++ out) last

/-- No group among the pieces has braces inside. -/
def Closed (split : List Piece) : Prop := ∀ inner, .group inner ∈ split → Braceless inner

theorem Closed.tail {piece : Piece} {rest : List Piece} (h : Closed (piece :: rest)) : Closed rest :=
  fun inner mem => h inner (List.mem_cons_of_mem _ mem)

theorem closed_pieces (text : List Char) : Closed (pieces text) :=
  fun _ mem => (group_of_mem_pieces mem).2

/-- A group spells a placeholder, or it spells none. -/
theorem group_cases {inner : List Char} (plain : Braceless inner) :
    (∃ name params, Legible name params ∧ inner = spelled name params ∧
      Placeholder.read inner = some ⟨name, spell name params, params⟩) ∨
    (∀ name params, Legible name params → inner ≠ spelled name params) ∧
      Placeholder.read inner = none := by
  cases read : Placeholder.read inner with
  | some p =>
    obtain ⟨legible, same, -⟩ := (read_eq_some_iff plain).mp read
    refine .inl ⟨p.name, p.params, legible, same, ?_⟩
    rw [← read, same, placeholder_spelled legible]
  | none =>
    refine .inr ⟨fun name params legible same => ?_, rfl⟩
    rw [same, placeholder_spelled legible] at read
    cases read

theorem read_eq_none {inner : List Char} (plain : Braceless inner)
    (unspelled : ∀ name params, Legible name params → inner ≠ spelled name params) :
    Placeholder.read inner = none := by
  rcases group_cases plain with ⟨name, params, legible, same, -⟩ | ⟨-, unread⟩
  · exact absurd same (unspelled name params legible)
  · exact unread

/-- Something becomes of any pieces. -/
theorem exists_replaces (replacer : Replacer σ) (memory : σ) {split : List Piece}
    (closed : Closed split) : ∃ out last, Replaces replacer memory split out last := by
  induction split generalizing memory with
  | nil => exact ⟨[], memory, .nil memory⟩
  | cons piece rest ih =>
    cases piece with
    | plain c =>
      obtain ⟨out, last, further⟩ := ih memory closed.tail
      exact ⟨_, _, .plain c further⟩
    | group inner =>
      rcases group_cases (closed inner List.mem_cons_self) with
        ⟨name, params, legible, rfl, -⟩ | ⟨malformed, -⟩
      · cases answer : replacer memory ⟨name, spell name params, params⟩ with
        | mk value next =>
          obtain ⟨out, last, further⟩ := ih next closed.tail
          cases value with
          | none => exact ⟨_, _, .declined legible answer further⟩
          | some value => exact ⟨_, _, .replaced legible answer further⟩
      · obtain ⟨out, last, further⟩ := ih memory closed.tail
        exact ⟨_, _, .malformed malformed further⟩

/-- **Substitution is what becomes of the pieces**, and the function is asked about the placeholders
    among them. -/
theorem replaces_recording (replace : Placeholder → Option String) (asked : List Placeholder)
    {split : List Piece} (closed : Closed split) :
    Replaces (recording replace) asked split (split.flatMap (Piece.substituted replace))
      (asked ++ split.filterMap Piece.placeholder?) := by
  induction split generalizing asked with
  | nil =>
    rw [List.filterMap_nil, List.append_nil]
    exact .nil asked
  | cons piece rest ih =>
    rw [List.flatMap_cons]
    cases piece with
    | plain c => exact .plain c (ih asked closed.tail)
    | group inner =>
      rcases group_cases (closed inner List.mem_cons_self) with
        ⟨name, params, legible, rfl, read⟩ | ⟨malformed, read⟩
      · have known : (Piece.group (spelled name params)).placeholder? =
          some ⟨name, spell name params, params⟩ := read
        have further := ih (asked ++ [⟨name, spell name params, params⟩]) closed.tail
        rw [List.append_assoc, List.singleton_append] at further
        rw [List.filterMap_cons_some known, Piece.substituted, known, Option.bind_some]
        cases answer : replace ⟨name, spell name params, params⟩ with
        | none => exact .declined legible (by rw [recording, answer]) further
        | some value => exact .replaced legible (by rw [recording, answer]) further
      · have unknown : (Piece.group inner).placeholder? = none := read
        rw [List.filterMap_cons_none unknown, Piece.substituted, unknown, Option.bind_none]
        exact .malformed malformed (ih asked closed.tail)

/-! ## 2. Parts of a text -/

/-- What stands in a text from one position to another, if these are in order and in range. -/
def slice? (text : List Char) (start stop : Nat) : Option (List Char) :=
  if start ≤ stop ∧ stop ≤ text.length then some ((text.take stop).drop start) else none

theorem slice?_part {text front part back : List Char} {start : Nat}
    (whole : text = front ++ (part ++ back)) (here : start = front.length) :
    slice? text start (start + part.length) = some part := by
  rw [← List.append_assoc] at whole
  rw [whole, here, slice?, if_pos, ← List.length_append, List.take_left, List.drop_left]
  simp

/-- The placeholder that a text with its braces spells. -/
def Placeholder.parse : List Char → Option Placeholder
  | [] => none
  | first :: rest =>
    if first = '\x7b' ∧ rest.getLast? = some '\x7d' then Placeholder.read rest.dropLast else none

theorem parse_group (inner : List Char) :
    Placeholder.parse (Piece.group inner).text = Placeholder.read inner := by
  rw [Piece.text, List.cons_append, Placeholder.parse, List.getLast?_concat, List.dropLast_concat,
    if_pos ⟨rfl, rfl⟩]

/-! ## 3. The loops -/

/-- The loop of a substitution over matches: what has been put out, where the text begins that has not
    been put out, and what the function remembers. -/
def spliceFrom (replacer : Replacer σ) (text : List Char) :
    (out : List Char) → (cursor : Nat) → (memory : σ) → List Match → Option (List Char × σ)
  | out, cursor, memory, [] =>
    (slice? text cursor text.length).map fun behind => (out ++ behind, memory)
  | out, cursor, memory, m :: rest =>
    match slice? text m.start m.stop with
    | none => none
    | some found =>
      match Placeholder.parse found with
      | none => spliceFrom replacer text out cursor memory rest
      | some p =>
        match replacer memory p with
        | (none, memory) => spliceFrom replacer text out cursor memory rest
        | (some value, memory) =>
          match slice? text cursor m.start with
          | none => none
          | some between =>
            spliceFrom replacer text (out ++ between ++ value.toList) m.stop memory rest

/-- A substitution over the matches of a search. -/
def splice (replacer : Replacer σ) (text : List Char) (memory : σ) (found : List Match) :
    Option (List Char × σ) :=
  spliceFrom replacer text [] 0 memory found

/-- The placeholders among the matches of a search, each distinct match once. -/
def listed (text : List Char) (found : List Match) : Option (List Placeholder) :=
  (found.mapM fun m => slice? text m.start m.stop).map fun groups =>
    groups.eraseDups.filterMap Placeholder.parse

section Step

variable {memory next : σ} {text done kept inner ahead : List Char} {p : Placeholder} {start : Nat}
  (whole : text = done ++ (kept ++ ((Piece.group inner).text ++ ahead)))
  (here : start = done.length + kept.length) (out : List Char) (cursor : Nat) (found : List Match)
include whole here

theorem slice?_group : slice? text start (start + (Piece.group inner).text.length) =
    some (Piece.group inner).text :=
  slice?_part (whole.trans (List.append_assoc ..).symm) (by rw [here, List.length_append])

/-- A malformed group leaves the loop as it is. -/
theorem spliceFrom_malformed (unread : Placeholder.read inner = none) :
    spliceFrom replacer text out cursor memory
        (⟨start, start + (Piece.group inner).text.length⟩ :: found) =
      spliceFrom replacer text out cursor memory found := by
  rw [spliceFrom]
  simp only [slice?_group whole here, parse_group, unread]

/-- A declined placeholder only changes what the function remembers. -/
theorem spliceFrom_declined (read : Placeholder.read inner = some p)
    (answer : replacer memory p = (none, next)) :
    spliceFrom replacer text out cursor memory
        (⟨start, start + (Piece.group inner).text.length⟩ :: found) =
      spliceFrom replacer text out cursor next found := by
  rw [spliceFrom]
  simp only [slice?_group whole here, parse_group, read, answer]

/-- In front of a placeholder that is replaced, the text that was kept is put out, and the cursor goes
    behind the placeholder. -/
theorem spliceFrom_replaced {value : String} (read : Placeholder.read inner = some p)
    (answer : replacer memory p = (some value, next)) :
    spliceFrom replacer text out done.length memory
        (⟨start, start + (Piece.group inner).text.length⟩ :: found) =
      spliceFrom replacer text (out ++ kept ++ value.toList)
        (start + (Piece.group inner).text.length) next found := by
  have between : slice? text done.length start = some kept := here ▸ slice?_part whole rfl
  rw [spliceFrom]
  simp only [slice?_group whole here, parse_group, read, answer, between]

end Step

/-- A piece that stays goes behind the text that was kept. -/
theorem keep_piece {text done kept : List Char} {start : Nat} {piece : Piece} {rest : List Piece}
    (whole : text = done ++ (kept ++ (piece :: rest).flatMap Piece.text))
    (here : start = done.length + kept.length) :
    text = done ++ (kept ++ piece.text ++ rest.flatMap Piece.text) ∧
      start + piece.text.length = done.length + (kept ++ piece.text).length := by
  rw [List.flatMap_cons, ← List.append_assoc kept] at whole
  rw [here, List.length_append, Nat.add_assoc]
  exact ⟨whole, rfl⟩

/-- **The loop puts out what becomes of the pieces.** In front of them there is the text that is done,
    which the cursor stands behind, and then text that was kept and is put out with what follows. -/
theorem spliceFrom_eq {memory last : σ} {behind : List Piece} {new : List Char}
    (h : Replaces replacer memory behind new last) (closed : Closed behind)
    {text done kept : List Char} (whole : text = done ++ (kept ++ behind.flatMap Piece.text))
    {start : Nat} (here : start = done.length + kept.length) (out : List Char) :
    spliceFrom replacer text out done.length memory (positions start behind) =
      some (out ++ (kept ++ new), last) := by
  induction h generalizing done kept start out with
  | nil memory =>
    have size : text.length = done.length + kept.length := by rw [whole]; simp
    rw [positions, spliceFrom, size, slice?_part whole rfl, List.append_nil]
    rfl
  | plain c further ih =>
    obtain ⟨whole', here'⟩ := keep_piece whole here
    have later := ih closed.tail whole' here' out
    rwa [List.append_assoc] at later
  | malformed unspelled further ih =>
    obtain ⟨whole', here'⟩ := keep_piece whole here
    have later := ih closed.tail whole' here' out
    have unread := read_eq_none (closed _ List.mem_cons_self) unspelled
    rw [positions, spliceFrom_malformed whole here _ _ _ unread, later, List.append_assoc]
  | declined legible answer further ih =>
    obtain ⟨whole', here'⟩ := keep_piece whole here
    have later := ih closed.tail whole' here' out
    rw [positions, spliceFrom_declined whole here _ _ _ (placeholder_spelled legible) answer, later,
      List.append_assoc]
  | @replaced _ _ _ _ _ name params value legible answer further ih =>
    obtain ⟨whole', here'⟩ := keep_piece whole here
    -- behind the placeholder all is done, and nothing is kept
    rw [← List.append_assoc done, ← List.nil_append (List.flatMap ..)] at whole'
    rw [← List.length_append] at here'
    have later := ih closed.tail whole' (Nat.add_zero _).symm (out ++ kept ++ value.toList)
    rw [positions, spliceFrom_replaced whole here _ _ (placeholder_spelled legible) answer, here',
      later]
    simp only [List.append_assoc, List.nil_append]

/-! ## 4. Placeholders -/

theorem group_text_injective {inner inner' : List Char}
    (h : (Piece.group inner).text = (Piece.group inner').text) : inner = inner' :=
  List.append_cancel_right (List.cons.inj h).2

/-- A placeholder knows the group it was read from. -/
theorem source_of_read {inner : List Char} {p : Placeholder} (h : Placeholder.read inner = some p) :
    p.source = String.ofList (Piece.group inner).text := by
  unfold Placeholder.read at h
  split at h
  split at h
  · cases h
  · obtain ⟨params, -, rfl⟩ := Option.map_eq_some_iff.mp h
    rfl

/-- No two groups are read as the same placeholder. -/
theorem read_injective (inner inner' : List Char) (p : Placeholder)
    (h : Placeholder.read inner = some p) (h' : Placeholder.read inner' = some p) :
    inner = inner' := by
  exact group_text_injective
    (String.ofList_injective ((source_of_read h).symm.trans (source_of_read h')))

/-- **The placeholders of a text are those among its pieces**, each once. -/
theorem placeholders_eq (text : String) :
    placeholders text = ((pieces text.toList).filterMap Piece.placeholder?).eraseDups := by
  have read : (pieces text.toList).filterMap Piece.placeholder? =
      (groups text.toList).filterMap Placeholder.read := (List.filterMap_filterMap).symm
  rw [read, eraseDups_filterMap read_injective, placeholders]

/-- At the positions of the groups among pieces there are these groups. -/
theorem mapM_slice? {text done : List Char} {behind : List Piece}
    (whole : text = done ++ behind.flatMap Piece.text) :
    (positions done.length behind).mapM (fun m => slice? text m.start m.stop) =
      some ((behind.filterMap Piece.inner?).map fun inner => (Piece.group inner).text) := by
  induction behind generalizing done with
  | nil => rfl
  | cons piece rest ih =>
    rw [List.flatMap_cons] at whole
    have further := ih (whole.trans (List.append_assoc ..).symm)
    rw [List.length_append] at further
    cases piece with
    | plain c => exact further
    | group inner =>
      rw [positions, List.mapM_cons, slice?_part whole rfl, further]
      rfl

/-- **The listing over the matches of a search gives the placeholders of the text.** -/
theorem listed_eq (text : String) :
    listed text.toList (positions 0 (pieces text.toList)) = some (placeholders text) := by
  have whole : text.toList = [] ++ (pieces text.toList).flatMap Piece.text :=
    (flatten_pieces text.toList).symm
  have found := mapM_slice? whole
  have distinct : ((groups text.toList).map fun inner => (Piece.group inner).text).eraseDups =
      (groups text.toList).eraseDups.map fun inner => (Piece.group inner).text := by
    rw [← List.filterMap_eq_map]
    refine eraseDups_filterMap (fun a b c h h' => ?_) _
    exact group_text_injective ((Option.some_inj.mp h).trans (Option.some_inj.mp h').symm)
  have read : (Placeholder.parse ∘ fun inner => (Piece.group inner).text) = Placeholder.read :=
    funext parse_group
  rw [List.length_nil] at found
  rw [listed, found, Option.map_some, ← groups, distinct, List.filterMap_map, read, placeholders]

/-! ## 5. The whole of it -/

/-- **Substitution loses nothing.** A text has one splitting into groups and literal text. Substitution
    puts out its pieces in order: a group that spells a placeholder is replaced by the value that the
    function gives for it, if it gives one, and everything else stays as it is. The placeholders of the text
    are those that the function is asked about, each once, in the order of first appearance.

    Both can be done by loops over the matches of a search, of which there is one: the listing gives the
    same placeholders, and the loop with a cursor gives the same text and asks about the same placeholders
    in the same order. Also for a function that remembers what it was asked before, that loop takes all parts
    of the text by positions in order and in range, and puts out what becomes of the pieces, and nothing
    else does. -/
theorem substitute_lossless (text : String) :
    ∃ split asked,
      (∀ other, Splits text.toList other ↔ other = split) ∧
      (∀ replace, Replaces (recording replace) [] split (substitute text replace).toList asked) ∧
      placeholders text = asked.eraseDups ∧
      (∃ found, Found text.toList 0 found) ∧
      ∀ found, Found text.toList 0 found →
        listed text.toList found = some (placeholders text) ∧
        (∀ replace, splice (recording replace) text.toList [] found =
          some ((substitute text replace).toList, asked)) ∧
        ∀ (σ : Type) (replacer : Replacer σ) (memory : σ),
          (splice replacer text.toList memory found).isSome = true ∧
          ∀ out last, splice replacer text.toList memory found = some (out, last) ↔
            Replaces replacer memory split out last := by
  have closed := closed_pieces text.toList
  have becomes (replace : Placeholder → Option String) :
      Replaces (recording replace) [] (pieces text.toList) (substitute text replace).toList
        ((pieces text.toList).filterMap Piece.placeholder?) := by
    rw [substitute, String.toList_ofList]
    exact replaces_recording replace [] closed
  -- at the beginning nothing is done and nothing is kept
  have whole : text.toList = [] ++ ([] ++ (pieces text.toList).flatMap Piece.text) :=
    (flatten_pieces text.toList).symm
  have spliced {σ : Type} {replacer : Replacer σ} {memory last : σ} {out : List Char}
      (h : Replaces replacer memory (pieces text.toList) out last) :
      splice replacer text.toList memory (positions 0 (pieces text.toList)) = some (out, last) :=
    spliceFrom_eq h closed whole rfl []
  refine ⟨pieces text.toList, _, fun _ => splits_iff, becomes, placeholders_eq text,
    ⟨_, found_iff.mpr rfl⟩, fun found searched => ?_⟩
  obtain rfl := found_iff.mp searched
  refine ⟨listed_eq text, fun replace => spliced (becomes replace), fun σ replacer memory => ?_⟩
  obtain ⟨out, last, h⟩ := exists_replaces replacer memory closed
  refine ⟨by rw [spliced h]; rfl, fun out' last' => ⟨fun same => ?_, spliced⟩⟩
  obtain ⟨rfl, rfl⟩ := Prod.mk.inj (Option.some_inj.mp ((spliced h).symm.trans same))
  exact h

/-- A name stands twice in a text with a brace that opens nothing and a group that is malformed: both are
    replaced, the values are not looked at again, and all else stays. -/
theorem substitute_lossless_twice :
    Found "\x7ba\x7d\x7b\x7bb c\x7d\x7ba\x7d".toList 0 [⟨0, 3⟩, ⟨4, 9⟩, ⟨9, 12⟩] ∧
    ∃ asked, splice (recording fun p => if p.name = "a" then some "\x7bb\x7d" else none)
        "\x7ba\x7d\x7b\x7bb c\x7d\x7ba\x7d".toList [] [⟨0, 3⟩, ⟨4, 9⟩, ⟨9, 12⟩] =
          some ("\x7bb\x7d\x7b\x7bb c\x7d\x7bb\x7d".toList, asked) ∧
      placeholders "\x7ba\x7d\x7b\x7bb c\x7d\x7ba\x7d" = asked.eraseDups := by
  have searched : Found "\x7ba\x7d\x7b\x7bb c\x7d\x7ba\x7d".toList 0 [⟨0, 3⟩, ⟨4, 9⟩, ⟨9, 12⟩] :=
    found_iff.mpr (by decide)
  obtain ⟨split, asked, -, -, distinct, -, loops⟩ :=
    substitute_lossless "\x7ba\x7d\x7b\x7bb c\x7d\x7ba\x7d"
  have replaced : substitute "\x7ba\x7d\x7b\x7bb c\x7d\x7ba\x7d"
      (fun p => if p.name = "a" then some "\x7bb\x7d" else none) =
        "\x7bb\x7d\x7b\x7bb c\x7d\x7bb\x7d" := by decide
  exact ⟨searched, asked, replaced ▸ (loops _ searched).2.1 _, distinct⟩

end Assay.Message
