import Assay.Message.Placeholder
import Assay.Proofs.Message.Pending
import Assay.Proofs.Message.Pieces
import Assay.Proofs.Text.Split

/-!
# How placeholders are spelled

Placeholders are read through three cuts: at the first bar, at every comma, and at the first `=` of
each part. This file says what the cuts amount to: a placeholder is a group that is spelled like one,
and there is one spelling for each name and each list of parameters.

* `Placeholder.Legible` -- the names and parameters that can be spelled; `Placeholder.spell` -- how;
* `readParam_eq_some_iff`, `readParamsFrom_eq_some_iff`, **`read_eq_some_iff`** -- what reads well is what
  is spelled well;
* `spelled_of_mem` -- so each placeholder of a text stands in it as it is spelled;
* **`placeholders_spell_iff`** -- what is spelled is read back, exactly for what is legible.
-/

namespace Assay.Message

open Assay.Text

namespace Placeholder

/-! ## 1. Spelling -/

/-- A text that can be the value of a parameter. It may have blanks and `=` in it. -/
structure IsValue (text : String) : Prop where
  filled : text ≠ ""
  braceless : Braceless text.toList
  noBar : '|' ∉ text.toList
  noComma : ',' ∉ text.toList

/-- A text that can be the key of a parameter. -/
structure IsKey (text : String) : Prop extends IsValue text where
  noEquals : '=' ∉ text.toList
  unblank : ∀ c ∈ text.toList, isBlank c = false

/-- A text that can be the name of a placeholder. It may have commas and `=` in it. -/
structure IsName (text : String) : Prop where
  filled : text ≠ ""
  braceless : Braceless text.toList
  noBar : '|' ∉ text.toList
  unblank : ∀ c ∈ text.toList, isBlank c = false

/-- A name and parameters that a placeholder can have. -/
structure Legible (name : String) (params : Params) : Prop where
  name : IsName name
  keys : (params.map Prod.fst).Nodup
  key : ∀ p ∈ params, IsKey p.1
  value : ∀ p ∈ params, IsValue p.2

instance (text : String) : Decidable (IsValue text) :=
  decidable_of_iff
    (text ≠ "" ∧ Braceless text.toList ∧ '|' ∉ text.toList ∧ ',' ∉ text.toList)
    ⟨fun ⟨a, b, c, d⟩ => ⟨a, b, c, d⟩, fun ⟨a, b, c, d⟩ => ⟨a, b, c, d⟩⟩

instance (text : String) : Decidable (IsKey text) :=
  have : Decidable (∀ c ∈ text.toList, isBlank c = false) := List.decidableBAll _ _
  decidable_of_iff
    (IsValue text ∧ '=' ∉ text.toList ∧ ∀ c ∈ text.toList, isBlank c = false)
    ⟨fun ⟨a, b, c⟩ => ⟨a, b, c⟩, fun ⟨a, b, c⟩ => ⟨a, b, c⟩⟩

instance (text : String) : Decidable (IsName text) :=
  have : Decidable (∀ c ∈ text.toList, isBlank c = false) := List.decidableBAll _ _
  decidable_of_iff
    (text ≠ "" ∧ Braceless text.toList ∧ '|' ∉ text.toList ∧ ∀ c ∈ text.toList, isBlank c = false)
    ⟨fun ⟨a, b, c, d⟩ => ⟨a, b, c, d⟩, fun ⟨a, b, c, d⟩ => ⟨a, b, c, d⟩⟩

instance (name : String) (params : Params) : Decidable (Legible name params) :=
  decidable_of_iff
    (IsName name ∧ (params.map Prod.fst).Nodup ∧ (∀ p ∈ params, IsKey p.1) ∧
      ∀ p ∈ params, IsValue p.2)
    ⟨fun ⟨a, b, c, d⟩ => ⟨a, b, c, d⟩, fun ⟨a, b, c, d⟩ => ⟨a, b, c, d⟩⟩

/-- A key and a value with `=` between them. -/
def spelledParam (p : String × String) : List Char := p.1.toList ++ '=' :: p.2.toList

/-- The inside of the group: a name, or a name, a bar and parameters. -/
def spelled (name : String) (params : Params) : List Char :=
  if params = [] then name.toList
  else name.toList ++ '|' :: joinWith ',' (params.map spelledParam)

/-- The group. -/
def spell (name : String) (params : Params) : String :=
  String.ofList (Piece.group (spelled name params)).text

end Placeholder

open Placeholder

/-! ## 2. Reading parameters -/

/-- A parameter that can be read: it has a key without blanks and without `=`, and a value. -/
structure Readable (p : String × String) : Prop where
  keyed : p.1 ≠ ""
  noEquals : '=' ∉ p.1.toList
  unblank : ∀ c ∈ p.1.toList, isBlank c = false
  valued : p.2 ≠ ""

theorem ofList_ne_empty {text : List Char} : String.ofList text ≠ "" ↔ text ≠ [] :=
  not_congr String.ofList_eq_empty_iff

/-- A key and a value are taken as a parameter. -/
theorem accepts_iff (earlier : Params) (key value : List Char) :
    (key.isEmpty || value.isEmpty || key.any isBlank ||
        earlier.any (·.1 == String.ofList key)) = false ↔
      String.ofList key ≠ "" ∧ String.ofList value ≠ "" ∧ (∀ c ∈ key, isBlank c = false) ∧
        String.ofList key ∉ earlier.map Prod.fst := by
  rw [ofList_ne_empty, ofList_ne_empty]
  simp only [Bool.or_eq_false_iff, List.isEmpty_eq_false_iff, List.any_eq_false, beq_iff_eq,
    List.mem_map, not_exists, not_and, Bool.not_eq_true, and_assoc]

/-- **What reads as a parameter is a spelled one**, with a key that is not there yet. -/
theorem readParam_eq_some_iff {earlier : Params} {text : List Char} {p : String × String} :
    readParam earlier text = some p ↔
      text = spelledParam p ∧ Readable p ∧ p.1 ∉ earlier.map Prod.fst := by
  constructor
  · intro h
    unfold readParam at h
    split at h
    · cases h
    · rename_i key value cut
      obtain ⟨noEquals, rfl⟩ := splitOnce_eq_some_iff.mp cut
      split at h
      · cases h
      · rename_i accepted
        cases h
        obtain ⟨keyed, valued, unblank, fresh⟩ :=
          (accepts_iff earlier key value).mp (Bool.eq_false_iff.mpr accepted)
        rw [← String.toList_ofList (l := key)] at noEquals unblank
        refine ⟨?_, ⟨keyed, noEquals, unblank, valued⟩, fresh⟩
        rw [spelledParam, String.toList_ofList, String.toList_ofList]
  · rintro ⟨rfl, readable, fresh⟩
    have accepted := (accepts_iff earlier p.1.toList p.2.toList).mpr
    rw [String.ofList_toList, String.ofList_toList] at accepted
    rw [readParam, spelledParam, splitOnce_append readable.noEquals]
    dsimp only
    rw [String.ofList_toList, String.ofList_toList,
      accepted ⟨readable.keyed, readable.valued, readable.unblank, fresh⟩]
    rfl

/-- **What reads as parameters are spelled ones**, with different keys, none of which is there yet. -/
theorem readParamsFrom_eq_some_iff {earlier params : Params} {texts : List (List Char)} :
    readParamsFrom earlier texts = some params ↔
      ∃ more, params = earlier ++ more ∧ texts = more.map spelledParam ∧
        (∀ p ∈ more, Readable p) ∧ (more.map Prod.fst).Nodup ∧
        ∀ p ∈ more, p.1 ∉ earlier.map Prod.fst := by
  induction texts generalizing earlier with
  | nil =>
    constructor
    · intro h
      cases h
      exact ⟨[], (List.append_nil _).symm, rfl, List.forall_mem_nil _, .nil, List.forall_mem_nil _⟩
    · rintro ⟨more, rfl, none, -⟩
      rw [List.map_eq_nil_iff.mp none.symm, List.append_nil]
      rfl
  | cons text rest ih =>
    constructor
    · intro h
      rw [readParamsFrom] at h
      split at h
      · cases h
      · rename_i p read
        obtain ⟨rfl, readable, fresh⟩ := readParam_eq_some_iff.mp read
        obtain ⟨more, rfl, rfl, others, distinct, unused⟩ := ih.mp h
        simp only [List.map_append, List.map_cons, List.map_nil, List.mem_append,
          List.mem_singleton, not_or] at unused
        refine ⟨p :: more, (List.append_cons ..).symm, rfl,
          List.forall_mem_cons.mpr ⟨readable, others⟩, List.nodup_cons.mpr ⟨fun mem => ?_, distinct⟩,
          List.forall_mem_cons.mpr ⟨fresh, fun q mem => (unused q mem).1⟩⟩
        obtain ⟨q, there, same⟩ := List.mem_map.mp mem
        exact (unused q there).2 same
    · rintro ⟨more, rfl, spelled, readable, distinct, unused⟩
      obtain ⟨p, others, rfl, rfl, rfl⟩ := List.map_eq_cons_iff.mp spelled.symm
      rw [List.forall_mem_cons] at readable unused
      rw [List.map_cons, List.nodup_cons] at distinct
      rw [readParamsFrom, readParam_eq_some_iff.mpr ⟨rfl, readable.1, unused.1⟩]
      dsimp only
      refine ih.mpr ⟨others, List.append_cons .., rfl, readable.2, distinct.2, fun q mem => ?_⟩
      simp only [List.map_append, List.map_cons, List.map_nil, List.mem_append,
        List.mem_singleton, not_or]
      exact ⟨unused.2 q mem, fun same => distinct.1 (same ▸ List.mem_map_of_mem mem)⟩

theorem equals_mem_spelledParam (p : String × String) : '=' ∈ spelledParam p :=
  List.mem_append_right _ List.mem_cons_self

/-- What stands behind the bar are spelled parameters, at least one. -/
theorem readParams_eq_some_iff {text : List Char} {params : Params} :
    readParams text = some params ↔ params ≠ [] ∧ text = joinWith ',' (params.map spelledParam) ∧
      '|' ∉ text ∧ (∀ p ∈ params, Readable p ∧ ',' ∉ spelledParam p) ∧
      (params.map Prod.fst).Nodup := by
  have accepts_text : (text.isEmpty || text.contains '|') = false ↔ text ≠ [] ∧ '|' ∉ text := by
    rw [Bool.or_eq_false_iff, List.isEmpty_eq_false_iff, List.contains_eq_mem,
      decide_eq_false_iff_not]
  constructor
  · intro h
    unfold readParams at h
    split at h
    · cases h
    · rename_i accepted
      obtain ⟨filled, noBar⟩ := accepts_text.mp (Bool.eq_false_iff.mpr accepted)
      obtain ⟨params, rfl, parts, readable, distinct, -⟩ := readParamsFrom_eq_some_iff.mp h
      have joined : text = joinWith ',' (params.map spelledParam) := by
        rw [← parts, joinWith_splitAt]
      refine ⟨fun none => ?_, joined, noBar, fun p mem => ⟨readable p mem, ?_⟩, distinct⟩
      · rw [show params = [] from none] at joined
        exact filled joined
      · exact notMem_of_mem_splitAt _ (parts ▸ List.mem_map_of_mem mem)
  · rintro ⟨listed, rfl, noBar, readable, distinct⟩
    have parts : splitAt ',' (joinWith ',' (params.map spelledParam)) = params.map spelledParam := by
      refine splitAt_joinWith (mt List.map_eq_nil_iff.mp listed) fun part mem => ?_
      obtain ⟨p, there, rfl⟩ := List.mem_map.mp mem
      exact (readable p there).2
    have filled : joinWith ',' (params.map spelledParam) ≠ [] := by
      obtain ⟨p, others, rfl⟩ := List.exists_cons_of_ne_nil listed
      exact List.ne_nil_of_mem (subset_joinWith List.mem_cons_self (equals_mem_spelledParam p))
    rw [readParams, accepts_text.mpr ⟨filled, noBar⟩, parts]
    exact readParamsFrom_eq_some_iff.mpr ⟨params, rfl, rfl, fun p mem => (readable p mem).1,
      distinct, fun _ _ => List.not_mem_nil⟩

/-! ## 3. Reading groups -/

/-- A letter of a spelled parameter is one of the key, the `=`, or one of the value. -/
theorem mem_spelledParam {p : String × String} {c : Char} :
    c ∈ spelledParam p ↔ c ∈ p.1.toList ∨ c = '=' ∨ c ∈ p.2.toList := by
  rw [spelledParam, List.mem_append, List.mem_cons]

/-- The parameters of a text without braces and bars can be spelled, if they are readable. -/
theorem legible_params {params : Params}
    (plain : Braceless (joinWith ',' (params.map spelledParam)))
    (noBar : '|' ∉ joinWith ',' (params.map spelledParam))
    (readable : ∀ p ∈ params, Readable p ∧ ',' ∉ spelledParam p) :
    (∀ p ∈ params, IsKey p.1) ∧ ∀ p ∈ params, IsValue p.2 := by
  have inText : ∀ p ∈ params, spelledParam p ⊆ joinWith ',' (params.map spelledParam) :=
    fun p mem => subset_joinWith (List.mem_map_of_mem mem)
  refine ⟨fun p mem => ?_, fun p mem => ?_⟩
  · have letters : p.1.toList ⊆ joinWith ',' (params.map spelledParam) :=
      fun c there => inText p mem (mem_spelledParam.mpr (.inl there))
    exact {
      filled := (readable p mem).1.keyed
      braceless := fun c there => plain c (letters there)
      noBar := fun there => noBar (letters there)
      noComma := fun there => (readable p mem).2 (mem_spelledParam.mpr (.inl there))
      noEquals := (readable p mem).1.noEquals
      unblank := (readable p mem).1.unblank }
  · have letters : p.2.toList ⊆ joinWith ',' (params.map spelledParam) :=
      fun c there => inText p mem (mem_spelledParam.mpr (.inr (.inr there)))
    exact {
      filled := (readable p mem).1.valued
      braceless := fun c there => plain c (letters there)
      noBar := fun there => noBar (letters there)
      noComma := fun there => (readable p mem).2 (mem_spelledParam.mpr (.inr (.inr there))) }

section Legible

variable {name : String} {params : Params} (legible : Legible name params)
include legible

theorem readable_of_legible : ∀ p ∈ params, Readable p ∧ ',' ∉ spelledParam p := by
  intro p mem
  have key := legible.key p mem
  have value := legible.value p mem
  refine ⟨⟨key.filled, key.noEquals, key.unblank, value.filled⟩, fun comma => ?_⟩
  rcases mem_spelledParam.mp comma with there | same | there
  · exact key.noComma there
  · exact absurd same (by decide)
  · exact value.noComma there

/-- A letter of spelled parameters is a comma or an `=`, or one that keys or values can have. -/
theorem plain_params : Braceless (joinWith ',' (params.map spelledParam)) ∧
    '|' ∉ joinWith ',' (params.map spelledParam) := by
  have plain : ∀ c ∈ joinWith ',' (params.map spelledParam),
      (c ≠ '\x7b' ∧ c ≠ '\x7d') ∧ c ≠ '|' := by
    intro c mem
    rcases mem_joinWith mem with rfl | ⟨part, listed, there⟩
    · decide
    · obtain ⟨p, mem, rfl⟩ := List.mem_map.mp listed
      have key := legible.key p mem
      have value := legible.value p mem
      rcases mem_spelledParam.mp there with there | rfl | there
      · exact ⟨key.braceless c there, fun same => key.noBar (same ▸ there)⟩
      · decide
      · exact ⟨value.braceless c there, fun same => value.noBar (same ▸ there)⟩
  exact ⟨fun c mem => (plain c mem).1, fun mem => (plain _ mem).2 rfl⟩

theorem braceless_spelled : Braceless (spelled name params) := by
  unfold spelled
  split
  · exact legible.name.braceless
  · exact braceless_append.mpr ⟨legible.name.braceless,
      braceless_cons.mpr ⟨by decide, (plain_params legible).1⟩⟩

theorem spelled_ne_nil : spelled name params ≠ [] := by
  have filled : name.toList ≠ [] := mt String.toList_eq_nil_iff.mp legible.name.filled
  unfold spelled
  split
  · exact filled
  · exact List.append_ne_nil_of_left_ne_nil filled _

end Legible

/-- A name alone. -/
theorem legible_name {name : String} (named : IsName name) : Legible name [] where
  name := named
  keys := .nil
  key := List.forall_mem_nil _
  value := List.forall_mem_nil _

theorem accepts_name (name : List Char) : (name.isEmpty || name.any isBlank) = false ↔
    String.ofList name ≠ "" ∧ ∀ c ∈ name, isBlank c = false := by
  rw [ofList_ne_empty]
  simp only [Bool.or_eq_false_iff, List.isEmpty_eq_false_iff, List.any_eq_false, Bool.not_eq_true]

/-- **What reads as a placeholder is spelled like one, and what is spelled is read.** -/
theorem read_eq_some_iff {inner : List Char} (plain : Braceless inner) {p : Placeholder} :
    Placeholder.read inner = some p ↔ Legible p.name p.params ∧ inner = spelled p.name p.params ∧
      p.source = spell p.name p.params := by
  constructor
  · intro h
    unfold Placeholder.read at h
    cases cut : splitOnce '|' inner with
    | none =>
      rw [cut] at h
      dsimp only at h
      split at h
      · cases h
      · rename_i accepted
        cases h
        obtain ⟨filled, unblank⟩ := (accepts_name inner).mp (Bool.eq_false_iff.mpr accepted)
        have noBar := splitOnce_eq_none_iff.mp cut
        rw [← String.toList_ofList (l := inner)] at plain noBar unblank
        have same : inner = spelled (String.ofList inner) [] := by
          rw [spelled, if_pos rfl, String.toList_ofList]
        refine ⟨legible_name ⟨filled, plain, noBar, unblank⟩, same, ?_⟩
        rw [spell, ← same]
    | some halves =>
      obtain ⟨name, rest⟩ := halves
      rw [cut] at h
      dsimp only at h
      split at h
      · cases h
      · rename_i accepted
        obtain ⟨params, read, made⟩ := Option.map_eq_some_iff.mp h
        cases made
        obtain ⟨noBarName, rfl⟩ := splitOnce_eq_some_iff.mp cut
        obtain ⟨listed, rfl, noBar, readable, distinct⟩ := readParams_eq_some_iff.mp read
        obtain ⟨filled, unblank⟩ := (accepts_name name).mp (Bool.eq_false_iff.mpr accepted)
        obtain ⟨plainName, plainRest⟩ := braceless_append.mp plain
        obtain ⟨keys, values⟩ := legible_params (braceless_cons.mp plainRest).2 noBar readable
        have same : name ++ '|' :: joinWith ',' (params.map spelledParam) =
            spelled (String.ofList name) params := by
          rw [spelled, if_neg listed, String.toList_ofList]
        rw [← String.toList_ofList (l := name)] at plainName noBarName unblank
        refine ⟨⟨⟨filled, plainName, noBarName, unblank⟩, distinct, keys, values⟩, same, ?_⟩
        rw [spell, ← same]
  · rintro ⟨legible, rfl, same⟩
    obtain ⟨name, source, params⟩ := p
    dsimp only at legible same ⊢
    subst same
    have accepted := (accepts_name name.toList).mpr
    rw [String.ofList_toList] at accepted
    have taken := accepted ⟨legible.name.filled, legible.name.unblank⟩
    unfold Placeholder.read
    by_cases listed : params = []
    · subst listed
      have cut : splitOnce '|' (spelled name []) = none := by
        rw [spelled, if_pos rfl]
        exact splitOnce_eq_none_iff.mpr legible.name.noBar
      have whole : spelled name [] = name.toList := if_pos rfl
      rw [cut]
      dsimp only
      rw [spell, whole, taken, String.ofList_toList]
      rfl
    · have cut : splitOnce '|' (spelled name params) =
          some (name.toList, joinWith ',' (params.map spelledParam)) := by
        rw [spelled, if_neg listed]
        exact splitOnce_append legible.name.noBar _
      have read : readParams (joinWith ',' (params.map spelledParam)) = some params :=
        readParams_eq_some_iff.mpr ⟨listed, rfl, (plain_params legible).2,
          readable_of_legible legible, legible.keys⟩
      rw [cut]
      dsimp only
      rw [taken, read, String.ofList_toList]
      rfl

/-! ## 4. Placeholders of a text -/

/-- A placeholder of a text is a group of the text that reads as it. -/
theorem group_of_mem {p : Placeholder} {text : String} (mem : p ∈ placeholders text) :
    ∃ inner, .group inner ∈ pieces text.toList ∧ Placeholder.read inner = some p := by
  obtain ⟨piece, there, read⟩ := mem_placeholders.mp mem
  cases piece with
  | plain c => cases read
  | group inner => exact ⟨inner, there, read⟩

/-- **A placeholder of a text stands in it as it is spelled.** -/
theorem spelled_of_mem {p : Placeholder} {text : String} (mem : p ∈ placeholders text) :
    Legible p.name p.params ∧ p.source = spell p.name p.params ∧
      .group (spelled p.name p.params) ∈ pieces text.toList := by
  obtain ⟨inner, there, read⟩ := group_of_mem mem
  obtain ⟨legible, rfl, same⟩ := (read_eq_some_iff (group_of_mem_pieces there).2).mp read
  exact ⟨legible, same, there⟩

/-- A piece of a text stands in it. -/
theorem infix_of_mem_pieces {piece : Piece} {text : List Char} (mem : piece ∈ pieces text) :
    piece.text <:+: text := by
  obtain ⟨front, back, cut⟩ := List.append_of_mem mem
  refine ⟨front.flatMap Piece.text, back.flatMap Piece.text, ?_⟩
  have whole := flatten_pieces text
  rw [cut, List.flatMap_append, List.flatMap_cons] at whole
  rw [List.append_assoc]
  exact whole

/-- What is spelled is one group. -/
theorem pieces_spell {name : String} {params : Params} (legible : Legible name params) :
    pieces (spell name params).toList = [.group (spelled name params)] := by
  have alone := pieces_group (spelled_ne_nil legible) (braceless_spelled legible) []
  rw [List.append_nil] at alone
  rw [spell, String.toList_ofList, alone]
  rfl

theorem placeholder_spelled {name : String} {params : Params} (legible : Legible name params) :
    Placeholder.read (spelled name params) = some ⟨name, spell name params, params⟩ :=
  (read_eq_some_iff (braceless_spelled legible)).mpr ⟨legible, rfl, rfl⟩

/-- The name of an argument can be the name of a placeholder. -/
theorem isName_of_arg {name : String} (named : Arg.isName name = true) : IsName name := by
  unfold Arg.isName at named
  rw [Bool.and_eq_true, Bool.and_eq_true] at named
  obtain ⟨⟨filled, -⟩, letters⟩ := named
  rw [Bool.not_eq_true', List.any_eq_false] at letters
  have plain : ∀ c ∈ name.toList, isBlank c = false ∧ Arg.structural c = false := fun c mem =>
    Bool.or_eq_false_iff.mp (Bool.eq_false_iff.mpr (letters c mem))
  exact {
    filled := bne_iff_ne.mp filled
    braceless := fun c mem => ⟨fun same => absurd (same ▸ (plain c mem).2) (by decide),
      fun same => absurd (same ▸ (plain c mem).2) (by decide)⟩
    noBar := fun mem => absurd (plain _ mem).2 (by decide)
    unblank := fun c mem => (plain c mem).1 }

/-- **Spelling and reading placeholders undo each other.** A name and parameters that are spelled as a
    group are read back as this one placeholder, exactly if they are legible; the name of an argument
    is. And each placeholder that is read from a message is spelled as its own source, which stands in
    the message. -/
theorem placeholders_spell_iff :
    (∀ name params, placeholders (spell name params) = [⟨name, spell name params, params⟩] ↔
      Legible name params) ∧
    (∀ name, Arg.isName name = true → Legible name []) ∧
    ∀ message, ∀ p ∈ placeholders message, spell p.name p.params = p.source ∧
      p.source.toList <:+: message.toList := by
  refine ⟨fun name params => ⟨fun read => ?_, fun legible => ?_⟩, fun name named => ?_,
    fun message p mem => ?_⟩
  · exact (spelled_of_mem (read ▸ List.mem_singleton_self _)).1
  · have only : groups (spell name params).toList = [spelled name params] := by
      rw [groups, pieces_spell legible]
      rfl
    rw [placeholders, only]
    show List.filterMap Placeholder.read [spelled name params] = _
    rw [List.filterMap_cons_some (placeholder_spelled legible), List.filterMap_nil]
  · exact legible_name (isName_of_arg named)
  · obtain ⟨-, same, there⟩ := spelled_of_mem mem
    have stands := infix_of_mem_pieces there
    rw [same, spell, String.toList_ofList]
    exact ⟨rfl, stands⟩

/-- The name with its parameters is read back, and is found behind a group that is no placeholder. -/
theorem placeholders_spell_steps :
    placeholders "\x7ba,b=c|x=1=2,y=two words\x7d" =
      [⟨"a,b=c", "\x7ba,b=c|x=1=2,y=two words\x7d", [("x", "1=2"), ("y", "two words")]⟩] ∧
    Legible "min" [] ∧
    ∃ p ∈ placeholders "\x7ba b\x7d at \x7b_name|format=titleCase\x7d",
      spell p.name p.params = "\x7b_name|format=titleCase\x7d" ∧
        p.source.toList <:+: "\x7ba b\x7d at \x7b_name|format=titleCase\x7d".toList := by
  have read : spell "a,b=c" [("x", "1=2"), ("y", "two words")] =
      "\x7ba,b=c|x=1=2,y=two words\x7d" := by decide
  have back := (placeholders_spell_iff.1 "a,b=c" [("x", "1=2"), ("y", "two words")]).mpr (by decide)
  rw [read] at back
  have mem : ⟨"_name", "\x7b_name|format=titleCase\x7d", [("format", "titleCase")]⟩ ∈
      placeholders "\x7ba b\x7d at \x7b_name|format=titleCase\x7d" := by decide
  obtain ⟨same, stands⟩ := placeholders_spell_iff.2.2 _ _ mem
  exact ⟨back, placeholders_spell_iff.2.1 "min" (by decide), _, mem, same, stands⟩

end Assay.Message
