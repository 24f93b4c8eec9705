import Mathlib.Algebra.Order.BigOperators.Group.List
import Mathlib.Algebra.Order.Ring.Nat
import Assay.Proofs.Message.Spelling

/-!
# Substitution in surroundings

A placeholder is replaced where it stands, whatever stands around it.

* **`substitute_around`** -- around a placeholder, the text in front and the text behind are substituted
  each for itself;
* **`substitute_framed`** -- texts without braces around a text stay, and the text becomes what it
  becomes alone;
* `exists_around` -- a placeholder of a text has a text in front and a text behind;
* `length_substitute_le`, `length_substitute_lt` -- values that are shorter than their placeholders make
  a text shorter.
-/

namespace Assay.Message

open Placeholder

variable {replace : Placeholder → Option String}

/-! ## 1. Parts -/

theorem flatMap_plains (text : List Char) :
    (plains text).flatMap (Piece.substituted replace) = text := by
  have same : ∀ piece ∈ plains text, piece.substituted replace = piece.text := by
    intro piece mem
    obtain ⟨c, -, rfl⟩ := List.mem_map.mp mem
    rfl
  rw [List.flatMap_congr same, text_plains]

/-- **Texts without braces around a text stay**, and the text becomes what it becomes alone. -/
theorem substitute_framed {front back : String} (plainFront : Braceless front.toList)
    (plainBack : Braceless back.toList) (text : String) :
    substitute (front ++ text ++ back) replace = front ++ substitute text replace ++ back := by
  rw [← String.toList_inj, substitute, substitute, String.toList_append, String.toList_append,
    pieces_framed plainFront plainBack, List.flatMap_append, List.flatMap_append, flatMap_plains,
    flatMap_plains]
  simp only [String.toList_append, String.toList_ofList]

section Around

variable {name : String} {params : Params} (legible : Legible name params)
include legible

/-- The pieces of a text around a placeholder. -/
theorem pieces_around_spell (front back : String) :
    pieces (front ++ spell name params ++ back).toList =
      pieces front.toList ++ .group (spelled name params) :: pieces back.toList := by
  rw [String.toList_append, String.toList_append, spell, String.toList_ofList,
    pieces_around (spelled_ne_nil legible) (braceless_spelled legible)]

/-- **Around a placeholder**, the text in front and the text behind are substituted each for itself. -/
theorem substitute_around (front back : String) :
    substitute (front ++ spell name params ++ back) replace =
      substitute front replace ++
        (replace ⟨name, spell name params, params⟩).getD (spell name params) ++
      substitute back replace := by
  have here : (Piece.group (spelled name params)).substituted replace =
      ((replace ⟨name, spell name params, params⟩).getD (spell name params)).toList := by
    have read : (Piece.group (spelled name params)).placeholder? =
        some ⟨name, spell name params, params⟩ := placeholder_spelled legible
    rw [Piece.substituted, read, Option.bind_some]
    cases replace ⟨name, spell name params, params⟩ with
    | none => exact String.toList_ofList.symm
    | some value => rfl
  rw [← String.toList_inj, substitute, pieces_around_spell legible, List.flatMap_append,
    List.flatMap_cons, here]
  simp only [String.toList_append, String.toList_ofList, substitute, List.append_assoc]

/-- A placeholder alone becomes its value. -/
theorem substitute_spell : substitute (spell name params) replace =
    (replace ⟨name, spell name params, params⟩).getD (spell name params) := by
  have empty : substitute "" replace = "" := rfl
  have alone : substitute ("" ++ spell name params ++ "") replace = substitute "" replace ++
      (replace ⟨name, spell name params, params⟩).getD (spell name params) ++
      substitute "" replace := substitute_around legible "" ""
  rwa [empty, String.empty_append, String.append_empty, String.empty_append,
    String.append_empty] at alone

/-- What is spelled inside a text is a placeholder of the text. -/
theorem mem_placeholders_around (front back : String) :
    ⟨name, spell name params, params⟩ ∈ placeholders (front ++ spell name params ++ back) := by
  refine mem_placeholders.mpr ⟨.group (spelled name params), ?_, placeholder_spelled legible⟩
  rw [pieces_around_spell legible]
  exact List.mem_append_right _ List.mem_cons_self

end Around

/-- **A placeholder of a text has a text in front and a text behind.** -/
theorem exists_around {p : Placeholder} {text : String} (mem : p ∈ placeholders text) :
    Legible p.name p.params ∧ p = ⟨p.name, spell p.name p.params, p.params⟩ ∧
      ∃ front back, text = front ++ spell p.name p.params ++ back := by
  obtain ⟨legible, same, there⟩ := spelled_of_mem mem
  obtain ⟨front, back, whole⟩ := infix_of_mem_pieces there
  refine ⟨legible, ?_, String.ofList front, String.ofList back, ?_⟩
  · rw [← same]
  · rw [← String.toList_inj, ← whole]
    simp only [String.toList_append, String.toList_ofList, spell]

/-! ## 2. Lengths -/

/-- What the placeholders of a text become is shorter than they are. -/
def Shortens (replace : Placeholder → Option String) (text : String) : Prop :=
  ∀ p ∈ placeholders text, ∀ value, replace p = some value → value.length < p.source.length

/-- The source of a placeholder is the piece it was read from. -/
theorem source_of_piece {text : String} {piece : Piece} (mem : piece ∈ pieces text.toList)
    {p : Placeholder} (read : piece.placeholder? = some p) : p.source.toList = piece.text := by
  cases piece with
  | plain c => cases read
  | group inner =>
    obtain ⟨-, rfl, same⟩ := (read_eq_some_iff (group_of_mem_pieces mem).2).mp read
    rw [same, spell, String.toList_ofList]

section Length

variable {text : String} (shorter : Shortens replace text)
include shorter

theorem length_substituted_lt {piece : Piece} (mem : piece ∈ pieces text.toList) {p : Placeholder}
    (read : piece.placeholder? = some p) {value : String} (taken : replace p = some value) :
    (piece.substituted replace).length < piece.text.length := by
  rw [Piece.substituted, read, Option.bind_some, taken, ← source_of_piece mem read]
  exact shorter p (mem_placeholders.mpr ⟨piece, mem, read⟩) value taken

theorem length_substituted_le {piece : Piece} (mem : piece ∈ pieces text.toList) :
    (piece.substituted replace).length ≤ piece.text.length := by
  cases change : piece.placeholder?.bind replace with
  | none =>
    rw [Piece.substituted, change]
  | some value =>
    obtain ⟨p, read, taken⟩ := Option.bind_eq_some_iff.mp change
    exact (length_substituted_lt shorter mem read taken).le

omit shorter in
/-- The length of a text is that of its pieces. -/
theorem length_eq_sum : text.length = ((pieces text.toList).map (·.text.length)).sum := by
  rw [← List.length_flatMap, flatten_pieces, String.length_toList]

omit shorter in
theorem length_substitute : (substitute text replace).length =
    ((pieces text.toList).map fun piece => (piece.substituted replace).length).sum := by
  rw [substitute, ← List.length_flatMap, String.length_ofList]

/-- No text gets longer. -/
theorem length_substitute_le : (substitute text replace).length ≤ text.length := by
  rw [length_substitute, length_eq_sum]
  exact List.sum_le_sum fun piece mem => length_substituted_le shorter mem

/-- **A text of which a placeholder is replaced gets shorter.** -/
theorem length_substitute_lt {p : Placeholder} (mem : p ∈ placeholders text) {value : String}
    (taken : replace p = some value) : (substitute text replace).length < text.length := by
  obtain ⟨piece, there, read⟩ := mem_placeholders.mp mem
  rw [length_substitute, length_eq_sum]
  exact List.sum_lt_sum _ _ (fun piece mem => length_substituted_le shorter mem)
    ⟨piece, there, length_substituted_lt shorter there read taken⟩

end Length

end Assay.Message
