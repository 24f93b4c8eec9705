import Mathlib.Data.List.Basic
import Assay.Message.Wording

/-!
# What waits for the path

The first stage of wording finds out which messages wait for the path, and the second stage looks at
no others. This file says that nothing is missed: putting a path into a message in which nothing waits
for it leaves the message as it is.

* `mem_placeholders` -- the placeholders that are listed for a text are those that substitution meets;
* `substitute_congr` -- so it depends on what becomes of these; `substitute_of_declined` -- a text none
  of whose placeholders is replaced stays as it is;
* **`withPath_of_pendingOf_nil`** -- so does a message in which nothing is pending;
* `fillPath_pendingFrom` -- the messages with something pending are the only ones that change;
* **`at_translate`** -- a translated fault at a path has the path put into every message.
-/

namespace Assay.Message

/-! ## 1. Texts -/

theorem mem_groups {text inner : List Char} :
    inner ∈ groups text ↔ .group inner ∈ pieces text := by
  unfold groups
  rw [List.mem_filterMap]
  constructor
  · rintro ⟨piece, mem, same⟩
    cases piece with
    | plain c => cases same
    | group other =>
      cases same
      exact mem
  · exact fun mem => ⟨_, mem, rfl⟩

/-- **The placeholders of a text are those of its pieces.** -/
theorem mem_placeholders {text : String} {p : Placeholder} :
    p ∈ placeholders text ↔ ∃ piece ∈ pieces text.toList, piece.placeholder? = some p := by
  unfold placeholders
  rw [List.mem_filterMap]
  constructor
  · rintro ⟨inner, mem, read⟩
    exact ⟨.group inner, mem_groups.mp (List.mem_eraseDups.mp mem), read⟩
  · rintro ⟨piece, mem, read⟩
    cases piece with
    | plain c => cases read
    | group inner => exact ⟨inner, List.mem_eraseDups.mpr (mem_groups.mpr mem), read⟩

/-- **Substitution depends on what becomes of the placeholders of the text.** -/
theorem substitute_congr {text : String} {replace replace' : Placeholder → Option String}
    (h : ∀ p ∈ placeholders text, replace p = replace' p) :
    substitute text replace = substitute text replace' := by
  have same : ∀ piece ∈ pieces text.toList,
      piece.substituted replace = piece.substituted replace' := by
    intro piece mem
    have alike : piece.placeholder?.bind replace = piece.placeholder?.bind replace' := by
      cases read : piece.placeholder? with
      | none => rfl
      | some p => exact h p (mem_placeholders.mpr ⟨piece, mem, read⟩)
    rw [Piece.substituted, Piece.substituted, alike]
  rw [substitute, substitute, List.flatMap_congr same]

/-- A text of which no placeholder is replaced stays as it is. -/
theorem substitute_of_declined {text : String} {replace : Placeholder → Option String}
    (declined : ∀ p ∈ placeholders text, replace p = none) : substitute text replace = text := by
  have same (piece : Piece) : piece.substituted (fun _ => none) = piece.text := by
    rw [Piece.substituted, Option.bind_fun_none]
  rw [substitute_congr declined, substitute, List.flatMap_congr fun piece _ => same piece,
    flatten_pieces, String.ofList_toList]

/-! ## 2. Messages -/

/-- Only placeholders for the path and the name depend on the path. -/
theorem pathValue_eq_none {p : Placeholder} (path : String) (name : p.name ≠ nameKey)
    (whole : p.name ≠ pathKey) : pathValue path p = none := by
  rw [pathValue, if_neg whole, if_neg name]

/-- **A message in which nothing is pending stays as it is.** -/
theorem withPath_of_pendingOf_nil {message : String} (h : pendingOf message = []) (path : String) :
    withPath path message = message := by
  refine substitute_of_declined fun p mem => ?_
  have other := List.filter_eq_nil_iff.mp h p mem
  simp only [Bool.or_eq_true, beq_iff_eq, not_or] at other
  exact pathValue_eq_none path other.1 other.2

theorem modify_append {α : Type} (front : List α) (x : α) (rest : List α) (f : α → α) :
    (front ++ x :: rest).modify front.length f = front ++ f x :: rest := by
  induction front with
  | nil => exact List.modify_zero_cons f x rest
  | cons y front ih =>
    rw [List.cons_append, List.length_cons, List.modify_succ_cons, ih, List.cons_append]

theorem fillPath_cons (path : String) (messages : List String) (index : Nat)
    (found : List Placeholder) (pending : List (Nat × List Placeholder)) :
    fillPath path messages ((index, found) :: pending) =
      fillPath path (messages.modify index (withPath path)) pending := rfl

/-- Where something is pending the path is put in, and everywhere else nothing would change. -/
theorem fillPath_pendingFrom (path : String) (front messages : List String) :
    fillPath path (front ++ messages) (pendingFrom front.length messages) =
      front ++ messages.map (withPath path) := by
  induction messages generalizing front with
  | nil => rfl
  | cons message rest ih =>
    -- the message is in front of the others once it is done
    have further (done : String) := ih (front ++ [done])
    simp only [List.length_append, List.length_singleton, List.append_assoc,
      List.singleton_append] at further
    unfold pendingFrom
    by_cases none : pendingOf message = []
    · rw [if_pos (List.isEmpty_iff.mpr none), List.map_cons, withPath_of_pendingOf_nil none path]
      exact further message
    · rw [if_neg (fun h => none (List.isEmpty_iff.mp h)), fillPath_cons, modify_append,
        List.map_cons]
      exact further (withPath path message)

/-- **The path is put into every message**, whether or not something is pending there. -/
theorem fillPath_translate (dictionary : Dictionary) (fault : Fault) (path : String) :
    fillPath path (translate dictionary fault).messages (translate dictionary fault).pending =
      (translate dictionary fault).messages.map (withPath path) :=
  fillPath_pendingFrom path [] (translate dictionary fault).messages

/-- **A translated fault at a path has the path put into every message**, whether or not the messages
    were looked at. -/
theorem at_translate (dictionary : Dictionary) (fault : Fault) (path : String) :
    Wordings.Translated.at (translate dictionary fault) path =
      (translate dictionary fault).messages.map (withPath path) := by
  have filled := fillPath_translate dictionary fault path
  unfold Wordings.Translated.at
  split
  · rename_i none
    rw [List.isEmpty_iff.mp none] at filled
    exact filled
  · exact filled

end Assay.Message
