/-!
# Brace groups of a text

A message is scanned once, from left to right. An opening brace, one or more characters that are no
braces, and a closing brace form a group; every other character stands for itself, also a brace that
opens no group or closes none. The text of an opening brace that is followed by another one is given
up, and the later brace may open the group.

**Nothing is lost:** `flatten_pieces` puts the pieces together to the text again.
-/

namespace Assay.Message

/-! ## 1. Pieces -/

/-- A character that stands for itself, or the inside of a group. -/
inductive Piece where
  | plain (c : Char)
  | group (inner : List Char)
  deriving DecidableEq, Repr

/-- What a piece stands for in the text. -/
def Piece.text : Piece → List Char
  | .plain c => [c]
  | .group inner => '\x7b' :: inner ++ ['\x7d']

/-- The inside of a group. -/
def Piece.inner? : Piece → Option (List Char)
  | .plain _ => none
  | .group inner => some inner

/-- A text none of whose characters belongs to a group. -/
def plains (text : List Char) : List Piece := text.map .plain

/-- A group that has been opened but not closed, as the text it is then. -/
def unclosed : Option (List Char) → List Char
  | none => []
  | some inner => '\x7b' :: inner.reverse

/-! ## 2. The scan -/

/-- The pieces of a text, with the inside of the group begun, back to front. -/
def piecesFrom : (begun : Option (List Char)) → (text : List Char) → List Piece
  | begun, [] => plains (unclosed begun)
  | begun, c :: rest =>
    if c = '\x7b' then plains (unclosed begun) ++ piecesFrom (some []) rest
    else if c = '\x7d' then
      match begun with
      | some (last :: inner) => .group (last :: inner).reverse :: piecesFrom none rest
      | _ => plains (unclosed begun) ++ .plain c :: piecesFrom none rest
    else
      match begun with
      | some inner => piecesFrom (some (c :: inner)) rest
      | none => .plain c :: piecesFrom none rest

/-- The pieces of a text. -/
def pieces (text : List Char) : List Piece := piecesFrom none text

/-- The insides of the groups of a text, in order. -/
def groups (text : List Char) : List (List Char) := (pieces text).filterMap Piece.inner?

theorem text_plains (text : List Char) : (plains text).flatMap Piece.text = text := by
  induction text with
  | nil => rfl
  | cons c rest ih => simpa [plains, Piece.text] using ih

theorem text_piecesFrom (begun : Option (List Char)) (text : List Char) :
    (piecesFrom begun text).flatMap Piece.text = unclosed begun ++ text := by
  induction text generalizing begun with
  | nil => simp [piecesFrom, text_plains]
  | cons c rest ih =>
    simp only [piecesFrom]
    split
    · rename_i h
      simp [List.flatMap_append, text_plains, ih, unclosed, h]
    · split
      · rename_i h
        split <;> simp [List.flatMap_append, text_plains, ih, unclosed, Piece.text, h]
      · split <;> simp [ih, unclosed, Piece.text]

/-- **The pieces of a text make up the text.** -/
theorem flatten_pieces (text : List Char) : (pieces text).flatMap Piece.text = text :=
  text_piecesFrom none text

end Assay.Message
