import Mathlib.Data.List.Basic
import Assay.Message.Group

/-!
# Groups in their surroundings

The scan for brace groups remembers the group that is open, but an opening brace makes it forget, and
without a closing brace there is nothing to remember it for. So a text can be cut in front of such a
rest: a group is a group wherever it stands, and a text without braces never has a part in a group of
its neighbours.

* `Separates` -- what is in front of such a rest is cut as if nothing followed; `separates_open` and
  `separates_braceless` -- these are the two kinds;
* `piecesFrom_append` -- the scan up to such a rest;
* **`pieces_around`** -- the pieces of a text around a group are those in front, the group, and those
  behind;
* **`pieces_framed`** -- a text between two texts without braces has the pieces it has alone;
* `group_of_mem_pieces` -- a group is not empty and has no braces inside.
-/

namespace Assay.Message

/-- A text without opening and closing braces. -/
def Braceless (text : List Char) : Prop := ∀ c ∈ text, c ≠ '\x7b' ∧ c ≠ '\x7d'

instance (text : List Char) : Decidable (Braceless text) := List.decidableBAll _ text

theorem braceless_cons {c : Char} {rest : List Char} :
    Braceless (c :: rest) ↔ (c ≠ '\x7b' ∧ c ≠ '\x7d') ∧ Braceless rest := List.forall_mem_cons

theorem braceless_append {front back : List Char} :
    Braceless (front ++ back) ↔ Braceless front ∧ Braceless back := List.forall_mem_append

theorem plains_append (front back : List Char) :
    plains (front ++ back) = plains front ++ plains back := List.map_append

/-! ## 1. One character -/

theorem piecesFrom_open (begun : Option (List Char)) (rest : List Char) :
    piecesFrom begun ('\x7b' :: rest) = plains (unclosed begun) ++ piecesFrom (some []) rest := by
  rw [piecesFrom.eq_def]
  exact if_pos rfl

theorem piecesFrom_close (last : Char) (inner rest : List Char) :
    piecesFrom (some (last :: inner)) ('\x7d' :: rest) =
      .group (last :: inner).reverse :: piecesFrom none rest := by
  rw [piecesFrom.eq_def]
  rfl

/-- A closing brace where no group is open, or an empty one. -/
theorem piecesFrom_stray {begun : Option (List Char)}
    (h : ∀ last inner, begun = some (last :: inner) → False) (rest : List Char) :
    piecesFrom begun ('\x7d' :: rest) =
      plains (unclosed begun) ++ .plain '\x7d' :: piecesFrom none rest := by
  rcases begun with - | - | ⟨last, inner⟩
  · rw [piecesFrom.eq_def]
    rfl
  · rw [piecesFrom.eq_def]
    rfl
  · exact absurd rfl (h last inner)

section Letter

variable {c : Char} (noOpen : c ≠ '\x7b') (noClose : c ≠ '\x7d')
include noOpen noClose

theorem piecesFrom_inner (inner rest : List Char) :
    piecesFrom (some inner) (c :: rest) = piecesFrom (some (c :: inner)) rest := by
  rw [piecesFrom.eq_def]
  dsimp only
  rw [if_neg noOpen, if_neg noClose]

theorem piecesFrom_outer (rest : List Char) :
    piecesFrom none (c :: rest) = .plain c :: piecesFrom none rest := by
  rw [piecesFrom.eq_def]
  dsimp only
  rw [if_neg noOpen, if_neg noClose]

end Letter

/-! ## 2. Where a text can be cut -/

/-- In front of the rest no group stays open. -/
def Separates (rest : List Char) : Prop :=
  ∀ begun, piecesFrom begun rest = plains (unclosed begun) ++ pieces rest

theorem separates_open (rest : List Char) : Separates ('\x7b' :: rest) := fun begun => by
  rw [pieces, piecesFrom_open, piecesFrom_open none]
  rfl

/-- Outside of groups a character that is no brace is a piece. -/
theorem pieces_braceless {front : List Char} (plain : Braceless front) (rest : List Char) :
    pieces (front ++ rest) = plains front ++ pieces rest := by
  induction front with
  | nil => rfl
  | cons c front ih =>
    obtain ⟨⟨noOpen, noClose⟩, others⟩ := braceless_cons.mp plain
    have further : piecesFrom none (front ++ rest) = plains front ++ pieces rest := ih others
    rw [List.cons_append, pieces, piecesFrom_outer noOpen noClose, further]
    rfl

/-- While a group is open, a character that is no brace goes into it. -/
theorem piecesFrom_inside {inner : List Char} (plain : Braceless inner) (begun rest : List Char) :
    piecesFrom (some begun) (inner ++ rest) = piecesFrom (some (inner.reverse ++ begun)) rest := by
  induction inner generalizing begun with
  | nil => rfl
  | cons c inner ih =>
    obtain ⟨⟨noOpen, noClose⟩, others⟩ := braceless_cons.mp plain
    rw [List.cons_append, piecesFrom_inner noOpen noClose, ih others, List.reverse_cons,
      List.append_assoc]
    rfl

theorem pieces_eq_plains {text : List Char} (plain : Braceless text) :
    pieces text = plains text := by
  have all := pieces_braceless plain []
  rw [List.append_nil] at all
  exact all.trans (List.append_nil _)

theorem separates_braceless {rest : List Char} (plain : Braceless rest) : Separates rest := by
  rintro (- | begun)
  · rfl
  · have all := piecesFrom_inside plain begun []
    rw [List.append_nil] at all
    rw [all, pieces_eq_plains plain, ← plains_append, piecesFrom, unclosed, unclosed,
      List.reverse_append, List.reverse_reverse, List.cons_append]

/-- **The scan up to a rest that separates.** -/
theorem piecesFrom_append {rest : List Char} (separates : Separates rest)
    (begun : Option (List Char)) (text : List Char) :
    piecesFrom begun (text ++ rest) = piecesFrom begun text ++ pieces rest := by
  -- along the scan of the text: the open group changes, the rest does not
  fun_induction piecesFrom begun text with
  | case1 begun => exact separates begun
  | case2 begun text ih =>
    rw [List.cons_append, piecesFrom_open, ih, List.append_assoc]
  | case3 text noOpen last inner ih =>
    rw [List.cons_append, piecesFrom_close, ih, List.cons_append]
  | case4 begun text other noOpen ih =>
    rw [List.cons_append, piecesFrom_stray other, ih, List.append_assoc, List.cons_append]
  | case5 c text noOpen noClose inner ih =>
    rw [List.cons_append, piecesFrom_inner noOpen noClose, ih]
  | case6 c text noOpen noClose ih =>
    rw [List.cons_append, piecesFrom_outer noOpen noClose, ih, List.cons_append]

theorem pieces_append {rest : List Char} (separates : Separates rest) (text : List Char) :
    pieces (text ++ rest) = pieces text ++ pieces rest := piecesFrom_append separates none text

/-- **A text between two texts without braces has the pieces it has alone.** -/
theorem pieces_framed {front back : List Char} (plainFront : Braceless front)
    (plainBack : Braceless back) (text : List Char) :
    pieces (front ++ text ++ back) = plains front ++ pieces text ++ plains back := by
  rw [pieces_append (separates_braceless plainBack), pieces_braceless plainFront,
    pieces_eq_plains plainBack]

/-! ## 3. Groups -/

/-- A group at the front of a text is its first piece. -/
theorem pieces_group {inner : List Char} (filled : inner ≠ []) (plain : Braceless inner)
    (rest : List Char) :
    pieces ((Piece.group inner).text ++ rest) = .group inner :: pieces rest := by
  obtain ⟨last, others, backwards⟩ := List.exists_cons_of_ne_nil
    (mt List.reverse_eq_nil_iff.mp filled)
  rw [Piece.text, List.append_assoc, List.cons_append, pieces, piecesFrom_open]
  show piecesFrom (some []) (inner ++ '\x7d' :: rest) = _
  rw [piecesFrom_inside plain, List.append_nil, backwards, piecesFrom_close, ← backwards,
    List.reverse_reverse]
  rfl

/-- **The pieces of a text around a group** are those in front, the group, and those behind. -/
theorem pieces_around {inner : List Char} (filled : inner ≠ []) (plain : Braceless inner)
    (front back : List Char) :
    pieces (front ++ (Piece.group inner).text ++ back) =
      pieces front ++ .group inner :: pieces back := by
  rw [List.append_assoc, ← pieces_group filled plain back]
  exact pieces_append (separates_open _) front

theorem group_notMem_plains (inner text : List Char) : .group inner ∉ plains text := by
  intro mem
  obtain ⟨c, -, same⟩ := List.mem_map.mp mem
  cases same

theorem group_of_mem_piecesFrom {inner : List Char} {begun : Option (List Char)}
    {text : List Char} (plain : ∀ opened, begun = some opened → Braceless opened)
    (mem : .group inner ∈ piecesFrom begun text) : inner ≠ [] ∧ Braceless inner := by
  fun_induction piecesFrom begun text with
  | case1 begun => exact absurd mem (group_notMem_plains _ _)
  | case2 begun text ih =>
    refine ih (fun opened there => ?_)
      ((List.mem_append.mp mem).resolve_left (group_notMem_plains _ _))
    cases there
    exact List.forall_mem_nil _
  | case3 text noOpen last others ih =>
    rcases List.mem_cons.mp mem with same | mem
    · cases same
      refine ⟨List.reverse_ne_nil_iff.mpr (List.cons_ne_nil _ _), fun c there => ?_⟩
      exact plain _ rfl c (List.mem_reverse.mp there)
    · exact ih (fun opened there => by cases there) mem
  | case4 begun text other noOpen ih =>
    rcases List.mem_append.mp mem with mem | mem
    · exact absurd mem (group_notMem_plains _ _)
    · rcases List.mem_cons.mp mem with same | mem
      · cases same
      · exact ih (fun opened there => by cases there) mem
  | case5 c text noOpen noClose others ih =>
    refine ih (fun opened there => ?_) mem
    cases there
    exact braceless_cons.mpr ⟨⟨noOpen, noClose⟩, plain _ rfl⟩
  | case6 c text noOpen noClose ih =>
    rcases List.mem_cons.mp mem with same | mem
    · cases same
    · exact ih (fun opened there => by cases there) mem

/-- **A group is not empty and has no braces inside.** -/
theorem group_of_mem_pieces {inner text : List Char} (mem : .group inner ∈ pieces text) :
    inner ≠ [] ∧ Braceless inner :=
  group_of_mem_piecesFrom (fun _ there => by cases there) mem

end Assay.Message
