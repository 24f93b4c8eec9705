import Assay.Proofs.Message.Pieces

/-!
# The one way to split a text

The scan splits a text into groups and characters that stand for themselves, going from left to right. A
splitting can also be described without a scan: its pieces make up the text, its groups are groups, and
no group is left among the characters that stand for themselves. Groups have no braces inside, so two of
them never overlap, and there is exactly one such splitting.

* `Splits text split` -- this description;
* `beginning_unique` -- a row of pieces has one beginning for each text;
* `piece_at_group` -- where a group stands in the text, the scan has it as a piece;
* `pieces_plain` -- a character that no group begins with stands for itself;
* **`splits_iff`** -- the splittings of a text are its pieces by the scan.
-/

namespace Assay.Message

/-- **A splitting of a text** into groups and characters that stand for themselves. -/
structure Splits (text : List Char) (split : List Piece) : Prop where
  whole : split.flatMap Piece.text = text
  /-- Each group has something inside, and no braces. -/
  groups : ∀ inner, .group inner ∈ split → inner ≠ [] ∧ Braceless inner
  /-- No group stands in literal text. -/
  literal : ∀ inner, inner ≠ [] → Braceless inner → ¬ plains (Piece.group inner).text <:+: split

/-! ## 1. Beginnings -/

theorem Piece.text_ne_nil (piece : Piece) : piece.text ≠ [] := by
  cases piece <;> exact List.cons_ne_nil _ _

theorem flatMap_text_eq_nil {split : List Piece} (h : split.flatMap Piece.text = []) : split = [] := by
  cases split with
  | nil => rfl
  | cons piece rest =>
    rw [List.flatMap_cons, List.append_eq_nil_iff] at h
    exact absurd h.1 piece.text_ne_nil

/-- Two beginnings that stand for the same text are the same. -/
theorem beginning_unique {split front front' : List Piece} (h : front <+: split)
    (h' : front' <+: split) (same : front.flatMap Piece.text = front'.flatMap Piece.text) :
    front = front' := by
  rcases List.prefix_or_prefix_of_prefix h h' with ⟨more, rfl⟩ | ⟨more, rfl⟩
  · rw [List.flatMap_append, List.self_eq_append_right] at same
    rw [flatMap_text_eq_nil same, List.append_nil]
  · rw [List.flatMap_append, List.append_right_eq_self] at same
    rw [flatMap_text_eq_nil same, List.append_nil]

/-- **Where a group stands in the text, the scan has it as a piece.** -/
theorem piece_at_group {text inner back : List Char} {before behind : List Piece} {piece : Piece}
    (filled : inner ≠ []) (plain : Braceless inner)
    (whole : text = before.flatMap Piece.text ++ (Piece.group inner).text ++ back)
    (cut : pieces text = before ++ piece :: behind) : piece = .group inner := by
  have around : pieces text = pieces (before.flatMap Piece.text) ++ .group inner :: pieces back := by
    rw [whole, pieces_around filled plain]
  have front : before = pieces (before.flatMap Piece.text) :=
    beginning_unique ⟨_, cut.symm⟩ ⟨_, around.symm⟩ (flatten_pieces _).symm
  have behinds : before ++ piece :: behind = before ++ .group inner :: pieces back := by
    rw [← cut, around, ← front]
  exact (List.cons.inj (List.append_cancel_left behinds)).1

/-- The scan leaves no group in literal text. -/
theorem splits_pieces (text : List Char) : Splits text (pieces text) where
  whole := flatten_pieces text
  groups _ mem := group_of_mem_pieces mem
  literal := by
    rintro inner filled plain ⟨before, behind, cut⟩
    have whole : text = before.flatMap Piece.text ++ (Piece.group inner).text ++
        behind.flatMap Piece.text := by
      rw [← text_plains (Piece.group inner).text, ← List.flatMap_append, ← List.flatMap_append, cut,
        flatten_pieces]
    rw [List.append_assoc] at cut
    cases piece_at_group filled plain whole cut.symm

/-! ## 2. Characters that stand for themselves -/

/-- A text goes on without braces up to its end or to the first one. -/
theorem braceless_or_first_brace (text : List Char) : Braceless text ∨
    ∃ run brace more, Braceless run ∧ (brace = '\x7b' ∨ brace = '\x7d') ∧
      text = run ++ brace :: more := by
  induction text with
  | nil => exact .inl (List.forall_mem_nil _)
  | cons c rest ih =>
    by_cases brace : c = '\x7b' ∨ c = '\x7d'
    · exact .inr ⟨[], c, rest, List.forall_mem_nil _, brace, rfl⟩
    · rw [not_or] at brace
      rcases ih with plain | ⟨run, first, more, plain, isBrace, rfl⟩
      · exact .inl (braceless_cons.mpr ⟨brace, plain⟩)
      · exact .inr ⟨c :: run, first, more, braceless_cons.mpr ⟨brace, plain⟩, isBrace, rfl⟩

theorem separates_append {front rest : List Char} (plain : Braceless front) (h : Separates rest) :
    Separates (front ++ rest) := by
  rintro (- | begun)
  · rfl
  · rw [piecesFrom_inside plain, h, pieces_braceless plain, ← List.append_assoc, ← plains_append,
      unclosed, unclosed, List.reverse_append, List.reverse_reverse, List.cons_append]

/-- An opening brace that no closing brace follows as the next one begins no group. -/
theorem pieces_open_of_separates {rest : List Char} (h : Separates rest) :
    pieces ('\x7b' :: rest) = .plain '\x7b' :: pieces rest := by
  rw [pieces, piecesFrom_open, h]
  rfl

/-- **A character that no group begins with stands for itself.** -/
theorem pieces_plain {c : Char} {rest : List Char}
    (alone : ∀ inner, inner ≠ [] → Braceless inner → ¬ (Piece.group inner).text <+: c :: rest) :
    pieces (c :: rest) = .plain c :: pieces rest := by
  by_cases opens : c = '\x7b'
  · subst opens
    rcases braceless_or_first_brace rest with plain | ⟨run, brace, more, plain, rfl | rfl, rfl⟩
    · exact pieces_open_of_separates (separates_braceless plain)
    · exact pieces_open_of_separates (separates_append plain (separates_open more))
    · cases run with
      | nil =>
        rw [List.nil_append, pieces, piecesFrom_open, piecesFrom_stray (fun _ _ same => by cases same),
          pieces, piecesFrom_stray (fun _ _ same => by cases same)]
        rfl
      | cons d run =>
        refine absurd ?_ (alone (d :: run) (List.cons_ne_nil _ _) plain)
        exact ⟨more, by rw [Piece.text, List.append_assoc, List.cons_append]; rfl⟩
  · by_cases closes : c = '\x7d'
    · subst closes
      exact piecesFrom_stray (fun _ _ same => by cases same) rest
    · exact piecesFrom_outer opens closes rest

/-! ## 3. No other splitting -/

/-- Pieces that begin with a text without opening braces have its characters one by one. -/
theorem plains_prefix {part back : List Char} {split : List Piece} (noOpen : '\x7b' ∉ part)
    (h : split.flatMap Piece.text = part ++ back) : plains part <+: split := by
  induction part generalizing split with
  | nil => exact ⟨split, rfl⟩
  | cons c part ih =>
    rw [List.mem_cons, not_or] at noOpen
    cases split with
    | nil => cases h
    | cons piece rest =>
      rw [List.flatMap_cons] at h
      cases piece with
      | plain d =>
        obtain ⟨rfl, further⟩ := List.cons.inj h
        exact List.cons_prefix_cons.mpr ⟨rfl, ih noOpen.2 further⟩
      | group inner => exact absurd (List.cons.inj h).1 noOpen.1

theorem Splits.tail {piece : Piece} {rest : List Piece} {text : List Char}
    (h : Splits text (piece :: rest)) : Splits (rest.flatMap Piece.text) rest where
  whole := rfl
  groups inner mem := h.groups inner (List.mem_cons_of_mem _ mem)
  literal inner filled plain left := h.literal inner filled plain (left.trans ⟨[piece], [], by simp⟩)

/-- In a splitting no group begins with a character that stands for itself. -/
theorem Splits.alone {c : Char} {rest : List Piece} {text inner : List Char}
    (h : Splits text (.plain c :: rest)) (filled : inner ≠ []) (plain : Braceless inner) :
    ¬ (Piece.group inner).text <+: c :: rest.flatMap Piece.text := by
  rintro ⟨back, same⟩
  obtain ⟨rfl, further⟩ := List.cons.inj same
  have noOpen : '\x7b' ∉ inner ++ ['\x7d'] := by
    rw [List.mem_append, not_or]
    exact ⟨fun mem => (plain _ mem).1 rfl, by decide⟩
  have first : plains (Piece.group inner).text <+: .plain '\x7b' :: rest :=
    List.cons_prefix_cons.mpr ⟨rfl, plains_prefix noOpen further.symm⟩
  exact h.literal inner filled plain first.isInfix

/-- **The splittings of a text are its pieces by the scan.** -/
theorem splits_iff {text : List Char} {split : List Piece} :
    Splits text split ↔ split = pieces text := by
  refine ⟨fun h => ?_, fun same => same ▸ splits_pieces text⟩
  induction split generalizing text with
  | nil =>
    rw [← h.whole]
    rfl
  | cons piece rest ih =>
    have later : rest = pieces (rest.flatMap Piece.text) := ih h.tail
    rw [← h.whole, List.flatMap_cons]
    cases piece with
    | group inner =>
      obtain ⟨filled, plain⟩ := h.groups inner List.mem_cons_self
      rw [pieces_group filled plain, ← later]
    | plain c =>
      have first := pieces_plain fun inner filled plain => h.alone filled plain
      rw [← later] at first
      exact first.symm

end Assay.Message
