import Assay.Proofs.Message.Splitting

/-!
# Searching a text for groups

A search goes through a text from left to right and gives the groups it finds by their positions. The next
match is the leftmost of those that begin where the last one ended or later, and the search is over when
there is none. What a match is depends on the whole text, not on what was found before.

* `Matches text m` -- a group stands in the text at the positions of `m`;
* `Found text start found` -- `found` is what a search gives that goes on from `start`;
* `Found.unique` -- it gives one thing only;
* `positions` -- where the groups among pieces stand;
* **`found_iff`** -- a search finds the groups of the one splitting of the text.
-/

namespace Assay.Message

/-- The positions at which something that was found begins and ends. -/
structure Match where
  start : Nat
  stop : Nat
  deriving DecidableEq, Repr

/-- **A group stands at these positions**: an opening brace, something without braces, a closing brace. -/
def Matches (text : List Char) (m : Match) : Prop :=
  ∃ front inner back, inner ≠ [] ∧ Braceless inner ∧
    text = front ++ (Piece.group inner).text ++ back ∧
    m = ⟨front.length, front.length + (Piece.group inner).text.length⟩

/-- **What a search finds** from a position on. -/
inductive Found (text : List Char) : (start : Nat) → List Match → Prop
  /-- No match begins here or later. -/
  | none {start : Nat} : (∀ m, Matches text m → m.start < start) → Found text start []
  /-- The match is the leftmost, and the search goes on behind it. -/
  | next {start : Nat} {m : Match} {rest : List Match} : Matches text m → start ≤ m.start →
      (∀ other, Matches text other → start ≤ other.start → m.start ≤ other.start) →
      Found text m.stop rest → Found text start (m :: rest)

variable {text : List Char}

/-! ## 1. One thing only -/

/-- At most one match begins at a position, since the first brace behind it has to close the group. -/
theorem Matches.eq_of_start {m other : Match} (h : Matches text m) (h' : Matches text other)
    (same : m.start = other.start) : m = other := by
  obtain ⟨front, inner, back, filled, plain, whole, rfl⟩ := h
  obtain ⟨front', inner', back', filled', plain', whole', rfl⟩ := h'
  rw [List.append_assoc] at whole whole'
  obtain ⟨rfl, behind⟩ := List.append_inj (whole.symm.trans whole') same
  have cut := congrArg pieces behind
  rw [pieces_group filled plain, pieces_group filled' plain'] at cut
  obtain ⟨group, -⟩ := List.cons.inj cut
  rw [group]

/-- **A search gives one thing only.** -/
theorem Found.unique {start : Nat} {found found' : List Match} (h : Found text start found)
    (h' : Found text start found') : found = found' := by
  induction h generalizing found' with
  | none ended =>
    cases h' with
    | none => rfl
    | next here later => exact absurd (ended _ here) (Nat.not_lt.mpr later)
  | next here later leftmost rest ih =>
    cases h' with
    | none ended => exact absurd (ended _ here) (Nat.not_lt.mpr later)
    | next here' later' leftmost' rest' =>
      obtain rfl := here.eq_of_start here'
        (Nat.le_antisymm (leftmost _ here' later') (leftmost' _ here later))
      rw [ih rest']

/-! ## 2. The groups among pieces -/

/-- Where the groups among pieces stand, if the first piece stands at the position. -/
def positions : (start : Nat) → List Piece → List Match
  | _, [] => []
  | start, .plain _ :: rest => positions (start + 1) rest
  | start, .group inner :: rest =>
    ⟨start, start + (Piece.group inner).text.length⟩ ::
      positions (start + (Piece.group inner).text.length) rest

/-- A search goes on from the next position if nothing begins at this one. -/
theorem Found.skip {start : Nat} {found : List Match}
    (other : ∀ m, Matches text m → m.start ≠ start) (h : Found text (start + 1) found) :
    Found text start found := by
  cases h with
  | none ended =>
    exact .none fun m here => Nat.lt_of_le_of_ne (Nat.le_of_lt_succ (ended m here)) (other m here)
  | next here later leftmost rest =>
    refine .next here (Nat.le_of_succ_le later) (fun m there notEarlier => ?_) rest
    exact leftmost m there (Nat.lt_of_le_of_ne notEarlier (other m there).symm)

/-- Where the pieces are cut in two, so is the text. -/
theorem text_of_cut {before behind : List Piece} (cut : pieces text = before ++ behind) :
    text = before.flatMap Piece.text ++ behind.flatMap Piece.text := by
  rw [← List.flatMap_append, ← cut, flatten_pieces]

/-- A match at the beginning of a piece is this piece. -/
theorem piece_of_match {before behind : List Piece} {piece : Piece} {m : Match}
    (cut : pieces text = before ++ piece :: behind) (h : Matches text m)
    (here : m.start = (before.flatMap Piece.text).length) : ∃ inner, piece = .group inner := by
  obtain ⟨front, inner, back, filled, plain, whole, rfl⟩ := h
  rw [List.append_assoc] at whole
  obtain ⟨rfl, -⟩ := List.append_inj (whole.symm.trans (text_of_cut cut)) here
  exact ⟨inner, piece_at_group filled plain (by rw [List.append_assoc]; exact whole) cut⟩

/-- From the beginning of a piece on, a search finds the groups among this piece and those behind. -/
theorem found_positions {before behind : List Piece} (cut : pieces text = before ++ behind) :
    Found text (before.flatMap Piece.text).length
      (positions (before.flatMap Piece.text).length behind) := by
  have all := text_of_cut cut
  induction behind generalizing before with
  | nil =>
    refine .none fun m here => ?_
    obtain ⟨front, inner, back, -, -, whole, same⟩ := here
    rw [List.flatMap_nil, List.append_nil] at all
    rw [← all, whole, same]
    simp [Piece.text]
  | cons piece rest ih =>
    have cut' : pieces text = (before ++ [piece]) ++ rest := by rw [cut]; simp
    have further := ih cut' (text_of_cut cut')
    rw [List.flatMap_append, List.flatMap_singleton, List.length_append] at further
    cases piece with
    | plain c =>
      refine Found.skip (fun m here same => ?_) further
      obtain ⟨inner, group⟩ := piece_of_match cut here same
      cases group
    | group inner =>
      have inside : Piece.group inner ∈ pieces text := by
        rw [cut]
        exact List.mem_append_right _ List.mem_cons_self
      obtain ⟨filled, plain⟩ := group_of_mem_pieces inside
      refine .next ⟨_, inner, rest.flatMap Piece.text, filled, plain, ?_, rfl⟩ (Nat.le_refl _)
        (fun _ _ later => later) further
      rw [List.append_assoc, ← List.flatMap_cons, ← all]

/-- **A search finds the groups of the one splitting of the text.** -/
theorem found_iff {found : List Match} : Found text 0 found ↔ found = positions 0 (pieces text) := by
  have cut : pieces text = [] ++ pieces text := rfl
  have all : Found text 0 (positions 0 (pieces text)) := found_positions cut
  exact ⟨fun h => h.unique all, fun same => same ▸ all⟩

end Assay.Message
