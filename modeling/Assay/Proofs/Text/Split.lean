import Assay.Text.Split

/-!
# Parts of a text

Cutting a text at every separator and putting parts together undo each other, on parts without the
separator:

* `splitAt_append` -- a text with a separator in it has the parts in front of it and the parts behind;
* `joinWith_append` -- putting together two runs of parts puts one separator between them;
* **`splitAt_joinWith`** -- the parts of what was put together are what it was put together from;
* `splitOnce_eq_some_iff` -- cutting once cuts at the first separator.
-/

namespace Assay.Text

theorem splitAt_of_notMem {sep : Char} {text : List Char} (h : sep ∉ text) :
    splitAt sep text = [text] := by
  induction text with
  | nil => rfl
  | cons c rest ih =>
    obtain ⟨hc, hrest⟩ := not_or.mp (mt List.mem_cons.mpr h)
    simp only [splitAt, if_neg (Ne.symm hc), ih hrest]

theorem notMem_of_mem_splitAt {sep : Char} {text : List Char} :
    ∀ part ∈ splitAt sep text, sep ∉ part := by
  induction text with
  | nil => simp [splitAt]
  | cons c rest ih =>
    intro part hp
    simp only [splitAt] at hp
    by_cases hc : c = sep
    · rw [if_pos hc] at hp
      rcases List.mem_cons.mp hp with rfl | hp
      · exact List.not_mem_nil
      · exact ih part hp
    · rw [if_neg hc] at hp
      cases hs : splitAt sep rest with
      | nil => exact absurd hs (splitAt_ne_nil sep rest)
      | cons first others =>
        rw [hs] at hp ih
        rcases List.mem_cons.mp hp with rfl | hp
        · have hf := ih first List.mem_cons_self
          simp [Ne.symm hc, hf]
        · exact ih part (List.mem_cons_of_mem _ hp)

theorem splitAt_append (sep : Char) (front back : List Char) :
    splitAt sep (front ++ sep :: back) = splitAt sep front ++ splitAt sep back := by
  induction front with
  | nil => simp [splitAt]
  | cons c rest ih =>
    by_cases hc : c = sep
    · simp only [List.cons_append, splitAt, if_pos hc, ih]
    · cases hs : splitAt sep rest with
      | nil => exact absurd hs (splitAt_ne_nil sep rest)
      | cons first others =>
        simp only [List.cons_append, splitAt, if_neg hc, ih, hs]

/-- What stands in front of the first separator has no part in the others. -/
theorem tail_splitAt_append {sep : Char} {front : List Char} (h : sep ∉ front)
    (text : List Char) : (splitAt sep (front ++ text)).tail = (splitAt sep text).tail := by
  induction front with
  | nil => rfl
  | cons c rest ih =>
    obtain ⟨hc, hrest⟩ := not_or.mp (mt List.mem_cons.mpr h)
    rw [← ih hrest, List.cons_append, splitAt, if_neg (Ne.symm hc)]
    cases splitAt sep (rest ++ text) <;> rfl

theorem joinWith_cons {sep : Char} (part : List Char) {parts : List (List Char)}
    (h : parts ≠ []) : joinWith sep (part :: parts) = part ++ sep :: joinWith sep parts := by
  cases parts with
  | nil => exact absurd rfl h
  | cons next rest => rfl

theorem joinWith_append {sep : Char} {front back : List (List Char)} (hf : front ≠ [])
    (hb : back ≠ []) :
    joinWith sep (front ++ back) = joinWith sep front ++ sep :: joinWith sep back := by
  induction front with
  | nil => exact absurd rfl hf
  | cons part rest ih =>
    cases rest with
    | nil => exact joinWith_cons part hb
    | cons next others =>
      have hne : next :: others ≠ [] := List.cons_ne_nil _ _
      rw [List.cons_append, joinWith_cons part (List.append_ne_nil_of_left_ne_nil hne back),
        ih hne, joinWith_cons part hne, List.append_assoc, List.cons_append]

/-- **What was put together from parts without the separator has these parts.** -/
theorem splitAt_joinWith {sep : Char} {parts : List (List Char)} (hne : parts ≠ [])
    (h : ∀ part ∈ parts, sep ∉ part) : splitAt sep (joinWith sep parts) = parts := by
  induction parts with
  | nil => exact absurd rfl hne
  | cons part rest ih =>
    have hp : splitAt sep part = [part] := splitAt_of_notMem (h part List.mem_cons_self)
    cases rest with
    | nil => exact hp
    | cons next others =>
      have hrest : next :: others ≠ [] := List.cons_ne_nil _ _
      rw [joinWith_cons part hrest, splitAt_append, hp,
        ih hrest fun q hq => h q (List.mem_cons_of_mem _ hq)]
      rfl

theorem infix_joinWith {sep : Char} {part : List Char} {parts : List (List Char)}
    (h : part ∈ parts) : part <:+: joinWith sep parts := by
  induction parts with
  | nil => exact absurd h List.not_mem_nil
  | cons first rest ih =>
    cases rest with
    | nil => exact ⟨[], [], by rw [List.mem_singleton.mp h]; simp [joinWith]⟩
    | cons next others =>
      rw [joinWith_cons first (List.cons_ne_nil _ _)]
      rcases List.mem_cons.mp h with rfl | h
      · exact (List.prefix_append part _).isInfix
      · exact (ih h).trans ((List.suffix_cons sep _).trans (List.suffix_append first _)).isInfix

theorem subset_joinWith {sep : Char} {part : List Char} {parts : List (List Char)}
    (h : part ∈ parts) : part ⊆ joinWith sep parts := (infix_joinWith h).subset

theorem mem_joinWith {sep c : Char} {parts : List (List Char)} (h : c ∈ joinWith sep parts) :
    c = sep ∨ ∃ part ∈ parts, c ∈ part := by
  induction parts with
  | nil => exact absurd h List.not_mem_nil
  | cons part rest ih =>
    cases rest with
    | nil => exact .inr ⟨part, List.mem_cons_self, h⟩
    | cons next others =>
      rw [joinWith_cons part (List.cons_ne_nil _ _)] at h
      rcases List.mem_append.mp h with h | h
      · exact .inr ⟨part, List.mem_cons_self, h⟩
      · rcases List.mem_cons.mp h with h | h
        · exact .inl h
        · rcases ih h with h | ⟨q, hq, hc⟩
          · exact .inl h
          · exact .inr ⟨q, List.mem_cons_of_mem _ hq, hc⟩

theorem subset_of_mem_splitAt {sep : Char} {text part : List Char} (h : part ∈ splitAt sep text) :
    part ⊆ text := by
  have hsub : part ⊆ joinWith sep (splitAt sep text) := subset_joinWith h
  rwa [joinWith_splitAt] at hsub

/-! ## Cutting once -/

theorem splitOnce_eq_none_iff {sep : Char} {text : List Char} :
    splitOnce sep text = none ↔ sep ∉ text := by
  induction text with
  | nil => simp [splitOnce]
  | cons c rest ih =>
    rw [splitOnce, List.mem_cons, not_or]
    by_cases hc : c = sep
    · simp [hc]
    · rw [if_neg hc, Option.map_eq_none_iff, ih]
      exact ⟨fun h => ⟨Ne.symm hc, h⟩, And.right⟩

theorem splitOnce_append {sep : Char} {before : List Char} (h : sep ∉ before)
    (after : List Char) : splitOnce sep (before ++ sep :: after) = some (before, after) := by
  induction before with
  | nil => exact if_pos rfl
  | cons c rest ih =>
    obtain ⟨hc, hrest⟩ := not_or.mp (mt List.mem_cons.mpr h)
    rw [List.cons_append, splitOnce, if_neg (Ne.symm hc), ih hrest]
    rfl

/-- **A text is cut once at its first separator.** -/
theorem splitOnce_eq_some_iff {sep : Char} {text before after : List Char} :
    splitOnce sep text = some (before, after) ↔
      sep ∉ before ∧ text = before ++ sep :: after := by
  constructor
  · intro h
    refine ⟨?_, append_of_splitOnce h⟩
    induction text generalizing before with
    | nil => cases h
    | cons c rest ih =>
      rw [splitOnce] at h
      split at h
      · cases h
        exact List.not_mem_nil
      · rename_i hc
        obtain ⟨⟨front, back⟩, cut, same⟩ := Option.map_eq_some_iff.mp h
        cases same
        exact List.not_mem_cons_of_ne_of_not_mem (Ne.symm hc) (ih cut)
  · rintro ⟨h, rfl⟩
    exact splitOnce_append h after

end Assay.Text
