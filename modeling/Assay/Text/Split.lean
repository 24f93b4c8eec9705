/-!
# Splitting a text at a separator

Paths, placeholders, patterns and names are all taken apart at single characters. This file fixes
the two ways of cutting, both on lists of characters:

* `splitAt c` cuts at every `c`, so a text with `n` separators has `n + 1` parts (the empty text
  has one, the empty part);
* `splitOnce c` cuts at the first `c` only.

`joinWith` puts parts back together. **Nothing is lost:** `joinWith_splitAt` and
`append_of_splitOnce`.
-/

namespace Assay.Text

/-! ## 1. Cutting everywhere -/

/-- The parts between the separators, in order; never empty. -/
def splitAt (sep : Char) : List Char → List (List Char)
  | [] => [[]]
  | c :: rest =>
    if c = sep then [] :: splitAt sep rest
    else match splitAt sep rest with
      | [] => [[c]]
      | part :: parts => (c :: part) :: parts

/-- The parts one after another with the separator between neighbours. -/
def joinWith (sep : Char) : List (List Char) → List Char
  | [] => []
  | [part] => part
  | part :: next :: parts => part ++ sep :: joinWith sep (next :: parts)

theorem splitAt_ne_nil (sep : Char) (text : List Char) : splitAt sep text ≠ [] := by
  cases text with
  | nil => simp [splitAt]
  | cons c rest =>
    simp only [splitAt]
    split
    · simp
    · split <;> simp

/-- **Cutting and joining again gives the text back.** -/
theorem joinWith_splitAt (sep : Char) (text : List Char) :
    joinWith sep (splitAt sep text) = text := by
  induction text with
  | nil => rfl
  | cons c rest ih =>
    simp only [splitAt]
    split
    · rename_i h
      subst h
      cases hs : splitAt c rest with
      | nil => exact absurd hs (splitAt_ne_nil _ _)
      | cons part parts => simp [joinWith, ← hs, ih]
    · cases hs : splitAt sep rest with
      | nil => exact absurd hs (splitAt_ne_nil _ _)
      | cons part parts =>
        rw [hs] at ih
        cases parts with
        | nil => simpa [joinWith] using ih
        | cons next parts => simpa [joinWith] using ih

/-! ## 2. Cutting once -/

/-- What stands before the first separator and what stands after it. -/
def splitOnce (sep : Char) : List Char → Option (List Char × List Char)
  | [] => none
  | c :: rest =>
    if c = sep then some ([], rest)
    else (splitOnce sep rest).map fun (before, after) => (c :: before, after)

theorem append_of_splitOnce {sep : Char} {text before after : List Char}
    (h : splitOnce sep text = some (before, after)) : text = before ++ sep :: after := by
  induction text generalizing before with
  | nil => simp [splitOnce] at h
  | cons c rest ih =>
    simp only [splitOnce] at h
    split at h
    · rename_i hc
      simp only [Option.some.injEq, Prod.mk.injEq] at h
      simp [← h.1, ← h.2, hc]
    · obtain ⟨⟨b, a⟩, hs, he⟩ := Option.map_eq_some_iff.1 h
      simp only [Prod.mk.injEq] at he
      obtain ⟨rfl, rfl⟩ := he
      simp [ih hs]

/-! ## 3. Texts as strings -/

/-- `splitAt` on strings. -/
def parts (sep : Char) (text : String) : List String :=
  (splitAt sep text.toList).map String.ofList

/-- `joinWith` on strings. -/
def join (sep : Char) (texts : List String) : String :=
  String.ofList (joinWith sep (texts.map String.toList))

theorem join_parts (sep : Char) (text : String) : join sep (parts sep text) = text := by
  simp [join, parts, List.map_map, Function.comp_def, joinWith_splitAt]

end Assay.Text
