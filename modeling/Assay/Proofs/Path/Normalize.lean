import Assay.Path
import Assay.Proofs.Text.Split

/-!
# Normalized texts

`Path.normalize` makes any text safe to stand below a path:

* `normalize_ne_empty` -- something is left of it;
* **`notMem_normalize`** -- and it does not climb.
-/

namespace Assay.Path

open Assay.Text

/-- The segments that are left of a text that has to be changed. -/
def remnants (text : String) : List (List Char) :=
  (splitAt '.' (text.toList.filter (· != '<'))).filter (!·.isEmpty)

theorem remnants_ne_nil {text : String} {part : List Char} (h : part ∈ remnants text) :
    part ≠ [] := by
  have hp := (List.mem_filter.mp h).2
  rintro rfl
  exact absurd hp (by decide)

theorem notMem_remnants {text : String} {part : List Char} (h : part ∈ remnants text) :
    '<' ∉ part := by
  intro hc
  have hmem := subset_of_mem_splitAt (List.mem_filter.mp h).1 hc
  exact absurd (List.mem_filter.mp hmem).2 (by decide)

theorem normalize_eq (text : String) :
    normalize text =
      if valid text && !text.toList.contains '<' then text
      else if remnants text = [] then "_" else String.ofList (joinWith '.' (remnants text)) := by
  unfold normalize
  split
  · rfl
  · show (if (remnants text).isEmpty then "_" else _) = _
    simp only [List.isEmpty_iff]
    rfl

theorem normalize_ne_empty (text : String) : normalize text ≠ "" := by
  rw [normalize_eq]
  split
  · rename_i hv
    rintro rfl
    exact absurd hv (by decide)
  · split
    · decide
    · rename_i hne
      obtain ⟨part, hp⟩ := List.exists_mem_of_ne_nil _ hne
      obtain ⟨c, hc⟩ := List.exists_mem_of_ne_nil _ (remnants_ne_nil hp)
      have hjoin : joinWith '.' (remnants text) ≠ [] :=
        List.ne_nil_of_mem (subset_joinWith hp hc)
      simpa using hjoin

/-- **A normalized text does not climb.** -/
theorem notMem_normalize (text : String) : '<' ∉ (normalize text).toList := by
  rw [normalize_eq]
  split
  · rename_i hv
    intro hc
    rw [List.contains_iff_mem.mpr hc, Bool.not_true, Bool.and_false] at hv
    cases hv
  · split
    · decide
    · rw [String.toList_ofList]
      intro hc
      rcases mem_joinWith hc with h | ⟨part, hp, h⟩
      · exact absurd h (by decide)
      · exact notMem_remnants hp h

end Assay.Path
