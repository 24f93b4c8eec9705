import Assay.Proofs.Path.WellFormed

/-!
# Child paths

A path that is valid and has no `<` in it leads down from wherever it is read, and these are the normal
forms of texts: normalizing leaves them alone and gives nothing else. Which one a text becomes is said on
segments: the `<` are taken out of the whole text first, so that texts around one may run together or
leave an empty segment behind, and only then the empty segments go.

* `IsChild text` -- the text is such a path; `isChild_iff`: it is made of levels;
* `leftover text` -- the segments that are left of a text;
* `segments_normalize` -- a normalized text has these segments, or `_` alone;
* `normalize_eq_self_iff` -- what is normal already is left alone, and nothing else is;
* **`normalize_child`** -- all of it, and that a normalized text is appended wherever it is read.
-/

namespace Assay.Path

open Assay.Text

/-! ## 1. Normal forms -/

/-- The path leads down from wherever it is read. -/
def IsChild (text : String) : Prop := valid text = true ∧ '<' ∉ text.toList

theorem isChild_normalize (text : String) : IsChild (normalize text) :=
  ⟨valid_normalize text, notMem_normalize text⟩

theorem IsChild.ne_empty {text : String} (h : IsChild text) : text ≠ "" := ((valid_iff text).mp h.1).1

theorem isChild_iff {text : String} (named : text ≠ "") :
    IsChild text ↔ ∀ s ∈ segments text, IsLevel s := by
  rw [← address_of_ne named, ← wellFormed_iff]
  exact (or_iff_right named).symm

theorem normalize_of_isChild {text : String} (h : IsChild text) : normalize text = text := by
  rw [normalize_eq, if_pos]
  simp [h.1, h.2]

/-- **Exactly the normal forms are left alone.** -/
theorem normalize_eq_self_iff (text : String) : normalize text = text ↔ IsChild text :=
  ⟨fun same => same ▸ isChild_normalize text, normalize_of_isChild⟩

theorem normalize_idem (text : String) : normalize (normalize text) = normalize text :=
  normalize_of_isChild (isChild_normalize text)

/-! ## 2. Segments -/

/-- The text with every `<` taken out. -/
def withoutClimbs (text : String) : String := String.ofList (text.toList.filter (· != '<'))

/-- The segments that are left when every `<` is taken out of a text. -/
def leftover (text : String) : List String := (segments (withoutClimbs text)).filter (· ≠ "")

theorem leftover_eq (text : String) : leftover text = (remnants text).map String.ofList := by
  rw [leftover, segments, parts, withoutClimbs, String.toList_ofList, List.filter_map, remnants]
  refine congrArg (List.map String.ofList) (List.filter_congr fun part _ => ?_)
  cases part <;> simp

theorem leftover_of_isChild {text : String} (h : IsChild text) : leftover text = segments text := by
  have flat : text.toList.filter (· != '<') = text.toList :=
    List.filter_eq_self.mpr fun c hc => by simpa using fun same : c = '<' => h.2 (same ▸ hc)
  have levels := (isChild_iff h.ne_empty).mp h
  rw [leftover, withoutClimbs, flat, String.ofList_toList]
  exact List.filter_eq_self.mpr fun s hs => by simpa using (levels s hs).1

/-- **A normalized text has the segments that are left of it, or `_` alone if there are none.** -/
theorem segments_normalize (text : String) :
    segments (normalize text) = if leftover text = [] then ["_"] else leftover text := by
  by_cases normal : IsChild text
  · -- a text that is left alone has no `<` and no empty segment, so nothing of it goes
    rw [normalize_of_isChild normal, leftover_of_isChild normal, if_neg (segments_ne_nil text)]
  · have touched : ¬(valid text && !text.toList.contains '<') = true := by
      intro untouched
      obtain ⟨ok, flat⟩ := Bool.and_eq_true_iff.mp untouched
      exact normal ⟨ok, by simpa using flat⟩
    rw [normalize_eq, if_neg touched, leftover_eq]
    by_cases nothing : remnants text = []
    · rw [if_pos nothing, if_pos (by rw [nothing]; rfl)]
      decide
    · rw [if_neg nothing, if_neg (mt List.map_eq_nil_iff.mp nothing), segments_remnants nothing]

/-! ## 3. The whole of it -/

/-- **Every text is normalized to a harmless child path.** The path is valid and does not climb; its
    segments are those that are left when every `<` is taken out of the text and empty segments go, or
    `_` alone; the text is left alone exactly if it was such a path, so normalizing twice is normalizing
    once; and wherever the path is read, it is appended behind a dot, or stands alone below the model. -/
theorem normalize_child (text : String) :
    (valid (normalize text) = true ∧ '<' ∉ (normalize text).toList) ∧
    segments (normalize text) = (if leftover text = [] then ["_"] else leftover text) ∧
    (normalize text = text ↔ valid text = true ∧ '<' ∉ text.toList) ∧
    normalize (normalize text) = normalize text ∧
    ∀ base, resolve base (normalize text) =
        (if base = "" then normalize text else base ++ "." ++ normalize text) ∧
      segments (resolve base (normalize text)) = address base ++ segments (normalize text) := by
  have named := normalize_ne_empty text
  have flat := notMem_normalize text
  refine ⟨isChild_normalize text, segments_normalize text, normalize_eq_self_iff text,
    normalize_idem text, fun base => ⟨?_, ?_⟩⟩
  · exact resolve_flat base named (rise_eq_zero flat)
  · exact segments_resolve_flat base named flat

/-- Texts around a `<` run together, and what is left empty goes. -/
example : normalize "<a<b..<.c." = "ab.c" := by decide

end Assay.Path
