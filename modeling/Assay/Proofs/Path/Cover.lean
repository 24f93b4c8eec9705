import Assay.Proofs.Path.Fill
import Assay.Proofs.Path.Normalize

/-!
# Paths with markers for others

A survey knows a path with a bare marker where a visit has a position or a key. Both are made by
reading the same relative paths, so they stay alike, segment by segment.

* `Covers g p` -- the path `g` is `p`, but for bare markers in place of segments;
* `covers_resolve` -- any relative path, climbing or not, leads from covered to covered;
* `covers_key` -- the bare marker leads where the key of an entry does;
* **`covers_fill`** -- a path is still covered when its own markers are filled.

A marker never stands for an empty segment: a path of one empty segment is the empty path, and below
it nothing is appended as below any other.
-/

namespace Assay.Path

/-- The path is the other one, but for bare markers in place of segments. -/
def Covers (g p : String) : Prop :=
  List.Forall₂ (fun s t => s = t ∨ (s = marker ∧ t ≠ "")) (segments g) (segments p)

theorem covers_refl (p : String) : Covers p p := List.forall₂_same.mpr fun _ _ => .inl rfl

theorem Covers.length_eq {g p : String} (h : Covers g p) :
    (segments g).length = (segments p).length := List.Forall₂.length_eq h

theorem Covers.empty_iff {g p : String} (h : Covers g p) : g = "" ↔ p = "" := by
  constructor
  · rintro rfl
    obtain ⟨t, rest, hst, hrest, hp⟩ := List.forall₂_cons_left_iff.mp h
    rw [List.forall₂_nil_left_iff.mp hrest] at hp
    rcases hst with rfl | ⟨hm, -⟩
    · exact eq_empty_of_segments hp
    · exact absurd hm (by decide)
  · rintro rfl
    obtain ⟨s, rest, hst, hrest, hg⟩ := List.forall₂_cons_right_iff.mp h
    rw [List.forall₂_nil_right_iff.mp hrest] at hg
    rcases hst with rfl | ⟨-, hne⟩
    · exact eq_empty_of_segments hg
    · exact absurd rfl hne

/-- Above the model itself both addresses are alike. -/
theorem Covers.address {g p : String} (h : Covers g p) :
    List.Forall₂ (fun s t => s = t ∨ (s = marker ∧ t ≠ "")) (address g) (address p) := by
  unfold Path.address
  by_cases hp : p = ""
  · rw [if_pos (h.empty_iff.mpr hp), if_pos hp]
    exact .nil
  · rw [if_neg (mt h.empty_iff.mp hp), if_neg hp]
    exact h

/-- **A relative path leads from covered to covered.** -/
theorem covers_resolve {g p : String} (h : Covers g p) (relative : String) :
    Covers (resolve g relative) (resolve p relative) := by
  unfold Covers
  rw [segments_resolve, segments_resolve, h.length_eq]
  split
  · exact h
  · split
    · exact List.rel_append h.address (covers_refl relative)
    · split
      · exact List.rel_append (List.forall₂_take _ h) (List.forall₂_same.mpr fun _ _ => .inl rfl)
      · exact covers_refl _

theorem covers_along {g p : String} (h : Covers g p) (relative : Option String) :
    Covers (along g relative) (along p relative) := by
  cases relative with
  | none => exact h
  | some relative => exact covers_resolve h relative

/-- **The bare marker leads where a key does** that is a single segment. -/
theorem covers_key {g p key : String} (h : Covers g p)
    (hone : (segments (normalize key)).length = 1) :
    Covers (resolve g marker) (resolve p (normalize key)) := by
  obtain ⟨k, hk⟩ := List.length_eq_one_iff.mp hone
  have hne : k ≠ "" := by
    rintro rfl
    exact normalize_ne_empty key (eq_empty_of_segments hk)
  unfold Covers
  rw [segments_resolve_flat g (by decide) (by decide),
    segments_resolve_flat p (normalize_ne_empty key) (notMem_normalize key), hk]
  exact List.rel_append h.address (.cons (.inr ⟨rfl, hne⟩) .nil)

/-- A segment that is alike stays so when it is filled. -/
theorem forall₂_fills {indexes gs ps fs : List String}
    (h : List.Forall₂ (fun s t => s = t ∨ (s = marker ∧ t ≠ "")) gs ps)
    (hf : List.Forall₂ (Fills indexes) ps fs) :
    List.Forall₂ (fun s t => s = t ∨ (s = marker ∧ t ≠ "")) gs fs := by
  induction h generalizing fs with
  | nil =>
    rw [List.forall₂_nil_left_iff.mp hf]
    exact .nil
  | cons hst _ ih =>
    obtain ⟨f, rest, hfill, hrest, rfl⟩ := List.forall₂_cons_left_iff.mp hf
    refine .cons ?_ (ih hrest)
    rcases hfill with rfl | ⟨hm, i, -, rfl⟩
    · exact hst
    · refine .inr ⟨?_, by simp⟩
      rcases hst with rfl | ⟨hs, -⟩
      · exact hm
      · exact hs

/-- **A filled path is covered as it was.** -/
theorem covers_fill {g p : String} (h : Covers g p) {indexes : List String}
    (hi : ∀ i ∈ indexes, '.' ∉ i.toList) : Covers g (fill p indexes) :=
  forall₂_fills h (segments_fill p hi)

end Assay.Path
