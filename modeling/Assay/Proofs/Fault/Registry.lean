import Assay.Fault.Registry
import Assay.Proofs.Fault.Same

/-!
# What a registry keeps

A registry is a list that is only appended to, and a fault is looked up by its first equal. So a
number, once given, stands for the same fault in every later registry.

* `get?_of_find?` -- the fault behind the number of a fault is equal to it;
* `grows_register`, `find?_mono` -- nothing is taken out, and numbers stay;
* `find?_register` -- a fault that was registered has the number that was given;
* **`find?_registerAll`** -- of several faults registered one after another, each has the number it
  was given also in the end;
* `registerAll_of_known` -- faults that have a number already change nothing.
-/

namespace Assay.Registry

variable {r s : Registry} {fault : Fault} {id : FaultId}

/-! ## 1. Numbers -/

/-- The fault behind the number of a fault is equal to it. -/
theorem get?_of_find? (h : r.find? fault = some id) :
    ∃ stored, r.get? id = some stored ∧ (stored == fault) = true := by
  obtain ⟨here, same, -⟩ := List.findIdx?_eq_some_iff_getElem.mp h
  exact ⟨_, List.getElem?_eq_getElem here, same⟩

/-- A fault that has a number keeps it. -/
theorem find?_mono (h : r.find? fault = some id) (grown : r.faults <+: s.faults) :
    s.find? fault = some id := by
  obtain ⟨more, grown⟩ := grown
  rw [find?, ← grown, List.findIdx?_append, show r.faults.findIdx? (· == fault) = some id from h,
    Option.some_or]

/-! ## 2. One fault -/

theorem register_of_find? (h : r.find? fault = some id) : r.register fault = (r, id) := by
  rw [register, h]

theorem register_of_new (h : r.find? fault = none) :
    r.register fault = (⟨r.faults ++ [fault]⟩, r.faults.length) := by
  rw [register, h]

/-- Nothing is taken out of a registry. -/
theorem grows_register (r : Registry) (fault : Fault) : r.faults <+: (r.register fault).1.faults := by
  cases h : r.find? fault with
  | some id =>
    exact ⟨[], by rw [register_of_find? h, List.append_nil]⟩
  | none =>
    exact ⟨[fault], by rw [register_of_new h]⟩

/-- A fault that was registered has the number that was given. -/
theorem find?_register (r : Registry) (fault : Fault) :
    (r.register fault).1.find? fault = some (r.register fault).2 := by
  cases h : r.find? fault with
  | some id => rw [register_of_find? h, h]
  | none =>
    have old : r.faults.findIdx? (· == fault) = none := h
    rw [register_of_new h, find?, List.findIdx?_append, old]
    simp

theorem mem_register {f : Fault} (h : f ∈ (r.register fault).1.faults) : f ∈ r.faults ∨ f = fault := by
  cases known : r.find? fault with
  | some id =>
    rw [register_of_find? known] at h
    exact .inl h
  | none =>
    rw [register_of_new known] at h
    simpa using h

/-! ## 3. Several faults -/

theorem registerAll_cons (r : Registry) (fault : Fault) (rest : List Fault) :
    r.registerAll (fault :: rest) =
      (((r.register fault).1.registerAll rest).1,
        (r.register fault).2 :: ((r.register fault).1.registerAll rest).2) := rfl

theorem grows_registerAll (r : Registry) (faults : List Fault) :
    r.faults <+: (r.registerAll faults).1.faults := by
  induction faults generalizing r with
  | nil => exact List.prefix_refl _
  | cons fault rest ih => exact (r.grows_register fault).trans (ih _)

/-- **Each fault has the number it was given, also in the end.** -/
theorem find?_registerAll (r : Registry) {faults : List Fault} {i : Nat}
    (h : faults[i]? = some fault) :
    ∃ id, (r.registerAll faults).2[i]? = some id ∧
      (r.registerAll faults).1.find? fault = some id := by
  induction faults generalizing r i with
  | nil => cases h
  | cons first rest ih =>
    rw [registerAll_cons]
    cases i with
    | zero =>
      cases h
      exact ⟨_, rfl, find?_mono (r.find?_register fault) (grows_registerAll _ rest)⟩
    | succ i => exact ih _ h

theorem isSome_find?_registerAll (r : Registry) {faults : List Fault} (mem : fault ∈ faults) :
    ((r.registerAll faults).1.find? fault).isSome = true := by
  obtain ⟨i, here⟩ := List.getElem?_of_mem mem
  obtain ⟨id, -, found⟩ := r.find?_registerAll here
  exact Option.isSome_iff_exists.mpr ⟨id, found⟩

/-- Only what is registered comes into a registry. -/
theorem mem_registerAll {f : Fault} {faults : List Fault}
    (h : f ∈ (r.registerAll faults).1.faults) : f ∈ r.faults ∨ f ∈ faults := by
  induction faults generalizing r with
  | nil => exact .inl h
  | cons first rest ih =>
    rw [registerAll_cons] at h
    rcases ih h with h | h
    · exact (mem_register h).imp_right fun (same : f = first) => same ▸ List.mem_cons_self
    · exact .inr (List.mem_cons_of_mem _ h)

theorem registerAll_append (r : Registry) (front back : List Fault) :
    (r.registerAll (front ++ back)).1 = ((r.registerAll front).1.registerAll back).1 := by
  induction front generalizing r with
  | nil => rfl
  | cons first rest ih =>
    rw [List.cons_append, registerAll_cons, registerAll_cons]
    exact ih _

/-- Faults that have a number already change nothing. -/
theorem registerAll_of_known {faults : List Fault}
    (known : ∀ f ∈ faults, (r.find? f).isSome = true) : (r.registerAll faults).1 = r := by
  induction faults with
  | nil => rfl
  | cons first rest ih =>
    obtain ⟨head, tail⟩ := List.forall_mem_cons.mp known
    obtain ⟨id, found⟩ := Option.isSome_iff_exists.mp head
    rw [registerAll_cons, register_of_find? found]
    exact ih tail

end Assay.Registry
