/-!
# Tables in the order of their keys

Translations and their entries are shown in the order of their keys, code point by code point. A
table is a list of pairs in that order, and the order is part of its type.

`insert` puts an entry in its place or replaces the one under its key, and is all that writes a
table; the rest is said through it. What a table holds is what `get?` finds: `get?_insert` says it of
a table that was written to, and **two tables with the same look-ups are the same table** (`ext_get?`).
-/

namespace Assay

/-- Pairs of keys and values, in the order of the keys. -/
structure Keyed (α : Type) where
  entries : List (String × α)
  sorted : entries.Pairwise fun p q => p.1 < q.1
  deriving DecidableEq, Repr

namespace Keyed

variable {α β : Type}

/-! ## 1. Reading -/

/-- The table without entries. -/
def empty : Keyed α := ⟨[], .nil⟩

instance : Inhabited (Keyed α) := ⟨empty⟩

/-- The value under a key. -/
def get? (t : Keyed α) (key : String) : Option α := t.entries.lookup key

def contains (t : Keyed α) (key : String) : Bool := (t.get? key).isSome

def keys (t : Keyed α) : List String := t.entries.map Prod.fst

def size (t : Keyed α) : Nat := t.entries.length

theorem lookup_cons_if (k key : String) (value : α) (pairs : List (String × α)) :
    ((key, value) :: pairs).lookup k = if k = key then some value else pairs.lookup k := by
  by_cases h : k = key
  · simp [h]
  · have : (k == key) = false := by simpa using h
    simp [List.lookup_cons, this, h]

theorem lookup_of_lt {key : String} {pairs : List (String × α)} (h : ∀ p ∈ pairs, key < p.1) :
    pairs.lookup key = none := by
  induction pairs with
  | nil => rfl
  | cons p rest ih =>
    have hne : key ≠ p.1 := fun he => String.lt_irrefl _ (he ▸ h p (by simp))
    rw [show p = (p.1, p.2) from rfl, lookup_cons_if, if_neg hne]
    exact ih fun q hq => h q (by simp [hq])

theorem mem_of_lookup {key : String} {value : α} {pairs : List (String × α)}
    (h : pairs.lookup key = some value) : (key, value) ∈ pairs := by
  induction pairs with
  | nil => simp at h
  | cons p rest ih =>
    rw [show p = (p.1, p.2) from rfl, lookup_cons_if] at h
    split at h
    · rename_i he
      simp only [Option.some.injEq] at h
      simp [he, ← h]
    · exact List.mem_cons_of_mem _ (ih h)

theorem eq_of_lookup {l m : List (String × α)} (hl : l.Pairwise fun p q => p.1 < q.1)
    (hm : m.Pairwise fun p q => p.1 < q.1) (h : ∀ k, l.lookup k = m.lookup k) : l = m := by
  induction l generalizing m with
  | nil =>
    cases m with
    | nil => rfl
    | cons q m =>
      have := h q.1
      rw [show q = (q.1, q.2) from rfl, lookup_cons_if] at this
      simp at this
  | cons p l ih =>
    cases m with
    | nil =>
      have := h p.1
      rw [show p = (p.1, p.2) from rfl, lookup_cons_if] at this
      simp at this
    | cons q m =>
      obtain ⟨k, v⟩ := p
      obtain ⟨k', v'⟩ := q
      rw [List.pairwise_cons] at hl hm
      have hk : k = k' := by
        by_cases hne : k = k'
        · exact hne
        · have h1 : (k, v) ∈ m := by
            have := h k
            rw [lookup_cons_if, lookup_cons_if, if_pos rfl, if_neg hne] at this
            exact mem_of_lookup this.symm
          have h2 : (k', v') ∈ l := by
            have := h k'
            rw [lookup_cons_if, lookup_cons_if, if_pos rfl, if_neg (Ne.symm hne)] at this
            exact mem_of_lookup this
          exact absurd (String.lt_trans (hl.1 _ h2) (hm.1 _ h1)) (String.lt_irrefl _)
      subst hk
      have hv : v = v' := by
        have := h k
        rw [lookup_cons_if, lookup_cons_if, if_pos rfl, if_pos rfl] at this
        simpa using this
      subst hv
      have : l = m := by
        refine ih hl.2 hm.2 fun j => ?_
        by_cases hj : j = k
        · rw [hj, lookup_of_lt hl.1, lookup_of_lt hm.1]
        · have := h j
          rwa [lookup_cons_if, lookup_cons_if, if_neg hj, if_neg hj] at this
      rw [this]

/-- **Two tables with the same look-ups are the same table.** -/
theorem ext_get? {t u : Keyed α} (h : ∀ key, t.get? key = u.get? key) : t = u := by
  obtain ⟨l, hl⟩ := t
  obtain ⟨m, hm⟩ := u
  have : l = m := eq_of_lookup hl hm h
  subst this
  rfl

/-! ## 2. Writing -/

/-- An entry put in its place in a list of pairs. -/
def insertInto (key : String) (value : α) : List (String × α) → List (String × α)
  | [] => [(key, value)]
  | (k, v) :: rest =>
    if key = k then (key, value) :: rest
    else if key < k then (key, value) :: (k, v) :: rest
    else (k, v) :: insertInto key value rest

theorem mem_of_mem_insertInto {key : String} {value : α} {pairs : List (String × α)}
    {p : String × α} (h : p ∈ insertInto key value pairs) : p = (key, value) ∨ p ∈ pairs := by
  induction pairs with
  | nil => simpa [insertInto] using h
  | cons q rest ih =>
    simp only [insertInto] at h
    split at h
    · rcases List.mem_cons.1 h with h | h
      · exact .inl h
      · exact .inr (List.mem_cons_of_mem _ h)
    · split at h
      · rcases List.mem_cons.1 h with h | h
        · exact .inl h
        · exact .inr h
      · rcases List.mem_cons.1 h with h | h
        · exact .inr (h ▸ List.mem_cons_self)
        · exact (ih h).imp id (List.mem_cons_of_mem _)

theorem sorted_insertInto (key : String) (value : α) {pairs : List (String × α)}
    (h : pairs.Pairwise fun p q => p.1 < q.1) :
    (insertInto key value pairs).Pairwise fun p q => p.1 < q.1 := by
  induction pairs with
  | nil => simp [insertInto]
  | cons q rest ih =>
    obtain ⟨k, v⟩ := q
    rw [List.pairwise_cons] at h
    simp only [insertInto]
    split
    · rename_i he
      exact List.pairwise_cons.2 ⟨fun p hp => he ▸ h.1 p hp, h.2⟩
    · rename_i hne
      split
      · rename_i hlt
        refine List.pairwise_cons.2 ⟨fun p hp => ?_, List.pairwise_cons.2 h⟩
        rcases List.mem_cons.1 hp with hp | hp
        · exact hp ▸ hlt
        · exact String.lt_trans hlt (h.1 p hp)
      · rename_i hge
        refine List.pairwise_cons.2 ⟨fun p hp => ?_, ih h.2⟩
        rcases mem_of_mem_insertInto hp with hp | hp
        · rw [hp]
          by_cases hlt : k < key
          · exact hlt
          · exact absurd (String.le_antisymm (String.not_lt.1 hlt) (String.not_lt.1 hge)) hne
        · exact h.1 p hp

/-- The table with an entry; one under the same key is replaced. -/
def insert (t : Keyed α) (key : String) (value : α) : Keyed α :=
  ⟨insertInto key value t.entries, sorted_insertInto key value t.sorted⟩

/-- The table with several entries, later ones replacing earlier ones. -/
def insertAll (t : Keyed α) (pairs : List (String × α)) : Keyed α :=
  pairs.foldl (fun t (key, value) => t.insert key value) t

/-- The table of the given pairs. -/
def ofList (pairs : List (String × α)) : Keyed α := empty.insertAll pairs

theorem lookup_insertInto (key : String) (value : α) (pairs : List (String × α)) (k : String) :
    (insertInto key value pairs).lookup k = if k = key then some value else pairs.lookup k := by
  induction pairs with
  | nil => exact lookup_cons_if k key value []
  | cons p rest ih =>
    obtain ⟨k', v'⟩ := p
    simp only [insertInto]
    split
    · rename_i h
      subst h
      by_cases hk : k = key <;> simp [lookup_cons_if, hk]
    · rename_i h
      split
      · exact lookup_cons_if k key value _
      · rw [lookup_cons_if, lookup_cons_if, ih]
        by_cases hk : k = key
        · simp [hk, h]
        · simp [hk]

@[simp] theorem get?_insert (t : Keyed α) (key : String) (value : α) (k : String) :
    (t.insert key value).get? k = if k = key then some value else t.get? k :=
  lookup_insertInto key value t.entries k

/-! ## 3. Changing every value -/

/-- The table with every value changed and the keys as they are. -/
def map (f : α → β) (t : Keyed α) : Keyed β :=
  ⟨t.entries.map fun (key, value) => (key, f value), List.pairwise_map.2 t.sorted⟩

@[simp] theorem get?_map (f : α → β) (t : Keyed α) (key : String) :
    (t.map f).get? key = (t.get? key).map f := by
  obtain ⟨pairs, h⟩ := t
  simp only [map, get?]
  clear h
  induction pairs with
  | nil => rfl
  | cons p rest ih =>
    obtain ⟨k, v⟩ := p
    rw [List.map_cons, lookup_cons_if, lookup_cons_if, ih]
    split <;> rfl

end Keyed

end Assay
