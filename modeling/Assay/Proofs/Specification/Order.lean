import Mathlib.Data.List.Perm.Subperm
import Mathlib.Logic.Relation
import Assay.Proofs.FirstOccurrence
import Assay.Specification.Catalogue

/-!
# Specifications in the order of first reference

A specification refers to others by its links. Read breadth first, from a root on, these references
put the specifications that can be reached into an order; compilation numbers them by it.

* `Catalogue.met root done` -- the root and what the specifications `done` refer to, in the order in
  which they are first named;
* `BreadthFirst root order` -- the specifications that can be reached, each once, the nearer ones
  first, each where the specifications of this very order first refer to it;
* `BreadthFirst.getElem?_met` -- the specification that comes next has been met already;
  `BreadthFirst.unique` -- so there is one such order at most;
* **`exists_breadthFirst`** -- and there is one from every root of every catalogue.
-/

namespace Assay

variable {V : Type}

/-! ## 1. References -/

/-- The transition of a command that is a link, and where the link leads. -/
def Command.link? : Command V → Option (Transition V × SpecId)
  | .action (.link transition target) => some (transition, target)
  | _ => none

/-- The links of a draft, in order. -/
def Draft.links (d : Draft V) : List (Transition V × SpecId) := d.commands.filterMap Command.link?

namespace Catalogue

/-- The links of a specification, in order; none if it is not defined. -/
def links (c : Catalogue V) (id : SpecId) : List (Transition V × SpecId) :=
  match c.draft? id with
  | some d => d.links
  | none => []

/-- The specifications that a specification refers to, in the order of its links. -/
def references (c : Catalogue V) (id : SpecId) : List SpecId := (c.links id).map Prod.snd

/-- The specification `i` refers to `j`. -/
def Refers (c : Catalogue V) (i j : SpecId) : Prop := j ∈ c.references i

instance (c : Catalogue V) (i j : SpecId) : Decidable (c.Refers i j) :=
  inferInstanceAs (Decidable (j ∈ c.references i))

/-- So many references, one after another, lead from the root to a specification. -/
inductive Reaches (c : Catalogue V) (root : SpecId) : Nat → SpecId → Prop where
  | root : Reaches c root 0 root
  | step {n : Nat} {i j : SpecId} (reaches : Reaches c root n i) (refers : c.Refers i j) :
      Reaches c root (n + 1) j

/-- The root and what the given specifications refer to, in the order in which they are first named. -/
def met (c : Catalogue V) (root : SpecId) (done : List SpecId) : List SpecId :=
  (root :: done.flatMap c.references).eraseDups

section Met

variable {c : Catalogue V} {root : SpecId} {done : List SpecId}

theorem mem_met {id : SpecId} :
    id ∈ c.met root done ↔ id = root ∨ ∃ i ∈ done, c.Refers i id := by
  rw [met, List.mem_eraseDups, List.mem_cons, List.mem_flatMap]
  exact Iff.rfl

theorem nodup_met : (c.met root done).Nodup := nodup_eraseDups _

theorem met_nil : c.met root [] = [root] := rfl

theorem met_prefix (more : List SpecId) : c.met root done <+: c.met root (done ++ more) := by
  rw [met, met, List.flatMap_append, ← List.cons_append]
  exact eraseDups_prefix _ _

theorem met_prefix_of_prefix {more : List SpecId} (h : done <+: more) :
    c.met root done <+: c.met root more := by
  obtain ⟨rest, rfl⟩ := h
  exact met_prefix rest

/-- Only a specification that is defined refers to others. -/
theorem lt_of_refers {i j : SpecId} (h : c.Refers i j) : i < c.specs.length := by
  by_contra beyond
  have none : c.draft? i = none := by
    simp only [draft?, get?, List.getElem?_eq_none (Nat.not_lt.mp beyond), Option.bind_none]
  simp only [Refers, references, links, none, List.map_nil] at h
  exact List.not_mem_nil h

theorem Reaches.reachable {n : Nat} {id : SpecId} (h : c.Reaches root n id) :
    Relation.ReflTransGen c.Refers root id := by
  induction h with
  | root => exact .refl
  | step reaches refers ih => exact ih.tail refers

end Met

/-! ## 2. Breadth first -/

/-- **The specifications that can be reached from a root, breadth first by first reference.** -/
structure BreadthFirst (c : Catalogue V) (root : SpecId) (order : List SpecId) : Prop where
  once : order.Nodup
  reached : ∀ id, id ∈ order ↔ Relation.ReflTransGen c.Refers root id
  /-- What comes earlier is no farther from the root. -/
  nearest : order.Pairwise fun i j => ∀ n, c.Reaches root n j → ∃ m ≤ n, c.Reaches root m i
  /-- Each stands where it is first named, if the references are read in this order. -/
  named : order = c.met root order

section Named

variable {c : Catalogue V} {root : SpecId} {order : List SpecId}

theorem met_take_prefix (named : order = c.met root order) (k : Nat) :
    c.met root (order.take k) <+: order := by
  have longer : c.met root (order.take k) <+: c.met root order :=
    met_prefix_of_prefix (List.take_prefix k order)
  rwa [← named] at longer

theorem root_mem (named : order = c.met root order) : root ∈ order := by
  rw [named]
  exact mem_met.mpr (.inl rfl)

theorem mem_of_reachable (named : order = c.met root order) {id : SpecId}
    (h : Relation.ReflTransGen c.Refers root id) : id ∈ order := by
  induction h with
  | refl => exact root_mem named
  | @tail i j _ refers ih =>
    rw [named]
    exact mem_met.mpr (.inr ⟨i, ih, refers⟩)

theorem getElem?_zero (named : order = c.met root order) : order[0]? = some root := by
  have first := met_take_prefix named 0
  rw [List.take_zero, met_nil] at first
  exact List.prefix_iff_getElem?.mp first 0 Nat.zero_lt_one

/-- **What comes earlier is no farther.** Specifications that are referred to stand in the order of
    those that first refer to them, which are nearer by one reference. -/
theorem nearest_of_named (named : order = c.met root order) {n a b : Nat} {i j : SpecId}
    (earlier : a ≤ b) (ha : order[a]? = some i) (hb : order[b]? = some j)
    (reaches : c.Reaches root n j) : ∃ m ≤ n, c.Reaches root m i := by
  have once : order.Nodup := named ▸ nodup_met
  induction n generalizing a b i j with
  | zero =>
    cases reaches
    have first : b = 0 := by
      have here : b < order.length := (List.getElem?_eq_some_iff.mp hb).1
      exact (List.getElem?_inj here once).mp (hb.trans (getElem?_zero named).symm)
    have same : a = b := by omega
    rw [same, hb] at ha
    cases ha
    exact ⟨0, Nat.le_refl 0, .root⟩
  | succ n ih =>
    obtain _ | ⟨before, refers⟩ := reaches
    rename_i p
    obtain ⟨q, hq⟩ := List.getElem?_of_mem (mem_of_reachable named before.reachable)
    -- the specifications up to `p` have referred to `j`, so they have to all that stand before it
    have hp : p ∈ order.take (q + 1) := by
      rw [List.take_add_one, hq]
      exact List.mem_append_right _ List.mem_cons_self
    have early := met_take_prefix named (q + 1)
    obtain ⟨b', hb'⟩ := List.getElem?_of_mem (mem_met.mpr (.inr ⟨p, hp, refers⟩))
    obtain ⟨within, -⟩ := List.getElem?_eq_some_iff.mp hb'
    have at_b' : order[b']? = some j := by
      rw [List.prefix_iff_getElem?.mp early b' within, ← List.getElem?_eq_getElem within, hb']
    have same : b' = b := by
      have here : b' < order.length := (List.getElem?_eq_some_iff.mp at_b').1
      exact (List.getElem?_inj here once).mp (at_b'.trans hb.symm)
    have within_a : a < (c.met root (order.take (q + 1))).length := by omega
    have hi : i ∈ c.met root (order.take (q + 1)) := by
      have at_a := List.prefix_iff_getElem?.mp early a within_a
      rw [ha] at at_a
      rw [Option.some.inj at_a]
      exact List.getElem_mem within_a
    rcases mem_met.mp hi with rfl | ⟨i', hi', refers'⟩
    · exact ⟨0, Nat.zero_le _, .root⟩
    · obtain ⟨a', ha'⟩ := List.getElem?_of_mem hi'
      obtain ⟨short, -⟩ := List.getElem?_eq_some_iff.mp ha'
      rw [List.length_take] at short
      rw [List.getElem?_take_of_lt (by omega)] at ha'
      obtain ⟨m, hm, nearer⟩ := ih (a := a') (b := q) (by omega) ha' hq before
      exact ⟨m + 1, by omega, nearer.step refers'⟩

end Named

namespace BreadthFirst

variable {c : Catalogue V} {root : SpecId} {order : List SpecId}

/-- What can be reached, and all of it as it is named, is breadth first. -/
theorem of_named (named : order = c.met root order)
    (sound : ∀ id ∈ order, Relation.ReflTransGen c.Refers root id) : c.BreadthFirst root order where
  once := named ▸ nodup_met
  reached id := ⟨sound id, mem_of_reachable named⟩
  nearest := by
    rw [List.pairwise_iff_getElem]
    intro a b ha hb lt n reaches
    exact nearest_of_named named (Nat.le_of_lt lt) (List.getElem?_eq_getElem ha)
      (List.getElem?_eq_getElem hb) reaches
  named := named

/-- If the specifications up to some position refer to no others than these, there are no others. -/
theorem lt_length_met (h : c.BreadthFirst root order) {k : Nat} (hk : k < order.length) :
    k < (c.met root (order.take k)).length := by
  by_contra short
  have early := met_take_prefix h.named k
  have closed : ∀ id ∈ c.met root (order.take k), id ∈ order.take k := by
    intro id mem
    rw [List.prefix_iff_eq_take.mp early] at mem
    exact List.take_subset_take_left _ (by omega) mem
  have all : order ⊆ order.take k := by
    intro id mem
    have reachable := (h.reached id).mp mem
    induction reachable with
    | refl => exact closed _ (mem_met.mpr (.inl rfl))
    | @tail i j way refers ih =>
      exact closed _ (mem_met.mpr (.inr ⟨i, ih ((h.reached i).mpr way), refers⟩))
  have few := (List.subperm_of_subset h.once all).length_le
  rw [List.length_take] at few
  omega

/-- **What comes next has been met.** -/
theorem getElem?_met (h : c.BreadthFirst root order) (k : Nat) :
    (c.met root (order.take k))[k]? = order[k]? := by
  have early := met_take_prefix h.named k
  by_cases hk : k < order.length
  · have here := h.lt_length_met hk
    rw [List.prefix_iff_getElem?.mp early k here, List.getElem?_eq_getElem here]
  · have no_longer := early.length_le
    rw [List.getElem?_eq_none (by omega), List.getElem?_eq_none (by omega)]

/-- **There is one order at most.** -/
theorem unique {other : List SpecId} (h : c.BreadthFirst root order)
    (h' : c.BreadthFirst root other) : order = other := by
  have fronts (k : Nat) : order.take k = other.take k := by
    induction k with
    | zero => rfl
    | succ k ih =>
      have next : order[k]? = other[k]? := by rw [← h.getElem?_met, ← h'.getElem?_met, ih]
      rw [List.take_add_one, List.take_add_one, ih, next]
  have whole := fronts (order.length + other.length)
  rwa [List.take_of_length_le (Nat.le_add_right _ _),
    List.take_of_length_le (Nat.le_add_left _ _)] at whole

end BreadthFirst

/-! ## 3. Reading on -/

/-- What has been met after so many specifications have been read. -/
def queue (c : Catalogue V) (root : SpecId) : Nat → List SpecId
  | 0 => c.met root []
  | k + 1 => c.met root ((queue c root k).take (k + 1))

section Queue

variable (c : Catalogue V) (root : SpecId)

theorem queue_prefix (k : Nat) : c.queue root k <+: c.queue root (k + 1) := by
  induction k with
  | zero => exact met_prefix_of_prefix List.nil_prefix
  | succ k ih =>
    have read : ((c.queue root k).take (k + 1)).length ≤ k + 1 + 1 := by
      rw [List.length_take]
      omega
    exact met_prefix_of_prefix
      (List.prefix_take_iff.mpr ⟨(List.take_prefix _ _).trans ih, read⟩)

theorem nodup_queue (k : Nat) : (c.queue root k).Nodup := by
  cases k <;> exact nodup_met

theorem reachable_of_mem_queue (k : Nat) :
    ∀ id ∈ c.queue root k, Relation.ReflTransGen c.Refers root id := by
  induction k with
  | zero =>
    intro id mem
    rw [List.mem_singleton.mp mem]
  | succ k ih =>
    intro id mem
    rcases mem_met.mp mem with rfl | ⟨i, hi, refers⟩
    · exact .refl
    · exact (ih i (List.mem_of_mem_take hi)).tail refers

/-- A catalogue has only so many references. -/
theorem length_queue_le (k : Nat) : (c.queue root k).length ≤
    (root :: (List.range c.specs.length).flatMap c.references).length := by
  refine (List.subperm_of_subset (c.nodup_queue root k) fun id mem => ?_).length_le
  rcases (c.reachable_of_mem_queue root k id mem).cases_tail with rfl | ⟨i, -, refers⟩
  · exact List.mem_cons_self
  · exact List.mem_cons_of_mem _
      (List.mem_flatMap.mpr ⟨i, List.mem_range.mpr (lt_of_refers refers), refers⟩)

/-- **Reading goes on until everything that was met has been read.** -/
theorem queue_closes (k : Nat) :
    k < (c.queue root k).length ∨ c.queue root k = c.met root (c.queue root k) := by
  induction k with
  | zero => exact .inl Nat.zero_lt_one
  | succ k ih =>
    have grown := c.queue_prefix root k
    have longer := grown.length_le
    by_cases more : k + 1 < (c.queue root (k + 1)).length
    · exact .inl more
    · right
      -- everything that was met has been read, so nothing new is met
      have read : (c.queue root k).take (k + 1) = c.queue root k :=
        List.take_of_length_le (by omega)
      have next : c.queue root (k + 1) = c.met root (c.queue root k) := by
        rw [queue, read]
      have same : c.queue root k = c.queue root (k + 1) := by
        rcases ih with running | closed
        · exact grown.eq_of_length (by omega)
        · exact closed.trans next.symm
      rw [← same] at next ⊢
      exact next

/-- **The specifications of a catalogue have an order.** -/
theorem exists_breadthFirst : ∃ order, c.BreadthFirst root order := by
  have few := c.length_queue_le root
    (root :: (List.range c.specs.length).flatMap c.references).length
  have closed := (c.queue_closes root _).resolve_left (Nat.not_lt.mpr few)
  exact ⟨_, .of_named closed (c.reachable_of_mem_queue root _)⟩

end Queue

end Catalogue

end Assay
