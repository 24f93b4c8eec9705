import Mathlib.Data.List.Range
import Assay.Proofs.Specification.Legal
import Assay.Proofs.Specification.Order

/-!
# Copies of specifications

Several links may lead to one specification. The same can be written without sharing: every link gets
a specification of its own, with the same commands, and so on behind it. Without cycles that comes to
an end.

* `Catalogue.Copies c root copy start origin` -- the catalogue `copy` unfolds `c`: every specification
  in it is one of `c`, its origin, with links to copies of what that one refers to;
* `Catalogue.Unshared copy start` -- no specification is referred to twice;
* `Copies.order` -- the order of the originals is that of the copies, each original where its first
  copy stands;
* `Catalogue.AcyclicFrom c root` -- no specification that can be reached leads back to itself;
* **`exists_unshared`** -- then there is a copy without sharing: the ways from the root, the shorter
  ones first, each with the specification at its end.
-/

namespace Assay

variable {V : Type}

/-! ## 1. Other targets -/

section Retarget

variable (f : SpecId → SpecId)

/-- The action with another target, if it is a link. -/
def Action.retarget : Action V → Action V
  | .link transition target => .link transition (f target)
  | action => action

def Command.retarget : Command V → Command V
  | .action a => .action (a.retarget f)
  | .parameter p => .parameter p

def Clause.retarget (c : Clause V) : Clause V := { c with action := c.action.retarget f }

/-- The draft with other targets. -/
def Draft.retarget (d : Draft V) : Draft V :=
  { d with commands := d.commands.map (Command.retarget f) }

/-- The specification with other targets. -/
def Specification.retarget (s : Specification V) : Specification V :=
  { s with draft := s.draft.map (Draft.retarget f) }

theorem Command.link?_retarget (command : Command V) :
    (command.retarget f).link? = command.link?.map (Prod.map id f) := by
  rcases command with a | p
  · cases a <;> rfl
  · rfl

theorem Draft.links_retarget (d : Draft V) :
    (d.retarget f).links = d.links.map (Prod.map id f) := by
  simp only [links, retarget, List.filterMap_map, List.map_filterMap, Function.comp_def,
    Command.link?_retarget]

theorem Clause.split_retarget (commands : List (Command V)) :
    split (commands.map (Command.retarget f)) =
      ((split commands).1, (split commands).2.map (retarget f)) := by
  induction commands with
  | nil => rfl
  | cons command rest ih =>
    cases command with
    | parameter p => simp only [List.map_cons, Command.retarget, split, ih]
    | action a =>
      simp only [List.map_cons, Command.retarget, split, ih]
      rfl

theorem Clause.firstFault_retarget (index : Nat) (clauses : List (Clause V)) :
    firstFault index (clauses.map (retarget f)) = firstFault index clauses := by
  induction clauses generalizing index with
  | nil => rfl
  | cons c rest ih =>
    obtain ⟨action, parameters⟩ := c
    have own : (retarget f ⟨action, parameters⟩).fault? index =
        fault? ⟨action, parameters⟩ index := by
      cases action <;> rfl
    simp only [List.map_cons, firstFault, own, ih]
    rfl

/-- Commands are taken apart without a look at targets. -/
theorem Draft.clausal_retarget {d : Draft V} : (d.retarget f).Clausal ↔ d.Clausal := by
  simp only [Clausal, retarget, Clause.ofCommands?, Clause.split_retarget]
  obtain ⟨others, clauses⟩ := Clause.split d.commands
  cases others with
  | cons p rest => constructor <;> (intro h; cases h)
  | nil =>
    simp only [Clause.firstFault_retarget]
    cases Clause.firstFault 0 clauses with
    | some text => constructor <;> (intro h; cases h)
    | none => exact ⟨fun _ => rfl, fun _ => rfl⟩

end Retarget

/-! ## 2. Copies -/

namespace Catalogue

/-- **The catalogue `copy` unfolds `c`.** Its specifications are those of `c` with links to copies of
    what these refer to; `origin` tells which. -/
structure Copies (c : Catalogue V) (root : SpecId) (copy : Catalogue V) (start : SpecId)
    (origin : SpecId → SpecId) : Prop where
  root : origin start = root
  same : ∀ k, (copy.get? k).map (Specification.retarget origin) = c.get? (origin k)

/-- No specification is referred to twice, and `start` not at all. -/
def Unshared (copy : Catalogue V) (start : SpecId) : Prop :=
  (start :: (List.range copy.specs.length).flatMap copy.references).Nodup

namespace Copies

variable {c copy : Catalogue V} {root start : SpecId} {origin : SpecId → SpecId}
  (h : c.Copies root copy start origin)
include h

theorem draft? (k : SpecId) :
    (copy.draft? k).map (Draft.retarget origin) = c.draft? (origin k) := by
  rw [Catalogue.draft?, Catalogue.draft?, ← h.same k]
  cases copy.get? k <;> rfl

theorem typeName : copy.typeName start = c.typeName root := by
  rw [Catalogue.typeName, Catalogue.typeName, ← h.root, ← h.same start]
  cases copy.get? start <;> rfl

/-- A copy has a draft if its origin has. -/
theorem exists_draft {k : SpecId} {d : Draft V} (defined : c.draft? (origin k) = some d) :
    ∃ d', copy.draft? k = some d' ∧ d'.retarget origin = d := by
  rw [← h.draft? k] at defined
  exact Option.map_eq_some_iff.mp defined

theorem references (k : SpecId) : c.references (origin k) = (copy.references k).map origin := by
  rw [Catalogue.references, Catalogue.references, links, links, ← h.draft? k]
  cases copy.draft? k with
  | none => rfl
  | some d =>
    simp only [Option.map_some, Draft.links_retarget, List.map_map]
    rfl

theorem refers {j k : SpecId} (refers : copy.Refers j k) : c.Refers (origin j) (origin k) := by
  rw [Refers, h.references]
  exact List.mem_map_of_mem refers

theorem reachable {k : SpecId} (reached : Relation.ReflTransGen copy.Refers start k) :
    Relation.ReflTransGen c.Refers root (origin k) := by
  rw [← h.root]
  exact reached.lift origin fun _ _ => h.refers

/-- **Each original stands where its first copy stands.** -/
theorem order {order copies : List SpecId} (ordered : c.BreadthFirst root order)
    (copied : copy.BreadthFirst start copies) : (copies.map origin).eraseDups = order := by
  refine BreadthFirst.unique (.of_named ?_ fun id mem => ?_) ordered
  · have read : (start :: copies.flatMap copy.references).map origin =
        [root] ++ (copies.map origin).flatMap c.references := by
      rw [List.map_cons, h.root, List.map_flatMap, List.flatMap_map]
      simp only [h.references]
      rfl
    have firsts := eraseDups_append_flatMap [] (start :: copies.flatMap copy.references)
      fun k => [origin k]
    simp only [List.nil_append, ← List.map_eq_flatMap] at firsts
    calc (copies.map origin).eraseDups
        = ((start :: copies.flatMap copy.references).eraseDups.map origin).eraseDups := by
          rw [← met, ← copied.named]
      _ = ([root] ++ (copies.map origin).flatMap c.references).eraseDups := by rw [firsts, read]
      _ = c.met root (copies.map origin).eraseDups := (eraseDups_append_flatMap _ _ _).symm
  · obtain ⟨k, hk, rfl⟩ := List.mem_map.mp (List.mem_eraseDups.mp mem)
    exact h.reachable ((copied.reached k).mp hk)

end Copies

/-! ## 3. Ways without cycles -/

/-- No specification that can be reached leads back to itself. -/
def AcyclicFrom (c : Catalogue V) (root : SpecId) : Prop :=
  ∀ id, Relation.ReflTransGen c.Refers root id → ¬Relation.TransGen c.Refers id id

section Ways

variable (c : Catalogue V) (root : SpecId)

/-- The ends of the ways with so many references, from the root on. -/
def level : Nat → List SpecId
  | 0 => [root]
  | n + 1 => (level n).flatMap c.references

/-- The ends of all ways, the shorter ones first. -/
def ways : List SpecId := (List.range (c.specs.length + 1)).flatMap (c.level root)

variable {c root}

theorem reachable_of_mem_level {n : Nat} {id : SpecId} (h : id ∈ c.level root n) :
    Relation.ReflTransGen c.Refers root id := by
  induction n generalizing id with
  | zero => rw [List.mem_singleton.mp h]
  | succ n ih =>
    obtain ⟨i, hi, refers⟩ := List.mem_flatMap.mp h
    exact (ih hi).tail refers

theorem reachable_of_mem_ways {id : SpecId} (h : id ∈ c.ways root) :
    Relation.ReflTransGen c.Refers root id := by
  obtain ⟨n, -, mem⟩ := List.mem_flatMap.mp h
  exact reachable_of_mem_level mem

/-- The specifications on a way are different. -/
theorem exists_way (acyclic : c.AcyclicFrom root) {n : Nat} {id : SpecId}
    (h : id ∈ c.level root n) :
    ∃ way : List SpecId, way.length = n ∧ way.Nodup ∧
      ∀ i ∈ way, i < c.specs.length ∧ Relation.TransGen c.Refers i id := by
  induction n generalizing id with
  | zero => exact ⟨[], rfl, List.nodup_nil, fun _ mem => absurd mem List.not_mem_nil⟩
  | succ n ih =>
    obtain ⟨last, hlast, refers⟩ := List.mem_flatMap.mp h
    obtain ⟨way, length, once, leads⟩ := ih hlast
    have fresh : last ∉ way := fun mem =>
      acyclic last (reachable_of_mem_level hlast) (leads last mem).2
    refine ⟨last :: way, congrArg (· + 1) length, List.nodup_cons.mpr ⟨fresh, once⟩, ?_⟩
    intro i mem
    rcases List.mem_cons.mp mem with rfl | mem
    · exact ⟨lt_of_refers refers, .single refers⟩
    · exact ⟨(leads i mem).1, (leads i mem).2.tail refers⟩

/-- No way has more references than there are specifications. -/
theorem level_eq_nil (acyclic : c.AcyclicFrom root) : c.level root (c.specs.length + 1) = [] := by
  refine List.eq_nil_iff_forall_not_mem.mpr fun id mem => ?_
  obtain ⟨way, length, once, leads⟩ := exists_way acyclic mem
  have within : way ⊆ List.range c.specs.length := fun i hi => List.mem_range.mpr (leads i hi).1
  have few := (List.subperm_of_subset once within).length_le
  rw [List.length_range] at few
  omega

theorem cons_flatMap_level (n : Nat) :
    root :: ((List.range n).flatMap (c.level root)).flatMap c.references =
      (List.range (n + 1)).flatMap (c.level root) := by
  induction n with
  | zero => rfl
  | succ n ih =>
    have further (n : Nat) : (List.range (n + 1)).flatMap (c.level root) =
        (List.range n).flatMap (c.level root) ++ c.level root n := by
      rw [List.range_succ, List.flatMap_append, List.flatMap_singleton]
    calc root :: ((List.range (n + 1)).flatMap (c.level root)).flatMap c.references
        = (root :: ((List.range n).flatMap (c.level root)).flatMap c.references) ++
            (c.level root n).flatMap c.references := by
          rw [further n, List.flatMap_append, List.cons_append]
      _ = (List.range (n + 1)).flatMap (c.level root) ++ c.level root (n + 1) := by
          rw [ih]
          rfl
      _ = (List.range (n + 1 + 1)).flatMap (c.level root) := (further (n + 1)).symm

/-- **The ways go on with the references at their ends**, all of them, in this order. -/
theorem cons_flatMap_ways (acyclic : c.AcyclicFrom root) :
    root :: (c.ways root).flatMap c.references = c.ways root := by
  rw [ways, cons_flatMap_level, List.range_succ, List.flatMap_append, List.flatMap_singleton,
    level_eq_nil acyclic, List.append_nil]

end Ways

end Catalogue

/-! ## 4. Unfolding -/

/-- The commands with consecutive numbers as targets of their links. -/
def Command.renumber (n : Nat) : List (Command V) → List (Command V)
  | [] => []
  | command :: rest =>
    match command.link? with
    | some (transition, _) => .action (.link transition n) :: renumber (n + 1) rest
    | none => command :: renumber n rest

/-- The draft with consecutive numbers as targets. -/
def Draft.renumber (n : Nat) (d : Draft V) : Draft V :=
  { d with commands := Command.renumber n d.commands }

/-- The specification with consecutive numbers as targets. -/
def Specification.renumber (n : Nat) (s : Specification V) : Specification V :=
  { s with draft := s.draft.map (Draft.renumber n) }

theorem Command.eq_of_link? {command : Command V} {transition : Transition V} {target : SpecId}
    (h : command.link? = some (transition, target)) :
    command = .action (.link transition target) := by
  rcases command with (_ | _ | _ | _ | _ | _) | _ <;> cases h
  rfl

theorem Command.retarget_of_link? (f : SpecId → SpecId) {command : Command V}
    (h : command.link? = none) : command.retarget f = command := by
  rcases command with (_ | _ | _ | _ | _ | _) | _ <;> first | rfl | cases h

theorem Command.targets_renumber (n : Nat) (commands : List (Command V)) :
    ((renumber n commands).filterMap link?).map Prod.snd =
      List.range' n (commands.filterMap link?).length := by
  induction commands generalizing n with
  | nil => rfl
  | cons command rest ih =>
    unfold renumber
    cases link : command.link? with
    | none =>
      rw [List.filterMap_cons_none link, List.filterMap_cons_none link]
      exact ih n
    | some found =>
      rw [List.filterMap_cons_some link, List.length_cons, List.range'_succ, ← ih]
      rfl

/-- Numbers that stand for the targets lead back to them. -/
theorem Command.retarget_renumber (f : SpecId → SpecId) (n : Nat) (commands : List (Command V))
    (stands : ∀ (j : Nat) (id : SpecId),
      ((commands.filterMap link?).map Prod.snd)[j]? = some id → f (n + j) = id) :
    (renumber n commands).map (retarget f) = commands := by
  induction commands generalizing n with
  | nil => rfl
  | cons command rest ih =>
    unfold renumber
    cases link : command.link? with
    | none =>
      rw [List.filterMap_cons_none link] at stands
      dsimp only
      rw [List.map_cons, retarget_of_link? f link, ih n stands]
    | some found =>
      obtain ⟨transition, target⟩ := found
      rw [List.filterMap_cons_some link, List.map_cons] at stands
      have first : f n = target := stands 0 target rfl
      have others := ih (n + 1) fun j id there => by
        rw [Nat.add_assoc, Nat.add_comm 1 j]
        exact stands (j + 1) id there
      dsimp only
      rw [List.map_cons, others, retarget, Action.retarget, first, eq_of_link? link]

namespace Catalogue

section Unfold

variable (c : Catalogue V) (ids : List SpecId)

/-- The number of the first specification that the one at a position refers to, if all references are
    numbered in order. -/
def firstNumber (k : Nat) : Nat := 1 + ((ids.take k).flatMap c.references).length

/-- A specification of its own for each of these, with consecutive numbers as targets. -/
def unfold : Catalogue V where
  specs := ids.mapIdx fun k id => ((c.get? id).getD ⟨"", none⟩).renumber (c.firstNumber ids k)

/-- What was unfolded at a position. -/
def unfolded (k : SpecId) : SpecId := ids[k]?.getD c.specs.length

variable {c ids}

theorem get?_unfold (k : SpecId) : (c.unfold ids).get? k =
    ids[k]?.map fun id => ((c.get? id).getD ⟨"", none⟩).renumber (c.firstNumber ids k) :=
  List.getElem?_mapIdx

theorem references_unfold {k : SpecId} {id : SpecId} (here : ids[k]? = some id) :
    (c.unfold ids).references k =
      List.range' (c.firstNumber ids k) (c.references id).length := by
  simp only [references, links, draft?, get?_unfold, here, Option.map_some, Option.bind_some]
  cases c.get? id with
  | none => rfl
  | some s =>
    simp only [Option.getD_some, Option.bind_some, Specification.renumber, List.length_map]
    cases s.draft with
    | none => rfl
    | some d => exact Command.targets_renumber _ _

/-- All references together are numbered in order. -/
theorem flatMap_references_unfold {k : Nat} (within : k ≤ ids.length) :
    (List.range k).flatMap (c.unfold ids).references =
      List.range' 1 ((ids.take k).flatMap c.references).length := by
  induction k with
  | zero => rfl
  | succ k ih =>
    have here : ids[k]? = some ids[k] := List.getElem?_eq_getElem within
    rw [List.range_succ, List.flatMap_append, List.flatMap_singleton, ih (by omega),
      references_unfold here, List.take_add_one, here, Option.toList_some, List.flatMap_append,
      List.flatMap_singleton, List.length_append, firstNumber]
    exact List.range'_append_1

theorem unshared_unfold : (c.unfold ids).Unshared 0 := by
  have count : (c.unfold ids).specs.length = ids.length := List.length_mapIdx
  rw [Unshared, count, flatMap_references_unfold (Nat.le_refl _)]
  exact List.nodup_range' (s := 0) (n := _ + 1)

/-- The references of all that is unfolded stand where their numbers say. -/
theorem getElem?_firstNumber {root : SpecId} (closed : root :: ids.flatMap c.references = ids)
    {k : Nat} {id : SpecId} (here : ids[k]? = some id) {j : Nat} {target : SpecId}
    (refers : (c.references id)[j]? = some target) :
    ids[c.firstNumber ids k + j]? = some target := by
  obtain ⟨within, rfl⟩ := List.getElem?_eq_some_iff.mp here
  have apart : ids.flatMap c.references = (ids.take k).flatMap c.references ++
      (c.references ids[k] ++ (ids.drop (k + 1)).flatMap c.references) := by
    rw [← List.flatMap_cons, ← List.flatMap_append, ← List.drop_eq_getElem_cons within,
      List.take_append_drop]
  have behind : (ids.flatMap c.references)[((ids.take k).flatMap c.references).length + j]? =
      some target := by
    rw [apart, List.getElem?_append_right (Nat.le_add_right _ _), Nat.add_sub_cancel_left,
      List.getElem?_append_left (List.getElem?_eq_some_iff.mp refers).1, refers]
  calc ids[c.firstNumber ids k + j]?
      = (root :: ids.flatMap c.references)[c.firstNumber ids k + j]? := by rw [closed]
    _ = some target := by
      rw [firstNumber, Nat.add_assoc, Nat.add_comm 1, List.getElem?_cons_succ, behind]

/-- **What goes on with the references of all its parts is unfolded by copies of them.** -/
theorem copies_unfold {root : SpecId} (closed : root :: ids.flatMap c.references = ids)
    (declared : ∀ id ∈ ids, id < c.specs.length) :
    c.Copies root (c.unfold ids) 0 (c.unfolded ids) where
  root := by
    rw [unfolded, ← closed]
    rfl
  same := by
    intro k
    rw [get?_unfold, unfolded]
    cases here : ids[k]? with
    | none => exact (List.getElem?_eq_none (Nat.le_refl _)).symm
    | some id =>
      obtain ⟨⟨typeName, draft⟩, spec⟩ : ∃ s, c.get? id = some s :=
        ⟨_, List.getElem?_eq_getElem (declared id (List.mem_of_getElem? here))⟩
      rw [Option.map_some, Option.map_some, Option.getD_some, spec, Option.getD_some]
      cases draft with
      | none => rfl
      | some d =>
        have numbers := Command.retarget_renumber (c.unfolded ids) (c.firstNumber ids k) d.commands
          fun j target stands => by
            have refers : (c.references id)[j]? = some target := by
              simp only [references, links, draft?, spec, Option.bind_some]
              exact stands
            rw [unfolded, getElem?_firstNumber closed here refers, Option.getD_some]
        simp only [Specification.renumber, Specification.retarget, Option.map_some, Draft.renumber,
          Draft.retarget, numbers]

end Unfold

/-- **Without cycles there is a copy without sharing.** -/
theorem exists_unshared {c : Catalogue V} {root : SpecId} (acyclic : c.AcyclicFrom root)
    (declared : ∀ id, Relation.ReflTransGen c.Refers root id → id < c.specs.length) :
    ∃ copy start origin, c.Copies root copy start origin ∧ copy.Unshared start :=
  ⟨_, _, _, copies_unfold (cons_flatMap_ways acyclic) fun id mem =>
    declared id (reachable_of_mem_ways mem), unshared_unfold⟩

end Catalogue

end Assay
