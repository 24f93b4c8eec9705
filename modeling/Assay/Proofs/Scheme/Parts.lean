import Mathlib.Data.List.Basic
import Mathlib.Data.List.Forall2
import Assay.Proofs.Fault.Registry
import Assay.Proofs.Scheme.Rounds

/-!
# What drafts become

Compilation writes numbers into a scope while it gives them out. It never changes one that it has
given, so the scope can be read off the draft once all numbers are known: from the final registry and
the final list of what was seen.

* `Clause.part c r order`, `Draft.scope d r order` -- what a clause and a draft become, where the
  faults have the numbers of a registry and the specifications those of a list;
* `Clause.errors c`, `Draft.errors d` -- the faults that they register, in order;
* `compile_eq`, `compileAll_parts`, **`Draft.compile_eq`** -- compilation registers these faults, and
  what it makes is what they become in every later registry and list;
* `Progress.Made catalogue root p` -- so it is for all scopes that are done; every round keeps it;
* `Progress.Ended catalogue root p` -- and in the end it is for all that can be reached;
  **`ended_of_build`** says that every scheme is that of such an end.
-/

namespace Assay

variable {V : Type}

/-! ## 1. Numbers -/

/-- The number of a fault; none for a fault without content. -/
def Registry.number (r : Registry) (fault : Fault) : Option FaultId :=
  if fault.isEmpty then none else r.find? fault

/-- The faults that can be registered. -/
def nonEmpty (faults : List Fault) : List Fault := faults.filter fun f => !f.isEmpty

namespace Gathered

/-- A fault that is registered has its number from then on. -/
theorem register_eq (g : Gathered) (fault : Fault) :
    (g.register fault).1.registry = (g.registry.registerAll (nonEmpty [fault])).1 ∧
      ∀ r : Registry, (g.register fault).1.registry.faults <+: r.faults →
        (g.register fault).2 = r.number fault := by
  unfold register Registry.number
  by_cases empty : fault.isEmpty = true
  · simp only [if_pos empty]
    exact ⟨by simp [nonEmpty, empty, Registry.registerAll], fun _ _ => trivial⟩
  · simp only [if_neg empty]
    refine ⟨by simp [nonEmpty, empty, Registry.registerAll], fun r grown => ?_⟩
    exact (Registry.find?_mono (g.registry.find?_register fault) grown).symm

/-- A specification has its number from when it is seen. -/
theorem scopeOf_eq (g : Gathered) (id : SpecId) {order : List SpecId}
    (seen : (g.scopeOf id).1.seen <+: order) : (g.scopeOf id).2 = order.idxOf id := by
  obtain ⟨more, rfl⟩ := seen
  unfold scopeOf
  split
  · rename_i scope found
    obtain ⟨here, first⟩ := List.findIdx?_eq_some_iff_findIdx_eq.mp found
    have mem : id ∈ g.seen := List.idxOf_lt_length_iff.mp (lt_of_eq_of_lt first here)
    exact first.symm.trans (List.idxOf_append_of_mem mem).symm
  · rename_i absent
    have fresh : id ∉ g.seen := fun mem =>
      absurd (List.findIdx?_eq_none_iff.mp absent id mem) (by simp)
    dsimp only
    rw [List.append_assoc, List.idxOf_append_of_notMem fresh]
    simp

end Gathered

/-! ## 2. Clauses -/

namespace Content

/-- How the faults behind a link show, where faults have the numbers of a registry. -/
def showing (c : Content) (r : Registry) : Showing :=
  if c.isUntouched then .nested
  else if c.replaces then .replaced (r.number (c.edit Fault.empty))
  else .extended ((r.find? (c.edit Fault.empty)).getD 0)

/-- The faults that a link registers. -/
def errors (c : Content) : List Fault :=
  if c.isUntouched then [] else nonEmpty [c.edit Fault.empty]

/-- What is extended has something to say. -/
theorem isEmpty_edit {c : Content} (touched : ¬c.isUntouched = true) (kept : ¬c.replaces = true) :
    (c.edit Fault.empty).isEmpty = false := by
  obtain ⟨replaces, message, code, extraMessages, extraCodes⟩ := c
  simp only [Bool.not_eq_true] at kept
  subst kept
  cases extraMessages <;> cases extraCodes <;>
    simp_all [isUntouched, edit, Fault.isEmpty, Fault.empty]

end Content

theorem Gathered.showingOf_eq (g : Gathered) (c : Content) :
    (g.showingOf c).1.registry = (g.registry.registerAll c.errors).1 ∧
      ∀ r : Registry, (g.showingOf c).1.registry.faults <+: r.faults →
        (g.showingOf c).2 = c.showing r := by
  unfold showingOf Content.errors Content.showing
  by_cases untouched : c.isUntouched = true
  · simp only [if_pos untouched]
    exact ⟨rfl, fun _ _ => trivial⟩
  · by_cases replaces : c.replaces = true
    · simp only [if_neg untouched, if_pos replaces]
      obtain ⟨registered, number⟩ := g.register_eq (c.edit Fault.empty)
      exact ⟨registered, fun r grown => congrArg Showing.replaced (number r grown)⟩
    · simp only [if_neg untouched, if_neg replaces]
      have some := Content.isEmpty_edit untouched replaces
      refine ⟨by simp [nonEmpty, some, Registry.registerAll], fun r grown => ?_⟩
      rw [Registry.find?_mono (g.registry.find?_register (c.edit Fault.empty)) grown]
      rfl

namespace Clause

/-- What a clause becomes, where faults and specifications have the numbers of a registry and a
    list. -/
def part (c : Clause V) (r : Registry) (order : List SpecId) : Part V :=
  match c.action with
  | .required => .presence (.required (r.number (c.content.edit Fault.required)))
  | .optional => .presence .optional
  | .forbidden => .presence (.forbidden (r.number (c.content.edit Fault.forbidden)))
  | .guard holds => .step (.guard holds)
  | .rule holds fault =>
    .step (.rule ⟨c.condition, holds, r.number (c.content.edit fault), c.rulePath⟩)
  | .link transition target =>
    .step (.link ⟨c.condition, transition, order.idxOf target, c.linkPath transition,
      c.content.showing r⟩)

/-- **What the step of a clause is**: that of a guard, of a rule with the path of the clause, or of a
    link with its transition and the path of the clause. -/
theorem step?_part {c : Clause V} {r : Registry} {order : List SpecId} {step : Step V}
    (h : (c.part r order).step? = some step) :
    (∃ holds, step = .guard holds) ∨ (∃ rule, step = .rule rule ∧ rule.path = c.rulePath) ∨
      ∃ l target, step = .link l ∧ c.action = .link l.transition target ∧
        l.path = c.linkPath l.transition := by
  unfold part at h
  cases acts : c.action with
  | guard holds =>
    rw [acts] at h
    cases h
    exact .inl ⟨holds, rfl⟩
  | rule holds fault =>
    rw [acts] at h
    cases h
    exact .inr (.inl ⟨_, rfl, rfl⟩)
  | link transition target =>
    rw [acts] at h
    cases h
    exact .inr (.inr ⟨_, target, rfl, rfl, rfl⟩)
  | _ =>
    rw [acts] at h
    cases h

/-- The faults that a clause registers. -/
def errors (c : Clause V) : List Fault :=
  match c.action with
  | .required => nonEmpty [c.content.edit Fault.required]
  | .forbidden => nonEmpty [c.content.edit Fault.forbidden]
  | .rule _ fault => nonEmpty [c.content.edit fault]
  | .link _ _ => c.content.errors
  | .optional | .guard _ => []

/-- **A clause registers its faults, and becomes what it is in every later registry and list.** -/
theorem compile_eq (c : Clause V) (g : Gathered) :
    (c.compile g).1.registry = (g.registry.registerAll c.errors).1 ∧
      ∀ (r : Registry) (order : List SpecId), (c.compile g).1.registry.faults <+: r.faults →
        (c.compile g).1.seen <+: order → (c.compile g).2 = c.part r order := by
  unfold compile part errors
  cases c.action with
  | required =>
    obtain ⟨registered, number⟩ := g.register_eq (c.content.edit Fault.required)
    exact ⟨registered, fun r _ grown _ =>
      congrArg (fun id => Part.presence (.required id)) (number r grown)⟩
  | «optional» => exact ⟨rfl, fun _ _ _ _ => rfl⟩
  | forbidden =>
    obtain ⟨registered, number⟩ := g.register_eq (c.content.edit Fault.forbidden)
    exact ⟨registered, fun r _ grown _ =>
      congrArg (fun id => Part.presence (.forbidden id)) (number r grown)⟩
  | guard holds => exact ⟨rfl, fun _ _ _ _ => rfl⟩
  | rule holds fault =>
    obtain ⟨registered, number⟩ := g.register_eq (c.content.edit fault)
    exact ⟨registered, fun r _ grown _ =>
      congrArg (fun id => Part.step (.rule ⟨c.condition, holds, id, c.rulePath⟩)) (number r grown)⟩
  | link transition target =>
    obtain ⟨registered, shown⟩ := g.showingOf_eq c.content
    dsimp only
    rw [Gathered.registry_scopeOf]
    refine ⟨registered, fun r order grown seen => ?_⟩
    rw [shown r grown, Gathered.scopeOf_eq _ target seen]

/-- What commands are taken apart into. -/
theorem ofCommands?_eq_ok {commands : List (Command V)} {clauses : List (Clause V)}
    (h : ofCommands? commands = .ok clauses) : clauses = (split commands).2 := by
  unfold ofCommands? at h
  split at h
  · cases h
  · rename_i others apart
    split at h
    · cases h
    · cases h
      rw [apart]

theorem registerAll_compileAll (clauses : List (Clause V)) (g : Gathered) :
    (compileAll clauses g).1.registry = (g.registry.registerAll (clauses.flatMap errors)).1 := by
  induction clauses generalizing g with
  | nil => rfl
  | cons c rest ih =>
    rw [compileAll_cons, List.flatMap_cons, Registry.registerAll_append, ← (compile_eq c g).1]
    exact ih _

theorem compileAll_parts (clauses : List (Clause V)) (g : Gathered) {r : Registry}
    {order : List SpecId} (grown : (compileAll clauses g).1.registry.faults <+: r.faults)
    (seen : (compileAll clauses g).1.seen <+: order) :
    (compileAll clauses g).2 = clauses.map (part · r order) := by
  induction clauses generalizing g with
  | nil => rfl
  | cons c rest ih =>
    rw [compileAll_cons] at grown seen ⊢
    have further : (c.compile g).1.registry.faults <+:
        (compileAll rest (c.compile g).1).1.registry.faults := by
      rw [registerAll_compileAll]
      exact Registry.grows_registerAll _ _
    rw [List.map_cons, ih _ grown seen, (compile_eq c g).2 r order (further.trans grown)
      ((seen_compileAll rest _).trans seen)]

end Clause

/-! ## 3. Drafts -/

/-- The action says what a null value means. -/
def Action.isPresence : Action V → Bool
  | .required | .optional | .forbidden => true
  | .rule _ _ | .guard _ | .link _ _ => false

namespace Draft

/-- The clauses of a draft. -/
def clauses (d : Draft V) : List (Clause V) := (Clause.split d.commands).2

def parts (d : Draft V) (r : Registry) (order : List SpecId) : List (Part V) :=
  d.clauses.map (·.part r order)

/-- What a draft becomes, where faults and specifications have the numbers of a registry and a list. -/
def scope (d : Draft V) (r : Registry) (order : List SpecId) : Scope V where
  type := d.type
  presence := (lastSome Part.presence? (d.parts r order)).getD (.required (r.number Fault.required))
  isNull := d.isNull
  steps := (d.parts r order).filterMap Part.step?

/-- The draft says what a null value means. -/
def saysPresence (d : Draft V) : Bool := d.clauses.any fun c => c.action.isPresence

/-- The faults that a draft registers. -/
def errors (d : Draft V) : List Fault :=
  d.clauses.flatMap Clause.errors ++ if d.saysPresence then [] else [Fault.required]

theorem lastSome_parts (d : Draft V) (r : Registry) (order : List SpecId) :
    lastSome Part.presence? (d.parts r order) = none ↔ d.saysPresence = false := by
  have each (c : Clause V) : (c.part r order).presence? = none ↔ c.action.isPresence = false := by
    unfold Clause.part
    cases c.action <;> simp [Part.presence?, Action.isPresence]
  simp [lastSome, parts, saysPresence, each]

/-- **A draft registers its faults, and becomes what it is in every later registry and list.** -/
theorem compile_eq {d : Draft V} {g g' : Gathered} {sc : Scope V}
    (h : d.compile g = .ok (g', sc)) :
    g'.registry = (g.registry.registerAll d.errors).1 ∧
      ∀ (r : Registry) (order : List SpecId), g'.registry.faults <+: r.faults →
        g'.seen <+: order → sc = d.scope r order := by
  unfold compile at h
  split at h
  · cases h
  · rename_i clauses apart
    obtain rfl : clauses = d.clauses := Clause.ofCommands?_eq_ok apart
    have registered := Clause.registerAll_compileAll d.clauses g
    have made (r : Registry) (order : List SpecId) :=
      @Clause.compileAll_parts V d.clauses g r order
    split at h
    rename_i gathered parts compiled
    rw [compiled] at registered made
    change ∀ r order, gathered.registry.faults <+: r.faults → gathered.seen <+: order →
      parts = d.parts r order at made
    have own : lastSome Part.presence? parts = none ↔ d.saysPresence = false := by
      rw [made _ _ (List.prefix_refl _) (List.prefix_refl _)]
      exact d.lastSome_parts _ _
    cases present : lastSome Part.presence? parts with
    | some presence =>
      rw [present] at h own
      cases h
      have spoken : d.saysPresence = true := by simpa using own
      refine ⟨?_, fun r order grown seen => ?_⟩
      · rw [errors, if_pos spoken, List.append_nil]
        exact registered
      · rw [scope, ← made r order grown seen, present]
        rfl
    | none =>
      rw [present] at h
      cases h
      have silent : ¬d.saysPresence = true := by simpa using own.mp present
      refine ⟨?_, fun r order grown seen => ?_⟩
      · rw [errors, if_neg silent, Registry.registerAll_append, ← registered]
        rfl
      · have more := gathered.registry.grows_register Fault.required
        have number : r.number Fault.required =
            some (gathered.registry.register Fault.required).2 :=
          Registry.find?_mono (gathered.registry.find?_register Fault.required) grown
        rw [scope, ← made r order (more.trans grown) seen, present, number]
        rfl

/-- Only drafts of clauses are compiled. -/
theorem clausal_of_compile {d : Draft V} {g g' : Gathered} {sc : Scope V}
    (h : d.compile g = .ok (g', sc)) : d.Clausal := by
  unfold compile at h
  split at h
  · cases h
  · rename_i clauses apart
    rw [Clausal, apart, Clause.ofCommands?_eq_ok apart]

/-- What a draft refers to is seen behind what was seen before. -/
theorem seen_of_compile {d : Draft V} {g g' : Gathered} {sc : Scope V} {read : List SpecId}
    (seen : g.seen = read.eraseDups) (h : d.compile g = .ok (g', sc)) :
    g'.seen = (read ++ d.links.map Prod.snd).eraseDups := by
  obtain ⟨g'', sc', again, now, -⟩ := compile_of_clausal (clausal_of_compile h) seen
  rw [h] at again
  cases again
  exact now

end Draft

/-! ## 4. Schemes -/

/-- The faults that a specification registers; none if it is not defined. -/
def Catalogue.errors (c : Catalogue V) (id : SpecId) : List Fault :=
  match c.draft? id with
  | some d => d.errors
  | none => []

/-- The scope is what a specification of clauses becomes in every registry and list that are later than
    these. -/
def Becomes (catalogue : Catalogue V) (r : Registry) (order : List SpecId) (id : SpecId)
    (sc : Scope V) : Prop :=
  ∃ d, catalogue.draft? id = some d ∧ d.Clausal ∧ ∀ (s : Registry) (more : List SpecId),
    r.faults <+: s.faults → order <+: more → sc = d.scope s more

theorem Becomes.mono {catalogue : Catalogue V} {r s : Registry} {order more : List SpecId}
    {id : SpecId} {sc : Scope V} (h : Becomes catalogue r order id sc)
    (grown : r.faults <+: s.faults) (seen : order <+: more) : Becomes catalogue s more id sc := by
  obtain ⟨d, defined, clausal, becomes⟩ := h
  exact ⟨d, defined, clausal, fun t most grown' seen' =>
    becomes t most (grown.trans grown') (seen.trans seen')⟩

namespace Progress

/-- The specifications that have a scope, in order. -/
def done (p : Progress V) : List SpecId := p.gathered.seen.take p.scopes.length

/-- **The registry has the faults of what is done, and every scope is what its specification
    becomes.** What was seen is what is done and what that refers to. -/
structure Made (catalogue : Catalogue V) (root : SpecId) (p : Progress V) : Prop where
  seen : p.gathered.seen = catalogue.met root p.done
  reached : ∀ id ∈ p.gathered.seen, Relation.ReflTransGen catalogue.Refers root id
  issues : p.issues = p.done.flatMap catalogue.issues
  registry : p.gathered.registry =
    (Registry.empty.registerAll (p.done.flatMap catalogue.errors)).1
  scopes : List.Forall₂ (Becomes catalogue p.gathered.registry p.gathered.seen) p.done p.scopes

/-- Every round makes the scope that comes next. -/
theorem Made.compile {catalogue : Catalogue V} {root : SpecId} {p q : Progress V} {id : SpecId}
    (h : p.Made catalogue root) (next : p.next? = some id)
    (compiled : p.compile catalogue id = .ok q) : q.Made catalogue root := by
  unfold Progress.compile at compiled
  split at compiled
  · cases compiled
  · rename_i d defined
    split at compiled
    · cases compiled
    · rename_i gathered sc made
      cases compiled
      obtain ⟨more, seen⟩ := (Draft.compile_eq_ok made).1
      obtain ⟨registered, becomes⟩ := Draft.compile_eq made
      obtain ⟨here, same⟩ := List.getElem?_eq_some_iff.mp next
      have done : (⟨gathered, p.issues ++ d.issues, p.scopes ++ [sc]⟩ : Progress V).done =
          p.done ++ [id] := by
        simp only [Progress.done, List.length_append, List.length_singleton]
        rw [← seen, List.take_append_of_le_length here, List.take_add_one,
          List.getElem?_eq_getElem here, same]
        rfl
      have grown : p.gathered.registry.faults <+: gathered.registry.faults := by
        rw [registered]
        exact Registry.grows_registerAll _ _
      have errors : catalogue.errors id = d.errors := by rw [Catalogue.errors, defined]
      have issues : catalogue.issues id = d.issues := by rw [Catalogue.issues, defined]
      have references : catalogue.references id = d.links.map Prod.snd := by
        rw [Catalogue.references, Catalogue.links, defined]
      have met : gathered.seen = catalogue.met root (p.done ++ [id]) := by
        rw [Draft.seen_of_compile h.seen made, Catalogue.met, List.flatMap_append,
          List.flatMap_singleton, references]
        rfl
      refine ⟨?_, fun other mem => ?_, ?_, ?_, ?_⟩
      · rw [done]
        exact met
      · have known : gathered.seen = catalogue.met root (p.done ++ [id]) := met
        rw [known] at mem
        rcases Catalogue.mem_met.mp mem with rfl | ⟨i, hi, refers⟩
        · exact .refl
        · have before : i ∈ p.gathered.seen := by
            rcases List.mem_append.mp hi with hi | hi
            · exact List.mem_of_mem_take hi
            · rw [List.mem_singleton.mp hi]
              exact List.mem_of_getElem? next
          exact (h.reached i before).tail refers
      · rw [done, List.flatMap_append, List.flatMap_singleton, ← h.issues, issues]
      · rw [done, List.flatMap_append, List.flatMap_singleton, Registry.registerAll_append,
          ← h.registry, errors]
        exact registered
      · rw [done]
        refine List.rel_append (h.scopes.imp fun _ _ old => old.mono grown ⟨more, seen⟩) ?_
        exact .cons ⟨d, defined, Draft.clausal_of_compile made, becomes⟩ .nil

/-- **Compilation has ended**: all that can be reached has been seen, breadth first, it is of clauses and
    without issues, its faults are registered, and the scopes are what it becomes. -/
structure Ended (catalogue : Catalogue V) (root : SpecId) (p : Progress V) : Prop where
  ordered : catalogue.BreadthFirst root p.gathered.seen
  clausal : ∀ id ∈ p.gathered.seen, ∃ d, catalogue.draft? id = some d ∧ d.Clausal
  issues : p.gathered.seen.flatMap catalogue.issues = []
  registry : p.gathered.registry =
    (Registry.empty.registerAll (p.gathered.seen.flatMap catalogue.errors)).1
  scopes : p.scopes.map some = p.gathered.seen.map fun id =>
    (catalogue.draft? id).map (·.scope p.gathered.registry p.gathered.seen)

namespace Ended

variable {catalogue : Catalogue V} {root : SpecId} {p : Progress V}
  (ended : p.Ended catalogue root)
include ended

theorem length_eq : p.scopes.length = p.gathered.seen.length := by
  have lengths := congrArg List.length ended.scopes
  rwa [List.length_map, List.length_map] at lengths

/-- The scope at a position is what the specification at this position becomes. -/
theorem getElem?_scopes {i : ScopeId} {id : SpecId} (here : p.gathered.seen[i]? = some id) :
    ∃ d, catalogue.draft? id = some d ∧ d.Clausal ∧
      p.scopes[i]? = some (d.scope p.gathered.registry p.gathered.seen) := by
  obtain ⟨d, defined, clausal⟩ := ended.clausal id (List.mem_of_getElem? here)
  refine ⟨d, defined, clausal, ?_⟩
  have scope := congrArg (·[i]?) ended.scopes
  simp only [List.getElem?_map, here, Option.map_some, defined] at scope
  obtain ⟨sc, at_i, same⟩ := Option.map_eq_some_iff.mp scope
  rw [at_i, same]

/-- Every scope is what a specification becomes. -/
theorem mem_scopes {sc : Scope V} (mem : sc ∈ p.scopes) :
    ∃ id ∈ p.gathered.seen, ∃ d, catalogue.draft? id = some d ∧
      sc = d.scope p.gathered.registry p.gathered.seen := by
  obtain ⟨i, within, rfl⟩ := List.getElem_of_mem mem
  have there : i < p.gathered.seen.length := by rwa [← ended.length_eq]
  obtain ⟨d, defined, -, scope⟩ := ended.getElem?_scopes (List.getElem?_eq_getElem there)
  exact ⟨_, List.getElem_mem there, d, defined, (List.getElem?_eq_some_iff.mp scope).2⟩

/-- The faults of every specification are registered. -/
theorem isSome_find? {id : SpecId} (seen : id ∈ p.gathered.seen) {fault : Fault}
    (own : fault ∈ catalogue.errors id) : (p.gathered.registry.find? fault).isSome = true := by
  rw [ended.registry]
  exact Registry.isSome_find?_registerAll _ (List.mem_flatMap.mpr ⟨id, seen, own⟩)

end Ended

end Progress

/-- **A scheme is what its specifications become**, in breadth-first order and in the registry of all
    their faults. None of them has issues. -/
theorem ended_of_build {catalogue : Catalogue V} {root : SpecId} {scheme : Scheme V}
    (built : Scheme.build? catalogue root = .ok scheme) :
    ∃ p : Progress V, p.Ended catalogue root ∧ scheme = p.scheme (catalogue.typeName root) := by
  obtain ⟨p, done, clean, same⟩ := build?_eq_ok_iff.mp built
  have start : (Progress.start root : Progress V).Made catalogue root := by
    refine ⟨rfl, fun id mem => ?_, rfl, rfl, .nil⟩
    rw [List.mem_singleton.mp mem]
  have made : p.Made catalogue root :=
    Progress.finish_keeps (fun _ _ _ => Progress.Made.compile) done start
  have all : p.done = p.gathered.seen :=
    List.take_of_length_le (Progress.finish_eq_ok done).2.2
  obtain ⟨seen, reached, issues, registry, scopes⟩ := made
  rw [all] at seen issues registry scopes
  refine ⟨p, ⟨.of_named seen reached, fun id mem => ?_, issues ▸ clean, registry, ?_⟩, same⟩
  · obtain ⟨i, hi, rfl⟩ := List.getElem_of_mem mem
    obtain ⟨d, defined, clausal, -⟩ := scopes.get hi (scopes.length_eq ▸ hi)
    exact ⟨d, defined, clausal⟩
  · symm
    rw [← List.forall₂_eq_eq_eq, List.forall₂_map_left_iff, List.forall₂_map_right_iff]
    refine scopes.imp fun id sc becomes => ?_
    obtain ⟨d, defined, -, fixed⟩ := becomes
    rw [defined, fixed _ _ (List.prefix_refl _) (List.prefix_refl _)]
    rfl

end Assay
