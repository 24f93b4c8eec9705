import Assay.Proofs.Specification.Authored
import Assay.Proofs.Visit.Address

/-!
# Keys among positions

A dictionary puts the key of an entry into the path of the entry as it is, and nothing keeps a key from
being a bare marker. Positions are put in by counting markers from the back, so such a key is counted
too. This file says which records that concerns, in schemes that leave every value where its links and
members put it.

* `Catalogue.Unmoved c root` -- the specifications that can be reached have no commands for paths and
  names, and none of their members is named like a bare marker; `Scheme.Straight`, `straight_of_build`
  -- then rules fail where they are, and links lead to the names of members;
* `genericOf way` -- the segments on a way, with a bare marker for each item;
* `Undisturbed way` -- no key with a bare marker in it is met inside an item;
* `fillBack_takes` -- a key with a marker takes a position as soon as one is left;
* `fillBack_genericOf_iff` -- putting the positions in gives the address of a way exactly then;
* **`keys_beside_positions`** -- so a record stands at the address of its failure exactly if no such key
  was met inside an item on the way to it;
* **`key_takes_position`** -- otherwise the key takes the position, and the item is left without one.
-/

namespace Assay

variable {V : Type}

/-! ## 1. Schemes that move nothing -/

/-- **Nothing is moved**: the specifications that can be reached have no commands for paths and names,
    and no member is named like a bare marker. -/
structure Catalogue.Unmoved (c : Catalogue V) (root : SpecId) : Prop where
  unplaced : ∀ id d, Relation.ReflTransGen c.Refers root id → c.draft? id = some d →
    ∀ p, Command.parameter p ∈ d.commands → p.placement? = none
  named : ∀ id d, Relation.ReflTransGen c.Refers root id → c.draft? id = some d →
    ∀ transition target, Command.action (.link transition target) ∈ d.commands →
      transition.name? ≠ some Path.marker

/-- Rules fail where they are, and a link leads to the name of its member, if it has one. -/
structure Scheme.Straight (scheme : Scheme V) : Prop where
  rules : ∀ sc ∈ scheme.scopes, ∀ rule, Step.rule rule ∈ sc.steps → rule.path = none
  links : ∀ sc ∈ scheme.scopes, ∀ l, Step.link l ∈ sc.steps → l.path = l.transition.name?
  plain : ∀ sc ∈ scheme.scopes, ∀ l, Step.link l ∈ sc.steps → ∀ path, l.path = some path →
    Visit.Plain path

namespace Clause

/-- Without commands for paths and names nothing is placed. -/
theorem placement_eq_none {c : Clause V} (h : ∀ p ∈ c.parameters, p.placement? = none) :
    c.placement = none := by
  have none : c.parameters.filterMap Parameter.placement? = [] :=
    List.filterMap_eq_nil_iff.mpr h
  rw [placement, lastSome, none]
  rfl

end Clause

/-- A name that is no bare marker is plain. -/
theorem plain_of_name {name : String} (h : Path.isName name = true) (other : name ≠ Path.marker) :
    Visit.Plain name := by
  unfold Path.isName at h
  simp only [Bool.and_eq_true, Bool.not_eq_true', List.contains_eq_mem, decide_eq_false_iff_not] at h
  obtain ⟨⟨-, dotless⟩, flat⟩ := h
  have one : Path.segments name = [name] := by
    rw [Path.segments, Text.parts, Text.splitAt_of_notMem dotless, List.map_singleton,
      String.ofList_toList]
  refine ⟨Path.rise_eq_zero flat, ?_⟩
  rw [one, List.mem_singleton]
  exact other.symm

/-- **Where nothing is moved, a scheme is straight.** -/
theorem straight_of_build {catalogue : Catalogue V} (written : catalogue.Written) {root : SpecId}
    (unmoved : catalogue.Unmoved root) {scheme : Scheme V}
    (built : Scheme.build? catalogue root = .ok scheme) : scheme.Straight := by
  obtain ⟨p, ended, rfl⟩ := ended_of_build built
  -- every step is that of a clause of a specification that can be reached
  have origin (sc : Scope V) (mem : sc ∈ p.scopes) (st : Step V) (hst : st ∈ sc.steps) :
      ∃ c : Clause V, (c.part p.gathered.registry p.gathered.seen).step? = some st ∧
        c.placement = none ∧ c.action.issues = [] ∧
        ∀ transition target, c.action = .link transition target →
          transition.name? ≠ some Path.marker := by
    obtain ⟨id, seen, d, defined, rfl⟩ := ended.mem_scopes mem
    obtain ⟨part, made, is_step⟩ := List.mem_filterMap.mp hst
    obtain ⟨c, hc, rfl⟩ := List.mem_map.mp made
    have reached := (ended.ordered.reached id).mp seen
    have clean : catalogue.issues id = [] := List.flatMap_eq_nil_iff.mp ended.issues id seen
    rw [Catalogue.issues, defined] at clean
    have fine := Clause.clean_of_split ((written id d defined).clean clean) c hc
    obtain ⟨acts, sets⟩ := Clause.mem_of_split hc
    refine ⟨c, is_step, ?_, fine.action, fun transition target same => ?_⟩
    · exact Clause.placement_eq_none fun q hq => unmoved.unplaced id d reached defined q (sets q hq)
    · exact unmoved.named id d reached defined transition target (same ▸ acts)
  have link (sc : Scope V) (mem : sc ∈ p.scopes) (l : LinkStep V) (hst : Step.link l ∈ sc.steps) :
      l.path = l.transition.name? ∧ ∀ path, l.path = some path → Visit.Plain path := by
    obtain ⟨c, made, unplaced, fine, other⟩ := origin sc mem _ hst
    rcases Clause.step?_part made with ⟨_, e⟩ | ⟨_, e, -⟩ | ⟨_, target, e, acts, path⟩ <;> cases e
    have same : l.path = l.transition.name? := by
      rw [path, Clause.linkPath, unplaced]
      cases l.transition.name? <;> rfl
    refine ⟨same, fun name own => ?_⟩
    have named : l.transition.name? = some name := same.symm.trans own
    refine plain_of_name ?_ fun bare => other l.transition target acts (bare ▸ named)
    rw [acts, Action.issues, named] at fine
    by_contra bad
    simp only [nameIssues, if_neg bad] at fine
    cases fine
  refine ⟨fun sc mem rule hst => ?_, fun sc mem l hst => (link sc mem l hst).1,
    fun sc mem l hst => (link sc mem l hst).2⟩
  obtain ⟨c, made, unplaced, -, -⟩ := origin sc mem _ hst
  rcases Clause.step?_part made with ⟨_, e⟩ | ⟨_, e, path⟩ | ⟨_, _, e, -, -⟩ <;> cases e
  rw [path, Clause.rulePath, unplaced]
  rfl

/-! ## 2. Ways with bare markers -/

/-- The segments that a reached value adds to the generic path: a bare marker for an item. -/
def Segment.generic : Segment → List String
  | .stay => []
  | .index _ => [Path.marker]
  | .key segment => Path.address segment

namespace Visit

/-- **The segments on a way, with a bare marker for each item.** -/
def genericOf : List Stretch → List String
  | [] => []
  | stretch :: way => genericOf way ++ ownAddress stretch.path ++ stretch.segment.generic

/-- The path of a stretch is plain, and its key, if it leads to one, does not climb. -/
structure Stretch.Smooth (stretch : Stretch) : Prop where
  path : ∀ path, stretch.path = some path → Plain path
  key : ∀ key, stretch.segment = .key key → Path.rise key = 0

/-- **No key with a bare marker in it is met inside an item.** The last stretch of a way comes first, so
    the later one of a pair is the outer one. -/
def Undisturbed (way : List Stretch) : Prop :=
  way.Pairwise fun inner outer => ∀ key i, inner.segment = .key key →
    Path.marker ∈ Path.address key → outer.segment ≠ .index i

/-- The ways of a straight scheme are smooth. -/
theorem smooth_of_arrives {scheme : Scheme V} {model : V} (straight : scheme.Straight)
    {way : List Stretch} {id : ScopeId} {value : Option V} {hidden : Bool}
    (arrives : Arrives scheme model way id value hidden) : ∀ stretch ∈ way, stretch.Smooth := by
  induction arrives with
  | root => exact fun _ mem => absurd mem List.not_mem_nil
  | link arrives here step runs reached ih =>
    refine List.forall_mem_cons.mpr ⟨⟨fun path own => ?_, fun key leads => ?_⟩, ih⟩
    · exact straight.plain _ (List.mem_of_getElem? here) _ (mem_of_taken step) path own
    · rcases reach_segment reached with ⟨e, -⟩ | ⟨i, e, -⟩ | ⟨entries, entry, -, -, e⟩
      · cases e.symm.trans leads
      · cases e.symm.trans leads
      · cases e.symm.trans leads
        exact Path.rise_eq_zero (Path.notMem_normalize entry.1)

/-- A plain path adds no marker. -/
theorem notMem_ownAddress {relative : Option String}
    (plain : ∀ path, relative = some path → Plain path) : Path.marker ∉ ownAddress relative := by
  cases relative with
  | none => exact List.not_mem_nil
  | some path =>
    rw [← List.count_eq_zero, ownAddress, Path.count_address, List.count_eq_zero]
    exact (plain path rfl).2

/-- Appending a relative path appends its segments. -/
theorem address_along (base : String) {relative : Option String}
    (flat : ∀ path, relative = some path → Path.rise path = 0) :
    Path.address (Path.along base relative) = Path.address base ++ ownAddress relative := by
  cases relative with
  | none => exact (List.append_nil _).symm
  | some path =>
    have both := (Path.isAddress_address base).append (Path.isAddress_address path)
    exact (congrArg Path.address (Path.resolve_eq_of_flat base (flat path rfl))).trans
      (Path.address_ofSegments both)

/-- The generic path of a spot has the segments of the way. -/
theorem address_spotOf {way : List Stretch} (smooth : ∀ stretch ∈ way, stretch.Smooth) :
    Path.address (spotOf way).path = genericOf way := by
  induction way with
  | nil => rfl
  | cons stretch way ih =>
    obtain ⟨first, rest⟩ := List.forall_mem_cons.mp smooth
    obtain ⟨path, segment⟩ := stretch
    have along : Path.address ((spotOf way).along path).path =
        genericOf way ++ ownAddress path := by
      rw [← ih rest]
      exact address_along _ fun p own => (first.path p own).1
    cases segment with
    | stay => exact along.trans (List.append_nil _).symm
    | index i =>
      have marked : ∀ p, some Path.marker = some p → Path.rise p = 0 := by
        rintro p ⟨⟩
        decide
      exact (address_along _ marked).trans (congrArg (· ++ [Path.marker]) along)
    | key key =>
      have flat : ∀ p, some key = some p → Path.rise p = 0 := by
        rintro p ⟨⟩
        exact first.key key rfl
      exact (address_along _ flat).trans (congrArg (· ++ Path.address key) along)

theorem mem_indexes_spotOf {way : List Stretch} {i : Nat} :
    i ∈ (spotOf way).indexes ↔ ∃ stretch ∈ way, stretch.segment = .index i := by
  induction way with
  | nil => simp [spotOf, Spot.root]
  | cons stretch way ih =>
    rw [List.exists_mem_cons_iff]
    obtain ⟨path, segment⟩ := stretch
    have along : i ∈ ((spotOf way).along path).indexes ↔ ∃ s ∈ way, s.segment = .index i := ih
    cases segment with
    | stay => simpa [spotOf, Spot.into] using along
    | index j =>
      refine List.mem_cons.trans (or_congr ⟨fun e => congrArg _ e.symm, ?_⟩ along)
      rintro ⟨⟩
      rfl
    | key key => simpa [spotOf, Spot.into] using along

/-- There is a marker for every position. -/
theorem length_indexes_spotOf (way : List Stretch) :
    (spotOf way).indexes.length ≤ (genericOf way).count Path.marker := by
  induction way with
  | nil => exact Nat.le_refl 0
  | cons stretch way ih =>
    obtain ⟨path, segment⟩ := stretch
    have along : ((spotOf way).along path).indexes.length ≤
        (genericOf way ++ ownAddress path).count Path.marker := by
      rw [List.count_append]
      exact Nat.le_add_right_of_le ih
    cases segment with
    | stay =>
      rw [genericOf, Segment.generic, List.append_nil]
      exact along
    | index i =>
      rw [genericOf, Segment.generic, List.count_append, List.count_singleton_self]
      exact Nat.succ_le_succ along
    | key key =>
      rw [genericOf, List.count_append]
      exact Nat.le_add_right_of_le along

/-! ## 3. Positions put in -/

/-- A stretch that leads to no key with a bare marker disturbs nothing. -/
theorem undisturbed_cons_plain {stretch : Stretch} {way : List Stretch}
    (h : ∀ key, stretch.segment = .key key → Path.marker ∉ Path.address key) :
    Undisturbed (stretch :: way) ↔ Undisturbed way :=
  List.pairwise_cons.trans (and_iff_right fun _ _ key _ leads bare => absurd bare (h key leads))

/-- A key with a bare marker may only be met outside all items. -/
theorem undisturbed_cons_key {path : Option String} {key : String} {way : List Stretch}
    (bare : Path.marker ∈ Path.address key) :
    Undisturbed (⟨path, .key key⟩ :: way) ↔ (spotOf way).indexes = [] ∧ Undisturbed way := by
  refine List.pairwise_cons.trans (and_congr_left fun _ => ⟨fun apart => ?_, ?_⟩)
  · refine List.eq_nil_iff_forall_not_mem.mpr fun i mem => ?_
    obtain ⟨outer, inside, item⟩ := mem_indexes_spotOf.mp mem
    exact apart outer inside key i rfl bare item
  · intro outside outer inside k i leads _ item
    have mem : i ∈ (spotOf way).indexes := mem_indexes_spotOf.mpr ⟨outer, inside, item⟩
    rw [outside] at mem
    exact absurd mem List.not_mem_nil

/-- Segments without a marker are passed over. -/
theorem fillBack_passes {positions : List Nat} {front generic address : List String}
    (plain : Path.marker ∉ front) :
    Path.fillBack (positions.map toString) (front ++ generic) = front ++ address ↔
      Path.fillBack (positions.map toString) generic = address := by
  rw [Path.fillBack_append_plain _ plain, List.append_cancel_left_eq]

/-- Segments with a marker take a position, unless none is left. -/
theorem fillBack_takes {positions : List Nat} {front generic address : List String}
    (bare : Path.marker ∈ front) :
    Path.fillBack (positions.map toString) (front ++ generic) = front ++ address ↔
      positions = [] ∧ Path.fillBack (positions.map toString) generic = address := by
  cases positions with
  | nil =>
    simp only [List.map_nil, Path.fillBack, List.append_cancel_left_eq, true_and]
  | cons i more =>
    refine iff_of_false ?_ fun h => absurd h.1 (List.cons_ne_nil i more)
    intro same
    rw [Path.fillBack_append] at same
    have kept := List.append_inj_left same (Path.length_fillBack _ _)
    have shown : toString i ≠ "" := by simp [Nat.repr]
    exact Path.notMem_of_fillBack shown kept bare

/-- **Putting the positions in gives the address of a way** exactly if no key with a bare marker is met
    inside an item on it. The last stretch is filled first, so this goes by the stretches: an item takes
    its own position, and a key with a marker takes one as soon as one is left. -/
theorem fillBack_genericOf_iff {way : List Stretch} (smooth : ∀ stretch ∈ way, stretch.Smooth) :
    Path.fillBack ((spotOf way).indexes.map toString) (genericOf way).reverse =
      (addressOf way).reverse ↔ Undisturbed way := by
  induction way with
  | nil => exact ⟨fun _ => .nil, fun _ => rfl⟩
  | cons stretch way ih =>
    obtain ⟨first, rest⟩ := List.forall_mem_cons.mp smooth
    obtain ⟨path, segment⟩ := stretch
    have own : Path.marker ∉ (ownAddress path).reverse :=
      mt List.mem_reverse.mp (notMem_ownAddress first.path)
    have before : Path.fillBack ((spotOf way).indexes.map toString)
        ((ownAddress path).reverse ++ (genericOf way).reverse) =
          (ownAddress path).reverse ++ (addressOf way).reverse ↔ Undisturbed way :=
      (fillBack_passes own).trans (ih rest)
    simp only [genericOf, addressOf, List.reverse_append]
    cases segment with
    | stay => exact before.trans (undisturbed_cons_plain (by rintro k ⟨⟩)).symm
    | index i =>
      -- the marker of the item is the first that is met, and its position the first that is put in
      refine Iff.trans ?_ (before.trans (undisturbed_cons_plain (by rintro k ⟨⟩)).symm)
      exact List.cons_inj_right _
    | key key =>
      by_cases bare : Path.marker ∈ Path.address key
      · refine (fillBack_takes (List.mem_reverse.mpr bare)).trans ?_
        exact (and_congr_right fun _ => before).trans (@undisturbed_cons_key path key way bare).symm
      · refine (fillBack_passes (mt List.mem_reverse.mp bare)).trans ?_
        refine before.trans (undisturbed_cons_plain ?_).symm
        rintro k ⟨⟩
        exact bare

theorem filled_genericOf_iff {way : List Stretch} (smooth : ∀ stretch ∈ way, stretch.Smooth) :
    Path.filled ((spotOf way).indexes.map toString) (genericOf way) = addressOf way ↔
      Undisturbed way := by
  have enough : ((spotOf way).indexes.map toString).length -
      (genericOf way).count Path.marker = 0 := by
    rw [List.length_map]
    exact Nat.sub_eq_zero_of_le (length_indexes_spotOf way)
  rw [Path.filled, enough, List.drop_zero, List.reverse_eq_iff]
  exact fillBack_genericOf_iff smooth

/-! ## 4. Records -/

/-- The failures of a straight scheme have plain paths of their own. -/
theorem plain_of_fails {scheme : Scheme V} (straight : scheme.Straight) {sc : Scope V}
    (mem : sc ∈ scheme.scopes) {value : Option V} {own : Option String} {fault : FaultId}
    (fails : Fails sc value own fault) : ∀ path, own = some path → Plain path := by
  cases fails with
  | presence carried => exact fun _ e => nomatch e
  | rule step runs fails carried =>
    rw [straight.rules sc mem _ (mem_of_taken step)]
    exact fun _ e => nomatch e
  | link step runs carried => exact straight.plain sc mem _ (mem_of_taken step)

/-- **Where a failure at the end of a smooth way is recorded.** -/
theorem address_concrete {way : List Stretch} (smooth : ∀ stretch ∈ way, stretch.Smooth)
    {own : Option String} (plain : ∀ path, own = some path → Plain path) :
    Path.address ((spotOf way).along own).concrete =
      Path.filled ((spotOf way).indexes.map toString) (genericOf way) ++ ownAddress own := by
  have along : Path.address ((spotOf way).along own).path = genericOf way ++ ownAddress own := by
    rw [← address_spotOf smooth]
    exact address_along _ fun path e => (plain path e).1
  rw [Spot.concrete, Path.address_fill (Path.notMem_positions _), along]
  exact Path.filled_append_plain _ _ (notMem_ownAddress plain)

/-- **Keys and positions.** In a scheme made from drafts that calls write, where nothing is moved and no
    member is named like a bare marker, every record of a visit, in any mode, is of a failure at the end
    of a way. Its path has the segments on the way, with the positions put in for the bare markers among
    them from the back. That is the position of its own for every item and its key for every entry,
    exactly if no key with a bare marker in it is met inside an item. -/
theorem keys_beside_positions {catalogue : Catalogue V} (written : catalogue.Written)
    {root : SpecId} (unmoved : catalogue.Unmoved root) {scheme : Scheme V}
    (built : Scheme.build? catalogue root = .ok scheme) (model : V) :
    (∀ mode depth place list, records mode scheme depth model place = .ok list →
      ∀ r ∈ list, ∃ way own, RecordedAt scheme model way own r) ∧
    ∀ way own r, RecordedAt scheme model way own r →
      r.path = Path.ofSegments
          (Path.filled ((spotOf way).indexes.map toString) (genericOf way) ++ ownAddress own) ∧
        (r.path = Path.ofSegments (addressOf way ++ ownAddress own) ↔ Undisturbed way) := by
  refine ⟨fun _ _ _ _ ends => records_sourced ends, fun way own r recorded => ?_⟩
  obtain ⟨id, value, sc, arrives, here, fails, path⟩ := recorded
  have straight := straight_of_build written unmoved built
  have smooth := smooth_of_arrives straight arrives
  have plain := plain_of_fails straight (List.mem_of_getElem? here) fails
  have address := address_concrete smooth plain
  rw [← path] at address
  refine ⟨by rw [← address, Path.ofSegments_address], ?_⟩
  have proper := (isAddress_addressOf way).append (isAddress_ownAddress own)
  calc r.path = Path.ofSegments (addressOf way ++ ownAddress own)
      ↔ Path.address r.path = addressOf way ++ ownAddress own :=
        ⟨fun e => e ▸ Path.address_ofSegments proper,
          fun e => e ▸ (Path.ofSegments_address r.path).symm⟩
    _ ↔ Path.filled ((spotOf way).indexes.map toString) (genericOf way) = addressOf way := by
        rw [address, List.append_cancel_right_eq]
    _ ↔ Undisturbed way := filled_genericOf_iff smooth

/-- Shelves, each a dictionary of which one key is a bare marker. -/
def shelvesCalls : List (Call (List Nat)) := [
  .act .optional, .act (.link (.collection fun l => l.map fun n => ([n], .made)) 1)]

def shelfCalls : List (Call (List Nat)) := [
  .act .optional, .act (.link (.dictionary fun l => [("#", l, .made), ("b", l, .made)]) 2)]

/-- An entry of a shelf may not be seven. -/
def entryCalls : List (Call (List Nat)) := [
  .act .optional, .act (.rule (· != [7]) Fault.error)]

def shelves : Catalogue (List Nat) := ⟨[
  ⟨"shelves", (Draft.write? "shelves" shelvesCalls).toOption⟩,
  ⟨"shelf", (Draft.write? "shelf" shelfCalls).toOption⟩,
  ⟨"entry", (Draft.write? "entry" entryCalls).toOption⟩]⟩

/-- The link to the shelves. -/
def shelfLink : LinkStep (List Nat) :=
  ⟨none, .collection fun l => l.map fun n => ([n], .made), 1, none, .nested⟩

/-- The link of a shelf to its entries. -/
def entryLink : LinkStep (List Nat) :=
  ⟨none, .dictionary fun l => [("#", l, .made), ("b", l, .made)], 2, none, .nested⟩

def entryRule : RuleStep (List Nat) := ⟨none, (· != [7]), some 0, none⟩

/-- The shelves made ready. -/
def shelvesScheme : Scheme (List Nat) where
  rootType := "shelves"
  scopes := [
    ⟨"shelves", .optional, none, [.link shelfLink]⟩,
    ⟨"shelf", .optional, none, [.link entryLink]⟩,
    ⟨"entry", .optional, none, [.rule entryRule]⟩]
  registry := ⟨[Fault.error]⟩
  template := ⟨[("#.#", [0])]⟩
  resolved := [(("#", "#"), "#.#"), (("", "#"), "#")]
  loopPossible := false

theorem build_shelves : Scheme.build? shelves 0 = .ok shelvesScheme := rfl

theorem draft_of_shelves {id : SpecId} {d : Draft (List Nat)} (defined : shelves.draft? id = some d) :
    d.Written ∧ ∃ step, d.commands = [.action .optional, .action step] ∧
      ∀ transition target, step = .link transition target → transition.name? = none := by
  rcases id with _ | _ | _ | id
  · refine ⟨@Draft.written_of_toOption _ "shelves" shelvesCalls d defined, ?_⟩
    cases defined
    exact ⟨_, rfl, by rintro _ _ ⟨⟩; rfl⟩
  · refine ⟨@Draft.written_of_toOption _ "shelf" shelfCalls d defined, ?_⟩
    cases defined
    exact ⟨_, rfl, by rintro _ _ ⟨⟩; rfl⟩
  · refine ⟨@Draft.written_of_toOption _ "entry" entryCalls d defined, ?_⟩
    cases defined
    exact ⟨_, rfl, by rintro _ _ ⟨⟩⟩
  · cases defined

theorem written_shelves : shelves.Written := fun _ _ defined => (draft_of_shelves defined).1

theorem unmoved_shelves : shelves.Unmoved 0 where
  unplaced id d _ defined p mem := by
    obtain ⟨-, step, same, -⟩ := draft_of_shelves defined
    simp [same] at mem
  named id d _ defined transition target mem named := by
    obtain ⟨-, step, same, nameless⟩ := draft_of_shelves defined
    rw [same] at mem
    simp only [List.mem_cons, List.not_mem_nil, or_false, Command.action.injEq, reduceCtorEq,
      false_or] at mem
    rw [nameless transition target mem.symm] at named
    cases named

/-- The visit arrives at both entries of the second shelf. -/
theorem recordedAt_shelves {key : String} {r : Record}
    (entry : (Segment.key key, some ([7], Locus.made)) ∈ entryLink.transition.reach [7])
    (same : r = ⟨(spotOf [⟨none, .key key⟩, ⟨none, .index 1⟩]).concrete, 0⟩) :
    RecordedAt shelvesScheme [0, 7] [⟨none, .key key⟩, ⟨none, .index 1⟩] none r := by
  have second : (Segment.index 1, some ([7], Locus.made)) ∈ shelfLink.transition.reach [0, 7] := by
    decide
  have shelf : Arrives shelvesScheme [0, 7] [⟨none, .index 1⟩] 1 (some [7]) false :=
    Arrives.link (l := shelfLink) .root rfl List.mem_cons_self rfl second
  have arrives : Arrives shelvesScheme [0, 7] [⟨none, .key key⟩, ⟨none, .index 1⟩] 2 (some [7])
      false := Arrives.link (l := entryLink) shelf rfl List.mem_cons_self rfl entry
  have bad : Fails ⟨"entry", .optional, none, [.rule entryRule]⟩ (some [7]) entryRule.path 0 :=
    .rule List.mem_cons_self rfl rfl rfl
  subst same
  exact ⟨2, some [7], _, arrives, rfl, bad, rfl⟩

/-- The entry `b` of the second shelf is recorded below the shelf, the entry `#` is not. -/
theorem keys_beside_positions_shelves :
    shelves.Written ∧ shelves.Unmoved 0 ∧ Scheme.build? shelves 0 = .ok shelvesScheme ∧
      (∃ way own, RecordedAt shelvesScheme [0, 7] way own ⟨"#1.b", 0⟩) ∧
      Undisturbed [⟨none, .key "b"⟩, ⟨none, .index 1⟩] ∧
      "#1.b" = Path.ofSegments (addressOf [⟨none, .key "b"⟩, ⟨none, .index 1⟩] ++ []) ∧
      ¬ Undisturbed [⟨none, .key "#"⟩, ⟨none, .index 1⟩] ∧
      "#.#1" ≠ Path.ofSegments (addressOf [⟨none, .key "#"⟩, ⟨none, .index 1⟩] ++ []) := by
  obtain ⟨found, stands⟩ := keys_beside_positions written_shelves unmoved_shelves build_shelves [0, 7]
  have lettered := (stands _ none ⟨"#1.b", 0⟩
    (@recordedAt_shelves "b" _ (by decide) (by decide))).2
  have marked := (stands _ none ⟨"#.#1", 0⟩
    (@recordedAt_shelves "#" _ (by decide) (by decide))).2
  have apart : Undisturbed [⟨none, .key "b"⟩, ⟨none, .index 1⟩] := lettered.mp (by decide)
  have met : ¬ Undisturbed [⟨none, .key "#"⟩, ⟨none, .index 1⟩] := fun h =>
    absurd (marked.mpr h) (by decide)
  exact ⟨written_shelves, unmoved_shelves, build_shelves,
    found ⟨false, true⟩ 4 .model _ rfl _ (by decide), apart, lettered.mpr apart, met, mt marked.mp met⟩

/-- **A key takes the position of an item.** The entry `#` of the second shelf is recorded as if it
    were the second entry of a shelf without a position. -/
theorem key_takes_position :
    shelves.Written ∧ shelves.Unmoved 0 ∧ Scheme.build? shelves 0 = .ok shelvesScheme ∧
      records ⟨false, true⟩ shelvesScheme 4 [0, 7] .model = .ok [⟨"#.#1", 0⟩, ⟨"#1.b", 0⟩] ∧
      ¬ ∀ way own r, RecordedAt shelvesScheme [0, 7] way own r →
        r.path = Path.ofSegments (addressOf way ++ ownAddress own) := by
  refine ⟨written_shelves, unmoved_shelves, build_shelves, rfl, fun every => ?_⟩
  have entry := every _ none ⟨"#.#1", 0⟩
    (@recordedAt_shelves "#" _ (by decide) (by decide))
  exact absurd entry (by decide)

end Visit

end Assay
