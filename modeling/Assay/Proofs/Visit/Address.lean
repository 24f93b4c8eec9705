import Assay.Proofs.Path.Address
import Assay.Proofs.Path.Normalize
import Assay.Proofs.Visit.Agreement
import Assay.Proofs.Visit.Items

/-!
# Where failures are

What a visit records is a generic path with positions put in by counting. Where links neither climb
nor bring markers of their own, nothing can go wrong with that: the path of a record is made of the
segments on the way to the value that fails.

* `addressOf way` -- the segments on a way: those of the paths of its links, and one for each item or
  the key of each entry that it goes to;
* `Addressed scheme model` -- link paths do not climb, and no path and no key has a bare marker;
* `StandsAt s a` -- the invariant: the spot is at the address, and has a marker for every position;
* `located scheme depth` -- what the scopes of a scheme mean, with every failure at its address;
* **`records_at_addresses`** -- so a full visit records its failures at their addresses, and every
  record of any visit is at the address of the scope, of the link, or at a rule's path from there.
-/

namespace Assay

/-! ## 1. Addresses -/

/-- The segments that a reached value adds. -/
def Segment.address : Segment → List String
  | .stay => []
  | .index position => [Path.indexSegment position]
  | .key segment => Path.address segment

namespace Visit

variable {V : Type}

/-- The segments that a relative path adds, if there is one. -/
def ownAddress : Option String → List String
  | none => []
  | some path => Path.address path

/-- **The segments on a way**, from the model to where it leads. -/
def addressOf : List Stretch → List String
  | [] => []
  | stretch :: way => addressOf way ++ ownAddress stretch.path ++ stretch.segment.address

/-- The address as a path. -/
def addressText (way : List Stretch) : String := Path.ofSegments (addressOf way)

theorem isAddress_ownAddress (path : Option String) : Path.IsAddress (ownAddress path) := by
  cases path with
  | none => exact Path.isAddress_nil
  | some path => exact Path.isAddress_address path

theorem isAddress_segment (segment : Segment) : Path.IsAddress segment.address := by
  cases segment with
  | stay => exact Path.isAddress_nil
  | index position => exact Path.isAddress_index position
  | key segment => exact Path.isAddress_address segment

theorem isAddress_addressOf (way : List Stretch) : Path.IsAddress (addressOf way) := by
  induction way with
  | nil => exact Path.isAddress_nil
  | cons stretch way ih =>
    exact (ih.append (isAddress_ownAddress _)).append (isAddress_segment _)

/-- **Climbing leaves the last segments of an address**: what is left are the positions of exactly the
    items that the path stays inside. -/
theorem resolve_addressText (way : List Stretch) (relative : String) :
    Path.resolve (addressText way) relative =
      Path.ofSegments ((addressOf way).take ((addressOf way).length - Path.rise relative) ++
        Path.address (Path.core relative)) := by
  rw [addressText, Path.resolve_eq, Path.address_ofSegments (isAddress_addressOf way)]

/-! ## 2. Spots at addresses -/

/-- A path that does not climb and has no bare marker. -/
def Plain (path : String) : Prop := Path.rise path = 0 ∧ Path.marker ∉ Path.segments path

/-- **Link paths are plain, and there are no bare markers in the paths of rules, behind their
    climbing, and in the normalized keys that a visit meets.** -/
structure Addressed (scheme : Scheme V) (model : V) : Prop where
  links : ∀ sc ∈ scheme.scopes, ∀ l, Step.link l ∈ sc.steps → ∀ path, l.path = some path →
    Plain path
  rules : ∀ sc ∈ scheme.scopes, ∀ rule, Step.rule rule ∈ sc.steps → ∀ path,
    rule.path = some path → Path.marker ∉ Path.segments (Path.core path)
  keys : ∀ way id v hidden sc l entries, Arrives scheme model way id (some v) hidden →
    scheme.scopes[id]? = some sc → Step.link l ∈ taken v sc.steps →
    l.transition = .dictionary entries →
    ∀ entry ∈ entries v, Path.marker ∉ Path.segments (Path.normalize entry.1)

/-- **The spot is at the address, and has a marker for every position.** -/
structure StandsAt (s : Spot) (a : List String) : Prop where
  address : Path.IsAddress a
  concrete : s.concrete = Path.ofSegments a
  markers : s.markers = s.indexes.length

theorem standsAt_root : StandsAt .root [] := ⟨Path.isAddress_nil, rfl, rfl⟩

/-- A relative path without bare markers is read at the address. -/
theorem StandsAt.read {s : Spot} {a : List String} (h : StandsAt s a) {relative : Option String}
    (bare : ∀ path, relative = some path → Path.marker ∉ Path.segments (Path.core path)) :
    (s.along relative).concrete = Path.along (Path.ofSegments a) relative := by
  cases relative with
  | none => exact h.concrete
  | some path =>
    have enough : (Path.segments s.path).count Path.marker ≤ (s.indexes.map toString).length := by
      rw [List.length_map]
      exact Nat.le_of_eq h.markers
    have both := Path.fill_resolve (Path.notMem_positions s.indexes) enough (bare path rfl)
    rw [Path.along, ← h.concrete]
    exact both

/-- A plain path leads to the address with its segments. -/
theorem StandsAt.along {s : Spot} {a : List String} (h : StandsAt s a) (relative : Option String)
    (plain : ∀ path, relative = some path → Plain path) :
    StandsAt (s.along relative) (a ++ ownAddress relative) := by
  refine ⟨h.address.append (isAddress_ownAddress relative), ?_, ?_⟩
  · rw [h.read fun path same => ?_]
    · cases relative with
      | none => rw [Path.along, ownAddress, List.append_nil]
      | some path => exact Path.resolve_ofSegments_flat h.address (plain path rfl).1
    · obtain ⟨flat, bare⟩ := plain path same
      rwa [Path.core_of_flat flat]
  · cases relative with
    | none => exact h.markers
    | some path =>
      -- no marker is left and none is added
      obtain ⟨flat, bare⟩ := plain path rfl
      refine Eq.trans ?_ h.markers
      show (Path.segments (Path.resolve s.path path)).count Path.marker = s.markers
      rw [Path.segments_resolve, if_pos flat]
      split
      · rfl
      · rw [List.count_append, Path.count_address, List.count_eq_zero_of_not_mem bare]
        rfl

theorem StandsAt.item {s : Spot} {a : List String} (h : StandsAt s a) (position : Nat) :
    StandsAt (s.into (.index position)) (a ++ [Path.indexSegment position]) := by
  refine ⟨h.address.append (Path.isAddress_index position), ?_, ?_⟩
  · have own : s.itemPosition position = position :=
      (itemPosition_eq_iff s position).mpr (.inl (Nat.le_of_eq h.markers.symm))
    rw [concrete_item, own, h.concrete,
      Path.resolve_ofSegments_flat h.address (Path.rise_indexSegment position),
      Path.address_indexSegment]
  · have more : (Path.segments (Path.resolve s.path Path.marker)).count Path.marker =
        (Path.segments s.path).count Path.marker + 1 := by
      rw [Path.segments_resolve_flat s.path (by decide) (by decide), List.count_append,
        Path.count_address]
      rfl
    exact more.trans (congrArg (· + 1) h.markers)

/-- The key of an entry that is met has no bare marker, so it leads to the address with its segments. -/
theorem StandsAt.into {s : Spot} {a : List String} (h : StandsAt s a) {t : Transition V} {v : V}
    {segment : Segment} {value : Option (V × Locus)} (reached : (segment, value) ∈ t.reach v)
    (keys : ∀ entries, t = .dictionary entries → ∀ entry ∈ entries v,
      Path.marker ∉ Path.segments (Path.normalize entry.1)) :
    StandsAt (s.into segment) (a ++ segment.address) := by
  rcases reach_segment reached with ⟨rfl, -⟩ | ⟨i, rfl, -⟩ | ⟨entries, entry, same, mem, rfl⟩
  · rw [Segment.address, List.append_nil]
    exact h
  · exact h.item i
  · refine h.along (some (Path.normalize entry.1)) fun path e => ?_
    cases e
    exact ⟨Path.rise_eq_zero (Path.notMem_normalize entry.1), keys entries same entry mem⟩

section Addressed

variable {scheme : Scheme V} {model : V} (h : Addressed scheme model)
include h

/-- **Where a visit arrives, it stands at the address of the way.** -/
theorem standsAt_of_arrives {way : List Stretch} {id : ScopeId} {value : Option V} {hidden : Bool}
    (arrives : Arrives scheme model way id value hidden) :
    StandsAt (spotOf way) (addressOf way) := by
  induction arrives with
  | root => exact standsAt_root
  | link arrives here step runs reached ih =>
    refine (ih.along _ fun path own => ?_).into reached fun entries same =>
      h.keys _ _ _ _ _ _ entries arrives here step same
    exact h.links _ (List.mem_of_getElem? here) _ (mem_of_taken step) path own

end Addressed

/-! ## 3. What is recorded, at addresses -/

/-- What every scope means, with a value or a null value, where a way leads. -/
abbrev Located (V : Type) := ScopeId → Option V → List Stretch → Account

namespace Located

/-- A link: what is behind it, and a failure at its own address if it shows one. -/
def link (locates : Located V) (v : V) (way : List Stretch) (l : LinkStep V) : Account :=
  let behind := Account.concat ((l.transition.reach v).map fun found =>
    locates l.target (found.2.map Prod.fst) (⟨l.path, found.1⟩ :: way))
  let here := Path.ofSegments (addressOf way ++ ownAddress l.path)
  match l.showing with
  | .nested => behind
  | .replaced fault => if behind.failures = [] then behind else .one ⟨here, fault⟩
  | .extended fault =>
    if behind.failures = [] then behind else behind.andThen (.one ⟨here, some fault⟩)

/-- The steps of a scope: a rule fails where its path leads from the address. -/
def steps (locates : Located V) (v : V) (way : List Stretch) : List (Step V) → Account
  | [] => .nothing
  | .guard holds :: rest => if holds v then steps locates v way rest else .nothing
  | .rule rule :: rest =>
    let own : Account :=
      if applies rule.condition v && !rule.holds v then
        .one ⟨Path.along (addressText way) rule.path, rule.fault⟩
      else .nothing
    own.andThen (steps locates v way rest)
  | .link l :: rest =>
    let behind : Account := if applies l.condition v then link locates v way l else .nothing
    behind.andThen (steps locates v way rest)

/-- A scope: where there is a value and none may be, or none and one must be, it fails at its
    address. -/
def body (locates : Located V) (sc : Scope V) (value : Option V) (way : List Stretch) : Account :=
  match value.filter fun v => !sc.treatsAsNull v, sc.presence with
  | none, .required fault | some _, .forbidden fault => .one ⟨addressText way, fault⟩
  | none, _ => .nothing
  | some v, _ => steps locates v way sc.steps

end Located

/-- **What the scopes of a scheme mean, with every failure at its address**, down to a depth. -/
def located (scheme : Scheme V) : (depth : Nat) → Located V
  | 0, _, _, _ => .lost .tooDeep
  | depth + 1, id, value, way =>
    match scheme.scopes[id]? with
    | none => .lost (.unexpected ("scope " ++ scopeName id ++ " is not there"))
    | some sc => Located.body (located scheme depth) sc value way

/-- Two ways of telling what is behind links that agree wherever a visit arrives. -/
def Meaning.Locates (scheme : Scheme V) (model : V) (means : Meaning V) (locates : Located V) :
    Prop :=
  ∀ way id value hidden, Arrives scheme model way id value hidden →
    means id value (spotOf way) = locates id value way

section Parts

variable {scheme : Scheme V} {model : V} (h : Addressed scheme model) {means : Meaning V}
  {locates : Located V} (hm : means.Locates scheme model locates) {way : List Stretch}
  {id : ScopeId} {v : V} {hidden : Bool} {sc : Scope V}
  (arrives : Arrives scheme model way id (some v) hidden) (here : scheme.scopes[id]? = some sc)
include h hm arrives here

theorem link_located {l : LinkStep V} (step : .link l ∈ taken v sc.steps)
    (runs : applies l.condition v = true) :
    means.link v (spotOf way) l = locates.link v way l := by
  have plain : ∀ path, l.path = some path → Plain path :=
    h.links sc (List.mem_of_getElem? here) l (mem_of_taken step)
  have own := ((standsAt_of_arrives h arrives).along l.path plain).concrete
  have behind : ((l.transition.reach v).map fun found =>
        means l.target (found.2.map Prod.fst) (((spotOf way).along l.path).into found.1)) =
      (l.transition.reach v).map fun found =>
        locates l.target (found.2.map Prod.fst) (⟨l.path, found.1⟩ :: way) :=
    List.map_congr_left fun found reached => hm _ _ _ _ (arrives.link here step runs reached)
  cases showing : l.showing <;>
    simp only [Meaning.link, Located.link, Account.shown, behind, own, showing]

theorem steps_located (list : List (Step V)) (sub : taken v list ⊆ taken v sc.steps) :
    means.steps v (spotOf way) list = locates.steps v way list := by
  induction list with
  | nil => rfl
  | cons step rest ih =>
    cases step with
    | guard holds =>
      unfold Meaning.steps Located.steps
      split
      · rename_i passes
        refine ih fun x hx => sub ?_
        simpa [taken, passes] using .inr hx
      · rfl
    | rule rule =>
      obtain ⟨mem, more⟩ := List.cons_subset.mp (show .rule rule :: taken v rest ⊆ _ from sub)
      have own := (standsAt_of_arrives h arrives).read
        (h.rules sc (List.mem_of_getElem? here) rule (mem_of_taken mem))
      unfold Meaning.steps Located.steps
      rw [own, ih more]
      rfl
    | link l =>
      obtain ⟨mem, more⟩ := List.cons_subset.mp (show .link l :: taken v rest ⊆ _ from sub)
      unfold Meaning.steps Located.steps
      rw [ih more]
      split
      · rename_i runs
        rw [link_located h hm arrives here mem runs]
      · rfl

end Parts

theorem body_located {scheme : Scheme V} {model : V} (h : Addressed scheme model)
    {means : Meaning V} {locates : Located V} (hm : means.Locates scheme model locates)
    {way : List Stretch} {id : ScopeId} {value : Option V} {hidden : Bool} {sc : Scope V}
    (arrives : Arrives scheme model way id value hidden) (here : scheme.scopes[id]? = some sc) :
    means.body sc value (spotOf way) = locates.body sc value way := by
  have own : (spotOf way).concrete = addressText way := (standsAt_of_arrives h arrives).concrete
  have missing : Meaning.missing sc (spotOf way) = locates.body sc none way := by
    unfold Meaning.missing Located.body
    rw [own]
    cases sc.presence <;> rfl
  cases value with
  | none => exact missing
  | some v =>
    have inner := steps_located h hm arrives here sc.steps (List.Subset.refl _)
    cases hn : sc.treatsAsNull v with
    | true =>
      simp only [Meaning.body, hn, if_true, missing]
      simp only [Located.body, Option.filter, hn, Bool.not_true, Bool.false_eq_true, if_false]
    | false =>
      simp only [Meaning.body, hn, Bool.false_eq_true, if_false, Meaning.present, own, inner]
      simp only [Located.body, Option.filter, hn, Bool.not_false, if_true]
      cases sc.presence <;> rfl

/-- **Failures are located where they mean to be.** -/
theorem meaning_located {scheme : Scheme V} {model : V} (h : Addressed scheme model)
    (depth : Nat) : (meaning scheme depth).Locates scheme model (located scheme depth) := by
  induction depth with
  | zero => exact fun _ _ _ _ _ => rfl
  | succ depth ih =>
    intro way id value hidden arrives
    unfold meaning located
    cases here : scheme.scopes[id]? with
    | none => rfl
    | some sc =>
      exact body_located h ih arrives here

/-! ## 4. Visits -/

/-- **The record is where its failure is**: at the address of a scope whose presence it tells, at the
    path of a rule, read at that address, or at the address of a link. -/
inductive FoundAt (scheme : Scheme V) (model : V) (r : Record) : Prop where
  | presence {way : List Stretch} {id : ScopeId} {value : Option V} {sc : Scope V}
      (arrives : Arrives scheme model way id value false) (here : scheme.scopes[id]? = some sc)
      (carried : sc.presence.fault = some r.fault) (path : r.path = addressText way)
  | rule {way : List Stretch} {id : ScopeId} {v : V} {sc : Scope V} {rule : RuleStep V}
      (arrives : Arrives scheme model way id (some v) false)
      (here : scheme.scopes[id]? = some sc) (step : .rule rule ∈ taken v sc.steps)
      (runs : applies rule.condition v = true) (fails : rule.holds v = false)
      (carried : rule.fault = some r.fault) (path : r.path = Path.along (addressText way) rule.path)
  | link {way : List Stretch} {id : ScopeId} {v : V} {sc : Scope V} {l : LinkStep V}
      (arrives : Arrives scheme model way id (some v) false)
      (here : scheme.scopes[id]? = some sc) (step : .link l ∈ taken v sc.steps)
      (runs : applies l.condition v = true) (carried : l.showing.fault = some r.fault)
      (path : r.path = Path.ofSegments (addressOf way ++ ownAddress l.path))

theorem foundAt_of_source {scheme : Scheme V} {model : V} (h : Addressed scheme model) {r : Record}
    (source : Source scheme model r) : FoundAt scheme model r := by
  obtain ⟨way, own, id, value, sc, arrives, here, fails, path⟩ := source
  have stands := standsAt_of_arrives h arrives
  have mem := List.mem_of_getElem? here
  cases fails with
  | presence carried => exact .presence arrives here carried (path.trans stands.concrete)
  | rule step runs fails carried =>
    have read := stands.read (h.rules sc mem _ (mem_of_taken step))
    exact .rule arrives here step runs fails carried (path.trans read)
  | link step runs carried =>
    have along := stands.along _ (h.links sc mem _ (mem_of_taken step))
    exact .link arrives here step runs carried (path.trans along.concrete)

/-- **Failures are recorded at their addresses.** Where link paths do not climb and no path and no key
    has a bare marker, a full visit records the failures of its scheme in order, each at the address of
    the scope or of the link, or at the rule's path read at the address; guarded, it does the same or
    ends with a loop. Every record of any visit, hurried or not, is at such a place. A rule that climbs
    leaves the last segments of the address, so it keeps the positions of the items that it stays
    inside, and no others. -/
theorem records_at_addresses {scheme : Scheme V} {model : V} (h : Addressed scheme model) :
    (∀ depth place,
      records ⟨false, false⟩ scheme depth model place =
          (located scheme depth scheme.root (some model) []).result ∧
        (records ⟨false, true⟩ scheme depth model place =
            (located scheme depth scheme.root (some model) []).result ∨
          ∃ name first second, records ⟨false, true⟩ scheme depth model place =
            .error (.referenceLoop name first second))) ∧
    (∀ mode depth place list, records mode scheme depth model place = .ok list →
      ∀ r ∈ list, FoundAt scheme model r) ∧
    ∀ way relative, Path.resolve (addressText way) relative =
      Path.ofSegments ((addressOf way).take ((addressOf way).length - Path.rise relative) ++
        Path.address (Path.core relative)) := by
  refine ⟨fun depth place => ?_, fun mode depth place list ends r mem => ?_, resolve_addressText⟩
  · have plain : records ⟨false, false⟩ scheme depth model place =
        (located scheme depth scheme.root (some model) []).result := by
      rw [← meaning_located h depth [] _ _ _ .root]
      exact (agrees_scope scheme depth scheme.root (some (model, place)) .start rfl).result
    refine ⟨plain, ?_⟩
    rw [← plain]
    exact records_guarded false scheme depth model place
  · exact foundAt_of_source h (records_sourced ends r mem)

/-- The link to the orders. -/
def ordersLink : LinkStep (List Nat) :=
  ⟨none, .collection fun l => l.map fun n => ([n], .made), 1, some "Orders", .nested⟩

/-- The link of an order to as many lines as its number says, with a fault of its own. -/
def linesLink : LinkStep (List Nat) :=
  ⟨none, .collection fun l => (l.flatMap List.range).map fun n => ([n], .made), 2, some "Lines",
    .extended 1⟩

/-- The link of an order to its notes. -/
def notesLink : LinkStep (List Nat) :=
  ⟨none, .dictionary fun l => [("<last>", l, .same)], 2, some "Notes", .nested⟩

/-- No line and no note is good, which is told at the total of the order. -/
def totalRule : RuleStep (List Nat) := ⟨none, fun _ => false, some 0, some "<<Total"⟩

/-- Orders with lines and notes. -/
def orders : Scheme (List Nat) where
  rootType := "orders"
  scopes := [
    ⟨"orders", .optional, none, [.link ordersLink]⟩,
    ⟨"order", .optional, none, [.link linesLink, .link notesLink]⟩,
    ⟨"line", .optional, none, [.rule totalRule]⟩]
  registry := ⟨[Fault.error, ⟨[], ["see its lines"], [], [], []⟩]⟩
  template := FaultMap.empty
  resolved := []
  loopPossible := false

theorem step_of_orders {sc : Scope (List Nat)} (mem : sc ∈ orders.scopes) {step : Step (List Nat)}
    (h : step ∈ sc.steps) :
    step = .link ordersLink ∨ step = .link linesLink ∨ step = .link notesLink ∨
      step = .rule totalRule := by
  simp only [orders, List.mem_cons, List.not_mem_nil, or_false] at mem
  rcases mem with rfl | rfl | rfl
  · exact .inl (List.mem_singleton.mp h)
  · rcases List.mem_cons.mp h with e | h
    · exact .inr (.inl e)
    · exact .inr (.inr (.inl (List.mem_singleton.mp h)))
  · exact .inr (.inr (.inr (List.mem_singleton.mp h)))

theorem addressed_orders : Addressed orders [0, 1] where
  links sc mem l step path own := by
    rcases step_of_orders mem step with e | e | e | e <;> cases e <;> cases own <;>
      exact ⟨rfl, by decide⟩
  rules sc mem rule step path own := by
    rcases step_of_orders mem step with e | e | e | e <;> cases e
    cases own
    decide
  keys way id v hidden sc l entries arrives here step same entry mem := by
    rcases step_of_orders (List.mem_of_getElem? here) (mem_of_taken step) with e | e | e | e <;>
      cases e <;> cases same
    rw [List.mem_singleton.mp mem]
    show Path.marker ∉ Path.segments (Path.normalize "<last>")
    decide

/-- The lines and the notes are told at the totals of their own orders. -/
theorem records_at_addresses_orders :
    Addressed orders [0, 1] ∧
      records ⟨false, false⟩ orders 4 [0, 1] .model = .ok [⟨"Orders.#0.Total", 0⟩,
        ⟨"Orders.#1.Total", 0⟩, ⟨"Orders.#1.Lines", 1⟩, ⟨"Orders.#1.Total", 0⟩] ∧
      (located orders 4 orders.root (some [0, 1]) []).result = .ok [⟨"Orders.#0.Total", 0⟩,
        ⟨"Orders.#1.Total", 0⟩, ⟨"Orders.#1.Lines", 1⟩, ⟨"Orders.#1.Total", 0⟩] ∧
      FoundAt orders [0, 1] ⟨"Orders.#1.Lines", 1⟩ := by
  have made : records ⟨false, false⟩ orders 4 [0, 1] .model = .ok [⟨"Orders.#0.Total", 0⟩,
      ⟨"Orders.#1.Total", 0⟩, ⟨"Orders.#1.Lines", 1⟩, ⟨"Orders.#1.Total", 0⟩] := rfl
  obtain ⟨full, found, -⟩ := records_at_addresses addressed_orders
  exact ⟨addressed_orders, made, (full 4 .model).1.symm.trans made,
    found ⟨false, false⟩ 4 .model _ made _ (by decide)⟩

end Visit

end Assay
