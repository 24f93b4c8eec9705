import Assay.Proofs.Path.Cover
import Assay.Proofs.Scheme.Built
import Assay.Proofs.Scheme.Survey
import Assay.Proofs.Visit.Arrival

/-!
# The template covers what is recorded

A survey of the scopes and a visit of a model go along the same links. The survey knows neither
conditions nor guards, and has bare markers where the visit has positions and keys; so each record of
the visit stands in the template, at a path that differs from its own in bare markers only.

* `Acyclic scopes` -- the survey never comes back to a scope that it is on the way from;
* `SingleKeys scheme model` -- the keys that a visit of the model meets are single segments;
* `surveyOf way` -- where the survey is, with a bare marker for each item and each entry on the way;
* `walks_of_arrives` -- the invariant: where a visit arrives, the survey walks, along a path that
  covers that of the visit;
* **`template_covers_records`** -- so every record is covered by the template, in every mode and
  however deep the visit may go.
-/

namespace Assay

open Survey Visit

variable {V : Type}

/-! ## 1. Schemes and models -/

/-- No link on a walk leads back to a scope on the way. -/
def Acyclic (scopes : List (Scope V)) : Prop :=
  ∀ id rest path hidden sc l, Walks scopes (id :: rest) path hidden → scopes[id]? = some sc →
    Step.link l ∈ sc.steps → l.target ∉ id :: rest

/-- The keys of every dictionary that a visit arrives at are single segments when they are
    normalized. -/
def SingleKeys (scheme : Scheme V) (model : V) : Prop :=
  ∀ way id v hidden sc l entries, Arrives scheme model way id (some v) hidden →
    scheme.scopes[id]? = some sc → Step.link l ∈ taken v sc.steps →
    l.transition = .dictionary entries →
    ∀ entry ∈ entries v, (Path.segments (Path.normalize entry.1)).length = 1

/-- Schemes whose links lead to later scopes are acyclic. -/
theorem acyclic_of_rising {scopes : List (Scope V)}
    (rising : ∀ id sc l, scopes[id]? = some sc → Step.link l ∈ sc.steps → id < l.target) :
    Acyclic scopes := by
  have below {way : List ScopeId} {path : String} {hidden : Bool}
      (h : Walks scopes way path hidden) : ∀ id ∈ way, ∀ last ∈ way.head?, id ≤ last := by
    induction h with
    | root => simp
    | link walks here step fresh ih =>
      intro x hx last hlast
      have hrise := rising _ _ _ here step
      cases hlast
      rcases List.mem_cons.mp hx with rfl | hx
      · exact Nat.le_refl _
      · exact Nat.le_of_lt (Nat.lt_of_le_of_lt (ih x hx _ rfl) hrise)
  intro id rest path hidden sc l walks here step back
  exact absurd (below walks _ back id rfl) (Nat.not_le_of_lt (rising id sc l here step))

/-! ## 2. Walks beside visits -/

/-- Positions are put in for markers. -/
theorem covers_concrete {g : String} {s : Spot} (h : Path.Covers g s.path) :
    Path.Covers g s.concrete :=
  Path.covers_fill h (Path.notMem_positions s.indexes)

/-- How the survey goes on from a link: to the marker where a visit goes to an item or to an entry. -/
def Segment.surveyed : Segment → Option String
  | .stay => none
  | .index _ | .key _ => some Path.marker

/-- **Where the survey is** that goes the same way: a bare marker stands for each item and for each
    entry, whatever its key. -/
def surveyOf : List Stretch → String
  | [] => ""
  | stretch :: way => Path.along (Path.along (surveyOf way) stretch.path) stretch.segment.surveyed

theorem itemSegment_of_reach {t : Transition V} {v : V} {segment : Segment}
    {value : Option (V × Locus)} (h : (segment, value) ∈ t.reach v) :
    t.kind.itemSegment = segment.surveyed := by
  rcases reach_segment h with ⟨rfl, hk⟩ | ⟨i, rfl, hk⟩ | ⟨entries, entry, rfl, -, rfl⟩
  · exact hk
  · exact hk
  · rfl

/-- **Where a visit arrives, the survey walks.** -/
theorem walks_surveyOf {scheme : Scheme V} {model : V} (acyclic : Acyclic scheme.scopes)
    {way : List Stretch} {id : ScopeId} {value : Option V} {hidden : Bool}
    (h : Arrives scheme model way id value hidden) :
    ∃ rest, Walks scheme.scopes (id :: rest) (surveyOf way) hidden := by
  induction h with
  | root => exact ⟨[], .root⟩
  | link arrives here step runs reached ih =>
    obtain ⟨rest, walks⟩ := ih
    have mem := mem_of_taken step
    have behind := walks.link here mem (acyclic _ _ _ _ _ _ walks here mem)
    rw [itemSegment_of_reach reached] at behind
    exact ⟨_, behind⟩

/-- The survey goes to the marker where the visit goes to a position or a key. -/
theorem covers_into {t : Transition V} {v : V} {segment : Segment} {value : Option (V × Locus)}
    (h : (segment, value) ∈ t.reach v)
    (single : ∀ entries, t = .dictionary entries →
      ∀ entry ∈ entries v, (Path.segments (Path.normalize entry.1)).length = 1)
    {g : String} {s : Spot} (hc : Path.Covers g s.path) :
    Path.Covers (Path.along g segment.surveyed) (s.into segment).path := by
  rcases reach_segment h with ⟨rfl, -⟩ | ⟨i, rfl, -⟩ | ⟨entries, entry, rfl, hmem, rfl⟩
  · exact hc
  · exact Path.covers_resolve hc Path.marker
  · exact Path.covers_key hc (single entries rfl entry hmem)

/-- Where the survey is covers where the visit is, if the keys are single segments. -/
theorem covers_surveyOf {scheme : Scheme V} {model : V} (single : SingleKeys scheme model)
    {way : List Stretch} {id : ScopeId} {value : Option V} {hidden : Bool}
    (h : Arrives scheme model way id value hidden) :
    Path.Covers (surveyOf way) (spotOf way).path := by
  induction h with
  | root => exact Path.covers_refl ""
  | link arrives here step runs reached ih =>
    exact covers_into reached
      (fun entries hd => single _ _ _ _ _ _ entries arrives here step hd)
      (Path.covers_along ih _)

/-- **Where a visit arrives, the survey walks**, along a path that covers that of the visit. -/
theorem walks_of_arrives {scheme : Scheme V} {model : V} (acyclic : Acyclic scheme.scopes)
    (single : SingleKeys scheme model) {way : List Stretch} {id : ScopeId} {value : Option V}
    {hidden : Bool} (h : Arrives scheme model way id value hidden) :
    ∃ rest path, Walks scheme.scopes (id :: rest) path hidden ∧
      Path.Covers path (spotOf way).path := by
  obtain ⟨rest, walks⟩ := walks_surveyOf acyclic h
  exact ⟨rest, _, walks, covers_surveyOf single h⟩

theorem carries_of_fails {sc : Scope V} {value : Option V} {own : Option String} {fault : FaultId}
    (h : Fails sc value own fault) : Carries sc own fault := by
  cases h with
  | presence carried => exact .presence carried
  | rule step runs fails carried => exact .rule (mem_of_taken step) carried
  | link step runs carried => exact .link (mem_of_taken step) carried

/-! ## 3. Schemes that were built -/

/-- The template of a scheme is the survey of its scopes. -/
theorem template_of_build {catalogue : Catalogue V} {root : SpecId} {scheme : Scheme V}
    (built : Scheme.build? catalogue root = .ok scheme) :
    ∃ registry, scheme.template = (ofScopes registry scheme.scopes).template := by
  obtain ⟨p, -, scopes, -, template, -⟩ := progress_of_build built
  exact ⟨p.gathered.registry, by rw [scopes, template]⟩

/-- **The template covers every record.** What a visit of a model records, hurried or not, guarded or
    not, is listed in the template of its scheme, at a path that has as many segments and differs from
    the recorded one in bare markers only. -/
theorem template_covers_records {catalogue : Catalogue V} {root : SpecId} {scheme : Scheme V}
    (built : Scheme.build? catalogue root = .ok scheme) (acyclic : Acyclic scheme.scopes)
    (mode : Mode) (depth : Nat) (model : V) (place : Place) (single : SingleKeys scheme model)
    {faults : FaultMap} (h : run mode scheme depth model place = .ok faults) {path : String}
    {fault : FaultId} (listed : faults.Lists path fault) :
    ∃ g, scheme.template.Lists g fault ∧ Path.Covers g path := by
  unfold run at h
  cases hr : records mode scheme depth model place with
  | error e =>
    rw [hr] at h
    cases h
  | ok list =>
    rw [hr] at h
    cases h
    have mem := (FaultMap.lists_ofRecords list path fault).mp listed
    obtain ⟨way, own, id, value, sc, arrives, here, fails, hpath⟩ := records_sourced hr _ mem
    obtain ⟨rest, g, walks, covers⟩ := walks_of_arrives acyclic single arrives
    obtain ⟨registry, template⟩ := template_of_build built
    refine ⟨Path.along g own, ?_, ?_⟩
    · rw [template]
      exact lists_of_walks walks here (carries_of_fails fails)
    · rw [show path = _ from hpath]
      exact covers_concrete (Path.covers_along covers own)

/-- Boxes with numbers that must not be zero, and the first of them once more below a label. -/
def shelf : Catalogue (List Nat) := ⟨[
  ⟨"shelf", some ⟨"shelf", [
    .action (.link (.collection fun l => l.map fun n => ([n], .made)) 1),
    .parameter (.path "Boxes"),
    .action (.link (.dictionary fun l => [("first", l.take 1, .made)]) 1),
    .parameter (.path "Labels"),
    .parameter (.extraMessage "see its boxes")], [], none⟩⟩,
  ⟨"box", some ⟨"box", [
    .action .optional,
    .action (.rule (fun l => l != [0]) Fault.error),
    .parameter (.path "Content")], [], none⟩⟩]⟩

/-- The shelf made ready. -/
def shelfScheme : Scheme (List Nat) where
  rootType := "shelf"
  scopes := [
    ⟨"shelf", .required (some 1), none, [
      .link ⟨none, .collection fun l => l.map fun n => ([n], .made), 1, some "Boxes", .nested⟩,
      .link ⟨none, .dictionary fun l => [("first", l.take 1, .made)], 1, some "Labels",
        .extended 0⟩]⟩,
    ⟨"box", .optional, none, [.rule ⟨none, fun l => l != [0], some 2, some "Content"⟩]⟩]
  registry := ⟨[⟨[], ["see its boxes"], [], [], []⟩, Fault.required, Fault.error]⟩
  template := ⟨[("", [1]), ("Boxes.#.Content", [2]), ("Labels.#.Content", [2]), ("Labels", [0])]⟩
  resolved := [
    (("Labels.#", "Content"), "Labels.#.Content"), (("Labels", "#"), "Labels.#"),
    (("", "Labels"), "Labels"), (("Boxes.#", "Content"), "Boxes.#.Content"),
    (("Boxes", "#"), "Boxes.#"), (("", "Boxes"), "Boxes")]
  loopPossible := false

theorem links_of_shelf {id : ScopeId} {sc : Scope (List Nat)} {l : LinkStep (List Nat)}
    (here : shelfScheme.scopes[id]? = some sc) (step : Step.link l ∈ sc.steps) :
    id < l.target ∧ ∀ entries, l.transition = .dictionary entries →
      ∀ v, ∀ entry ∈ entries v, (Path.segments (Path.normalize entry.1)).length = 1 := by
  rcases id with _ | _ | id
  · cases here
    rcases List.mem_cons.mp step with e | step
    · cases e
      exact ⟨Nat.zero_lt_one, fun _ h => by cases h⟩
    · cases List.mem_singleton.mp step
      refine ⟨Nat.zero_lt_one, fun entries h v entry he => ?_⟩
      cases h
      rw [List.mem_singleton.mp he]
      show (Path.segments (Path.normalize "first")).length = 1
      decide
  · cases here
    cases List.mem_singleton.mp step
  · cases here

/-- The box at position 0 and the one below its label, in the template with markers for both. -/
theorem template_covers_records_shelf :
    Scheme.build? shelf 0 = .ok shelfScheme ∧
      run ⟨false, true⟩ shelfScheme 4 [0] .model = .ok ⟨[
        ("Boxes.#0.Content", [2]), ("Labels.first.Content", [2]), ("Labels", [0])]⟩ ∧
      ∃ g, shelfScheme.template.Lists g 2 ∧ Path.Covers g "Labels.first.Content" := by
  have built : Scheme.build? shelf 0 = .ok shelfScheme := rfl
  have acyclic : Acyclic shelfScheme.scopes :=
    acyclic_of_rising fun _ _ _ here step => (links_of_shelf here step).1
  have single : SingleKeys shelfScheme [0] :=
    fun _ _ v _ _ _ entries _ here step hd =>
      (links_of_shelf here (mem_of_taken step)).2 entries hd v
  have made : run ⟨false, true⟩ shelfScheme 4 [0] .model = .ok ⟨[
      ("Boxes.#0.Content", [2]), ("Labels.first.Content", [2]), ("Labels", [0])]⟩ := rfl
  exact ⟨built, made, template_covers_records built acyclic ⟨false, true⟩ 4 [0] .model single made
    ⟨[2], rfl, List.mem_cons_self⟩⟩

end Assay
