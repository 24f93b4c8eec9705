import Assay.Proofs.Fault.Records
import Assay.Proofs.Scheme.Parts
import Assay.Proofs.Scheme.Template

/-!
# Every number has its fault

A registry hands out numbers while specifications are compiled, and once more where the survey notes
a loop. It only grows, so a number that was handed out once has its fault in every later registry.
Nothing else makes numbers: the scopes of a scheme carry those of the faults of their clauses, and
records and the template have them from there.

* `Registry.Knows r fault` -- the number, if there is one, has a fault in the registry;
* `Scope.Known sc r` -- so have all numbers that a scope carries; **`Draft.known_scope`** says so of
  what a draft becomes, if its faults are registered;
* `Survey.Sound base s` -- a survey that began with the registry `base` has only added to it, and
  lists only numbers that its registry knows;
* **`registered_of_build`** -- so every number in the template of a scheme, and in what any visit
  records, has its fault in the registry of the scheme.
-/

namespace Assay

variable {V : Type}

/-! ## 1. Registries -/

namespace Registry

/-- The number, if there is one, has a fault in the registry. -/
def Knows (r : Registry) (fault : Option FaultId) : Prop := ∀ id, fault = some id → id < r.size

theorem knows_none (r : Registry) : r.Knows none := fun _ h => by cases h

theorem Knows.mono {r s : Registry} {fault : Option FaultId} (h : r.Knows fault)
    (grown : r.faults <+: s.faults) : s.Knows fault := fun id carried =>
  Nat.lt_of_lt_of_le (h id carried) grown.length_le

/-- A number that is handed out has its fault. -/
theorem knows_register (r : Registry) (fault : Fault) :
    (r.register fault).1.Knows (some (r.register fault).2) := by
  intro id same
  cases same
  unfold register
  split
  · rename_i id found
    exact (List.findIdx?_eq_some_iff_getElem.mp found).1
  · simp [size]

end Registry

/-! ## 2. Scopes -/

/-- The fault that a step carries. -/
def Step.fault : Step V → Option FaultId
  | .guard _ => none
  | .rule r => r.fault
  | .link l => l.showing.fault

/-- The fault that a part carries. -/
def Part.fault : Part V → Option FaultId
  | .presence p => p.fault
  | .step s => s.fault

/-- The numbers that a scope carries have faults in the registry. -/
structure Scope.Known (sc : Scope V) (r : Registry) : Prop where
  presence : r.Knows sc.presence.fault
  steps : ∀ st ∈ sc.steps, r.Knows st.fault

theorem Scope.Known.mono {sc : Scope V} {r s : Registry} (h : sc.Known r)
    (grown : r.faults <+: s.faults) : sc.Known s :=
  ⟨h.presence.mono grown, fun st mem => (h.steps st mem).mono grown⟩

theorem Scope.Known.carried {sc : Scope V} {r : Registry} (h : sc.Known r) {own : Option String}
    {id : FaultId} (carries : Survey.Carries sc own id) : id < r.size := by
  cases carries with
  | presence carried => exact h.presence id carried
  | rule step carried => exact h.steps _ step id carried
  | link step carried => exact h.steps _ step id carried

/-- A number that is looked up has its fault. -/
theorem Registry.knows_number (r : Registry) (fault : Fault) : r.Knows (r.number fault) := by
  unfold number
  split
  · exact r.knows_none
  · exact fun id found => (List.findIdx?_eq_some_iff_getElem.mp found).1

/-- What a clause becomes carries only numbers of faults, if its faults are registered. -/
theorem Clause.knows_part {c : Clause V} {r : Registry} (order : List SpecId)
    (registered : ∀ f ∈ c.errors, (r.find? f).isSome = true) : r.Knows (c.part r order).fault := by
  unfold Clause.part
  cases acts : c.action with
  | required => exact r.knows_number _
  | «optional» => exact r.knows_none
  | forbidden => exact r.knows_number _
  | guard holds => exact r.knows_none
  | rule holds fault => exact r.knows_number _
  | link transition target =>
    simp only [Part.fault, Step.fault, Content.showing]
    split
    · exact r.knows_none
    · rename_i touched
      split
      · exact r.knows_number _
      · rename_i kept
        -- the number of an extension is taken for granted, so its fault must be there
        have own : c.content.edit Fault.empty ∈ c.errors := by
          simp [errors, acts, Content.errors, touched, nonEmpty, Content.isEmpty_edit touched kept]
        obtain ⟨id, found⟩ := Option.isSome_iff_exists.mp (registered _ own)
        rw [found]
        rintro _ ⟨⟩
        exact (List.findIdx?_eq_some_iff_getElem.mp found).1

/-- **What a draft becomes carries only numbers of faults**, if its faults are registered. -/
theorem Draft.known_scope {d : Draft V} {r : Registry} (order : List SpecId)
    (registered : ∀ f ∈ d.errors, (r.find? f).isSome = true) : (d.scope r order).Known r := by
  have parts (part : Part V) (mem : part ∈ d.parts r order) : r.Knows part.fault := by
    obtain ⟨c, hc, rfl⟩ := List.mem_map.mp mem
    exact Clause.knows_part order fun f hf =>
      registered f (List.mem_append_left _ (List.mem_flatMap.mpr ⟨c, hc, hf⟩))
  constructor
  · unfold Draft.scope
    cases present : lastSome Part.presence? (d.parts r order) with
    | none => exact r.knows_number _
    | some presence =>
      obtain ⟨part, mem, same⟩ := List.mem_filterMap.mp (List.mem_of_getLast? present)
      cases part with
      | step st => cases same
      | presence p =>
        cases same
        exact parts _ mem
  · intro st mem
    obtain ⟨part, mem, same⟩ := List.mem_filterMap.mp mem
    cases part with
    | presence p => cases same
    | step other =>
      cases same
      exact parts _ mem

/-! ## 3. The survey -/

namespace Survey

/-- **The survey has only added to a registry, and lists only numbers that it knows.** -/
structure Sound (base : Registry) (s : Survey) : Prop where
  grown : base.faults <+: s.registry.faults
  listed : ∀ id ∈ s.template.ids, id < s.registry.size

variable {base : Registry}

theorem sound_note {s : Survey} (h : Sound base s) (path : String) {fault : Option FaultId}
    (known : s.registry.Knows fault) (hidden : Bool) : Sound base (s.note path fault hidden) := by
  unfold note
  split
  · rename_i id
    refine ⟨h.grown, fun i mem => ?_⟩
    rcases FaultMap.mem_ids_pushUnique mem with mem | rfl
    · exact h.listed i mem
    · exact known i rfl
  · exact h

theorem sound_resolve {s : Survey} (h : Sound base s) (path : String) (relative : Option String) :
    Sound base (s.resolve path relative).1 := by
  cases relative with
  | none => exact h
  | some relative => exact ⟨h.grown, h.listed⟩

/-- The mark of a loop is registered late, and has its number then. -/
theorem sound_noteLoop {s : Survey} (h : Sound base s) (path : String) (hidden : Bool) :
    Sound base (s.noteLoop path hidden) := by
  have more := s.registry.grows_register Fault.referenceLoop
  unfold noteLoop
  refine sound_note ⟨h.grown.trans more, fun id mem => ?_⟩ path
    (s.registry.knows_register Fault.referenceLoop) hidden
  exact Nat.lt_of_lt_of_le (h.listed id mem) more.length_le

/-- **Surveys stay sound**, if the registry they began with knows what the scopes carry. -/
theorem sound_invariant {scopes : List (Scope V)} (known : ∀ sc ∈ scopes, sc.Known base) :
    Invariant scopes (fun _ => True) (Sound base) where
  along _ _ _ _ _ _ := trivial
  item _ _ _ := trivial
  note sc there own id carries s path hidden _ h := by
    have numbered : base.Knows (some id) := fun i same => by
      cases same
      exact (known sc there).carried carries
    exact sound_note h path (numbered.mono h.grown) hidden
  resolve s base relative h := sound_resolve h base relative
  noteLoop s path hidden _ h := sound_noteLoop h path hidden

end Survey

/-! ## 4. Schemes that were built -/

/-- The numbers that the scopes of a scheme carry, and those in its template, have faults in its
    registry. -/
theorem known_of_build {catalogue : Catalogue V} {root : SpecId} {scheme : Scheme V}
    (built : Scheme.build? catalogue root = .ok scheme) :
    (∀ sc ∈ scheme.scopes, sc.Known scheme.registry) ∧
      ∀ id ∈ scheme.template.ids, id < scheme.registry.size := by
  obtain ⟨p, ended, rfl⟩ := ended_of_build built
  have known (sc : Scope V) (mem : sc ∈ p.scopes) : sc.Known p.gathered.registry := by
    obtain ⟨id, seen, d, defined, rfl⟩ := ended.mem_scopes mem
    refine Draft.known_scope _ fun f own => ended.isSome_find? seen ?_
    rwa [Catalogue.errors, defined]
  have sound : Survey.Sound p.gathered.registry
      (Survey.ofScopes p.gathered.registry p.scopes) :=
    Survey.invariant_scope (Survey.sound_invariant known) _ _ _ _ _ _ trivial
      ⟨List.prefix_refl _, fun id mem => absurd mem List.not_mem_nil⟩
  exact ⟨fun sc mem => (known sc mem).mono sound.grown, sound.listed⟩

/-- **Every number that can be reported has its fault**: those in the template of a scheme, and those
    that any visit records. -/
theorem registered_of_build {catalogue : Catalogue V} {root : SpecId} {scheme : Scheme V}
    (built : Scheme.build? catalogue root = .ok scheme) :
    (∀ id ∈ scheme.template.ids, id < scheme.registry.size) ∧
      ∀ mode depth model place faults, Visit.run mode scheme depth model place = .ok faults →
        ∀ id ∈ faults.ids, id < scheme.registry.size := by
  obtain ⟨known, listed⟩ := known_of_build built
  refine ⟨listed, fun mode depth model place faults h id mem => ?_⟩
  obtain ⟨list, made, rfl⟩ := Visit.run_eq_ok_iff.mp h
  obtain ⟨r, hr, rfl⟩ := List.mem_map.mp ((FaultMap.ids_ofRecords list).mem_iff.mp mem)
  obtain ⟨way, own, number, value, sc, -, here, fails, -⟩ := Visit.records_sourced made r hr
  exact (known sc (List.mem_of_getElem? here)).carried (carries_of_fails fails)

end Assay
