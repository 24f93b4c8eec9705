import Assay.Proofs.Fault.Registry
import Assay.Proofs.Fault.Writes
import Assay.Proofs.Scheme.Parts
import Assay.Proofs.Scheme.Survey

/-!
# The findings of a survey, one after another

A survey notes faults while it goes along, and its template is what these notes leave behind. Nothing
that it does depends on what it has noted so far, so the notes can be listed without it: the faults of
a scope, then for each step what is behind it and its own fault.

* `findings loop scopes levels` -- the notes of a survey from a scope on, the mark of a loop being the
  fault `loop`;
* `Notes loop f log` -- the part `f` of a survey notes exactly `log`, one after another;
* `notes_scope` -- a survey of scopes notes its findings;
* **`template_eq_findings`** -- so the template of a scheme is what its findings leave, each put at its
  path once.
-/

namespace Assay.Survey

variable {V : Type}

/-! ## 1. Findings -/

/-- What noting a fault adds. -/
def noted (path : String) (fault : Option FaultId) (hidden : Bool) : List Record :=
  match fault, hidden with
  | some id, false => [⟨path, id⟩]
  | _, _ => []

/-- What is found by a way into a scope. -/
abbrev Listing := ScopeId → String → List ScopeId → Bool → List Record

/-- What is found behind a link, and its own fault. -/
def findingsOfLink (loop : FaultId) (enter : Listing) (path : String) (way : List ScopeId)
    (hidden : Bool) (l : LinkStep V) : List Record :=
  let base := Path.along path l.path
  let inner := Path.along base l.transition.kind.itemSegment
  let within := hidden || l.showing.hides
  (if way.contains l.target then
      if l.transition.kind.preservesIdentity then noted inner (some loop) within else []
    else enter l.target inner (l.target :: way) within) ++
    noted base l.showing.fault hidden

/-- What is found at a step. -/
def findingsOfStep (loop : FaultId) (enter : Listing) (path : String) (way : List ScopeId)
    (hidden : Bool) : Step V → List Record
  | .guard _ => []
  | .rule r => noted (Path.along path r.path) r.fault hidden
  | .link l => findingsOfLink loop enter path way hidden l

/-- What is found from a scope on, so many levels deep. -/
def findings (loop : FaultId) (scopes : List (Scope V)) : (levels : Nat) → Listing
  | 0, _, _, _, _ => []
  | levels + 1, id, path, way, hidden =>
    match scopes[id]? with
    | none => []
    | some sc =>
      noted path sc.presence.fault hidden ++
        sc.steps.flatMap (findingsOfStep loop (findings loop scopes levels) path way hidden)

/-! ## 2. Notes -/

/-- The number that the mark of a loop has or would get. -/
def loopNumber (s : Survey) : FaultId := (s.registry.register Fault.referenceLoop).2

/-- **A part of a survey notes exactly the log**, where the mark of a loop has the number `loop`. -/
def Notes (loop : FaultId) (f : Survey → Survey) (log : List Record) : Prop :=
  ∀ s, s.loopNumber = loop → (f s).loopNumber = loop ∧
    ∀ writes, s.template = FaultMap.ofWrites writes →
      (f s).template = FaultMap.ofWrites (writes ++ log.map FaultMap.once)

variable {loop : FaultId}

theorem notes_nil : Notes loop id [] := fun s same => ⟨same, fun writes h => by
  rw [List.map_nil, List.append_nil]
  exact h⟩

/-- One part after another notes one log after the other. -/
theorem Notes.append {f g : Survey → Survey} {log more : List Record} (hf : Notes loop f log)
    (hg : Notes loop g more) : Notes loop (fun s => g (f s)) (log ++ more) := by
  intro s same
  obtain ⟨kept, first⟩ := hf s same
  obtain ⟨kept', second⟩ := hg (f s) kept
  refine ⟨kept', fun writes h => ?_⟩
  rw [second _ (first writes h), List.append_assoc, ← List.map_append]

theorem notes_note (path : String) (fault : Option FaultId) (hidden : Bool) :
    Notes loop (·.note path fault hidden) (noted path fault hidden) := by
  cases fault with
  | none => exact notes_nil
  | some id =>
    cases hidden with
    | true => exact notes_nil
    | false =>
      intro s same
      refine ⟨same, fun writes h => ?_⟩
      rw [noted, List.map_singleton, FaultMap.ofWrites_concat, ← h]
      rfl

theorem notes_resolve (loop : FaultId) (base : String) (relative : Option String) :
    Notes loop (fun s => (s.resolve base relative).1) [] := by
  cases relative <;> exact notes_nil

/-- Once the mark of a loop is registered, it keeps its number. -/
theorem notes_noteLoop (path : String) (hidden : Bool) :
    Notes loop (·.noteLoop path hidden) (noted path (some loop) hidden) := by
  intro s same
  have registered : (s.registry.register Fault.referenceLoop).2 = loop := same
  have found := s.registry.find?_register Fault.referenceLoop
  rw [registered] at found
  have kept : loopNumber { s with
      registry := (s.registry.register Fault.referenceLoop).1, loopPossible := true } = loop := by
    rw [loopNumber, Registry.register_of_find? found]
  unfold noteLoop
  dsimp only
  rw [registered]
  exact notes_note path (some loop) hidden _ kept

section Parts

variable {enter : Enter} {found : Listing}
  (he : ∀ id path way hidden, Notes loop (enter id path way hidden) (found id path way hidden))
include he

theorem notes_link (path : String) (way : List ScopeId) (hidden : Bool) (l : LinkStep V) :
    Notes loop (·.link enter path way hidden l) (findingsOfLink loop found path way hidden l) := by
  rw [funext fun s => link_eq enter path way hidden s l]
  refine Notes.append (f := fun s => behind enter path way hidden s l) ?_ (notes_note _ _ _)
  have read := (notes_resolve loop path l.path).append
    (notes_resolve loop (Path.along path l.path) l.transition.kind.itemSegment)
  split
  · rename_i again
    split
    · rename_i preserves
      have marked := read.append (notes_noteLoop (Path.along (Path.along path l.path)
        l.transition.kind.itemSegment) (hidden || l.showing.hides))
      simpa only [behind, again, preserves, if_true, List.nil_append] using marked
    · rename_i converts
      simpa only [behind, again, converts, if_true, Bool.false_eq_true, if_false,
        List.nil_append] using read
  · rename_i fresh
    have entered := read.append (he l.target (Path.along (Path.along path l.path)
      l.transition.kind.itemSegment) (l.target :: way) (hidden || l.showing.hides))
    simpa only [behind, fresh, Bool.false_eq_true, if_false, List.nil_append] using entered

theorem notes_step (path : String) (way : List ScopeId) (hidden : Bool) (st : Step V) :
    Notes loop (step enter path way hidden · st) (findingsOfStep loop found path way hidden st) := by
  cases st with
  | guard holds => exact notes_nil
  | rule r =>
    have read := (notes_resolve loop path r.path).append
      (notes_note (Path.along path r.path) r.fault hidden)
    simpa only [step, resolve_path, findingsOfStep, List.nil_append] using read
  | link l => exact notes_link he path way hidden l

theorem notes_foldl (path : String) (way : List ScopeId) (hidden : Bool) (steps : List (Step V)) :
    Notes loop (steps.foldl (step enter path way hidden))
      (steps.flatMap (findingsOfStep loop found path way hidden)) := by
  induction steps with
  | nil => exact notes_nil
  | cons st rest ih => exact (notes_step he path way hidden st).append ih

end Parts

/-- **A survey notes its findings.** -/
theorem notes_scope (loop : FaultId) (scopes : List (Scope V)) (levels : Nat) :
    ∀ id path way hidden, Notes loop (scope scopes levels id path way hidden)
      (findings loop scopes levels id path way hidden) := by
  induction levels with
  | zero => exact fun _ _ _ _ => notes_nil
  | succ levels ih =>
    intro id path way hidden s same
    unfold scope findings
    cases scopes[id]? with
    | none => exact notes_nil s same
    | some sc =>
      exact (notes_note path sc.presence.fault hidden).append
        (notes_foldl ih path way hidden sc.steps) s same

end Assay.Survey

/-! ## 3. Schemes -/

namespace Assay

variable {V : Type}

/-- The findings of the survey of a scheme, in the order in which it comes to them. -/
def Scheme.findings (s : Scheme V) : List Record :=
  Survey.findings (s.registry.register Fault.referenceLoop).2 s.scopes (s.scopes.length + 1) 0 "" [0]
    false

/-- **The template is what the findings leave**, each put at its path once. -/
theorem template_eq_findings {catalogue : Catalogue V} {root : SpecId} {scheme : Scheme V}
    (built : Scheme.build? catalogue root = .ok scheme) :
    scheme.template = FaultMap.ofWrites (scheme.findings.map FaultMap.once) := by
  obtain ⟨p, -, rfl⟩ := ended_of_build built
  obtain ⟨kept, noted⟩ := Survey.notes_scope
    (Survey.loopNumber ⟨p.gathered.registry, FaultMap.empty, [], false⟩) p.scopes
    (p.scopes.length + 1) 0 "" [0] false ⟨p.gathered.registry, FaultMap.empty, [], false⟩ rfl
  have template := noted [] rfl
  rw [← kept, List.nil_append] at template
  exact template

end Assay
