import Mathlib.Data.List.Perm.Subperm
import Assay.Proofs.Fault.Records
import Assay.Scheme.Survey

/-!
# What a survey lists

A survey goes along every way of links that meets no scope twice, and what it has listed it never
takes back. The bound on its levels is never felt: on such a way there are no more scopes than the
scheme has.

* `Grows s t` -- what the survey `s` lists, `t` lists too, and a loop that `s` has noted is noted in
  `t`; every part of the survey grows;
* `Walks scopes way path hidden` -- the survey walks along a way, to a path;
* `Carries sc own id` -- a scope has a fault, at a path of its own;
* **`lists_of_walks`** -- wherever the survey walks unhidden, it lists the faults of the scope;
* `Invariant scopes P Q` -- the survey goes along paths that satisfy `P`, and what it does there keeps
  `Q`; **`invariant_scope`** says that the whole survey keeps `Q` then.
-/

namespace Assay.Survey

variable {V : Type}

/-! ## 1. Nothing is taken back -/

/-- What the one survey has found, the other has found too. -/
structure Grows (s t : Survey) : Prop where
  lists : ∀ path id, s.template.Lists path id → t.template.Lists path id
  loop : s.loopPossible = true → t.loopPossible = true
  resolved : ∀ entry ∈ s.resolved, entry ∈ t.resolved

theorem Grows.refl (s : Survey) : Grows s s := ⟨fun _ _ h => h, id, fun _ h => h⟩

theorem Grows.trans {s t u : Survey} (h : Grows s t) (h' : Grows t u) : Grows s u :=
  ⟨fun path id hl => h'.lists path id (h.lists path id hl), fun hl => h'.loop (h.loop hl),
    fun entry he => h'.resolved entry (h.resolved entry he)⟩

theorem note_loop (s : Survey) (path : String) (fault : Option FaultId) (hidden : Bool) :
    (s.note path fault hidden).loopPossible = s.loopPossible := by
  unfold note
  split <;> rfl

theorem note_resolved (s : Survey) (path : String) (fault : Option FaultId) (hidden : Bool) :
    (s.note path fault hidden).resolved = s.resolved := by
  unfold note
  split <;> rfl

theorem grows_note (s : Survey) (path : String) (fault : Option FaultId) (hidden : Bool) :
    Grows s (s.note path fault hidden) := by
  refine ⟨fun p i h => ?_, fun h => (note_loop s path fault hidden).trans h,
    fun _ h => (note_resolved s path fault hidden).symm ▸ h⟩
  unfold note
  split
  · exact (FaultMap.lists_pushUnique _ _ _ _ _).mpr (.inl h)
  · exact h

/-- What is not hidden is listed. -/
theorem lists_note (s : Survey) (path : String) (id : FaultId) :
    (s.note path (some id) false).template.Lists path id :=
  (FaultMap.lists_pushUnique _ _ _ _ _).mpr (.inr ⟨rfl, rfl⟩)

theorem resolve_path (s : Survey) (base : String) (relative : Option String) :
    (s.resolve base relative).2 = Path.along base relative := by
  cases relative <;> rfl

theorem resolve_template (s : Survey) (base : String) (relative : Option String) :
    (s.resolve base relative).1.template = s.template := by
  cases relative <;> rfl

theorem resolve_loop (s : Survey) (base : String) (relative : Option String) :
    (s.resolve base relative).1.loopPossible = s.loopPossible := by
  cases relative <;> rfl

theorem grows_resolve (s : Survey) (base : String) (relative : Option String) :
    Grows s (s.resolve base relative).1 := by
  refine ⟨fun path id h => ?_, fun h => (resolve_loop s base relative).trans h, fun entry h => ?_⟩
  · rwa [resolve_template]
  · cases relative with
    | none => exact h
    | some relative => exact List.mem_cons_of_mem _ h

/-- A loop that is noted is possible. -/
theorem noteLoop_loop (s : Survey) (path : String) (hidden : Bool) :
    (s.noteLoop path hidden).loopPossible = true := note_loop _ _ _ _

theorem noteLoop_resolved (s : Survey) (path : String) (hidden : Bool) :
    (s.noteLoop path hidden).resolved = s.resolved := note_resolved _ _ _ _

theorem grows_noteLoop (s : Survey) (path : String) (hidden : Bool) :
    Grows s (s.noteLoop path hidden) := by
  refine ⟨fun p i h => ?_, fun _ => noteLoop_loop s path hidden,
    fun _ h => (noteLoop_resolved s path hidden).symm ▸ h⟩
  unfold noteLoop
  exact (grows_note _ _ _ _).lists p i h

/-- What is behind a link, without the fault of the link itself. -/
def behind (enter : Enter) (path : String) (way : List ScopeId) (hidden : Bool) (s : Survey)
    (l : LinkStep V) : Survey :=
  let base := Path.along path l.path
  let inner := Path.along base l.transition.kind.itemSegment
  let s := ((s.resolve path l.path).1.resolve base l.transition.kind.itemSegment).1
  if way.contains l.target then
    if l.transition.kind.preservesIdentity then s.noteLoop inner (hidden || l.showing.hides) else s
  else enter l.target inner (l.target :: way) (hidden || l.showing.hides) s

theorem link_eq (enter : Enter) (path : String) (way : List ScopeId) (hidden : Bool) (s : Survey)
    (l : LinkStep V) :
    s.link enter path way hidden l =
      (behind enter path way hidden s l).note (Path.along path l.path) l.showing.fault hidden := by
  simp only [link, behind, resolve_path]

/-- A way into the scopes that takes nothing back. -/
def Enter.Growing (enter : Enter) : Prop :=
  ∀ id path way hidden s, Grows s (enter id path way hidden s)

section Parts

variable {enter : Enter} (he : Enter.Growing enter)
include he

/-- Behind a link nothing is taken back that was read for it. -/
theorem grows_inner (path : String) (way : List ScopeId) (hidden : Bool) (s : Survey)
    (l : LinkStep V) :
    Grows ((s.resolve path l.path).1.resolve (Path.along path l.path)
      l.transition.kind.itemSegment).1 (behind enter path way hidden s l) := by
  unfold behind
  dsimp only
  split
  · split
    · exact grows_noteLoop _ _ _
    · exact Grows.refl _
  · exact he _ _ _ _ _

theorem grows_behind (path : String) (way : List ScopeId) (hidden : Bool) (s : Survey)
    (l : LinkStep V) : Grows s (behind enter path way hidden s l) :=
  ((grows_resolve s path l.path).trans (grows_resolve _ _ _)).trans
    (grows_inner he path way hidden s l)

theorem grows_link (path : String) (way : List ScopeId) (hidden : Bool) (s : Survey)
    (l : LinkStep V) : Grows s (s.link enter path way hidden l) := by
  rw [link_eq]
  exact (grows_behind he path way hidden s l).trans (grows_note _ _ _ _)

theorem grows_step (path : String) (way : List ScopeId) (hidden : Bool) (s : Survey)
    (st : Step V) : Grows s (step enter path way hidden s st) := by
  cases st with
  | guard holds => exact Grows.refl s
  | rule rule => exact (grows_resolve s path rule.path).trans (grows_note _ _ _ _)
  | link l => exact grows_link he path way hidden s l

theorem grows_foldl (path : String) (way : List ScopeId) (hidden : Bool) (steps : List (Step V))
    (s : Survey) : Grows s (steps.foldl (step enter path way hidden) s) := by
  induction steps generalizing s with
  | nil => exact Grows.refl s
  | cons st rest ih => exact (grows_step he path way hidden s st).trans (ih _)

/-- Every step of a scope is taken, and nothing is taken back behind it. -/
theorem step_of_mem {steps : List (Step V)} {st : Step V} (h : st ∈ steps) (path : String)
    (way : List ScopeId) (hidden : Bool) (s : Survey) :
    ∃ t, Grows (step enter path way hidden t st) (steps.foldl (step enter path way hidden) s) := by
  induction steps generalizing s with
  | nil => exact absurd h List.not_mem_nil
  | cons first rest ih =>
    rcases List.mem_cons.mp h with rfl | h
    · exact ⟨s, grows_foldl he path way hidden rest _⟩
    · exact ih h _

end Parts

theorem growing_scope (scopes : List (Scope V)) (levels : Nat) :
    Enter.Growing (scope scopes levels) := by
  induction levels with
  | zero => exact fun _ _ _ _ s => Grows.refl s
  | succ levels ih =>
    intro id path way hidden s
    unfold scope
    split
    · exact Grows.refl s
    · exact (grows_note s _ _ _).trans (grows_foldl ih path way hidden _ _)

/-! ## 2. Walks -/

/-- **The survey walks along a way of scopes**, the last one first, to a path; `hidden` tells whether
    a link on the way replaces faults. -/
inductive Walks (scopes : List (Scope V)) : List ScopeId → String → (hidden : Bool) → Prop where
  | root : Walks scopes [0] "" false
  | link {id : ScopeId} {rest : List ScopeId} {path : String} {hidden : Bool} {sc : Scope V}
      {l : LinkStep V} (walks : Walks scopes (id :: rest) path hidden)
      (here : scopes[id]? = some sc) (step : .link l ∈ sc.steps) (fresh : l.target ∉ id :: rest) :
      Walks scopes (l.target :: id :: rest)
        (Path.along (Path.along path l.path) l.transition.kind.itemSegment)
        (hidden || l.showing.hides)

/-- No scope is met twice, and those behind the last one are there. -/
theorem Walks.fresh {scopes : List (Scope V)} {way : List ScopeId} {path : String} {hidden : Bool}
    (h : Walks scopes way path hidden) :
    way.Nodup ∧ ∀ id ∈ way.tail, id < scopes.length := by
  induction h with
  | root =>
    exact ⟨List.nodup_cons.mpr ⟨List.not_mem_nil, List.nodup_nil⟩,
      fun id hid => absurd hid List.not_mem_nil⟩
  | link walks here step fresh ih =>
    refine ⟨List.nodup_cons.mpr ⟨fresh, ih.1⟩, fun x hx => ?_⟩
    rcases List.mem_cons.mp hx with rfl | hx
    · exact (List.getElem?_eq_some_iff.mp here).1
    · exact ih.2 x hx

/-- There is room for every way. -/
theorem Walks.room {scopes : List (Scope V)} {id : ScopeId} {rest : List ScopeId} {path : String}
    {hidden : Bool} (h : Walks scopes (id :: rest) path hidden) : rest.length ≤ scopes.length := by
  have hsub : rest ⊆ List.range scopes.length := fun x hx => List.mem_range.mpr (h.fresh.2 x hx)
  have hlen := (List.subperm_of_subset (List.nodup_cons.mp h.fresh.1).2 hsub).length_le
  rwa [List.length_range] at hlen

/-! ## 3. What is listed -/

/-- The scope has a fault, at a path of its own. -/
inductive Carries (sc : Scope V) : Option String → FaultId → Prop where
  | presence {id : FaultId} (carried : sc.presence.fault = some id) : Carries sc none id
  | rule {rule : RuleStep V} {id : FaultId} (step : .rule rule ∈ sc.steps)
      (carried : rule.fault = some id) : Carries sc rule.path id
  | link {l : LinkStep V} {id : FaultId} (step : .link l ∈ sc.steps)
      (carried : l.showing.fault = some id) : Carries sc l.path id

/-- A scope that is entered openly lists what it carries. -/
theorem lists_scope {scopes : List (Scope V)} {id : ScopeId} {sc : Scope V}
    (here : scopes[id]? = some sc) {own : Option String} {fault : FaultId}
    (h : Carries sc own fault) (levels : Nat) (path : String) (way : List ScopeId) (s : Survey) :
    (scope scopes (levels + 1) id path way false s).template.Lists (Path.along path own) fault := by
  have grows := growing_scope scopes levels
  unfold scope
  rw [here]
  dsimp only
  cases h with
  | presence carried =>
    rw [carried]
    exact (grows_foldl grows path way false sc.steps _).lists _ _ (lists_note s path fault)
  | rule step carried =>
    obtain ⟨t, ht⟩ := step_of_mem grows step path way false (s.note path sc.presence.fault false)
    refine ht.lists _ _ ?_
    simp only [Survey.step, resolve_path, carried]
    exact lists_note _ _ _
  | link step carried =>
    obtain ⟨t, ht⟩ := step_of_mem grows step path way false (s.note path sc.presence.fault false)
    refine ht.lists _ _ ?_
    simp only [Survey.step, link_eq, carried]
    exact lists_note _ _ _

/-- The survey `t` has entered the last scope of a way with as many levels as are left for it. -/
def Entered (scopes : List (Scope V)) (t : Survey) (id : ScopeId) (rest : List ScopeId)
    (path : String) (hidden : Bool) : Prop :=
  ∃ levels s, scopes.length + 1 ≤ levels + rest.length ∧
    Grows (scope scopes levels id path (id :: rest) hidden s) t

/-- Behind every link of a scope that was entered the survey has looked, and one level is used up. -/
theorem Entered.behind {scopes : List (Scope V)} {t : Survey} {id : ScopeId} {rest : List ScopeId}
    {path : String} {hidden : Bool} (h : Entered scopes t id rest path hidden)
    (walks : Walks scopes (id :: rest) path hidden) {sc : Scope V}
    (here : scopes[id]? = some sc) {l : LinkStep V} (step : .link l ∈ sc.steps) :
    ∃ levels s, scopes.length + 1 ≤ levels + (id :: rest).length ∧
      Grows (Survey.behind (scope scopes levels) path (id :: rest) hidden s l) t := by
  obtain ⟨levels, s, enough, grown⟩ := h
  -- the levels cannot be used up, for the way has no more scopes than there are
  have room := walks.room
  obtain ⟨levels, rfl⟩ : ∃ n, levels = n + 1 := ⟨levels - 1, by omega⟩
  obtain ⟨u, hu⟩ := step_of_mem (growing_scope scopes levels) step path (id :: rest) hidden
    (s.note path sc.presence.fault hidden)
  have inside : Grows (Survey.behind (scope scopes levels) path (id :: rest) hidden u l)
      (scope scopes (levels + 1) id path (id :: rest) hidden s) := by
    simp only [scope, here]
    refine Grows.trans ?_ hu
    simp only [Survey.step, link_eq]
    exact grows_note _ _ _ _
  exact ⟨levels, u, by rw [List.length_cons]; omega, inside.trans grown⟩

/-- **Wherever it walks, the survey enters.** -/
theorem entered_of_walks (registry : Registry) {scopes : List (Scope V)} {id : ScopeId}
    {rest : List ScopeId} {path : String} {hidden : Bool}
    (h : Walks scopes (id :: rest) path hidden) :
    Entered scopes (ofScopes registry scopes) id rest path hidden := by
  generalize hway : id :: rest = way at h
  induction h generalizing id rest with
  | root =>
    cases hway
    exact ⟨scopes.length + 1, _, Nat.le_refl _, Grows.refl _⟩
  | link walks here step fresh ih =>
    rename_i last before path hidden sc l
    cases hway
    obtain ⟨levels, s, enough, grown⟩ := (ih rfl).behind walks here step
    have notOn : (last :: before).contains l.target = false := by simpa using fresh
    simp only [Survey.behind, notOn, Bool.false_eq_true, if_false] at grown
    exact ⟨levels, _, enough, grown⟩

/-- Wherever it walks, the survey has a level left for the scope. -/
theorem scope_of_walks (registry : Registry) {scopes : List (Scope V)} {id : ScopeId}
    {rest : List ScopeId} {path : String} {hidden : Bool}
    (h : Walks scopes (id :: rest) path hidden) :
    ∃ levels s, Grows (scope scopes (levels + 1) id path (id :: rest) hidden s)
      (ofScopes registry scopes) := by
  obtain ⟨levels, s, enough, grown⟩ := entered_of_walks registry h
  have room := h.room
  obtain ⟨levels, rfl⟩ : ∃ n, levels = n + 1 := ⟨levels - 1, by omega⟩
  exact ⟨levels, s, grown⟩

/-- **Wherever the survey walks unhidden, it lists what the scope carries.** -/
theorem lists_of_walks {registry : Registry} {scopes : List (Scope V)} {id : ScopeId}
    {rest : List ScopeId} {path : String} (h : Walks scopes (id :: rest) path false)
    {sc : Scope V} (here : scopes[id]? = some sc) {own : Option String} {fault : FaultId}
    (hc : Carries sc own fault) :
    (ofScopes registry scopes).template.Lists (Path.along path own) fault := by
  obtain ⟨levels, s, grown⟩ := scope_of_walks registry h
  exact grown.lists _ _ (lists_scope here hc levels path (id :: rest) s)

end Assay.Survey

namespace Assay

variable {V : Type}

/-! ## 4. What a survey keeps -/

/-- The path of a step, seen from its scope. -/
def Step.path : Step V → Option String
  | .guard _ => none
  | .rule r => r.path
  | .link l => l.path

namespace Survey

/-- **Surveys of the scopes go along paths that satisfy `P`, and keep `Q`.** There are three things that
    a survey does where it is: it notes a fault, reads a relative path, and notes a loop. -/
structure Invariant (scopes : List (Scope V)) (P : String → Prop) (Q : Survey → Prop) : Prop where
  along : ∀ sc ∈ scopes, ∀ st ∈ sc.steps, ∀ path, P path → P (Path.along path st.path)
  item : ∀ (kind : LinkKind) path, P path → P (Path.along path kind.itemSegment)
  note : ∀ sc ∈ scopes, ∀ own id, Carries sc own id →
    ∀ s path hidden, P path → Q s → Q (s.note path (some id) hidden)
  resolve : ∀ s base relative, Q s → Q (s.resolve base relative).1
  noteLoop : ∀ s path hidden, P path → Q s → Q (s.noteLoop path hidden)

section Invariant

variable {scopes : List (Scope V)} {P : String → Prop} {Q : Survey → Prop}
  (h : Invariant scopes P Q) {sc : Scope V} (there : sc ∈ scopes)
include h there

/-- What a scope may carry can be noted. -/
theorem invariant_note {own : Option String} {fault : Option FaultId}
    (carried : ∀ id, fault = some id → Carries sc own id) {path : String} (hp : P path)
    (hidden : Bool) {s : Survey} (hs : Q s) : Q (s.note path fault hidden) := by
  cases fault with
  | none => exact hs
  | some id => exact h.note sc there own id (carried id rfl) s path hidden hp hs

section Parts

variable {enter : Enter} (he : ∀ id path way hidden s, P path → Q s → Q (enter id path way hidden s))
  {path : String} (hp : P path) (way : List ScopeId) (hidden : Bool)
include he hp

theorem invariant_link {l : LinkStep V} (mem : .link l ∈ sc.steps) {s : Survey} (hs : Q s) :
    Q (s.link enter path way hidden l) := by
  have base : P (Path.along path l.path) := h.along sc there _ mem path hp
  have inner := h.item l.transition.kind _ base
  have moved := h.resolve _ (Path.along path l.path) l.transition.kind.itemSegment
    (h.resolve s path l.path hs)
  have found : Q (behind enter path way hidden s l) := by
    unfold behind
    dsimp only
    split
    · split
      · exact h.noteLoop _ _ _ inner moved
      · exact moved
    · exact he _ _ _ _ _ inner moved
  rw [link_eq]
  exact invariant_note h there (fun _ => .link mem) base hidden found

theorem invariant_step {st : Step V} (mem : st ∈ sc.steps) {s : Survey} (hs : Q s) :
    Q (step enter path way hidden s st) := by
  cases st with
  | guard holds => exact hs
  | rule r =>
    have own : P (Path.along path r.path) := h.along sc there _ mem path hp
    simp only [step, resolve_path]
    exact invariant_note h there (fun _ => .rule mem) own hidden (h.resolve s path r.path hs)
  | link l => exact invariant_link h there he hp way hidden mem hs

theorem invariant_foldl {steps : List (Step V)} (sub : steps ⊆ sc.steps) {s : Survey} (hs : Q s) :
    Q (steps.foldl (step enter path way hidden) s) := by
  induction steps generalizing s with
  | nil => exact hs
  | cons st more ih =>
    obtain ⟨hst, hmore⟩ := List.cons_subset.mp sub
    exact ih hmore (invariant_step h there he hp way hidden hst hs)

end Parts

end Invariant

/-- **What every part of a survey keeps, the survey keeps.** -/
theorem invariant_scope {scopes : List (Scope V)} {P : String → Prop} {Q : Survey → Prop}
    (h : Invariant scopes P Q) (levels : Nat) :
    ∀ id path way hidden s, P path → Q s → Q (scope scopes levels id path way hidden s) := by
  induction levels with
  | zero => exact fun _ _ _ _ _ _ hs => hs
  | succ levels ih =>
    intro id path way hidden s hp hs
    unfold scope
    cases here : scopes[id]? with
    | none => exact hs
    | some sc =>
      have there := List.mem_of_getElem? here
      exact invariant_foldl h there ih hp way hidden (List.Subset.refl _)
        (invariant_note h there (fun _ => .presence) hp hidden hs)

end Survey

end Assay
