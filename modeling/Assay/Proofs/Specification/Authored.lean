import Assay.Proofs.Path.WellFormed
import Assay.Proofs.Scheme.Parts
import Assay.Proofs.Scheme.Survey

/-!
# Authored paths

Paths and names come into a scheme through commands, and a command that was given a malformed one
brings an issue with it. A scheme is built only without issues, so where its links and rules put
errors can be relied on.

* `Draft.Written d` -- the draft is what some chain of calls has written;
* **`Written.honest`** -- such a draft notes every issue of its commands; `Written.clean` -- so without
  issues all of them were given what they may be given;
* `valid_rulePath`, `valid_linkPath` -- the paths of such clauses are valid;
* **`placed_of_build`** -- so are those of all steps of a scheme that was built.
-/

namespace Assay

variable {V : Type}

/-! ## 1. Written drafts -/

/-- The draft is what a chain of calls has written. -/
def Draft.Written (d : Draft V) : Prop := ∃ type calls, Draft.write? type calls = .ok d

theorem Draft.written_of_toOption {type : ValueType} {calls : List (Call V)} {d : Draft V}
    (h : (Draft.write? type calls).toOption = some d) : d.Written := by
  refine ⟨type, calls, ?_⟩
  cases made : Draft.write? type calls with
  | error e =>
    rw [made] at h
    cases h
  | ok written =>
    rw [made] at h
    exact congrArg Except.ok (Option.some.inj h)

/-- Every draft of the catalogue was written. -/
def Catalogue.Written (c : Catalogue V) : Prop := ∀ id d, c.draft? id = some d → d.Written

namespace Draft

/-- The draft notes the issue. -/
def Notes (d : Draft V) (issue : Issue) : Prop := ∃ located ∈ d.issues, located.issue = issue

/-- The draft notes every issue of its commands. -/
def Honest (d : Draft V) : Prop := ∀ command ∈ d.commands, ∀ issue ∈ command.issues, d.Notes issue

/-- Reporting adds to what is noted. -/
theorem notes_report (issues : List Issue) (d : Draft V) (issue : Issue) :
    (issues.foldl report d).Notes issue ↔ d.Notes issue ∨ issue ∈ issues := by
  induction issues generalizing d with
  | nil => simp
  | cons first rest ih =>
    have step : (d.report first).Notes issue ↔ d.Notes issue ∨ issue = first := by
      simp [Notes, report, or_and_right, exists_or, eq_comm]
    rw [List.foldl_cons, ih, step, List.mem_cons, or_assoc]

theorem honest_report {d : Draft V} (h : d.Honest) (issues : List Issue) :
    (issues.foldl report d).Honest := by
  intro command mem issue own
  rw [commands_report] at mem
  exact (notes_report issues d issue).mpr (.inl (h command mem issue own))

/-- A command that is added brings its issues with it. -/
theorem honest_push {d : Draft V} (h : d.Honest) (command : Command V) :
    (d.push command).Honest := by
  intro other mem issue own
  unfold push at mem ⊢
  rw [commands_report] at mem
  refine (notes_report command.issues _ issue).mpr ?_
  rcases List.mem_append.mp mem with mem | mem
  · exact .inl (h other mem issue own)
  · rw [List.mem_singleton.mp mem] at own
    exact .inr own

theorem honest_apply {d : Draft V} (h : d.Honest) (call : Call V) : (call.apply d).Honest := by
  have same : ({ d with isNull := d.isNull.or call.isNull } : Draft V).Honest := h
  unfold Call.apply
  cases call.command with
  | none => exact honest_report same call.issues
  | some command => exact honest_report (honest_push same command) call.issues

theorem honest_of_writeFrom {calls : List (Call V)} {index : Nat} {s : Specification.State}
    {d e : Draft V} (h : d.Honest) (written : writeFrom? index s d calls = .ok e) : e.Honest := by
  induction calls generalizing index s d with
  | nil =>
    cases written
    exact h
  | cons call rest ih =>
    unfold writeFrom? at written
    split at written
    · cases written
    · exact ih (honest_apply h call) written

/-- **A draft that was written notes every issue of its commands.** -/
theorem Written.honest {d : Draft V} (h : d.Written) : d.Honest := by
  obtain ⟨type, calls, written⟩ := h
  exact honest_of_writeFrom (fun _ mem => absurd mem List.not_mem_nil) written

/-- Without issues no command was given anything malformed. -/
theorem Written.clean {d : Draft V} (h : d.Written) (clean : d.issues = []) :
    ∀ command ∈ d.commands, command.issues = [] := by
  intro command mem
  refine List.eq_nil_iff_forall_not_mem.mpr fun issue own => ?_
  obtain ⟨located, noted, -⟩ := h.honest command mem issue own
  rw [clean] at noted
  exact absurd noted List.not_mem_nil

end Draft

/-! ## 2. Clauses -/

/-- No command of the clause was given anything malformed. -/
structure Clause.Clean (c : Clause V) : Prop where
  action : c.action.issues = []
  parameters : ∀ p ∈ c.parameters, p.issues = []

namespace Clause

/-- The commands of a clause are among those that were taken apart. -/
theorem mem_of_split {commands : List (Command V)} {c : Clause V} (hc : c ∈ (split commands).2) :
    .action c.action ∈ commands ∧ ∀ p ∈ c.parameters, .parameter p ∈ commands := by
  have whole := split_join commands
  have among (command : Command V) (own : command ∈ c.commands) : command ∈ commands :=
    whole ▸ List.mem_append_right _ (List.mem_flatMap.mpr ⟨c, hc, own⟩)
  exact ⟨among _ List.mem_cons_self, fun p hp =>
    among _ (List.mem_cons_of_mem _ (List.mem_map_of_mem hp))⟩

theorem clean_of_split {commands : List (Command V)}
    (clean : ∀ command ∈ commands, command.issues = []) : ∀ c ∈ (split commands).2, c.Clean := by
  intro c hc
  obtain ⟨acts, sets⟩ := mem_of_split hc
  exact ⟨clean _ acts, fun p hp => clean _ (sets p hp)⟩

/-- Where a clause puts its errors, a path was given or a name. -/
theorem valid_placement {c : Clause V} (h : c.Clean) {place : Placement}
    (placed : c.placement = some place) :
    Path.valid place.beside = true ∧ Path.valid place.instead = true := by
  obtain ⟨p, mem, gives⟩ := List.mem_filterMap.mp (List.mem_of_getLast? placed)
  have fine := h.parameters p mem
  cases p with
  | path text =>
    cases gives
    have ok : Path.valid text = true := by
      by_contra bad
      rw [Parameter.issues, if_neg bad] at fine
      cases fine
    exact ⟨ok, ok⟩
  | name text =>
    cases gives
    have ok : Path.isName text = true := by
      by_contra bad
      rw [Parameter.issues, nameIssues, if_neg bad] at fine
      cases fine
    exact (Path.valid_beside ok).symm
  | _ => cases gives

theorem valid_rulePath {c : Clause V} (h : c.Clean) {path : String}
    (own : c.rulePath = some path) : Path.valid path = true := by
  obtain ⟨place, placed, rfl⟩ := Option.map_eq_some_iff.mp own
  exact (valid_placement h placed).1

theorem valid_linkPath {c : Clause V} (h : c.Clean) {transition : Transition V} {target : SpecId}
    (acts : c.action = .link transition target) {path : String}
    (own : c.linkPath transition = some path) : Path.valid path = true := by
  unfold linkPath at own
  cases named : transition.name? with
  | none =>
    rw [named] at own
    exact valid_rulePath h own
  | some name =>
    rw [named] at own
    cases placed : c.placement with
    | some place =>
      rw [placed] at own
      cases own
      exact (valid_placement h placed).2
    | none =>
      rw [placed] at own
      cases own
      -- without a parameter the path is the name of the member
      have fine := h.action
      rw [acts, Action.issues, named] at fine
      by_contra bad
      have isName : ¬Path.isName name = true := fun ok => bad (Path.valid_beside ok).1
      simp only [nameIssues, if_neg isName] at fine
      cases fine

end Clause

/-! ## 3. Scopes -/

/-- The paths of the steps are valid. -/
def Scope.Placed (sc : Scope V) : Prop :=
  ∀ st ∈ sc.steps, ∀ path, st.path = some path → Path.valid path = true

/-- Where no command was given anything malformed, the scope that the draft becomes puts errors at valid
    paths. -/
theorem Draft.placed_scope {d : Draft V} (clean : ∀ command ∈ d.commands, command.issues = [])
    (r : Registry) (order : List SpecId) : (d.scope r order).Placed := by
  intro st mem path own
  obtain ⟨part, made, is_step⟩ := List.mem_filterMap.mp mem
  obtain ⟨c, hc, rfl⟩ := List.mem_map.mp made
  have fine := Clause.clean_of_split clean c hc
  rcases Clause.step?_part is_step with ⟨holds, rfl⟩ | ⟨rule, rfl, placed⟩ | ⟨l, target, rfl, acts, placed⟩
  · cases own
  · exact Clause.valid_rulePath fine (placed.symm.trans own)
  · exact Clause.valid_linkPath fine acts (placed.symm.trans own)

/-- **All steps of a scheme have valid paths**, if its drafts were written. -/
theorem placed_of_build {catalogue : Catalogue V} (written : catalogue.Written) {root : SpecId}
    {scheme : Scheme V} (built : Scheme.build? catalogue root = .ok scheme) :
    ∀ sc ∈ scheme.scopes, sc.Placed := by
  obtain ⟨p, ended, rfl⟩ := ended_of_build built
  intro sc mem
  obtain ⟨id, seen, d, defined, rfl⟩ := ended.mem_scopes mem
  have none : catalogue.issues id = [] := List.flatMap_eq_nil_iff.mp ended.issues id seen
  rw [Catalogue.issues, defined] at none
  exact Draft.placed_scope ((written id d defined).clean none) _ _

end Assay
