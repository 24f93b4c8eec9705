import Assay.Scheme.Clause
import Assay.Specification.Catalogue

/-!
# Legal chains of commands

The state lattice says which command may come next; compilation takes the commands apart into clauses
and refuses some of them. This file says that the two agree: what the lattice lets through can always
be taken apart.

* `Draft.Legal d` -- the lattice lets the commands of the draft through; `run_append`, `run_call` --
  it takes commands one after another, and a call as its command;
* `fits_of_run` -- behind the first command no presence command comes, and no parameter comes behind
  a guard;
* `Draft.Clausal d` -- the commands of the draft can be taken apart; **`clausal_of_legal`** -- so can
  those of a legal draft.
-/

namespace Assay

open Specification

variable {V : Type}

/-! ## 1. What the lattice forbids -/

/-- Nothing leads back to the start but what changes nothing. -/
theorem next_ne_start {s t : State} {kind : Kind} (h : s.next kind = some t)
    (acts : kind ≠ .neutral) : t ≠ .start := by
  rintro rfl
  cases kind with
  | neutral => exact acts rfl
  | required | «optional» | forbidden | guard | rule | condition | place =>
    simp only [State.next] at h
    split at h <;> cases h
  | message | extraMessage | code | extraCode => cases s <;> cases h

theorem kind_ne_neutral (c : Command V) : c.kind ≠ .neutral := by
  rcases c with a | p
  · cases a <;> exact Kind.noConfusion
  · cases p <;> exact Kind.noConfusion

/-- No parameter stands first, and none behind a guard. -/
theorem next_parameter_eq_none (p : Parameter V) :
    State.next .start p.kind = none ∧ State.next .opened p.kind = none := by
  cases p <;> exact ⟨rfl, rfl⟩

/-- A presence command stands first. -/
theorem next_presence_eq_none {s : State} (started : s ≠ .start) :
    s.next .required = none ∧ s.next .optional = none ∧ s.next .forbidden = none :=
  ⟨if_neg started, if_neg started, if_neg started⟩

theorem next_guard_eq_some {s t : State} (h : s.next .guard = some t) : t = .opened := by
  simp only [State.next] at h
  split at h
  · cases h
  · exact (Option.some.inj h).symm

/-! ## 2. Legal drafts -/

/-- The lattice lets the commands of the draft through. -/
def Draft.Legal (d : Draft V) : Prop := ∃ t, State.run .start (d.commands.map Command.kind) = some t

/-- Every draft of the catalogue is legal. -/
def Catalogue.Legal (c : Catalogue V) : Prop := ∀ id d, c.draft? id = some d → d.Legal

theorem run_append (s : State) (kinds more : List Kind) :
    s.run (kinds ++ more) = (s.run kinds).bind (·.run more) := by
  induction kinds generalizing s with
  | nil => rfl
  | cons kind rest ih =>
    simp only [List.cons_append, State.run]
    cases s.next kind with
    | none => rfl
    | some t => exact ih t

theorem commands_report (issues : List Issue) (d : Draft V) :
    (issues.foldl Draft.report d).commands = d.commands := by
  induction issues generalizing d with
  | nil => rfl
  | cons issue rest ih => exact ih (d.report issue)

/-- A call takes the lattice where its command does. -/
theorem run_call (s : State) (call : Call V) :
    s.run (call.command.toList.map Command.kind) = s.next call.kind := by
  unfold Call.kind
  cases call.command with
  | none => rfl
  | some command =>
    simp only [Option.toList_some, List.map_cons, List.map_nil, State.run]
    exact Option.bind_fun_some _

/-! ## 3. Clauses -/

/-- The commands of the draft are clauses that can be written, without a parameter in front. -/
def Draft.Clausal (d : Draft V) : Prop :=
  Clause.ofCommands? d.commands = .ok (Clause.split d.commands).2

namespace Clause

/-- The commands can be taken apart behind a command that leaves the lattice in a state. -/
structure Fits (s : State) (commands : List (Command V)) : Prop where
  /-- A guard takes no parameters. -/
  bare : s = .opened → (split commands).1 = []
  /-- The clauses can be written, but not as the first ones. -/
  faultless : ∀ index, 0 < index → firstFault index (split commands).2 = none

theorem fits_of_run {commands : List (Command V)} {s t : State} (started : s ≠ .start)
    (h : s.run (commands.map Command.kind) = some t) : Fits s commands := by
  induction commands generalizing s with
  | nil => exact ⟨fun _ => rfl, fun _ _ => rfl⟩
  | cons command rest ih =>
    obtain ⟨u, next, behind⟩ := Option.bind_eq_some_iff.mp h
    have inner := ih (next_ne_start next (kind_ne_neutral command)) behind
    cases command with
    | parameter p =>
      refine ⟨fun opened => ?_, inner.faultless⟩
      subst opened
      exact absurd ((next_parameter_eq_none p).2.symm.trans next) nofun
    | action a =>
      refine ⟨fun _ => rfl, fun index positive => ?_⟩
      have own : fault? ⟨a, (split rest).1⟩ index = none := by
        obtain ⟨required, «optional», forbidden⟩ := next_presence_eq_none started
        cases a with
        | required => exact absurd (required.symm.trans next) nofun
        | «optional» => exact absurd («optional».symm.trans next) nofun
        | forbidden => exact absurd (forbidden.symm.trans next) nofun
        | rule holds fault => rfl
        | link transition target => rfl
        | guard holds => rw [inner.bare (next_guard_eq_some next)]; rfl
      simp only [split, firstFault, own, Option.none_or]
      exact inner.faultless _ (by omega)

/-- **The commands of a legal draft are clauses.** -/
theorem clausal_of_legal {d : Draft V} (legal : d.Legal) : d.Clausal := by
  obtain ⟨t, h⟩ := legal
  unfold Draft.Clausal
  cases hc : d.commands with
  | nil => rfl
  | cons command rest =>
    rw [hc] at h
    obtain ⟨u, next, behind⟩ := Option.bind_eq_some_iff.mp h
    have inner := fits_of_run (next_ne_start next (kind_ne_neutral command)) behind
    cases command with
    | parameter p => exact absurd ((next_parameter_eq_none p).1.symm.trans next) nofun
    | action a =>
      -- the first clause alone may say whether a value may be missing
      have own : fault? ⟨a, (split rest).1⟩ 0 = none := by
        cases a with
        | guard holds => rw [inner.bare (next_guard_eq_some next)]; rfl
        | _ => rfl
      simp only [ofCommands?, split, firstFault, own, Option.none_or]
      rw [inner.faultless _ (by omega)]

end Clause

end Assay
