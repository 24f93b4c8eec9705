import Assay.Proofs.Visit.Guard
import Assay.Proofs.Visit.Meaning

/-!
# Visits do what schemes mean

A full visit that is not guarded is set beside the account of its scheme.

* `Agrees s a o` -- the invariant: from the state `s` a visit ends in `o` as the account `a` says;
* `agrees_fail`, `agrees_reachedAll`, …, `agrees_body` -- each function of a visit ends as the account
  of the same name says;
* **`records_eq_meaning`** -- so a full visit records exactly what its scheme means.
-/

namespace Assay.Visit

variable {V : Type}

/-! ## 1. The invariant -/

/-- The state that an account leads to. Behind a replacing link there are hits and no records. -/
def State.after (s : State) (a : Account) (discovered : Nat) : State :=
  { s with
    records := s.records ++ if s.replacing = 0 then a.records else []
    hit := s.hit || (s.replacing != 0 && !a.failures.isEmpty)
    discovered }

/-- The visit reads on behind the account: it was not cut off, or its first failure was enough. -/
def Account.Read (a : Account) (s : State) : Prop :=
  a.error = none ∨ (s.replacing ≠ 0 ∧ a.failures ≠ [])

/-- **From a state, a visit ends as an account says.** -/
inductive Agrees (s : State) (a : Account) (o : Outcome) : Prop where
  /-- It ends with the error of the account. -/
  | lost (e : VisitError) (ends : o.error = some e) (cut : a.error = some e)
      (unread : s.replacing ≠ 0 → a.failures = [])
  /-- It ends in the state that the account leads to. -/
  | done (discovered : Nat) (ends : o = .ok (s.after a discovered)) (read : a.Read s)
      (counted : s.discovered ≤ discovered)
      (found : s.discovered < discovered ↔ a.failures ≠ [])

theorem not_stopped_of_running {s : State} (h : s.halted = false) : s.stopped = false := by
  simp only [State.halted, Bool.or_eq_false_iff] at h
  exact h.1

theorem halted_after {s : State} (h : s.halted = false) (a : Account) (n : Nat) :
    (s.after a n).halted = (s.replacing != 0 && !a.failures.isEmpty) := by
  have hs := not_stopped_of_running h
  cases hr : s.replacing != 0 with
  | false => simp [State.halted, State.after, hs, hr]
  | true =>
    have hh : s.hit = false := by simpa [State.halted, hs, hr] using h
    simp [State.halted, State.after, hs, hr, hh]

theorem isEmpty_append (l r : List Failure) : (l ++ r).isEmpty = (l.isEmpty && r.isEmpty) := by
  cases l <;> rfl

theorem after_nothing (s : State) : s.after .nothing s.discovered = s := by
  simp [State.after, Account.nothing, Account.records]

theorem after_after {s : State} {a : Account} (h : a.Read s) (b : Account) (m n : Nat) :
    (s.after a m).after b n = s.after (a.andThen b) n := by
  by_cases hr : s.replacing = 0
  · have he : a.error = none := h.resolve_right fun hn => hn.1 hr
    rw [Account.andThen_of_none he]
    simp [State.after, hr, Account.records]
  · have hne : (s.replacing != 0) = true := by simpa using hr
    rcases h with he | ⟨-, hf⟩
    · rw [Account.andThen_of_none he]
      simp [State.after, hr, hne, Bool.or_assoc, ← Bool.not_and, isEmpty_append]
    · cases he : a.error with
      | none =>
        rw [Account.andThen_of_none he]
        simp [State.after, hr, hne, Bool.or_assoc, ← Bool.not_and, isEmpty_append]
      | some e =>
        rw [Account.andThen_of_some he]
        have hf' : a.failures.isEmpty = false := by simpa using hf
        simp [State.after, hr, hne, hf']

theorem leaveSegment_after (s : State) (segment : Segment) (a : Account) (n : Nat) :
    ((s.enterSegment segment).after a n).leaveSegment segment = s.after a n := by
  cases segment <;> rfl

theorem leavePath_after (s : State) (path : Option String) (a : Account) (n : Nat) :
    ((s.enterPath path).after a n).leavePath path = s.after a n := by
  cases path <;> rfl

theorem agrees_nothing (s : State) : Agrees s .nothing (.ok s) :=
  .done s.discovered (by rw [after_nothing]) (.inl rfl) (Nat.le_refl _)
    ⟨fun h => absurd h (Nat.lt_irrefl _), fun h => absurd rfl h⟩

/-- A failure is an account of its own. -/
theorem fail_eq_after (s : State) (fault : Option FaultId) (relative : Option String) :
    s.fail false fault relative =
      s.after (.one ⟨(s.spot.along relative).concrete, fault⟩) (s.discovered + 1) := by
  by_cases hr : s.replacing = 0
  · cases fault with
    | none =>
      rw [fail_none hr]
      simp [State.after, hr, Account.one, Account.records, Failure.record?]
    | some id =>
      rw [fail_some hr, concrete_along]
      simp [State.after, hr, Account.one, Account.records, Failure.record?]
  · rw [fail_replacing hr]
    simp [State.after, hr, Account.one]

theorem agrees_fail (s : State) (fault : Option FaultId) (relative : Option String) :
    Agrees s (.one ⟨(s.spot.along relative).concrete, fault⟩) (.ok (s.fail false fault relative)) :=
  .done _ (by rw [fail_eq_after]) (.inl rfl) (Nat.le_succ _)
    ⟨fun _ => List.cons_ne_nil _ _, fun _ => Nat.lt_succ_self _⟩

/-- Behind a replacing link all accounts with failures lead to the same state. -/
theorem after_of_failures {s : State} {a b : Account} (hr : s.replacing ≠ 0)
    (ha : a.failures ≠ []) (hb : b.failures ≠ []) (n : Nat) : s.after a n = s.after b n := by
  have ha' : a.failures.isEmpty = false := by simpa using ha
  have hb' : b.failures.isEmpty = false := by simpa using hb
  simp [State.after, hr, ha', hb']

/-- Two accounts one after the other, where the first one is read to its end. -/
theorem Agrees.behind {s : State} {a b : Account} {n : Nat} {o : Outcome}
    (h : Agrees (s.after a n) b o) (he : a.error = none)
    (hnone : s.replacing ≠ 0 → a.failures = []) (counted : s.discovered ≤ n)
    (found : s.discovered < n ↔ a.failures ≠ []) : Agrees s (a.andThen b) o := by
  rw [Account.andThen_of_none he]
  cases h with
  | lost e ends cut unread => exact .lost e ends cut fun hr => by simp [hnone hr, unread hr]
  | done m ends readb countedb foundb =>
    refine .done m ?_ ?_ (Nat.le_trans counted countedb) ?_
    · rw [ends, after_after (.inl he), Account.andThen_of_none he]
    · rcases readb with hbe | ⟨hr, hbf⟩
      · exact .inl hbe
      · exact .inr ⟨hr, by simp [hbf]⟩
    · have here : (s.after a n).discovered = n := rfl
      rw [here] at countedb foundb
      have either : a.failures ++ b.failures ≠ [] ↔ a.failures ≠ [] ∨ b.failures ≠ [] := by
        cases a.failures <;> simp
      rw [either, ← found, ← foundb]
      omega

/-- **What follows an end.** A halted visit does nothing more, and then the account is read far
    enough. -/
theorem Agrees.next {s : State} {a b : Account} {o : Outcome} {f : State → Outcome}
    (h : Agrees s a o) (hs : s.halted = false) (hhalt : ∀ t, t.halted = true → f t = .ok t)
    (hf : ∀ n, (s.after a n).halted = false → Agrees (s.after a n) b (f (s.after a n))) :
    Agrees s (a.andThen b) (o.next f) := by
  cases h with
  | lost e ends cut unread =>
    rw [Outcome.next_of_some ends, Account.andThen_of_some cut]
    exact .lost e ends cut unread
  | done n ends read counted found =>
    subst ends
    rw [Outcome.next_of_none rfl, Outcome.ok_state]
    by_cases hh : (s.after a n).halted = true
    · have hne : s.replacing ≠ 0 ∧ a.failures ≠ [] := by simpa [halted_after hs] using hh
      have hab := Account.andThen_ne_nil hne.2 b
      rw [hhalt _ hh, after_of_failures hne.1 hne.2 hab]
      exact .done n rfl (.inr ⟨hne.1, hab⟩) counted ⟨fun _ => hab, fun _ => found.mpr hne.2⟩
    · have hrun : (s.after a n).halted = false := by simpa using hh
      have hnone : s.replacing ≠ 0 → a.failures = [] := by
        simpa [halted_after hs] using hrun
      have he : a.error = none := read.resolve_right fun hn => hn.2 (hnone hn.1)
      exact (hf n hrun).behind he hnone counted found

/-- An end does not depend on where the visit was when it began. -/
theorem Agrees.moved {s s' : State} {a : Account} {o : Outcome} (h : Agrees s' a o)
    (ha : Alike s s') {f : State → State}
    (back : ∀ n, f (s'.after a n) = s.after a n) : Agrees s a (o.map f) := by
  cases h with
  | lost e ends cut unread => exact .lost e ends cut (ha.replacing ▸ unread)
  | done n ends read counted found =>
    subst ends
    refine .done n ?_ ?_ (ha.discovered ▸ counted) (ha.discovered ▸ found)
    · rw [← back n]
      rfl
    · unfold Account.Read at read ⊢
      rwa [ha.replacing] at read

/-- A replacing link turns what it has hit into one failure. -/
theorem Agrees.replaced {s : State} {a : Account} {o : Outcome} (h : Agrees s.hide a o)
    (fault : Option FaultId) :
    Agrees s (a.shown (.replaced fault) s.spot)
      ((o.map (·.unhide s.hit)).next fun t =>
        .ok (if o.state.hit then t.fail false fault none else t)) := by
  have hne : s.hide.replacing ≠ 0 := Nat.succ_ne_zero _
  simp only [Account.shown]
  cases h with
  | lost e ends cut unread =>
    rw [if_pos (unread hne), Outcome.next_of_some (by exact ends)]
    exact .lost e ends cut fun _ => unread hne
  | done n ends read counted found =>
    have here : (s.hide.after a n).unhide s.hit = { s with discovered := n } := by
      simp [State.after, State.hide, State.unhide]
    have hit : (s.hide.after a n).hit = !a.failures.isEmpty := by
      simp [State.after, State.hide]
    have counted : s.discovered ≤ n := counted
    have found : s.discovered < n ↔ a.failures ≠ [] := found
    rw [ends, Outcome.next_of_none rfl, Outcome.map_state, Outcome.ok_state, here, hit]
    by_cases ha : a.failures = []
    · rw [if_pos ha, ha]
      have hnone : a.error = none := read.resolve_right fun h => h.2 ha
      refine .done n ?_ (.inl hnone) counted found
      simp [State.after, ha, Account.records]
    · have hb : (!a.failures.isEmpty) = true := by simpa using ha
      rw [if_neg ha, if_pos hb, fail_eq_after]
      exact .done (n + 1) rfl (.inl rfl) (Nat.le_succ_of_le counted)
        ⟨fun _ => List.cons_ne_nil _ _, fun _ => Nat.lt_succ_of_le counted⟩

/-- An extending link adds a failure to those that it has let through. -/
theorem Agrees.extended {s : State} {a : Account} {o : Outcome} (h : Agrees s a o)
    (fault : FaultId) :
    Agrees s (a.shown (.extended fault) s.spot)
      (o.next fun t =>
        .ok (if s.discovered < t.discovered then t.fail false (some fault) none else t)) := by
  simp only [Account.shown]
  cases h with
  | lost e ends cut unread =>
    rw [Outcome.next_of_some ends, Account.andThen_of_some cut, ite_self]
    exact .lost e ends cut unread
  | done n ends read counted found =>
    have here : (s.after a n).discovered = n := rfl
    rw [ends, Outcome.next_of_none rfl, Outcome.ok_state, here]
    by_cases ha : a.failures = []
    · rw [if_pos ha, if_neg (mt found.mp (fun h => h ha))]
      exact .done n rfl read counted found
    · rw [if_neg ha, if_pos (found.mpr ha), fail_eq_after, after_after read]
      have kept := Account.andThen_ne_nil ha (.one ⟨s.spot.concrete, some fault⟩)
      refine .done (n + 1) rfl ?_ (Nat.le_succ_of_le counted)
        ⟨fun _ => kept, fun _ => Nat.lt_succ_of_le counted⟩
      rcases read with hn | ⟨hr, -⟩
      · exact .inl (by rw [Account.andThen_of_none hn]; rfl)
      · exact .inr ⟨hr, kept⟩

/-! ## 2. The parts of a visit -/

/-- A way into the scopes that ends as their meaning says. -/
def Enter.Means (enter : Enter V) (means : Meaning V) : Prop :=
  ∀ id value s, s.halted = false →
    Agrees s (means id (value.map Prod.fst) s.spot) (enter id value s)

theorem running_of_alike {s t : State} (h : s.halted = false) (ha : Alike s t) :
    t.halted = false := by
  rw [State.halted, ha.stopped, ha.replacing, ha.hit]
  exact h

section Parts

variable {enter : Enter V} {means : Meaning V} (he : enter.Means means)
include he

theorem agrees_reached (target : ScopeId) (place : Place) (depth : Nat) (segment : Segment)
    (value : Option (V × Locus)) {s : State} (hs : s.halted = false) :
    Agrees s (means target (value.map Prod.fst) (s.spot.into segment))
      (reached enter target place depth segment value s) := by
  have hm := alike_enterSegment s segment
  have inner := he target (value.map fun found => (found.1, place.reach depth found.2)) _
    (running_of_alike hs hm)
  rw [spot_enterSegment, fst_place] at inner
  exact inner.moved hm (f := (·.leaveSegment segment)) (leaveSegment_after s segment _)

theorem agrees_reachedAll (target : ScopeId) (place : Place) (depth : Nat)
    (values : List (Segment × Option (V × Locus))) {s : State} (hs : s.halted = false) :
    Agrees s
      (Account.concat (values.map fun found =>
        means target (found.2.map Prod.fst) (s.spot.into found.1)))
      (reachedAll enter target place depth values s) := by
  induction values generalizing s with
  | nil => exact agrees_nothing s
  | cons first rest ih =>
    refine (agrees_reached he target place depth first.1 first.2 hs).next hs
      (fun t ht => by simp only [ht, if_true]) fun n hn => ?_
    simp only [hn, Bool.false_eq_true, if_false]
    exact ih hn

omit he in
theorem agrees_shown (showing : Showing) (run : State → Outcome) {s : State} {a : Account}
    (hrun : ∀ t, t.halted = false → t.spot = s.spot → Agrees t a (run t)) (hs : s.halted = false) :
    Agrees s (a.shown showing s.spot) (shown ⟨false, false⟩ showing run s) := by
  cases showing with
  | nested => exact hrun s hs rfl
  | replaced fault =>
    have hide : s.hide.halted = false := by
      simp [State.halted, State.hide, not_stopped_of_running hs]
    exact (hrun s.hide hide rfl).replaced fault
  | extended fault => exact (hrun s hs rfl).extended fault

theorem agrees_link (v : V) (place : Place) (l : LinkStep V) {s : State}
    (hs : s.halted = false) :
    Agrees s (Meaning.link means v s.spot l) (link ⟨false, false⟩ enter v place l s) := by
  have hm := alike_enterPath s l.path
  have inner := agrees_shown (s := s.enterPath l.path) l.showing
    (fun t => reachedAll enter l.target place t.active.length (l.transition.reach v) t)
    (fun t ht hspot => hspot ▸ agrees_reachedAll he l.target place _ _ ht) (running_of_alike hs hm)
  rw [spot_enterPath] at inner
  exact inner.moved hm (f := (·.leavePath l.path)) (leavePath_after s l.path _)

theorem agrees_steps (v : V) (place : Place) (list : List (Step V)) {s : State}
    (hs : s.halted = false) :
    Agrees s (Meaning.steps means v s.spot list) (steps ⟨false, false⟩ enter v place list s) := by
  induction list generalizing s with
  | nil => exact agrees_nothing s
  | cons step rest ih =>
    have stops (t : State) (ht : t.halted = true) :
        steps ⟨false, false⟩ enter v place rest t = .ok t :=
      steps_halted ht rest
    unfold steps
    rw [if_neg (by simp [hs])]
    cases step with
    | guard holds =>
      simp only [Meaning.steps]
      split
      · exact ih hs
      · exact agrees_nothing s
    | rule rule =>
      simp only [Meaning.steps]
      split
      · exact (agrees_fail s rule.fault rule.path).next hs stops fun _ hn => ih hn
      · exact ih hs
    | link l =>
      simp only [Meaning.steps]
      split
      · exact (agrees_link he v place l hs).next hs stops fun _ hn => ih hn
      · exact ih hs

theorem agrees_inside (id : ScopeId) (sc : Scope V) (v : V) (place : Place) {s : State}
    (hs : s.halted = false) :
    Agrees s (Meaning.steps means v s.spot sc.steps)
      (inside ⟨false, false⟩ enter id sc v place s) := by
  have hm := alike_push s id place
  have inner := agrees_steps he v place sc.steps (running_of_alike hs hm)
  exact inner.moved hm (f := State.pop) fun _ => rfl

omit he in
theorem agrees_missing (id : ScopeId) (sc : Scope V) {s : State} :
    Agrees s (Meaning.missing sc s.spot) (body ⟨false, false⟩ enter id sc none s) := by
  unfold body Meaning.missing
  cases sc.presence with
  | required fault => exact agrees_fail s fault none
  | «optional» => exact agrees_nothing s
  | forbidden fault => exact agrees_nothing s

theorem agrees_body (id : ScopeId) (sc : Scope V) (value : Option (V × Place)) {s : State}
    (hs : s.halted = false) :
    Agrees s (Meaning.body means sc (value.map Prod.fst) s.spot)
      (body ⟨false, false⟩ enter id sc value s) := by
  cases value with
  | none => exact agrees_missing id sc
  | some found =>
    obtain ⟨v, place⟩ := found
    simp only [Option.map_some, Meaning.body]
    by_cases hn : sc.treatsAsNull v
    · rw [if_pos hn, body_of_null hn]
      exact agrees_missing id sc
    · rw [if_neg hn]
      unfold body Meaning.present
      simp only [Option.filter, hn, Bool.not_false, if_true]
      cases sc.presence with
      | required fault => exact agrees_inside he id sc v place hs
      | «optional» => exact agrees_inside he id sc v place hs
      | forbidden fault => exact agrees_fail s fault none

end Parts

/-! ## 3. Visits -/

theorem agrees_scope (scheme : Scheme V) (depth : Nat) :
    (scope ⟨false, false⟩ scheme depth).Means (meaning scheme depth) := by
  induction depth with
  | zero => exact fun _ _ s _ => .lost .tooDeep rfl rfl fun _ => rfl
  | succ depth ih =>
    intro id value s hs
    unfold scope meaning
    cases scheme.scopes[id]? with
    | none => exact .lost _ rfl rfl fun _ => rfl
    | some sc => exact agrees_body ih id sc value hs

/-- Before anything is recorded, what an account leads to is its result. -/
theorem Agrees.result {a : Account} {o : Outcome} (h : Agrees .start a o) :
    o.result = a.result := by
  cases h with
  | lost e ends cut =>
    rw [Outcome.result_eq_error_iff.mpr ends]
    simp only [Account.result, cut]
  | done n ends read =>
    have he : a.error = none := read.resolve_right fun h => h.1 rfl
    rw [ends]
    simp only [Account.result, he]
    rfl

/-- **A full visit records what its scheme means.** Unguarded, it ends with the records of the account
    of the root scope, or with the error of this account; guarded, it does the same or ends with a
    loop. What the account is does not depend on the bound on the depth, unless that bound has cut it
    off. -/
theorem records_eq_meaning (scheme : Scheme V) (depth : Nat) (v : V) (place : Place) :
    records ⟨false, false⟩ scheme depth v place =
        (meaning scheme depth scheme.root (some v) .root).result ∧
      (records ⟨false, true⟩ scheme depth v place =
          (meaning scheme depth scheme.root (some v) .root).result ∨
        ∃ name first second, records ⟨false, true⟩ scheme depth v place =
          .error (.referenceLoop name first second)) ∧
      (records ⟨false, false⟩ scheme depth v place = .error .tooDeep ∨
        ∀ more, meaning scheme (depth + more) scheme.root (some v) .root =
          meaning scheme depth scheme.root (some v) .root) := by
  have plain : records ⟨false, false⟩ scheme depth v place =
      (meaning scheme depth scheme.root (some v) .root).result :=
    (agrees_scope scheme depth scheme.root (some (v, place)) .start rfl).result
  refine ⟨plain, ?_, ?_⟩
  · rw [← plain]
    exact records_guarded false scheme depth v place
  · rw [plain]
    by_cases cut : (meaning scheme depth scheme.root (some v) .root).error = some .tooDeep
    · exact .inl (by simp only [Account.result, cut])
    · exact .inr fun more => meaning_deeper scheme depth more _ _ _ cut

end Assay.Visit
