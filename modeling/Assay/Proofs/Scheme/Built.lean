import Assay.Scheme.Compile

/-!
# Schemes that were built

Compilation numbers a specification when it is first referred to, and goes on until every number has
its scope. So the numbers it gives are positions in the list of what it has seen, which only grows,
and in the end they are positions in the list of scopes.

* `build?_eq_ok_iff` -- a scheme is built if compilation ends without issues; `progress_of_build` says
  what it is made of then;
* `seen_compile`, `seen_compileAll` -- what was seen stays where it is;
* `Within steps count` -- the links of the steps lead to numbers below a count; `Progress.Numbered`
  says so of all scopes that are done, and every round keeps it (`Progress.finish_eq_ok`;
  `Progress.finish_keeps` is the same for any property that rounds keep);
* **`targets_of_build`** -- so the links of a scheme lead to scopes that are there.
-/

namespace Assay

variable {V : Type}

/-! ## 1. What a scheme is made of -/

/-- The scheme of what compilation has come to. -/
def Progress.scheme (p : Progress V) (rootType : String) : Scheme V :=
  let survey := Survey.ofScopes p.gathered.registry p.scopes
  { rootType
    scopes := p.scopes
    registry := survey.registry
    template := survey.template
    resolved := survey.resolved
    loopPossible := survey.loopPossible }

/-- **A scheme is built if compilation ends without issues**, and then it is that of what compilation
    has come to. -/
theorem build?_eq_ok_iff {catalogue : Catalogue V} {root : SpecId} {scheme : Scheme V} :
    Scheme.build? catalogue root = .ok scheme ↔
      ∃ p, (Progress.start root).finish catalogue (catalogue.specs.length + 1) = .ok p ∧
        p.issues = [] ∧ scheme = p.scheme (catalogue.typeName root) := by
  unfold Scheme.build?
  split
  · rename_i e ends
    exact ⟨fun h => (by cases h), fun ⟨p, done, _⟩ => by rw [ends] at done; cases done⟩
  · rename_i p done
    cases issues : p.issues with
    | nil =>
      refine ⟨fun h => ⟨p, done, issues, (Except.ok.inj h).symm⟩, fun ⟨q, ends, _, same⟩ => ?_⟩
      rw [done] at ends
      cases ends
      rw [same]
      rfl
    | cons issue rest =>
      refine ⟨fun h => (by cases h), fun ⟨q, ends, empty, _⟩ => ?_⟩
      rw [done] at ends
      cases ends
      rw [issues] at empty
      cases empty

/-- A scheme that was built is what compilation has come to, and the survey of it. -/
theorem progress_of_build {catalogue : Catalogue V} {root : SpecId} {scheme : Scheme V}
    (built : Scheme.build? catalogue root = .ok scheme) :
    ∃ p, (Progress.start root).finish catalogue (catalogue.specs.length + 1) = .ok p ∧
      scheme.scopes = p.scopes ∧
      scheme.registry = (Survey.ofScopes p.gathered.registry p.scopes).registry ∧
      scheme.template = (Survey.ofScopes p.gathered.registry p.scopes).template ∧
      scheme.loopPossible = (Survey.ofScopes p.gathered.registry p.scopes).loopPossible := by
  obtain ⟨p, done, -, rfl⟩ := build?_eq_ok_iff.mp built
  exact ⟨p, done, rfl, rfl, rfl, rfl⟩

/-! ## 2. Numbers of scopes -/

/-- The links of the steps lead to scopes with numbers below a count. -/
def Within (steps : List (Step V)) (count : Nat) : Prop :=
  ∀ l, Step.link l ∈ steps → l.target < count

theorem Within.mono {steps : List (Step V)} {count more : Nat} (h : Within steps count)
    (le : count ≤ more) : Within steps more := fun l hl => Nat.lt_of_lt_of_le (h l hl) le

namespace Gathered

theorem seen_register (g : Gathered) (fault : Fault) : g.seen <+: (g.register fault).1.seen := by
  unfold register
  split <;> exact List.prefix_refl _

theorem seen_showingOf (g : Gathered) (content : Content) :
    g.seen <+: (g.showingOf content).1.seen := by
  unfold showingOf
  split
  · exact List.prefix_refl _
  · split
    · exact seen_register g _
    · exact List.prefix_refl _

theorem seen_scopeOf (g : Gathered) (id : SpecId) : g.seen <+: (g.scopeOf id).1.seen := by
  unfold scopeOf
  split
  · exact List.prefix_refl _
  · exact List.prefix_append _ _

theorem registry_scopeOf (g : Gathered) (id : SpecId) : (g.scopeOf id).1.registry = g.registry := by
  unfold scopeOf
  split <;> rfl

/-- The number of a specification is its position among those seen. -/
theorem scopeOf_lt (g : Gathered) (id : SpecId) :
    (g.scopeOf id).2 < (g.scopeOf id).1.seen.length := by
  unfold scopeOf
  split
  · rename_i scope found
    exact (List.findIdx?_eq_some_iff_getElem.mp found).1
  · simp

end Gathered

/-! ## 3. Scopes -/

theorem seen_compile (c : Clause V) (g : Gathered) : g.seen <+: (c.compile g).1.seen := by
  unfold Clause.compile
  cases c.action with
  | required => exact g.seen_register _
  | «optional» => exact List.prefix_refl _
  | forbidden => exact g.seen_register _
  | rule holds fault => exact g.seen_register _
  | guard holds => exact List.prefix_refl _
  | link transition target => exact (g.seen_showingOf _).trans (Gathered.seen_scopeOf _ _)

/-- The link of a clause leads to something seen. -/
theorem target_compile {c : Clause V} {g : Gathered} {l : LinkStep V}
    (h : (c.compile g).2 = .step (.link l)) : l.target < (c.compile g).1.seen.length := by
  unfold Clause.compile at h ⊢
  cases ha : c.action with
  | link transition target =>
    rw [ha] at h
    cases h
    exact Gathered.scopeOf_lt _ _
  | _ => rw [ha] at h; cases h

theorem compileAll_cons (c : Clause V) (rest : List (Clause V)) (g : Gathered) :
    Clause.compileAll (c :: rest) g =
      ((Clause.compileAll rest (c.compile g).1).1,
        (c.compile g).2 :: (Clause.compileAll rest (c.compile g).1).2) := rfl

theorem seen_compileAll (clauses : List (Clause V)) (g : Gathered) :
    g.seen <+: (Clause.compileAll clauses g).1.seen := by
  induction clauses generalizing g with
  | nil => exact List.prefix_refl _
  | cons c rest ih => exact (seen_compile c g).trans (ih _)

theorem within_compileAll (clauses : List (Clause V)) (g : Gathered) :
    Within ((Clause.compileAll clauses g).2.filterMap Part.step?)
      (Clause.compileAll clauses g).1.seen.length := by
  induction clauses generalizing g with
  | nil => exact fun l hl => absurd hl List.not_mem_nil
  | cons c rest ih =>
    rw [compileAll_cons]
    intro l hl
    obtain ⟨part, hpart, hstep⟩ := List.mem_filterMap.mp hl
    rcases List.mem_cons.mp hpart with rfl | hpart
    · cases hc : (c.compile g).2 with
      | presence p => rw [hc] at hstep; cases hstep
      | step st =>
        rw [hc] at hstep
        cases hstep
        exact Nat.lt_of_lt_of_le (target_compile hc) (seen_compileAll rest _).length_le
    · exact ih _ l (List.mem_filterMap.mpr ⟨part, hpart, hstep⟩)

theorem Draft.compile_eq_ok {d : Draft V} {g g' : Gathered} {sc : Scope V}
    (h : d.compile g = .ok (g', sc)) :
    g.seen <+: g'.seen ∧ Within sc.steps g'.seen.length := by
  unfold Draft.compile at h
  split at h
  · cases h
  · rename_i clauses _
    have seen := seen_compileAll clauses g
    have within := within_compileAll clauses g
    split at h
    rename_i gathered parts compiled
    rw [compiled] at seen within
    -- what a missing presence registers is no specification
    cases hp : lastSome Part.presence? parts with
    | some presence =>
      rw [hp] at h
      cases h
      exact ⟨seen, within⟩
    | none =>
      rw [hp] at h
      cases h
      exact ⟨seen, within⟩

/-! ## 4. Rounds -/

namespace Progress

/-- The links of the scopes that are done lead to specifications that were seen. -/
def Numbered (p : Progress V) : Prop :=
  ∀ sc ∈ p.scopes, Within sc.steps p.gathered.seen.length

theorem compile_eq_ok {catalogue : Catalogue V} {p q : Progress V} {id : SpecId}
    (h : p.compile catalogue id = .ok q) :
    p.gathered.seen <+: q.gathered.seen ∧ (p.Numbered → q.Numbered) := by
  unfold compile at h
  split at h
  · cases h
  · rename_i draft _
    split at h
    · cases h
    · rename_i gathered scope done
      cases h
      obtain ⟨seen, within⟩ := Draft.compile_eq_ok done
      refine ⟨seen, fun numbered sc hsc => ?_⟩
      rcases List.mem_append.mp hsc with hsc | hsc
      · exact (numbered sc hsc).mono seen.length_le
      · rw [List.mem_singleton.mp hsc]
        exact within

/-- What every round keeps holds in the end. -/
theorem finish_keeps {catalogue : Catalogue V} {P : Progress V → Prop}
    (keeps : ∀ p q id, P p → p.next? = some id → p.compile catalogue id = .ok q → P q)
    {rounds : Nat} {p q : Progress V} (h : p.finish catalogue rounds = .ok q) (holds : P p) :
    P q := by
  induction rounds generalizing p with
  | zero =>
    unfold finish at h
    split at h
    · cases h
      exact holds
    · cases h
  | succ rounds ih =>
    unfold finish at h
    split at h
    · cases h
      exact holds
    · rename_i id here
      split at h
      · cases h
      · rename_i next compiled
        exact ih h (keeps _ _ _ holds here compiled)

/-- **In the end everything that was seen has a scope.** -/
theorem finish_eq_ok {catalogue : Catalogue V} {rounds : Nat} {p q : Progress V}
    (h : p.finish catalogue rounds = .ok q) :
    p.gathered.seen <+: q.gathered.seen ∧ (p.Numbered → q.Numbered) ∧
      q.gathered.seen.length ≤ q.scopes.length := by
  induction rounds generalizing p with
  | zero =>
    unfold finish at h
    split at h
    · rename_i none
      cases h
      exact ⟨List.prefix_refl _, id, List.getElem?_eq_none_iff.mp none⟩
    · cases h
  | succ rounds ih =>
    unfold finish at h
    split at h
    · rename_i none
      cases h
      exact ⟨List.prefix_refl _, id, List.getElem?_eq_none_iff.mp none⟩
    · split at h
      · cases h
      · rename_i next compiled
        obtain ⟨seen, numbered⟩ := compile_eq_ok compiled
        obtain ⟨seen', numbered', enough⟩ := ih h
        exact ⟨seen.trans seen', fun hp => numbered' (numbered hp), enough⟩

end Progress

/-- **The links of a scheme lead to scopes that are there**, and so does its root. -/
theorem targets_of_build {catalogue : Catalogue V} {root : SpecId} {scheme : Scheme V}
    (built : Scheme.build? catalogue root = .ok scheme) :
    scheme.root < scheme.scopes.length ∧
      ∀ sc ∈ scheme.scopes, Within sc.steps scheme.scopes.length := by
  obtain ⟨p, done, scopes, -⟩ := progress_of_build built
  obtain ⟨seen, numbered, enough⟩ := Progress.finish_eq_ok done
  have start : (Progress.start root : Progress V).Numbered :=
    fun sc hsc => absurd hsc List.not_mem_nil
  rw [scopes]
  exact ⟨Nat.lt_of_lt_of_le Nat.zero_lt_one (Nat.le_trans seen.length_le enough),
    fun sc hsc => (numbered start sc hsc).mono enough⟩

end Assay
