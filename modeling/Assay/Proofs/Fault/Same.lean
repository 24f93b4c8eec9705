import Assay.Fault

/-!
# Faults that count as one

The registry keeps one of several equal faults, and equality passes over one thing that a message
could show: the short name of a type, which is supposed to follow from its full name.

* `ArgValue.essence`, `Fault.essence` -- all that equality looks at;
* **`Fault.beq_iff`** -- two faults are equal exactly if their essences are; so equality of faults is
  an equivalence;
* `Fault.shortNames f` -- what it passes over;
* **`Fault.eq_of_beq`** -- equal faults with the same short names are the same.
-/

namespace Assay

/-! ## 1. Essences -/

/-- The value without the short name of its type. -/
def ArgValue.essence : ArgValue → ArgValue
  | .typeRef _ full => .typeRef "" full
  | value => value

/-- The short name of the type that the value is. -/
def ArgValue.shortName? : ArgValue → Option String
  | .typeRef short _ => some short
  | _ => none

def Arg.essence (a : Arg) : Arg := { a with value := a.value.essence }

/-- All of a fault that equality looks at. -/
def Fault.essence (f : Fault) : Fault := { f with args := f.args.map Arg.essence }

/-- The short names of the arguments that are types, in order; none for each of the others. -/
def Fault.shortNames (f : Fault) : List (Option String) := f.args.map fun a => a.value.shortName?

/-! ## 2. Equality -/

/-- Values of different kinds differ, and of a type the full name counts. -/
theorem ArgValue.beq_iff (a b : ArgValue) : (a == b) = true ↔ a.essence = b.essence := by
  show a.same b = true ↔ _
  cases a <;> cases b <;> simp [same, essence]

theorem ArgValue.eq_of_essence {a b : ArgValue} (h : a.essence = b.essence)
    (short : a.shortName? = b.shortName?) : a = b := by
  cases a <;> cases b <;> simp_all [essence, shortName?]

theorem Arg.beq_iff (a b : Arg) : (a == b) = true ↔ a.essence = b.essence := by
  have parts : (a == b) = (a.name == b.name && a.value == b.value) := rfl
  rw [parts, Bool.and_eq_true, beq_iff_eq, ArgValue.beq_iff]
  simp [essence]

theorem args_beq_iff (as bs : List Arg) :
    (as == bs) = true ↔ as.map Arg.essence = bs.map Arg.essence := by
  induction as generalizing bs with
  | nil => cases bs <;> simp
  | cons a as ih =>
    cases bs with
    | nil => simp
    | cons b bs => rw [List.cons_beq_cons, Bool.and_eq_true, Arg.beq_iff, ih]; simp

namespace Fault

/-- **Faults are equal exactly if their essences are.** -/
theorem beq_iff (f g : Fault) : (f == g) = true ↔ f.essence = g.essence := by
  have parts : (f == g) = (f.messages == g.messages && (f.extraMessages == g.extraMessages &&
      (f.codes == g.codes && (f.extraCodes == g.extraCodes && f.args == g.args)))) := rfl
  simp only [parts, Bool.and_eq_true, beq_iff_eq, args_beq_iff, essence, mk.injEq]

instance : EquivBEq Fault where
  rfl := (beq_iff _ _).mpr rfl
  symm h := (beq_iff _ _).mpr ((beq_iff _ _).mp h).symm
  trans h h' := (beq_iff _ _).mpr (((beq_iff _ _).mp h).trans ((beq_iff _ _).mp h'))

/-- Equal faults have the same codes. -/
theorem allCodes_of_beq {f g : Fault} (h : (f == g) = true) : f.allCodes = g.allCodes := by
  have same := (beq_iff f g).mp h
  simp only [essence, mk.injEq] at same
  rw [allCodes, allCodes, same.2.2.1, same.2.2.2.1]

end Fault

/-- The essence of an argument and its short name are all there is of it. -/
theorem args_eq_of_essence {as bs : List Arg} (h : as.map Arg.essence = bs.map Arg.essence)
    (short : (as.map fun a => a.value.shortName?) = bs.map fun b => b.value.shortName?) :
    as = bs := by
  induction as generalizing bs with
  | nil => exact (List.map_eq_nil_iff.mp h.symm).symm
  | cons a as ih =>
    obtain _ | ⟨b, bs⟩ := bs
    · cases h
    · obtain ⟨head, tail⟩ := List.cons.inj h
      obtain ⟨shortHead, shortTail⟩ := List.cons.inj short
      obtain ⟨name, value⟩ := a
      obtain ⟨name', value'⟩ := b
      simp only [Arg.essence, Arg.mk.injEq] at head
      rw [ih tail shortTail, head.1, ArgValue.eq_of_essence head.2 shortHead]

/-- **Equal faults with the same short names are the same.** -/
theorem Fault.eq_of_beq {f g : Fault} (h : (f == g) = true) (short : f.shortNames = g.shortNames) :
    f = g := by
  have same := (beq_iff f g).mp h
  obtain ⟨messages, extraMessages, codes, extraCodes, args⟩ := f
  obtain ⟨messages', extraMessages', codes', extraCodes', args'⟩ := g
  simp only [essence, mk.injEq] at same
  obtain ⟨rfl, rfl, rfl, rfl, alike⟩ := same
  rw [args_eq_of_essence alike short]

end Assay
