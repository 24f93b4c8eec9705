import Std.Data.HashMap.Lemmas
import Assay.Proofs.Fault.Registry

/-!
# Faults found by a hash

A registry looks a fault up by going through its list. A table from faults to numbers finds it by a hash
instead, and has to be kept in step with the list; and it finds the same only if equal faults have the
same hash. Equality passes over the short names of types, so these must not be fed to the hash either.

* `ArgValue.fed`, `Fault.fed` -- what a hash is computed from: kinds and sizes, and what equality looks at;
* `Fault.fed_essence` -- short names of types are not fed;
* **`Fault.lawfulHashable`** -- so every hash of what is fed is one for equality;
* `Indexed` -- a list of faults with a table of their numbers; `InStep x r`: it is the registry `r`;
* `InStep.register`, **`InStep.registerAll`** -- registering keeps both in step and gives the same numbers.
-/

namespace Assay

/-! ## 1. What is fed to a hash -/

/-- A piece of what a hash is computed from. -/
inductive Fed where
  | kind (code : Nat)
  | size (count : Nat)
  | text (value : String)
  | integer (value : Int)
  | bits (value : Number.Double)

/-- The kind of a value, and of the value what equality looks at. -/
def ArgValue.fed : ArgValue → List Fed
  | .text value => [.kind 0, .text value]
  | .integer value => [.kind 1, .integer value]
  | .float value => [.kind 2, .bits value]
  | .time value => [.kind 3, .integer value.seconds, .integer value.nanos, .integer value.offset]
  | .choice typeName variant => [.kind 4, .text typeName, .text variant]
  | .typeRef _ fullName => [.kind 5, .text fullName]
  | .guid value => [.kind 6, .integer value.value]

def Arg.fed (a : Arg) : List Fed := .text a.name :: a.value.fed

/-- How many texts there are, and the texts. -/
def fedTexts (texts : List String) : List Fed := .size texts.length :: texts.map .text

def Fault.fed (f : Fault) : List Fed :=
  fedTexts f.messages ++ fedTexts f.extraMessages ++ fedTexts f.codes ++ fedTexts f.extraCodes ++
    .size f.args.length :: f.args.flatMap Arg.fed

theorem ArgValue.fed_essence (a : ArgValue) : a.essence.fed = a.fed := by
  cases a <;> rfl

theorem Arg.fed_essence (a : Arg) : a.essence.fed = a.fed :=
  congrArg (Fed.text a.name :: ·) a.value.fed_essence

/-- What is fed to a hash does not have the short names of types in it. -/
theorem Fault.fed_essence (f : Fault) : f.essence.fed = f.fed := by
  have args : (f.args.map Arg.essence).flatMap Arg.fed = f.args.flatMap Arg.fed := by
    rw [List.flatMap_map]
    exact congrArg f.args.flatMap (funext Arg.fed_essence)
  rw [fed, fed, essence]
  simp only [args, List.length_map]

theorem Fault.fed_of_beq {f g : Fault} (h : (f == g) = true) : f.fed = g.fed := by
  rw [← f.fed_essence, (beq_iff f g).mp h, g.fed_essence]

/-- The hash of a fault that a function of what is fed gives. -/
@[reducible] def Fault.hashing (h : List Fed → UInt64) : Hashable Fault := ⟨fun f => h f.fed⟩

/-- **Every hash of what is fed is the same for equal faults.** -/
theorem Fault.lawfulHashable (h : List Fed → UInt64) : @LawfulHashable Fault _ (hashing h) :=
  @LawfulHashable.mk Fault _ (hashing h) fun _ _ same => congrArg h (fed_of_beq same)

/-! ## 2. Look-ups in a registry -/

namespace Registry

variable {r : Registry} {f g fault : Fault}

/-- Equal faults are looked up alike. -/
theorem find?_congr (r : Registry) (h : (f == g) = true) : r.find? f = r.find? g := by
  have alike : (fun stored : Fault => stored == f) = fun stored => stored == g :=
    funext fun stored => BEq.congr_right h
  rw [find?, find?, alike]

/-- A fault that is put behind the others is found where these are not. -/
theorem find?_concat (new : r.find? fault = none) (f : Fault) :
    Registry.find? ⟨r.faults ++ [fault]⟩ f =
      if fault == f then some r.faults.length else r.find? f := by
  rw [find?, List.findIdx?_append, List.findIdx?_singleton]
  change (r.find? f).or _ = _
  split
  · rename_i same
    rw [← r.find?_congr same, new]
    simp
  · simp

end Registry

/-! ## 3. A table beside the list -/

section

variable [Hashable Fault]

/-- Faults with a table of their numbers. -/
structure Indexed where
  faults : List Fault
  numbers : Std.HashMap Fault FaultId

namespace Indexed

def empty : Indexed := ⟨[], ∅⟩

/-- The number of a fault, which is a new one if the table does not have the fault. -/
def register (x : Indexed) (fault : Fault) : Indexed × FaultId :=
  match x.numbers[fault]? with
  | some id => (x, id)
  | none => (⟨x.faults ++ [fault], x.numbers.insert fault x.faults.length⟩, x.faults.length)

/-- Several faults one after another, with the numbers they got. -/
def registerAll (x : Indexed) : List Fault → Indexed × List FaultId
  | [] => (x, [])
  | fault :: rest =>
    ((((x.register fault).1).registerAll rest).1,
      (x.register fault).2 :: (((x.register fault).1).registerAll rest).2)

end Indexed

/-- The list is the one of the registry, and the table has the numbers that look-ups give. -/
structure InStep (x : Indexed) (r : Registry) : Prop where
  faults : x.faults = r.faults
  numbers : ∀ f, x.numbers[f]? = r.find? f

theorem inStep_empty : InStep .empty .empty :=
  ⟨rfl, fun _ => Std.HashMap.getElem?_empty⟩

variable [LawfulHashable Fault] {x : Indexed} {r : Registry}

/-- **Registering a fault gives the same number with and without a table**, and keeps both in step. -/
theorem InStep.register (h : InStep x r) (fault : Fault) :
    InStep (x.register fault).1 (r.register fault).1 ∧
      (x.register fault).2 = (r.register fault).2 := by
  have known := h.numbers fault
  cases found : r.find? fault with
  | some id =>
    rw [found] at known
    rw [Indexed.register, known, Registry.register_of_find? found]
    exact ⟨h, rfl⟩
  | none =>
    rw [found] at known
    rw [Indexed.register, known, Registry.register_of_new found, h.faults]
    refine ⟨⟨rfl, fun f => ?_⟩, rfl⟩
    rw [Registry.find?_concat found, Std.HashMap.getElem?_insert, h.numbers]

/-- **A row of registrations gives the same numbers with and without a table.** -/
theorem InStep.registerAll (h : InStep x r) (faults : List Fault) :
    InStep (x.registerAll faults).1 (r.registerAll faults).1 ∧
      (x.registerAll faults).2 = (r.registerAll faults).2 := by
  induction faults generalizing x r with
  | nil => exact ⟨h, rfl⟩
  | cons fault rest ih =>
    obtain ⟨stepped, same⟩ := h.register fault
    obtain ⟨ended, others⟩ := ih stepped
    rw [Indexed.registerAll, Registry.registerAll_cons, same, others]
    exact ⟨ended, rfl⟩

end

end Assay
