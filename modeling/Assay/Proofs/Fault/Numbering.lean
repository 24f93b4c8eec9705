import Assay.Proofs.Fault.Index
import Assay.Proofs.FirstOccurrence

/-!
# The numbers of faults

Faults are registered one after another, from an empty registry. What the registry holds in the end and
which numbers were given can be said from the row of faults alone: it holds the first occurrences in
their order, and the number of a fault is how many of them there were before it. Equality of faults passes
over short names of types, so these are first occurrences up to an equivalence.

* `ofFaults`, `numbers` -- the registry of a row of faults, and the numbers that were given;
* **`faults_ofFaults`** -- the registry holds the first occurrences;
* `find?_ofFaults` -- a fault of the row is found behind the first occurrences in front of it;
* `numbers_getElem?` -- and this is the number it was given, whenever it was registered;
* **`registry_numbers`** -- what the numbers and the registry have to do with each other, with a table of
  hashes or without.
-/

namespace Assay

namespace Registry

variable {r : Registry} {faults : List Fault} {f g fault : Fault} {i j : Nat} {id : FaultId}

/-! ## 1. The registry of a row of faults -/

/-- The registry after a row of registrations. -/
def ofFaults (faults : List Fault) : Registry := (empty.registerAll faults).1

/-- The numbers that were given, in the order of the registrations. -/
def numbers (faults : List Fault) : List FaultId := (empty.registerAll faults).2

theorem ofFaults_append (front back : List Fault) :
    ofFaults (front ++ back) = ((ofFaults front).registerAll back).1 :=
  registerAll_append _ front back

/-- What a number stands for stays when the registry grows. -/
theorem get?_mono {s : Registry} (held : r.get? id = some fault) (grown : r.faults <+: s.faults) :
    s.get? id = some fault := by
  obtain ⟨more, grown⟩ := grown
  obtain ⟨inside, -⟩ := List.getElem?_eq_some_iff.mp held
  rw [get?, ← grown, List.getElem?_append_left inside]
  exact held

theorem find?_eq_none_iff : r.find? f = none ↔ r.faults.any (· == f) = false := by
  rw [find?, List.findIdx?_eq_none_iff, List.any_eq_false]
  simp

/-- **The registry holds the first occurrences**, in their order. -/
theorem faults_ofFaults (faults : List Fault) : (ofFaults faults).faults = faults.eraseDups := by
  induction faults using List.reverseRecOn with
  | nil => rfl
  | append_singleton faults fault ih =>
    have step : ofFaults (faults ++ [fault]) = ((ofFaults faults).register fault).1 :=
      ofFaults_append faults [fault]
    rw [step, eraseDups_snoc, ← any_eraseDups, ← ih]
    cases known : (ofFaults faults).find? fault with
    | some id =>
      have there : (ofFaults faults).faults.any (· == fault) = true := by
        rw [← Bool.not_eq_false, ← find?_eq_none_iff, known]
        exact Option.some_ne_none id
      rw [register_of_find? known, if_pos there]
    | none =>
      rw [register_of_new known, if_neg (by rw [find?_eq_none_iff.mp known]; exact Bool.false_ne_true)]

/-! ## 2. Numbers -/

/-- **A fault of the row is found behind the first occurrences that are in front of it.** -/
theorem find?_ofFaults (mem : fault ∈ faults) :
    (ofFaults faults).find? fault =
      some (faults.takeWhile (!· == fault)).eraseDups.length := by
  obtain ⟨first, found⟩ : ∃ first, faults.find? (· == fault) = some first :=
    Option.isSome_iff_exists.mp (List.find?_isSome.mpr ⟨fault, mem, BEq.rfl⟩)
  obtain ⟨same, early, later, row, before⟩ := List.find?_eq_some_iff_append.mp found
  have front : faults.takeWhile (!· == fault) = early := by
    rw [row, List.takeWhile_append_of_pos before, List.takeWhile_cons_of_neg (by simp [same]),
      List.append_nil]
  -- in front of its first occurrence the fault is unknown, so the number that is given is the next one
  have unknown : (ofFaults early).find? fault = none := by
    rw [find?_eq_none_iff, faults_ofFaults, any_eraseDups, List.any_eq_false]
    exact fun f hf => by simpa using before f hf
  have given := (ofFaults early).find?_register first
  rw [register_of_new ((find?_congr _ same).trans unknown)] at given
  have grown : (ofFaults early).faults ++ [first] <+: (ofFaults faults).faults := by
    have more : (ofFaults (early ++ [first])).faults <+: (ofFaults faults).faults := by
      rw [row, show early ++ first :: later = (early ++ [first]) ++ later by simp,
        ofFaults_append (early ++ [first])]
      exact grows_registerAll _ later
    rwa [ofFaults_append, show (ofFaults early).registerAll [first] =
      (((ofFaults early).register first).1, [((ofFaults early).register first).2]) from rfl,
      register_of_new ((find?_congr _ same).trans unknown)] at more
  rw [front, ← find?_congr _ same, ← faults_ofFaults early]
  exact find?_mono given grown

/-- **This is the number it was given**, whenever it was registered. -/
theorem numbers_getElem? (h : faults[i]? = some fault) :
    (numbers faults)[i]? = some (faults.takeWhile (!· == fault)).eraseDups.length := by
  obtain ⟨id, given, found⟩ := empty.find?_registerAll h
  rw [numbers, given, ← found]
  exact find?_ofFaults (List.mem_of_getElem? h)

theorem length_numbers (r : Registry) (faults : List Fault) :
    (r.registerAll faults).2.length = faults.length := by
  induction faults generalizing r with
  | nil => rfl
  | cons fault rest ih => rw [registerAll_cons, List.length_cons, ih, List.length_cons]

/-- A fault that the registry holds has its position as its number. -/
theorem find?_of_get? (h : (ofFaults faults).get? id = some fault) :
    (ofFaults faults).find? fault = some id := by
  obtain ⟨inside, here⟩ := List.getElem?_eq_some_iff.mp h
  have apart := (faults_ofFaults faults).symm ▸ pairwise_eraseDups faults
  refine List.findIdx?_eq_some_iff_getElem.mpr ⟨inside, by rw [here]; exact BEq.rfl, fun j hj => ?_⟩
  have distinct := List.pairwise_iff_getElem.mp apart j id (Nat.lt_trans hj inside) inside hj
  rw [here] at distinct
  rw [distinct]
  exact Bool.false_ne_true

/-- **The numbers that were given are those of the registry.** -/
theorem mem_numbers (faults : List Fault) (id : FaultId) :
    id ∈ numbers faults ↔ id < (ofFaults faults).size := by
  constructor
  · intro mem
    obtain ⟨i, given⟩ := List.getElem?_of_mem mem
    have there : i < faults.length := by
      rw [← length_numbers empty faults]
      exact (List.getElem?_eq_some_iff.mp given).1
    obtain ⟨own, same, found⟩ := empty.find?_registerAll (List.getElem?_eq_getElem there)
    obtain rfl : id = own := Option.some_inj.mp (given.symm.trans same)
    obtain ⟨stored, held, -⟩ := get?_of_find? found
    exact (List.getElem?_eq_some_iff.mp held).1
  · intro inside
    have held : (ofFaults faults).get? id = some (ofFaults faults).faults[id] :=
      List.getElem?_eq_getElem inside
    have mem : (ofFaults faults).faults[id] ∈ faults :=
      (mem_registerAll (List.getElem_mem inside)).resolve_left List.not_mem_nil
    obtain ⟨i, here⟩ := List.getElem?_of_mem mem
    obtain ⟨own, given, found⟩ := empty.find?_registerAll here
    obtain rfl : id = own := Option.some_inj.mp ((find?_of_get? held).symm.trans found)
    exact List.mem_of_getElem? given

/-- **Two registrations gave the same number exactly if the faults are equal.** -/
theorem numbers_eq_iff (hi : faults[i]? = some f) (hj : faults[j]? = some g) :
    (numbers faults)[i]? = (numbers faults)[j]? ↔ (f == g) = true := by
  obtain ⟨id, given, found⟩ := empty.find?_registerAll hi
  obtain ⟨other, given', found'⟩ := empty.find?_registerAll hj
  rw [numbers, given, given', Option.some_inj]
  constructor
  · rintro rfl
    obtain ⟨stored, held, own⟩ := get?_of_find? found
    obtain ⟨_, again, theirs⟩ := get?_of_find? found'
    cases held.symm.trans again
    exact BEq.trans (BEq.symm own) theirs
  · intro same
    rw [find?_congr _ same] at found
    exact Option.some_inj.mp (found.symm.trans found')

/-! ## 3. The whole of it -/

/-- **The registry is a faithful table of distinct faults.** Faults are equal if all of them but the
    short names of types is the same. After any row of registrations the numbers that were given are
    those below the size. Two registrations gave the same number exactly if the faults are equal. The
    number of a fault is how many distinct faults were registered before its first occurrence, and it
    stands for a fault equal to it. No two faults that are held are equal, and registering more changes
    nothing that a number stands for. A list with a table of hashes holds the same faults and gives the
    same numbers, whatever hash is computed from what is fed to it. -/
theorem registry_numbers (faults : List Fault) :
    (∀ f g : Fault, (f == g) = true ↔ f.essence = g.essence) ∧
    (∀ id, id ∈ numbers faults ↔ id < (ofFaults faults).size) ∧
    (∀ (i j : Nat) (f g : Fault), faults[i]? = some f → faults[j]? = some g →
      ((numbers faults)[i]? = (numbers faults)[j]? ↔ (f == g) = true)) ∧
    (∀ (i : Nat) (f : Fault), faults[i]? = some f →
      ∃ id stored, (numbers faults)[i]? = some id ∧
        id = (faults.takeWhile (!· == f)).eraseDups.length ∧
        (ofFaults faults).get? id = some stored ∧ (stored == f) = true) ∧
    (ofFaults faults).faults.Pairwise (fun f g => (f == g) = false) ∧
    (∀ more id stored, (ofFaults faults).get? id = some stored →
      (ofFaults (faults ++ more)).get? id = some stored) ∧
    ∀ h : List Fed → UInt64,
      letI := Fault.hashing h
      (Indexed.empty.registerAll faults).1.faults = (ofFaults faults).faults ∧
        (Indexed.empty.registerAll faults).2 = numbers faults := by
  refine ⟨Fault.beq_iff, mem_numbers faults, fun i j f g hi hj => numbers_eq_iff hi hj,
    fun i f hi => ?_, ?_, fun more id stored held => ?_, fun h => ?_⟩
  · obtain ⟨stored, held, same⟩ := get?_of_find? (find?_ofFaults (List.mem_of_getElem? hi))
    exact ⟨_, stored, numbers_getElem? hi, rfl, held, same⟩
  · rw [faults_ofFaults]
    exact pairwise_eraseDups faults
  · rw [ofFaults_append]
    exact get?_mono held (grows_registerAll _ more)
  · let _ := Fault.hashing h
    have := Fault.lawfulHashable h
    obtain ⟨ended, same⟩ := inStep_empty.registerAll faults
    exact ⟨ended.faults, same⟩

/-- A fault about a type, by the short name of the type. -/
def crate (short : String) : Fault := .ofMessage "no crate" [⟨"t", .typeRef short "shop::Crate"⟩]

/-- Of four registrations, the last two bring nothing new: one differs from the second in the short name
    of its type, the other repeats the first. -/
theorem registry_numbers_crates :
    (numbers [.required, crate "Crate", crate "Box", .required])[1]? =
        (numbers [.required, crate "Crate", crate "Box", .required])[2]? ∧
      (∃ stored, (numbers [.required, crate "Crate", crate "Box", .required])[2]? = some 1 ∧
        (ofFaults [.required, crate "Crate", crate "Box", .required]).get? 1 = some stored ∧
        (stored == crate "Box") = true) ∧
      2 ∉ numbers [.required, crate "Crate", crate "Box", .required] := by
  obtain ⟨-, dense, same, first, -⟩ :=
    registry_numbers [.required, crate "Crate", crate "Box", .required]
  obtain ⟨id, stored, given, count, held, equal⟩ := first 2 (crate "Box") rfl
  have one : id = 1 := count.trans (by decide)
  subst one
  exact ⟨(same 1 2 _ _ rfl rfl).mpr (by decide), ⟨stored, given, held, equal⟩,
    fun mem => absurd ((dense 2).mp mem) (by decide)⟩

end Registry

end Assay
