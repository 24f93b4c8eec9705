import Assay.Proofs.Scheme.Loop
import Assay.Proofs.Scheme.Registered

/-!
# Templates of recursive schemes

A survey turns back where a link leads to a scope that is already on the way, while a visit goes
around as often as the values do. So the path of a record may be longer than every path of the
template. The faults are not lost for that: a visit that comes back to a scope could have stopped at
the first time it was there, and there the survey has been, unhidden if the visit was.

* `openWalk_of_arrives` -- the invariant: where a visit arrives openly, the survey walks openly,
  though perhaps by a shorter way;
* **`template_lists_recorded`** -- so whatever links do, the template lists every fault that a visit
  records, and the registry has it.
-/

namespace Assay

open Survey Visit

variable {V : Type}

/-- **Where a visit arrives openly, the survey walks openly.** A way that comes back to a scope is cut
    at the first time it was there. -/
theorem openWalk_of_arrives {scheme : Scheme V} {model : V} {way : List Stretch} {id : ScopeId}
    {value : Option V} {hidden : Bool} (h : Arrives scheme model way id value hidden)
    (shown : hidden = false) : ∃ rest path, Walks scheme.scopes (id :: rest) path false := by
  induction h with
  | root => exact ⟨[], "", .root⟩
  | @link way id v hidden sc l segment value arrives here step runs reached ih =>
    obtain ⟨before, nested⟩ := Bool.or_eq_false_iff.mp shown
    obtain ⟨rest, path, walks⟩ := ih before
    by_cases back : l.target ∈ id :: rest
    · obtain ⟨rest, path, hidden, shorter, open_⟩ := walks.upTo l.target back
      cases hidden with
      | false => exact ⟨rest, path, shorter⟩
      | true => exact absurd (open_ rfl) Bool.false_ne_true
    · have longer := walks.link here (mem_of_taken step) back
      rw [nested, Bool.or_self] at longer
      exact ⟨_, _, longer⟩

/-- **The template lists every fault that is recorded**, whatever cycles there are among the
    specifications: what a visit of any model records at some path, hurried or not, guarded or not and
    however deep, stands in the template at some path, and its number has a fault in the registry. -/
theorem template_lists_recorded {catalogue : Catalogue V} {root : SpecId} {scheme : Scheme V}
    (built : Scheme.build? catalogue root = .ok scheme) (mode : Mode) (depth : Nat) (model : V)
    (place : Place) {faults : FaultMap} (h : run mode scheme depth model place = .ok faults)
    {path : String} {id : FaultId} (listed : faults.Lists path id) :
    (∃ generic, scheme.template.Lists generic id) ∧ ∃ fault, scheme.registry.get? id = some fault := by
  obtain ⟨list, made, rfl⟩ := run_eq_ok_iff.mp h
  have mem := (FaultMap.lists_ofRecords list path id).mp listed
  obtain ⟨way, own, number, value, sc, arrives, here, fails, -⟩ := records_sourced made _ mem
  have carries := carries_of_fails fails
  constructor
  · obtain ⟨rest, generic, walks⟩ := openWalk_of_arrives arrives rfl
    obtain ⟨registry, template⟩ := template_of_build built
    rw [template]
    exact ⟨_, lists_of_walks walks here carries⟩
  · have known := ((known_of_build built).1 sc (List.mem_of_getElem? here)).carried carries
    exact ⟨_, List.getElem?_eq_getElem known⟩

/-- A folder with an entry, which is a folder again. -/
def folders : Catalogue (List Nat) := ⟨[
  ⟨"folder", some ⟨"folder", [
    .action .optional,
    .action (.link (.member "Entry" fun l => l.tail.head?.map fun _ => (l.tail, .part "entry")) 1)],
    [], none⟩⟩,
  ⟨"entry", some ⟨"entry", [
    .action .optional,
    .action (.rule (· != [0]) (Fault.ofMessage "nothing in it" [])),
    .action (.link (.member "Inner" fun l => l.tail.head?.map fun _ => (l.tail, .part "inner")) 0)],
    [], none⟩⟩]⟩

/-- The folders made ready. -/
def foldersScheme : Scheme (List Nat) where
  rootType := "folder"
  scopes := [
    ⟨"folder", .optional, none, [
      .link ⟨none, .member "Entry" fun l => l.tail.head?.map fun _ => (l.tail, .part "entry"), 1,
        some "Entry", .nested⟩]⟩,
    ⟨"entry", .optional, none, [
      .rule ⟨none, (· != [0]), some 0, none⟩,
      .link ⟨none, .member "Inner" fun l => l.tail.head?.map fun _ => (l.tail, .part "inner"), 0,
        some "Inner", .nested⟩]⟩]
  registry := ⟨[Fault.ofMessage "nothing in it" [], Fault.referenceLoop]⟩
  template := ⟨[("Entry", [0]), ("Entry.Inner", [1])]⟩
  resolved := [(("Entry", "Inner"), "Entry.Inner"), (("", "Entry"), "Entry")]
  loopPossible := true

/-- What is recorded in the third entry, where no path of the template leads. -/
def foldersFaults : FaultMap := ⟨[("Entry.Inner.Entry.Inner.Entry", [0])]⟩

/-- The fault is listed two rounds earlier. -/
theorem template_lists_recorded_folders :
    Scheme.build? folders 0 = .ok foldersScheme ∧
      run ⟨false, true⟩ foldersScheme 7 [5, 4, 3, 2, 1, 0] .model = .ok foldersFaults ∧
      foldersFaults.Lists "Entry.Inner.Entry.Inner.Entry" 0 ∧
      (∃ generic, foldersScheme.template.Lists generic 0) ∧
      ∃ fault, foldersScheme.registry.get? 0 = some fault := by
  have built : Scheme.build? folders 0 = .ok foldersScheme := rfl
  have made : run ⟨false, true⟩ foldersScheme 7 [5, 4, 3, 2, 1, 0] .model = .ok foldersFaults := rfl
  have listed : foldersFaults.Lists "Entry.Inner.Entry.Inner.Entry" 0 :=
    ⟨[0], rfl, List.mem_cons_self⟩
  exact ⟨built, made, listed,
    template_lists_recorded built ⟨false, true⟩ 7 [5, 4, 3, 2, 1, 0] .model made listed⟩

end Assay
