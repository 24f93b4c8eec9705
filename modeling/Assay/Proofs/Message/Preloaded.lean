import Mathlib.Data.List.Forall2
import Assay.Proofs.Message.Pending
import Assay.Proofs.Result.Rendered
import Assay.Proofs.Scheme.Registered
import Assay.Proofs.Visit.Ends

/-!
# Preloaded messages

A validator translates every fault of its scheme into every translation once, and results put in the
paths. This file says that a result shows what would be shown if each fault were translated where it
is recorded, and that nothing is left out.

* `Validator.Reports v id` -- the number can stand in a result: the template has it, or a visit records
  it;
* `fault_of_reports` -- each such number has its fault;
* `messages?_of_make` -- where numbers have their faults, the messages that were preloaded are those of
  the faults, with the path put in;
* `messageMapIn?_of_make` -- in a translation that is there, every result can be shown;
* **`messages_preloaded`** -- so no number is passed over, and the default translation never fails.
-/

namespace Assay

open Message

variable {V : Type}

/-! ## 1. Numbers in results -/

/-- The number can stand in a result of the validator. -/
def Validator.Reports (v : Validator V) (id : FaultId) : Prop :=
  id ∈ v.scheme.template.ids ∨
    ∃ mode depth model place faults, Visit.run mode v.scheme depth model place = .ok faults ∧
      id ∈ faults.ids

/-- The wordings of a validator are those of its scheme. -/
theorem Validator.wordings_of_build {catalogue : Catalogue V} {root : SpecId} {settings : Settings}
    {v : Validator V} (built : Validator.build? catalogue root settings = .ok v) :
    Wordings.make? settings.translations settings.defaultTranslation v.scheme.registry =
      some v.wordings := by
  unfold Validator.build? at built
  split at built
  · cases built
  · dsimp only at built
    split at built
    · cases built
    · rename_i made
      cases built
      exact made

/-- **A number that can stand in a result has its fault.** -/
theorem Validator.fault_of_reports {catalogue : Catalogue V} {root : SpecId} {settings : Settings}
    {v : Validator V} (built : Validator.build? catalogue root settings = .ok v) {id : FaultId}
    (h : v.Reports id) : ∃ fault, v.scheme.registry.get? id = some fault := by
  obtain ⟨listed, recorded⟩ := registered_of_build (Validator.build?_eq_ok built).1
  have known : id < v.scheme.registry.faults.length := by
    rcases h with mem | ⟨mode, depth, model, place, faults, made, mem⟩
    · exact listed id mem
    · exact recorded mode depth model place faults made id mem
  exact ⟨_, List.getElem?_eq_getElem known⟩

/-- The faults are those of the numbers, in order. -/
def Registry.Lists (registry : Registry) (ids : List FaultId) (faults : List Fault) : Prop :=
  List.Forall₂ (fun id fault => registry.get? id = some fault) ids faults

/-- Numbers that can stand in a result have a list of faults. -/
theorem Validator.faults_of_reports {catalogue : Catalogue V} {root : SpecId} {settings : Settings}
    {v : Validator V} (built : Validator.build? catalogue root settings = .ok v) {ids : List FaultId}
    (h : ∀ id ∈ ids, v.Reports id) : ∃ faults, v.scheme.registry.Lists ids faults := by
  induction ids with
  | nil => exact ⟨[], .nil⟩
  | cons id rest ih =>
    obtain ⟨fault, here⟩ := fault_of_reports built (h id List.mem_cons_self)
    obtain ⟨faults, there⟩ := ih fun other mem => h other (List.mem_cons_of_mem _ mem)
    exact ⟨fault :: faults, .cons here there⟩

/-! ## 2. Preloaded wordings -/

section Wordings

variable {translations : Translations} {defaultName : String} {registry : Registry} {w : Wordings}
  (made : Wordings.make? translations defaultName registry = some w)
include made

/-- Every translation has a table of all faults. -/
theorem table_of_make (name : String) :
    w.tables.get? name = (translations.get? name).map fun dictionary =>
      registry.faults.map (translate dictionary) := by
  unfold Wordings.make? at made
  split at made
  · cases made
    exact Keyed.get?_map _ _ _
  · cases made

theorem found_of_make {name : String} {dictionary : Dictionary}
    (there : translations.get? name = some dictionary) :
    w.tables.get? name = some (registry.faults.map (translate dictionary)) := by
  rw [table_of_make made name, there]
  rfl

/-- The default translation is one of them. -/
theorem default_of_make :
    w.defaultName = defaultName ∧ ∃ dictionary, translations.get? defaultName = some dictionary := by
  unfold Wordings.make? at made
  split at made
  · rename_i there
    cases made
    exact ⟨rfl, Option.isSome_iff_exists.mp there⟩
  · cases made

omit made in
/-- **Every number is found in every table.** -/
theorem preloaded_of_lists (dictionary : Dictionary) {ids : List FaultId} {faults : List Fault}
    (listed : registry.Lists ids faults) :
    List.Forall₂ (fun id fault => (registry.faults.map (translate dictionary))[id]? =
      some (translate dictionary fault)) ids faults :=
  listed.imp fun id fault here => by
    rw [List.getElem?_map, show registry.faults[id]? = some fault from here, Option.map_some]

/-- **The messages that were preloaded are those of the faults**, with the path put in. -/
theorem messages?_of_make {name : String} {dictionary : Dictionary}
    (there : translations.get? name = some dictionary) (path : String) {ids : List FaultId}
    {faults : List Fault} (listed : registry.Lists ids faults) :
    w.messages? name path ids =
      some (faults.flatMap fun f => (translate dictionary f).messages.map (withPath path)) := by
  have found := preloaded_of_lists dictionary listed
  unfold Wordings.messages?
  rw [table_of_make made name, there]
  refine congrArg some ?_
  dsimp only
  clear listed
  induction found with
  | nil => rfl
  | cons here behind ih =>
    rw [List.flatMap_cons, List.flatMap_cons, ih, here]
    exact congrArg (· ++ _) (at_translate dictionary _ path)

/-- In a translation that is there, every result can be shown. -/
theorem messageMapIn?_of_make {name : String} {dictionary : Dictionary}
    (there : translations.get? name = some dictionary) (faults : FaultMap) (shown : Registry) :
    ∃ messages, (Result.mk faults shown w).messageMapIn? name = .ok messages :=
  ⟨_, by rw [Result.messageMapIn?, Result.render?_of_table (found_of_make made there)]⟩

end Wordings

/-! ## 3. Validators -/

/-- **Preloaded messages are translated faults, and nothing is left out.** In every translation of the
    settings, at every path, numbers that can stand in results have their faults, and each is found in
    the table of the translation; the messages are those of the faults in this order, each translated
    with the dictionary and with the path put in. A translated fault in which nothing waits for the
    path is not looked at again, and that changes nothing: the path would leave such messages as they
    are. The default translation is there, so every result has the messages it has in that
    translation. -/
theorem messages_preloaded {catalogue : Catalogue V} {root : SpecId} {settings : Settings}
    {v : Validator V} (built : Validator.build? catalogue root settings = .ok v) :
    (∀ name dictionary, settings.translations.get? name = some dictionary →
      ∀ path ids, (∀ id ∈ ids, v.Reports id) →
        ∃ faults table, v.scheme.registry.Lists ids faults ∧
          v.wordings.tables.get? name = some table ∧
          List.Forall₂ (fun id fault => table[id]? = some (translate dictionary fault)) ids faults ∧
          v.wordings.messages? name path ids =
            some (faults.flatMap fun f => (translate dictionary f).messages.map (withPath path))) ∧
    ((∀ message path, pendingOf message = [] → withPath path message = message) ∧
      ∀ dictionary fault path, Wordings.Translated.at (translate dictionary fault) path =
        (translate dictionary fault).messages.map (withPath path)) ∧
    ∀ faults, (v.result faults).messageMapIn? settings.defaultTranslation =
      .ok (v.result faults).messageMap := by
  have made := Validator.wordings_of_build built
  refine ⟨fun name dictionary there path ids reported => ?_,
    ⟨fun message path none => withPath_of_pendingOf_nil none path, at_translate⟩, fun faults => ?_⟩
  · obtain ⟨faults, listed⟩ := Validator.faults_of_reports built reported
    refine ⟨faults, _, listed, ?_, preloaded_of_lists dictionary listed,
      messages?_of_make made there path listed⟩
    rw [table_of_make made name, there]
    rfl
  · obtain ⟨same, dictionary, there⟩ := default_of_make made
    obtain ⟨messages, shown⟩ := messageMapIn?_of_make made there faults v.scheme.registry
    have default : (v.result faults).messageMapIn? settings.defaultTranslation = .ok messages := shown
    have name : (v.result faults).wordings.defaultName = settings.defaultTranslation := same
    rw [default, Result.messageMap, name, default]

/-- Nodes with a number that must be small. A node leads to itself. -/
def nodes : Catalogue Nat := ⟨[
  ⟨"node", some ⟨"node", [
    .action .optional,
    .action (.rule (· < 9) (Fault.ofMessage "Node.Big" [])),
    .action (.link (.member "Next" fun n => some (n, .same)) 0)], [], none⟩⟩]⟩

/-- The message for a big number has the name in it. -/
def nodeSettings : Settings :=
  Settings.core.withTranslation Translations.english [("Node.Big", "\x7b_name\x7d is too big")]

/-- The fault of the number and the mark of the loop, which is registered behind it, both at the path
    of the node behind the first one. -/
theorem messages_preloaded_nodes :
    ∃ v dictionary faults, Validator.build? nodes 0 nodeSettings = .ok v ∧
      nodeSettings.translations.get? "English" = some dictionary ∧
      v.scheme.registry.Lists [0, 1] faults ∧
      v.wordings.messages? "English" "Next" [0, 1] =
        some (faults.flatMap fun f => (translate dictionary f).messages.map (withPath "Next")) ∧
      v.wordings.messages? "English" "Next" [0, 1] =
        some ["Next is too big", "(reference loop)"] := by
  obtain ⟨v, built⟩ : ∃ v, Validator.build? nodes 0 nodeSettings = .ok v := ⟨_, rfl⟩
  obtain ⟨dictionary, there⟩ : ∃ d, nodeSettings.translations.get? "English" = some d := ⟨_, rfl⟩
  have ids : v.scheme.template.ids = [0, 1] := by
    have made : (Validator.build? nodes 0 nodeSettings).map (·.scheme.template.ids) = .ok [0, 1] :=
      rfl
    rw [built] at made
    exact Except.ok.inj made
  have text : v.wordings.messages? "English" "Next" [0, 1] =
      some ["Next is too big", "(reference loop)"] := by
    have made : (Validator.build? nodes 0 nodeSettings).map
        (·.wordings.messages? "English" "Next" [0, 1]) =
          .ok (some ["Next is too big", "(reference loop)"]) := rfl
    rw [built] at made
    exact Except.ok.inj made
  obtain ⟨faults, table, listed, -, -, messages⟩ := (messages_preloaded built).1 "English"
    dictionary there "Next" [0, 1] fun id mem => .inl (ids ▸ mem)
  exact ⟨v, dictionary, faults, built, there, listed, messages, text⟩

end Assay
