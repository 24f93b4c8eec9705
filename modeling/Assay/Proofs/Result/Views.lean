import Assay.Proofs.Message.Preloaded
import Assay.Proofs.Scheme.Findings

/-!
# Views of a result

A result is looked at in many ways: as a report, as tables of messages and codes, as a list of codes,
as a text. Each of them is made from the faults anew. This file says that all of them can be read off
the report, and when there is none.

* `Report.Tabulates`, `Report.text` -- the tables and the text that a report tells;
* `messageMapIn?_of_table` to `text_of_table` -- a result shows what its report tells;
* `Validator.Returns` -- a result is the template of the validator or that of a value;
* `Validator.Logs` -- the writes that a result is made of, in the order of discovery;
  `result_of_logs`: it is what they leave;
* **`unknown_translation_iff`** -- a result cannot be shown in a translation exactly if the translation
  is not there and the result has a fault;
* `Result.Tells` -- the report has one entry for each path, and the other views are told by it;
* **`views_tell_report`** -- so it is with every result, in every translation.

**A result without faults is shown in any translation**: `klingon_of_sound`.
-/

namespace Assay

open Message

variable {V : Type}

/-! ## 1. What a report tells -/

/-- The table holds what the entries of the report have in a field, where that is not empty. -/
def Report.Tabulates (report : Report) (field : ReportEntry → List String)
    (table : Keyed (List String)) : Prop :=
  ∀ path items, table.get? path = some items ↔
    items ≠ [] ∧ ∃ entry ∈ report.entries, entry.path = path ∧ field entry = items

/-- One line for each message, entry by entry. -/
def Report.lines (report : Report) : List String :=
  report.entries.flatMap fun entry => entry.messages.map (Result.line entry.path)

/-- The codes on one line, and the lines of the messages. If there are both, an empty line stands
    between them. -/
def Report.text (report : Report) : String :=
  if report.codes = [] then "\n".intercalate report.lines
  else if report.lines = [] then ", ".intercalate report.codes
  else ", ".intercalate report.codes ++ "\n\n" ++ "\n".intercalate report.lines

theorem Report.tabulates_byPath {report : Report} (once : (report.entries.map (·.path)).Nodup)
    (field : ReportEntry → List String) :
    report.Tabulates field
      (Result.byPath (report.entries.map fun entry => (entry.path, field entry))) := by
  have keys : (report.entries.map fun entry => (entry.path, field entry)).map Prod.fst =
      report.entries.map (·.path) := List.map_map
  intro path items
  rw [Result.get?_byPath (keys ▸ once), List.mem_map]
  simp only [Prod.mk.injEq]

namespace Result

variable {r : Result} {name : String} {table : List Translated}

theorem messageMapIn?_of_table (found : r.wordings.tables.get? name = some table) :
    r.messageMapIn? name =
      .ok (byPath ((r.reportBy name table).entries.map fun entry => (entry.path, entry.messages))) := by
  rw [messageMapIn?, render?_of_table found, reportBy, List.map_map]
  rfl

theorem codeMap_eq :
    r.codeMap = byPath ((r.reportBy name table).entries.map fun entry => (entry.path, entry.codes)) := by
  rw [codeMap, reportBy, List.map_map]
  rfl

/-- The codes of the entries, without repeats. -/
theorem codes_eq : r.codes = ((r.reportBy name table).entries.flatMap (·.codes)).eraseDups := by
  rw [codes, codesOf, FaultMap.ids, List.flatMap_assoc, reportBy, List.flatMap_map]
  rfl

theorem valid_iff : (r.reportBy name table).valid = true ↔ (r.reportBy name table).entries = [] := by
  rw [reportBy, List.map_eq_nil_iff, anyFaults, Bool.not_not, FaultMap.isEmpty, List.isEmpty_iff]

theorem lines_eq : (r.reportBy name table).lines = r.faults.entries.flatMap fun (path, ids) =>
    (worded table path ids).map (line path) := by
  rw [Report.lines, reportBy, List.flatMap_map]

/-- **The text is told by the report in the default translation.** -/
theorem text_of_table (found : r.wordings.tables.get? r.wordings.defaultName = some table) :
    r.text = (r.reportBy r.wordings.defaultName table).text := by
  have joined (codes lines : List String) : ", ".intercalate codes ++
      (if codes.isEmpty || lines.isEmpty then "" else "\n\n") ++ "\n".intercalate lines =
        if codes = [] then "\n".intercalate lines
        else if lines = [] then ", ".intercalate codes
        else ", ".intercalate codes ++ "\n\n" ++ "\n".intercalate lines := by
    cases codes with
    | nil => simp
    | cons code codes =>
      cases lines with
      | nil => simp
      | cons line lines => simp
  rw [text, render?_of_table found, Option.getD_some, List.flatMap_map, Report.text, lines_eq]
  exact joined _ _

end Result

/-! ## 2. Results of a validator -/

/-- The results that a validator gives: its template, and those of values. -/
inductive Validator.Returns (v : Validator V) : Result → Prop where
  | template : Returns v v.template
  | full {model : V} {place : Place} {r : Result} (done : v.validate model place = .ok r) :
      Returns v r
  | hurried {model : V} {place : Place} {r : Result} (done : v.validateHurried model place = .ok r) :
      Returns v r

/-- **What is written into the map of a result**, in the order of discovery: the findings of the
    survey, each once at its path, or the records of the visit, each behind the others. -/
inductive Validator.Logs (v : Validator V) : Result → List FaultMap.Write → Prop where
  | template : Logs v v.template (v.scheme.findings.map FaultMap.once)
  | visit {hurried : Bool} {model : V} {place : Place} {r : Result} {log : List Record}
      (done : (v.visit hurried model place).map v.result = .ok r)
      (made : Visit.records ⟨hurried, v.loopProtection⟩ v.scheme Validator.depthLimit model place =
        .ok log) : Logs v r (log.map FaultMap.each)

section Built

variable {catalogue : Catalogue V} {root : SpecId} {settings : Settings} {v : Validator V}
  (built : Validator.build? catalogue root settings = .ok v)

theorem Validator.logs_of_visit {hurried : Bool} {model : V} {place : Place} {r : Result}
    (done : (v.visit hurried model place).map v.result = .ok r) : ∃ writes, v.Logs r writes := by
  cases made : v.visit hurried model place with
  | error e =>
    rw [made] at done
    cases done
  | ok faults =>
    obtain ⟨log, records, -⟩ := Visit.run_eq_ok_iff.mp made
    exact ⟨_, .visit done records⟩

/-- Every result has a log. -/
theorem Validator.logs_of_returns {r : Result} (returned : v.Returns r) :
    ∃ writes, v.Logs r writes := by
  cases returned with
  | template => exact ⟨_, .template⟩
  | full done => exact logs_of_visit done
  | hurried done => exact logs_of_visit done

/-- The result of a visit holds the records of the visit. -/
theorem Validator.result_of_records {hurried : Bool} {model : V} {place : Place} {r : Result}
    {log : List Record}
    (made : Visit.records ⟨hurried, v.loopProtection⟩ v.scheme Validator.depthLimit model place =
      .ok log)
    (done : (v.visit hurried model place).map v.result = .ok r) : r = v.result (.ofRecords log) := by
  rw [Validator.visit, Visit.run_eq_ok_iff.mpr ⟨log, made, rfl⟩] at done
  exact (Except.ok.inj done).symm

/-- The numbers in a result can be reported. -/
theorem Validator.reports_of_logs {r : Result} {writes : List FaultMap.Write} (logs : v.Logs r writes)
    {id : FaultId} (mem : id ∈ r.faults.ids) : v.Reports id := by
  cases logs with
  | template => exact .inl mem
  | visit done made =>
    rw [result_of_records made done] at mem
    exact .inr ⟨_, _, _, _, _, Visit.run_eq_ok_iff.mpr ⟨_, made, rfl⟩, mem⟩

include built

/-- **A result is what its log leaves.** -/
theorem Validator.result_of_logs {r : Result} {writes : List FaultMap.Write} (logs : v.Logs r writes) :
    r = v.result (.ofWrites writes) := by
  cases logs with
  | template => exact congrArg v.result (template_eq_findings (Validator.build?_eq_ok built).1)
  | visit done made =>
    exact (result_of_records made done).trans (congrArg v.result (FaultMap.ofRecords_eq _))

/-- Every translation that is there has a table of all faults. -/
theorem Validator.found_of_build {name : String} {dictionary : Dictionary}
    (there : settings.translations.get? name = some dictionary) :
    v.wordings.tables.get? name = some (v.scheme.registry.faults.map (translate dictionary)) :=
  found_of_make (Validator.wordings_of_build built) there

end Built

/-! ## 3. Unknown translations -/

/-- **When a result cannot be shown in a translation.** Messages and a report in a named translation are
    refused, with that name, exactly if the settings have no translation of the name and the result has
    a fault. Without a name the report is always given. So a result without faults is shown in every
    translation, whether it is there or not. -/
theorem unknown_translation_iff {catalogue : Catalogue V} {root : SpecId} {settings : Settings}
    {v : Validator V} (built : Validator.build? catalogue root settings = .ok v) (faults : FaultMap)
    (name : String) :
    (∀ e, (v.result faults).messageMapIn? name = .error e ↔
      e = name ∧ settings.translations.contains name = false ∧
        (v.result faults).anyFaults = true) ∧
    (∀ e, (v.result faults).report? (some name) = .error e ↔
      e = name ∧ settings.translations.contains name = false ∧
        (v.result faults).anyFaults = true) ∧
    (∃ report, (v.result faults).report? none = .ok report) ∧
    ((v.result faults).anyFaults = false →
      (v.result faults).messageMapIn? name = .ok Keyed.empty ∧
        (v.result faults).report? (some name) = .ok ⟨true, name, [], []⟩) := by
  have made := Validator.wordings_of_build built
  have known : (v.result faults).wordings.tables.get? name = none ↔
      settings.translations.contains name = false := by
    rw [Translations.contains, Keyed.contains, Option.isSome_eq_false_iff, Option.isNone_iff_eq_none]
    exact (table_of_make made name) ▸ Option.map_eq_none_iff
  refine ⟨fun e => ?_, fun e => ?_, ?_, fun none => ?_⟩
  · rw [Result.messageMapIn?_eq_error_iff, known]
  · rw [Result.report?_eq_error_iff, known]
  · obtain ⟨-, dictionary, there⟩ := default_of_make made
    have table := Validator.found_of_build built there
    rw [← (default_of_make made).1] at table
    exact ⟨_, Result.report?_of_table none table⟩
  · obtain ⟨entries⟩ := faults
    have empty : entries = [] := by
      simpa [Result.anyFaults, FaultMap.isEmpty, Validator.result] using none
    subst empty
    exact ⟨rfl, rfl⟩

/-- Balances, with the limit five above each. Two faults share a code; one has only a code, another
    only a message. -/
def balances : Catalogue Int := ⟨[
  ⟨"balance", some ⟨"balance", [
    .action (.rule (0 ≤ ·) ⟨["negative"], [], ["A1"], [], []⟩),
    .action (.rule (· % 2 = 0) ⟨[], [], ["A2"], [], []⟩),
    .action (.link (.member "Limit" fun n => some (n + 5, .same)) 1)], [], none⟩⟩,
  ⟨"limit", some ⟨"limit", [
    .action (.rule (0 ≤ ·) ⟨["\x7b_name\x7d is too low"], [], ["A3"], ["A1"], []⟩),
    .action (.rule (· ≠ -2) (Fault.ofMessage "minus two" []))], [], none⟩⟩]⟩

/-- The failures of a negative balance are not shown in an unknown translation. -/
theorem klingon_of_negative :
    ∃ v faults, Validator.build? balances 0 Settings.core = .ok v ∧
      v.visit false (-7) .model = .ok faults ∧
      (v.result faults).messageMapIn? "Klingon" = .error "Klingon" ∧
      (v.result faults).report? (some "Klingon") = .error "Klingon" := by
  obtain ⟨v, faults, built, made, failed⟩ : ∃ v faults,
      Validator.build? balances 0 Settings.core = .ok v ∧ v.visit false (-7) .model = .ok faults ∧
        (v.result faults).anyFaults = true := ⟨_, _, rfl, rfl, rfl⟩
  obtain ⟨messages, report, -, -⟩ := unknown_translation_iff built faults "Klingon"
  exact ⟨v, faults, built, made, (messages _).mpr ⟨rfl, by decide, failed⟩,
    (report _).mpr ⟨rfl, by decide, failed⟩⟩

/-- **A result without faults is shown in any translation.** -/
theorem klingon_of_sound :
    ∃ v r, Validator.build? balances 0 Settings.core = .ok v ∧ v.validate 6 .model = .ok r ∧
      Settings.core.translations.contains "Klingon" = false ∧
      r.messageMapIn? "Klingon" = .ok Keyed.empty ∧
      r.report? (some "Klingon") = .ok ⟨true, "Klingon", [], []⟩ :=
  ⟨_, _, rfl, rfl, by decide, rfl, rfl⟩

/-! ## 4. All views -/

/-- Several numbers show the codes of their faults, one after another. -/
theorem Result.codesOf_of_lists {r : Result} {ids : List FaultId} {faults : List Fault}
    (listed : r.registry.Lists ids faults) : r.codesOf ids = faults.flatMap Fault.allCodes := by
  rw [Result.codesOf]
  induction listed with
  | nil => rfl
  | cons here behind ih =>
    rw [List.flatMap_cons, List.flatMap_cons, ih, Registry.codesOf, here]
    rfl

/-- **What is said about a path**: the messages and codes of the faults that are there, one fault
    after another. -/
def Result.Says (r : Result) (dictionary : Dictionary) (path : String) (ids : List FaultId)
    (entry : ReportEntry) : Prop :=
  r.faults.get? path = some ids ∧
    ∃ faults, r.registry.Lists ids faults ∧
      entry = ⟨path, faults.flatMap fun f => (translate dictionary f).messages.map (withPath path),
        faults.flatMap Fault.allCodes⟩

/-- **The report in a translation tells all about a result** that such writes have left. -/
structure Result.Tells (r : Result) (writes : List FaultMap.Write) (dictionary : Dictionary)
    (name : String) (report : Report) : Prop where
  given : r.report? (some name) = .ok report
  translation : report.translation = name
  /-- Each path has one entry, in the order of discovery. -/
  entries : List.Forall₂ (fun path entry => r.Says dictionary path (FaultMap.leftAt path writes) entry)
    (writes.map (·.path)).eraseDups report.entries
  once : (report.entries.map (·.path)).Nodup
  messages : ∃ shown, r.messageMapIn? name = .ok shown ∧ report.Tabulates (·.messages) shown
  codeMap : report.Tabulates (·.codes) r.codeMap
  codes : r.codes = (report.entries.flatMap (·.codes)).eraseDups
  listed : report.codes = r.codes
  valid : report.valid = true ↔ report.entries = []

section Told

variable {catalogue : Catalogue V} {root : SpecId} {settings : Settings} {v : Validator V}
  (built : Validator.build? catalogue root settings = .ok v) {r : Result}
  {writes : List FaultMap.Write} (logs : v.Logs r writes) {name : String} {dictionary : Dictionary}
  (there : settings.translations.get? name = some dictionary)
include built logs there

/-- The faults of a result at a path, in words. -/
theorem Validator.says_of_logs {path : String} (mem : path ∈ writes.map (·.path)) :
    r.Says dictionary path (FaultMap.leftAt path writes)
      ⟨path, Result.worded (v.scheme.registry.faults.map (translate dictionary)) path
          (FaultMap.leftAt path writes), r.codesOf (FaultMap.leftAt path writes)⟩ := by
  have same := Validator.result_of_logs built logs
  have found : r.faults.get? path = some (FaultMap.leftAt path writes) := by
    rw [same, Validator.result, FaultMap.get?_ofWrites, if_pos mem]
  have left : ∀ id ∈ FaultMap.leftAt path writes, v.Reports id := fun id mem =>
    Validator.reports_of_logs logs
      (List.mem_flatMap.mpr ⟨_, Keyed.mem_of_lookup found, mem⟩)
  obtain ⟨faults, listed⟩ := Validator.faults_of_reports built left
  have messages := messages?_of_make (Validator.wordings_of_build built) there path listed
  rw [Result.messages?_eq, Validator.found_of_build built there, Option.map_some] at messages
  have registered : r.registry.Lists (FaultMap.leftAt path writes) faults := same ▸ listed
  refine ⟨found, faults, registered, ?_⟩
  rw [Result.codesOf_of_lists registered, Option.some.inj messages]

/-- A result is told by the report in any translation that is there. -/
theorem Validator.tells_of_logs : r.Tells writes dictionary name
    (r.reportBy name (v.scheme.registry.faults.map (translate dictionary))) := by
  have same := Validator.result_of_logs built logs
  have found : r.wordings.tables.get? name =
      some (v.scheme.registry.faults.map (translate dictionary)) := by
    rw [same]
    exact Validator.found_of_build built there
  have entries : r.faults.entries =
      (writes.map (·.path)).eraseDups.map fun path => (path, FaultMap.leftAt path writes) := by
    rw [same]
    exact FaultMap.entries_ofWrites writes
  have once : ((r.reportBy name
      (v.scheme.registry.faults.map (translate dictionary))).entries.map (·.path)).Nodup := by
    rw [Result.reportBy, entries, List.map_map, List.map_map]
    exact (List.map_id _).symm ▸ nodup_eraseDups _
  refine {
    given := Result.report?_of_table (some name) found
    translation := rfl
    entries := ?_
    once
    messages := ⟨_, Result.messageMapIn?_of_table found, Report.tabulates_byPath once _⟩
    codeMap := Result.codeMap_eq ▸ Report.tabulates_byPath once _
    codes := Result.codes_eq
    listed := rfl
    valid := Result.valid_iff }
  rw [Result.reportBy, entries, List.map_map, List.forall₂_map_right_iff, List.forall₂_same]
  exact fun path mem => says_of_logs built logs there (List.mem_eraseDups.mp mem)

end Told

/-- **All views of a result are told by its report.** Every result of a validator is what a row of
    writes leaves: the findings of the survey, or the records of the visit. In each translation that is
    there, it has a report with one entry for each path, in the order of discovery, with the messages
    and codes of the faults left at the path. The tables hold the entries that have any messages, or
    codes; the list of codes has those of all entries, each once; and the report says that the value is
    valid if it has no entries. The text, and the messages in no named translation, are told by the
    report in the default translation, which is there. -/
theorem views_tell_report {catalogue : Catalogue V} {root : SpecId} {settings : Settings}
    {v : Validator V} (built : Validator.build? catalogue root settings = .ok v) {r : Result}
    (returned : v.Returns r) :
    ∃ writes, v.Logs r writes ∧ r = v.result (.ofWrites writes) ∧
      (∀ name dictionary, settings.translations.get? name = some dictionary →
        ∃ report, r.Tells writes dictionary name report) ∧
      ∃ dictionary shown, settings.translations.get? settings.defaultTranslation = some dictionary ∧
        r.Tells writes dictionary settings.defaultTranslation shown ∧ r.report? none = .ok shown ∧
        shown.Tabulates (·.messages) r.messageMap ∧ r.text = shown.text := by
  obtain ⟨writes, logs⟩ := Validator.logs_of_returns returned
  obtain ⟨same, dictionary, there⟩ := default_of_make (Validator.wordings_of_build built)
  have result := Validator.result_of_logs built logs
  have default : r.wordings.defaultName = settings.defaultTranslation := result ▸ same
  have found : r.wordings.tables.get? r.wordings.defaultName =
      some (v.scheme.registry.faults.map (translate dictionary)) := by
    rw [default, result]
    exact Validator.found_of_build built there
  have tells := Validator.tells_of_logs built logs there
  refine ⟨writes, logs, result, fun name dictionary there =>
    ⟨_, Validator.tells_of_logs built logs there⟩, dictionary, _, there, tells, ?_, ?_, ?_⟩
  · rw [← default]
    exact Result.report?_of_table none found
  · obtain ⟨shown, given, tabulates⟩ := tells.messages
    rwa [Result.messageMap, default, given]
  · rw [← default]
    exact Result.text_of_table found

/-- The views of a negative balance. -/
theorem views_tell_report_balance :
    ∃ v r, Validator.build? balances 0 Settings.core = .ok v ∧ v.validate (-7) .model = .ok r ∧
      ∃ writes dictionary report, v.Logs r writes ∧
        Settings.core.translations.get? "English" = some dictionary ∧
        r.Tells writes dictionary "English" report ∧
        report.text = "A1, A2, A3\n\nnegative\nLimit: Limit is too low\nLimit: minus two" := by
  obtain ⟨v, r, built, done, text⟩ : ∃ v r, Validator.build? balances 0 Settings.core = .ok v ∧
      v.validate (-7) .model = .ok r ∧
        r.text = "A1, A2, A3\n\nnegative\nLimit: Limit is too low\nLimit: minus two" :=
    ⟨_, _, rfl, rfl, rfl⟩
  obtain ⟨writes, logs, -, -, dictionary, report, there, tells, -, -, told⟩ :=
    views_tell_report built (.full done)
  exact ⟨v, r, built, done, writes, dictionary, report, logs, there, tells, told.symm.trans text⟩

end Assay
