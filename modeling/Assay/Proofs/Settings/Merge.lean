import Assay.Settings

/-!
# Settings files over settings

A settings file is merged into settings entry by entry, so it is said what a look-up finds afterwards.
On look-ups merging is choosing: the later table wins for a message key, and a translation that only one
side has is taken as it is, also if it has no entries. Choosing is associative, and so is merging.

* `Keyed.get?_insertAll` -- what a table holds after another one was written over it;
* `Translations.get?_merge` -- merging merges the dictionaries of each name;
* **`Translations.merge_assoc`** -- three sets are merged in either grouping;
* `SettingsFile.over f g` -- the one file that gives what `g` gives, and else what `f` gives;
* `Settings.merged s f` -- the settings that a file leads to; `withFile?_of_usable`,
  `withFile?_of_unusable`: applying it gives them or fails, as their default is there or not;
* **`Settings.files_compose`** -- which settings result, and two files in a row are one.
-/

namespace Assay

/-! ## 1. Tables -/

namespace Keyed

variable {α : Type}

theorem mem_keys (t : Keyed α) (key : String) : key ∈ t.keys ↔ t.contains key = true := by
  obtain ⟨pairs, sorted⟩ := t
  show key ∈ pairs.map Prod.fst ↔ (pairs.lookup key).isSome = true
  clear sorted
  induction pairs with
  | nil => simp
  | cons pair rest ih =>
    rw [List.map_cons, List.mem_cons, ih, show pair = (pair.1, pair.2) from rfl, lookup_cons_if]
    by_cases here : key = pair.1 <;> simp [here]

/-- Of pairs with ascending keys each is found after they were written, and what they leave alone. -/
theorem get?_insertAll_of_sorted (t : Keyed α) {pairs : List (String × α)}
    (sorted : pairs.Pairwise fun p q => p.1 < q.1) (key : String) :
    (t.insertAll pairs).get? key = (pairs.lookup key).or (t.get? key) := by
  induction pairs generalizing t with
  | nil => rfl
  | cons pair rest ih =>
    obtain ⟨k, value⟩ := pair
    obtain ⟨first, others⟩ := List.pairwise_cons.mp sorted
    have step : (t.insertAll ((k, value) :: rest)).get? key =
        (rest.lookup key).or ((t.insert k value).get? key) := ih (t.insert k value) others
    rw [step, get?_insert, lookup_cons_if]
    by_cases here : key = k
    · -- the keys ascend, so no later pair is under this key
      subst here
      rw [lookup_of_lt first, if_pos rfl, if_pos rfl, Option.none_or, Option.some_or]
    · rw [if_neg here, if_neg here]

/-- **A table written over another one wins where it has an entry.** -/
theorem get?_insertAll (t u : Keyed α) (key : String) :
    (t.insertAll u.entries).get? key = (u.get? key).or (t.get? key) :=
  t.get?_insertAll_of_sorted u.sorted key

theorem empty_insertAll (u : Keyed α) : empty.insertAll u.entries = u := by
  refine ext_get? fun key => ?_
  rw [get?_insertAll, show (empty : Keyed α).get? key = none from rfl, Option.or_none]

/-- Writing one table over another, as an operation on tables. -/
def overwrite (t u : Keyed α) : Keyed α := t.insertAll u.entries

theorem overwrite_assoc (t u w : Keyed α) :
    (t.overwrite u).overwrite w = t.overwrite (u.overwrite w) := by
  refine ext_get? fun key => ?_
  simp only [overwrite, get?_insertAll, Option.or_assoc]

instance : Std.Associative (overwrite (α := α)) := ⟨overwrite_assoc⟩

end Keyed

/-! ## 2. Translations -/

namespace Translations

/-- The template under a message key in a translation. -/
def template? (t : Translations) (name key : String) : Option String :=
  (t.get? name).bind (·.get? key)

theorem ext_get? {t u : Translations} (h : ∀ name, t.get? name = u.get? name) : t = u := by
  have same : t.tables = u.tables := Keyed.ext_get? h
  cases t
  cases u
  exact congrArg mk same

theorem get?_extend (t : Translations) (name other : String) (table : Dictionary) :
    (t.extend name table.entries).get? other =
      if other = name then Option.merge Keyed.overwrite (t.get? name) (some table)
      else t.get? other := by
  show (t.tables.insert name _).get? other = _
  rw [Keyed.get?_insert]
  congr 1
  cases h : t.get? name with
  | none => exact congrArg some table.empty_insertAll
  | some old => rfl

/-- Translations with ascending names, added one after another. -/
theorem get?_foldl_extend (t : Translations) {tables : List (String × Dictionary)}
    (sorted : tables.Pairwise fun p q => p.1 < q.1) (name : String) :
    (tables.foldl (fun t pair => t.extend pair.1 pair.2.entries) t).get? name =
      Option.merge Keyed.overwrite (t.get? name) (tables.lookup name) := by
  induction tables generalizing t with
  | nil => exact Option.merge_none_right.symm
  | cons pair rest ih =>
    obtain ⟨own, table⟩ := pair
    obtain ⟨first, others⟩ := List.pairwise_cons.mp sorted
    rw [List.foldl_cons, ih _ others, get?_extend, Keyed.lookup_cons_if]
    by_cases here : name = own
    · subst here
      rw [Keyed.lookup_of_lt first, if_pos rfl, if_pos rfl, Option.merge_none_right]
    · rw [if_neg here, if_neg here]

/-- **Merging two sets merges the dictionaries of each name**; one that only one side has is taken as it
    is. -/
theorem get?_merge (t u : Translations) (name : String) :
    (t.merge u).get? name = Option.merge Keyed.overwrite (t.get? name) (u.get? name) :=
  t.get?_foldl_extend u.tables.sorted name

/-- **Three sets are merged in either grouping.** -/
theorem merge_assoc (t u w : Translations) : (t.merge u).merge w = t.merge (u.merge w) := by
  refine ext_get? fun name => ?_
  simp only [get?_merge]
  exact (Option.associative_merge Keyed.overwrite).assoc _ _ _

theorem contains_merge (t u : Translations) (name : String) :
    (t.merge u).contains name = (t.contains name || u.contains name) := by
  show ((t.merge u).get? name).isSome = ((t.get? name).isSome || (u.get? name).isSome)
  rw [get?_merge]
  cases t.get? name <;> cases u.get? name <;> rfl

theorem mem_names (t : Translations) (name : String) : name ∈ t.names ↔ t.contains name = true :=
  t.tables.mem_keys name

theorem mem_names_merge (t u : Translations) (name : String) :
    name ∈ (t.merge u).names ↔ name ∈ t.names ∨ name ∈ u.names := by
  simp only [mem_names, contains_merge, Bool.or_eq_true]

/-- **An entry of a merged set is the later one, if there is one.** -/
theorem template?_merge (t u : Translations) (name key : String) :
    (t.merge u).template? name key = (u.template? name key).or (t.template? name key) := by
  rw [template?, template?, template?, get?_merge]
  cases t.get? name with
  | none => cases u.get? name <;> simp
  | some old =>
    cases u.get? name with
    | none => rfl
    | some new => exact old.get?_insertAll new key

end Translations

/-! ## 3. Settings -/

/-- The file that gives what `g` gives, and else what `f` gives. -/
def SettingsFile.over (f g : SettingsFile) : SettingsFile where
  defaultTranslation := g.defaultTranslation.or f.defaultTranslation
  loopProtection := g.loopProtection.or f.loopProtection
  translations := f.translations.merge g.translations

namespace Settings

variable {s t : Settings} {f : SettingsFile}

/-- The settings that a file leads to, whether or not their default translation is there. -/
def merged (s : Settings) (f : SettingsFile) : Settings where
  translations := s.translations.merge f.translations
  defaultTranslation := f.defaultTranslation.getD s.defaultTranslation
  loopProtection := f.loopProtection.or s.loopProtection

/-- The default translation of the settings is one of their translations. -/
def Usable (s : Settings) : Prop := s.defaultTranslation ∈ s.translations.names

theorem withFile?_of_usable (h : (s.merged f).Usable) : s.withFile? f = .ok (s.merged f) :=
  if_pos ((Translations.mem_names _ _).mp h)

theorem withFile?_of_unusable (h : ¬(s.merged f).Usable) :
    s.withFile? f = .error (.unusable
      ("default translation " ++ Issue.quoted (s.merged f).defaultTranslation ++
        " is not defined")) :=
  if_neg (mt (Translations.mem_names _ _).mpr h)

theorem withFile?_eq_ok_iff : s.withFile? f = .ok t ↔ (s.merged f).Usable ∧ t = s.merged f := by
  by_cases h : (s.merged f).Usable
  · rw [withFile?_of_usable h, Except.ok.injEq, and_iff_right h]
    exact eq_comm
  · rw [withFile?_of_unusable h]
    exact iff_of_false (fun same => by cases same) fun both => h both.1

/-- Two files in a row lead to the same settings as the one that is put together from them. -/
theorem merged_over (s : Settings) (f g : SettingsFile) :
    (s.merged f).merged g = s.merged (f.over g) := by
  have name : g.defaultTranslation.getD (f.defaultTranslation.getD s.defaultTranslation) =
      (g.defaultTranslation.or f.defaultTranslation).getD s.defaultTranslation := by
    cases g.defaultTranslation <;> rfl
  simp only [merged, SettingsFile.over, Translations.merge_assoc, Option.or_assoc, name]

theorem withFile?_merged (s : Settings) (f g : SettingsFile) :
    (s.merged f).withFile? g = s.withFile? (f.over g) := by
  by_cases h : (s.merged (f.over g)).Usable
  · rw [withFile?_of_usable h, ← merged_over]
    rw [← merged_over] at h
    exact withFile?_of_usable h
  · rw [withFile?_of_unusable h, ← merged_over]
    rw [← merged_over] at h
    exact withFile?_of_unusable h

/-- **Settings files merge entry by entry and compose.** A file is applied if the default translation
    that results is one of the settings or of the file. Then every entry is the file's if it has one, and
    else the settings' own; the translations are those of both; the default and the protection are the
    file's if it gives them. And applying two files one after the other is applying the one that is put
    together from them, with settings or an error as the outcome, if the first can be applied. -/
theorem files_compose (s : Settings) (f : SettingsFile) :
    ((∃ t, s.withFile? f = .ok t) ↔
      f.defaultTranslation.getD s.defaultTranslation ∈ s.translations.names ∨
        f.defaultTranslation.getD s.defaultTranslation ∈ f.translations.names) ∧
    (∀ t, s.withFile? f = .ok t →
      (∀ name key, t.translations.template? name key =
        (f.translations.template? name key).or (s.translations.template? name key)) ∧
      (∀ name, name ∈ t.translations.names ↔
        name ∈ s.translations.names ∨ name ∈ f.translations.names) ∧
      t.defaultTranslation = f.defaultTranslation.getD s.defaultTranslation ∧
      t.loopProtection = f.loopProtection.or s.loopProtection) ∧
    ∀ g t, s.withFile? f = .ok t → t.withFile? g = s.withFile? (f.over g) := by
  refine ⟨?_, fun t applied => ?_, fun g t applied => ?_⟩
  · rw [← Translations.mem_names_merge]
    constructor
    · rintro ⟨t, applied⟩
      exact (withFile?_eq_ok_iff.mp applied).1
    · exact fun usable => ⟨_, withFile?_of_usable usable⟩
  · obtain ⟨-, rfl⟩ := withFile?_eq_ok_iff.mp applied
    exact ⟨Translations.template?_merge _ _, Translations.mem_names_merge _ _, rfl, rfl⟩
  · obtain ⟨-, rfl⟩ := withFile?_eq_ok_iff.mp applied
    exact withFile?_merged s f g

/-- A file that adds a translation without entries and makes it the default. -/
def polish : SettingsFile where
  defaultTranslation := some "Polish"
  loopProtection := none
  translations := Translations.empty.extend "Polish" []

/-- A file that fills that translation, changes an entry of another and turns protection on. -/
def amended : SettingsFile where
  defaultTranslation := none
  loopProtection := some true
  translations := (Translations.empty.extend "Polish" [(Fault.errorKey, "Niepoprawne")]).extend
    Translations.english [(Fault.errorKey, "Invalid")]

/-- The two files in a row over the core settings. -/
theorem files_compose_polish :
    core.withFile? polish = .ok (core.merged polish) ∧
      (core.merged polish).translations.template? "Polish" Fault.errorKey = none ∧
      (core.merged polish).translations.template? "English" Fault.requiredKey = some "Required" ∧
      (core.merged polish).withFile? amended = core.withFile? (polish.over amended) ∧
      core.withFile? (polish.over amended) = .ok (core.merged (polish.over amended)) ∧
      (core.merged (polish.over amended)).translations.template? "English" Fault.errorKey =
        some "Invalid" ∧
      (core.merged (polish.over amended)).defaultTranslation = "Polish" := by
  obtain ⟨applies, gives, composes⟩ := files_compose core polish
  obtain ⟨appliesBoth, givesBoth, -⟩ := files_compose core (polish.over amended)
  obtain ⟨t, first⟩ := applies.mpr (.inr (by decide))
  obtain ⟨u, both⟩ := appliesBoth.mpr (.inr (by decide))
  obtain ⟨-, rfl⟩ := withFile?_eq_ok_iff.mp first
  obtain ⟨-, rfl⟩ := withFile?_eq_ok_iff.mp both
  obtain ⟨entries, -⟩ := gives _ first
  obtain ⟨entriesBoth, -, default, -⟩ := givesBoth _ both
  exact ⟨first, (entries _ _).trans (by decide), (entries _ _).trans (by decide),
    composes amended _ first, both, (entriesBoth _ _).trans (by decide), default⟩

end Settings

end Assay
