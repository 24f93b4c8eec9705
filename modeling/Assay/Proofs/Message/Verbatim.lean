import Assay.Proofs.Message.Entry

/-!
# Texts in messages

An argument that is a text is put into a message letter by letter. But two passes follow, one for the
entries of the dictionary and one for the path, and they read the message as a whole: a placeholder in
the text is as good as one in the template. Braces cannot be escaped, so a text with such a placeholder
is not shown as it is. Every other text is.

* `Placeholder.Live` -- the placeholders that a later pass replaces;
* `rendered_showing` -- the text becomes what the two passes make of it alone, and the texts around it
  stay;
* `changed_of_live` -- without entries and at the root, a live placeholder makes the text shorter;
* **`text_verbatim_iff`** -- the text is shown as it is, in every dictionary and at every path, exactly
  if none of its placeholders is live.
-/

namespace Assay

open Message Message.Placeholder Text

/-! ## 1. Live placeholders -/

namespace Message

/-- The placeholder asks for the path or the name: `_path` alone, `_name` alone or in title case. -/
def Placeholder.AsksForPath (p : Placeholder) : Prop :=
  (p.name = pathKey ∧ p.params = []) ∨
    (p.name = nameKey ∧ (p.params = [] ∨ p.params = [(Arg.formatKey, titleCaseFormat)]))

/-- A pass that follows the one for arguments replaces the placeholder. -/
def Placeholder.Live (p : Placeholder) : Prop := (∃ key, p.AsksFor key) ∨ p.AsksForPath

instance (p : Placeholder) : Decidable p.AsksForPath := inferInstanceAs (Decidable (_ ∨ _))

instance (p : Placeholder) : Decidable p.Live :=
  decidable_of_iff ((p.name = translationKey ∧ (p.param keyParam).isSome) ∨ p.AsksForPath) <| by
    rw [Option.isSome_iff_exists, ← exists_and_left]
    rfl

/-- A placeholder that asks for no entry is kept by the pass for entries. -/
theorem entryValue_eq_none_iff {dictionary : Dictionary} {args : List Arg} {p : Placeholder} :
    entryValue dictionary args p = none ↔ ¬ ∃ key, p.AsksFor key := by
  rw [Option.eq_none_iff_forall_ne_some]
  constructor
  · rintro kept ⟨key, asks⟩
    exact kept _ (entryValue_eq_some_iff.mpr ⟨key, asks, rfl⟩)
  · intro other value taken
    obtain ⟨key, asks, -⟩ := entryValue_eq_some_iff.mp taken
    exact other ⟨key, asks⟩

/-- A placeholder that does not ask for the path or the name is kept by the pass for these. -/
theorem pathValue_eq_none_iff {path : String} {p : Placeholder} :
    pathValue path p = none ↔ ¬ p.AsksForPath := by
  have distinct : pathKey ≠ nameKey := by decide
  unfold pathValue Placeholder.AsksForPath
  by_cases whole : p.name = pathKey
  · by_cases alone : p.params = [] <;> simp [whole, distinct, alone]
  · by_cases name : p.name = nameKey
    · by_cases alone : p.params = []
      · simp [name, distinct.symm, alone]
      · by_cases titled : p.params = [(Arg.formatKey, titleCaseFormat)] <;>
          simp [name, distinct.symm, alone, titled]
    · simp [whole, name]

/-- At the root, the path and the name are empty. -/
theorem eq_empty_of_pathValue {p : Placeholder} {value : String}
    (taken : pathValue "" p = some value) : value = "" := by
  have root : Path.name "" = "" := by decide
  have titled : titleCase "" = "" := by decide
  rw [pathValue, root, titled] at taken
  split_ifs at taken <;> exact (Option.some.inj taken).symm

/-! ## 2. Three passes -/

/-- The placeholder in a message that shows an argument. -/
def showing (arg : Arg) : String := "\x7b" ++ arg.name ++ "\x7d"

theorem showing_eq_spell (arg : Arg) : showing arg = spell arg.name [] := by
  rw [← String.toList_inj, spell, String.toList_ofList, spelled, if_pos rfl, showing,
    String.toList_append, String.toList_append]
  rfl

/-- A text with the entries it asks for. -/
def withEntries (dictionary : Dictionary) (args : List Arg) (text : String) : String :=
  substitute text (entryValue dictionary args)

section Passes

variable {args : List Arg} {arg : Arg} {value : String}

/-- The text is put in letter by letter. -/
theorem withArgs_showing (named : IsName arg.name)
    (first : args.find? (·.name == arg.name) = some arg) (isText : arg.value = .text value) :
    withArgs args (showing arg) = value := by
  have shown : arg.format [] = value := by
    rw [Arg.format, isText]
    rfl
  rw [showing_eq_spell, withArgs, substitute_spell (legible_name named), argValue, first,
    Option.map_some, shown, Option.getD_some]

/-- **The text becomes what the two later passes make of it alone**, between the texts around it. -/
theorem rendered_showing (named : IsName arg.name)
    (first : args.find? (·.name == arg.name) = some arg) (isText : arg.value = .text value)
    {front back : String} (plainFront : Braceless front.toList) (plainBack : Braceless back.toList)
    {dictionary : Dictionary} {message : String}
    (template : (dictionary.get? message).getD message = front ++ showing arg ++ back)
    (path : String) : withPath path (translateMessage dictionary args message) =
      front ++ withPath path (withEntries dictionary args value) ++ back := by
  have whole : withArgs args (front ++ showing arg ++ back) = front ++ value ++ back := by
    rw [withArgs, substitute_framed plainFront plainBack]
    exact congrArg (front ++ · ++ back) (withArgs_showing named first isText)
  rw [translateMessage, template, whole, substitute_framed plainFront plainBack, withPath,
    substitute_framed plainFront plainBack]
  rfl

end Passes

/-- **A text without live placeholders is left as it is** by both passes. -/
theorem kept_of_not_live {text : String} (dead : ∀ p ∈ placeholders text, ¬ p.Live)
    (dictionary : Dictionary) (args : List Arg) (path : String) :
    withPath path (withEntries dictionary args text) = text := by
  have entries : withEntries dictionary args text = text :=
    substitute_of_declined fun p mem =>
      entryValue_eq_none_iff.mpr fun asks => dead p mem (.inl asks)
  rw [entries]
  exact substitute_of_declined fun p mem =>
    pathValue_eq_none_iff.mpr fun asks => dead p mem (.inr asks)

/-! ## 3. Live placeholders are seen -/

/-- A placeholder is its inside and two braces. -/
theorem length_source {p : Placeholder} {text : String} (mem : p ∈ placeholders text) :
    p.source.length = (spelled p.name p.params).length + 2 := by
  rw [(spelled_of_mem mem).2.1, spell, String.length_ofList, Piece.text, List.length_append,
    List.length_cons]
  rfl

/-- The value of a parameter is shorter than the placeholder. -/
theorem length_param_lt {p : Placeholder} {text name value : String} (mem : p ∈ placeholders text)
    (param : p.param name = some value) : value.length < p.source.length := by
  have there : (name, value) ∈ p.params := Keyed.mem_of_lookup param
  have part : value.toList <:+: spelledParam (name, value) :=
    ((List.suffix_cons _ _).trans (List.suffix_append _ _)).isInfix
  have behind : joinWith ',' (p.params.map spelledParam) <:+: spelled p.name p.params := by
    rw [spelled, if_neg (List.ne_nil_of_mem there)]
    exact ((List.suffix_cons _ _).trans (List.suffix_append _ _)).isInfix
  have inside : value.toList.length ≤ (spelled p.name p.params).length :=
    (part.trans ((infix_joinWith (List.mem_map_of_mem there)).trans behind)).length_le
  rw [String.length_toList] at inside
  rw [length_source mem]
  omega

/-- Without entries, a placeholder for an entry becomes its key, which is shorter. -/
theorem shortens_entries (args : List Arg) (text : String) :
    Shortens (entryValue Keyed.empty args) text := by
  intro p mem value taken
  obtain ⟨key, asks, shown⟩ := entryValue_eq_some_iff.mp taken
  obtain rfl : key = value := shown
  exact length_param_lt mem asks.2

/-- At the root, a placeholder for the path or the name becomes the empty text. -/
theorem shortens_path (text : String) : Shortens (pathValue "") text := by
  intro p mem value taken
  rw [eq_empty_of_pathValue taken, length_source mem]
  exact Nat.zero_lt_succ _

/-- **A text with a live placeholder changes**, in the empty dictionary and at the root. -/
theorem changed_of_live {args : List Arg} {p : Placeholder} {text : String}
    (mem : p ∈ placeholders text) (live : p.Live) :
    withPath "" (withEntries Keyed.empty args text) ≠ text := by
  intro same
  have second : text.length ≤ (withEntries Keyed.empty args text).length := by
    have le := length_substitute_le (shortens_path (withEntries Keyed.empty args text))
    rwa [show substitute _ (pathValue "") = text from same] at le
  by_cases asked : ∃ q ∈ placeholders text, ∃ key, q.AsksFor key
  · obtain ⟨q, there, key, asks⟩ := asked
    have lt := length_substitute_lt (shortens_entries args text) there
      (entryValue_eq_some_iff.mpr ⟨key, asks, rfl⟩)
    exact absurd lt (Nat.not_lt_of_le second)
  · -- the pass for entries keeps the text, so the placeholder is still there for the next one
    have kept : withEntries Keyed.empty args text = text :=
      substitute_of_declined fun q there =>
        entryValue_eq_none_iff.mpr fun asks => asked ⟨q, there, asks⟩
    rw [kept] at same
    have path : p.AsksForPath := live.resolve_left fun asks => asked ⟨p, mem, asks⟩
    have replaced : pathValue "" p ≠ none := fun none => pathValue_eq_none_iff.mp none path
    obtain ⟨value, taken⟩ := Option.ne_none_iff_exists'.mp replaced
    have lt := length_substitute_lt (shortens_path text) mem taken
    rw [show substitute text (pathValue "") = text from same] at lt
    exact lt.false

end Message

/-! ## 4. Messages -/

/-- The messages of a fault in a translation and at a path, after both stages. -/
def rendered (dictionary : Dictionary) (fault : Fault) (path : String) : List String :=
  fillPath path (Message.translate dictionary fault).messages
    (Message.translate dictionary fault).pending

theorem rendered_getElem? (dictionary : Dictionary) (fault : Fault) (path : String) (i : Nat) :
    (rendered dictionary fault path)[i]? = fault.allMessages[i]?.map fun message =>
      withPath path (translateMessage dictionary fault.args message) := by
  rw [rendered, fillPath_translate, List.getElem?_map, messages_getElem?, Option.map_map]
  rfl

/-- In every fault with the arguments, a message whose template shows the argument, with no other brace
    in it, has the text at this place when it is shown at a path. -/
def RendersAs (args : List Arg) (arg : Arg) (text : Dictionary → String → String) : Prop :=
  ∀ (fault : Fault) (dictionary : Dictionary) (i : Nat) (message front back path : String),
    fault.args = args → Braceless front.toList → Braceless back.toList →
    fault.allMessages[i]? = some message →
    (dictionary.get? message).getD message = front ++ showing arg ++ back →
    (rendered dictionary fault path)[i]? = some (front ++ text dictionary path ++ back)

/-- **A text is shown as the two later passes leave it**: with the entries that it asks for, then with
    the path, and nothing around it changes. **It is shown as it is, in every dictionary and at every
    path, exactly if none of its placeholders is live**, whatever other braces there are in it. -/
theorem text_verbatim_iff {args : List Arg} {arg : Arg} {value : String} (named : IsName arg.name)
    (first : args.find? (·.name == arg.name) = some arg) (isText : arg.value = .text value) :
    RendersAs args arg (fun dictionary path =>
      withPath path (withEntries dictionary args value)) ∧
    (RendersAs args arg (fun _ _ => value) ↔ ∀ p ∈ placeholders value, ¬ p.Live) := by
  have passes : RendersAs args arg fun dictionary path =>
      withPath path (withEntries dictionary args value) := by
    rintro fault dictionary i message front back path rfl plainFront plainBack listed template
    rw [rendered_getElem?, listed, Option.map_some,
      rendered_showing named first isText plainFront plainBack template]
  refine ⟨passes, fun verbatim p mem live => ?_, fun dead => ?_⟩
  · -- a message that is nothing but the text
    have alone : (Keyed.empty.get? (showing arg)).getD (showing arg) = "" ++ showing arg ++ "" := by
      rw [String.empty_append, String.append_empty]
      rfl
    have plain : Braceless "".toList := by decide
    have shown (text : Dictionary → String → String) (renders : RendersAs args arg text) :=
      renders (Fault.ofMessage (showing arg) args) Keyed.empty 0 (showing arg) "" "" "" rfl plain
        plain rfl alone
    have both := Option.some.inj ((shown _ passes).symm.trans (shown _ verbatim))
    rw [String.append_left_inj, String.append_right_inj] at both
    exact changed_of_live mem live both
  · intro fault dictionary i message front back path same plainFront plainBack listed template
    have kept := kept_of_not_live dead dictionary args path
    rw [passes fault dictionary i message front back path same plainFront plainBack listed template]
    exact congrArg (fun text => some (front ++ text ++ back)) kept

/-- A message that shows a text. -/
def naming (value : String) : Fault := Fault.ofMessage "no \x7bv\x7d" [⟨"v", .text value⟩]

/-- Entries for the message and for a word in it. -/
def nothingSuch : Dictionary :=
  (Keyed.empty.insert "no \x7bv\x7d" "nothing like \x7bv\x7d").insert "order" "an order"

/-- Braces, a placeholder for the text itself, and placeholders that lack a parameter or have one too
    many. -/
def strayText : String := "\x7bv\x7d\x7bb\x7d\x7d\x7b_translation\x7d\x7b_path|x=y\x7d"

/-- Placeholders for an entry and, once a key is put in between its braces, for the path. -/
def liveText : String := "\x7b_translation|key=order\x7d \x7b\x7b_translation|key=_path\x7d\x7d"

/-- The first text is shown as it is, the other one with the entry and the path. -/
theorem text_verbatim_stray :
    IsName "v" ∧ (∀ p ∈ placeholders strayText, ¬ p.Live) ∧
    (rendered nothingSuch (naming strayText) "Orders.#2")[0]? =
      some ("nothing like " ++ strayText ++ "") ∧
    (rendered nothingSuch (naming liveText) "Orders.#2")[0]? =
      some ("nothing like " ++ "an order Orders.#2" ++ "") := by
  have named : IsName "v" := by decide
  have dead : ∀ p ∈ placeholders strayText, ¬ p.Live := by decide
  have plainFront : Braceless "nothing like ".toList := by decide
  have plainBack : Braceless "".toList := by decide
  have firstOf (value : String) : (naming value).args.find? (·.name == "v") =
      some ⟨"v", .text value⟩ := rfl
  have template : (nothingSuch.get? "no \x7bv\x7d").getD "no \x7bv\x7d" =
      "nothing like " ++ showing ⟨"v", .text ""⟩ ++ "" := by decide
  have both (value : String) :=
    @text_verbatim_iff (naming value).args ⟨"v", .text value⟩ value named (firstOf value) rfl
  have stray := (both strayText).2.mpr dead
    (naming strayText) nothingSuch 0 _ _ _ "Orders.#2" rfl plainFront plainBack rfl template
  have live := (both liveText).1
    (naming liveText) nothingSuch 0 _ _ _ "Orders.#2" rfl plainFront plainBack rfl template
  have becomes : withPath "Orders.#2" (withEntries nothingSuch (naming liveText).args liveText) =
      "an order Orders.#2" := by decide
  dsimp only at live
  rw [becomes] at live
  exact ⟨named, dead, stray, live⟩

/-- **A text that asks for the path is not shown as it is**: the path is shown in its place. -/
theorem text_read_as_path :
    (naming "\x7b_path\x7d").args = [⟨"v", .text "\x7b_path\x7d"⟩] ∧
      rendered Keyed.empty (naming "\x7b_path\x7d") "Orders.#2" = ["no Orders.#2"] ∧
      "no Orders.#2" ≠ "no " ++ "\x7b_path\x7d" := by
  refine ⟨rfl, ?_, ?_⟩ <;> decide

end Assay
