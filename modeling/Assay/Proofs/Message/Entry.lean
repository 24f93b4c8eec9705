import Assay.Proofs.Message.Substitution

/-!
# Entries for types and variants

An argument that is a type or a variant of an enumeration can be shown by an entry of the dictionary.
The argument is then written as a placeholder for the entry, and the next pass reads this placeholder
like any other. Nothing is quoted on the way, so the key has to be a text that can be the value of a
parameter: with a comma, a bar or a brace in it, the placeholder is another one, or none.

* `ArgValue.entryKey?` -- the key of the entry;
* `substitute_entryPlaceholder` -- a key that can be a value is read back;
* `isValue_of_empty` -- no other key gives way to an empty entry;
* **`entry_shown_iff`** -- the entry is shown in all dictionaries exactly if its key can be a value; a key
  without braces that is `Torn`, as by the comma in the name of a pair, leaves the placeholder in the
  message.
-/

namespace Assay

open Message Message.Placeholder Text

/-! ## 1. Keys -/

/-- The key of the entry for a type or a variant. -/
def ArgValue.entryKey? : ArgValue → Option String
  | .choice typeName variant => some ("Enum." ++ (typeName ++ "." ++ variant))
  | .typeRef _ fullName => some ("Type." ++ fullName)
  | _ => none

/-- The placeholder in a message that asks for the entry of an argument. -/
def Arg.asking (arg : Arg) : String := "\x7b" ++ arg.name ++ "|translation=true\x7d"

/-- What is shown for a key: its entry with the arguments put in, or the key. -/
def Message.entryText (dictionary : Dictionary) (args : List Arg) (key : String) : String :=
  match dictionary.get? key with
  | some template => withArgs args template
  | none => key

/-- The placeholder asks for the entry of a key, whatever other parameters it has. -/
def Message.Placeholder.AsksFor (p : Placeholder) (key : String) : Prop :=
  p.name = Message.translationKey ∧ p.param keyParam = some key

namespace Message

/-- **A placeholder for an entry becomes what is shown for its key**, and no other does. -/
theorem entryValue_eq_some_iff {dictionary : Dictionary} {args : List Arg} {p : Placeholder}
    {value : String} : entryValue dictionary args p = some value ↔
      ∃ key, p.AsksFor key ∧ entryText dictionary args key = value := by
  unfold entryValue
  split
  · rename_i name
    rw [Option.map_eq_some_iff]
    exact ⟨fun ⟨key, param, same⟩ => ⟨key, ⟨name, param⟩, same⟩,
      fun ⟨key, asks, same⟩ => ⟨key, asks.2, same⟩⟩
  · rename_i other
    constructor
    · intro none
      cases none
    · rintro ⟨key, asks, -⟩
      exact absurd asks.1 other

/-- A placeholder with one parameter. -/
theorem spell_one (name key value : String) :
    spell name [(key, value)] = "\x7b" ++ name ++ "|" ++ key ++ "=" ++ value ++ "\x7d" := by
  rw [← String.toList_inj, spell, String.toList_ofList, spelled, if_neg (List.cons_ne_nil _ _)]
  simp only [Piece.text, spelledParam, joinWith, List.map_cons, List.map_nil, List.cons_append,
    List.append_assoc, String.toList_append]
  rfl

theorem asking_eq_spell (arg : Arg) : arg.asking = spell arg.name [("translation", "true")] := by
  have behind : "|translation=true\x7d" = "|" ++ ("translation" ++ ("=" ++ ("true" ++ "\x7d"))) := by
    decide
  rw [spell_one]
  simp only [String.append_assoc]
  exact (String.append_assoc ..).trans (congrArg (fun rest => "\x7b" ++ (arg.name ++ rest)) behind)

theorem entryPlaceholder_eq_spell (key : String) :
    Arg.entryPlaceholder key = spell "_translation" [("key", key)] := by
  have front : "\x7b_translation|key=" = "\x7b" ++ "_translation" ++ "|" ++ "key" ++ "=" := by
    decide
  rw [spell_one]
  exact congrArg (fun start => start ++ key ++ "\x7d") front

theorem legible_asking {name : String} (named : IsName name) :
    Legible name [("translation", "true")] where
  name := named
  keys := List.pairwise_singleton ..
  key := List.forall_mem_singleton.mpr (by decide)
  value := List.forall_mem_singleton.mpr (by decide)

theorem legible_entry {key : String} (value : IsValue key) :
    Legible "_translation" [("key", key)] where
  name := by decide
  keys := List.pairwise_singleton ..
  key := List.forall_mem_singleton.mpr (by decide : IsKey "key")
  value := List.forall_mem_singleton.mpr value

/-- Keys of entries for types and variants begin with the words for these. -/
theorem head?_entryKey {value : ArgValue} {key : String} (asked : value.entryKey? = some key) :
    key.toList.head? ≠ some 'x' := by
  cases value <;> cases asked <;> rw [String.toList_append] <;>
    exact fun same => absurd (Option.some.inj same) (by decide)

/-! ## 2. The two passes -/

section Passes

variable {args : List Arg} {arg : Arg} {key : String}

/-- Asked for its entry, a type or a variant is written as a placeholder. -/
theorem format_asking (asked : arg.value.entryKey? = some key) :
    arg.format [("translation", "true")] = Arg.entryPlaceholder key := by
  obtain ⟨name, value⟩ := arg
  cases value <;> cases asked <;> rfl

/-- **A message that asks for an entry** becomes what its placeholder becomes, between the texts around
    it. -/
theorem translateMessage_asking (named : IsName arg.name)
    (first : args.find? (·.name == arg.name) = some arg) (asked : arg.value.entryKey? = some key)
    {front back : String} (plainFront : Braceless front.toList) (plainBack : Braceless back.toList)
    {dictionary : Dictionary} (unknown : dictionary.get? (front ++ arg.asking ++ back) = none) :
    translateMessage dictionary args (front ++ arg.asking ++ back) =
      front ++ substitute (Arg.entryPlaceholder key) (entryValue dictionary args) ++ back := by
  have written : withArgs args arg.asking = Arg.entryPlaceholder key := by
    rw [asking_eq_spell, withArgs, substitute_spell (legible_asking named), argValue, first,
      Option.map_some, format_asking asked]
    rfl
  have whole : withArgs args (front ++ arg.asking ++ back) =
      front ++ Arg.entryPlaceholder key ++ back := by
    rw [← written]
    exact substitute_framed plainFront plainBack _
  rw [translateMessage, unknown, Option.getD_none, whole, substitute_framed plainFront plainBack]

/-- Each message of a fault is worded for itself. -/
theorem messages_getElem? (dictionary : Dictionary) (fault : Fault) (i : Nat) :
    (translate dictionary fault).messages[i]? =
      fault.allMessages[i]?.map (translateMessage dictionary fault.args) := List.getElem?_map

/-- **A key that can be a value is read back.** -/
theorem substitute_entryPlaceholder (value : IsValue key) (dictionary : Dictionary) :
    substitute (Arg.entryPlaceholder key) (entryValue dictionary args) =
      entryText dictionary args key := by
  have shown : entryValue dictionary args
      ⟨"_translation", spell "_translation" [("key", key)], [("key", key)]⟩ =
        some (entryText dictionary args key) :=
    entryValue_eq_some_iff.mpr ⟨key, ⟨rfl, rfl⟩, rfl⟩
  rw [entryPlaceholder_eq_spell, substitute_spell (legible_entry value), shown, Option.getD_some]

/-- The value of a parameter can be a value. -/
theorem isValue_of_param {p : Placeholder} (legible : Legible p.name p.params) {name value : String}
    (param : p.param name = some value) : IsValue value :=
  legible.value _ (Keyed.mem_of_lookup param)

/-- **No other key gives way to an empty entry.** If nothing is left of the placeholder, then all of it
    has been read as placeholders for empty entries, so the key was read. -/
theorem isValue_of_empty
    (gone : substitute (Arg.entryPlaceholder key)
      (entryValue (Keyed.empty.insert key "") args) = "") : IsValue key := by
  have nothing : ∀ piece ∈ pieces (Arg.entryPlaceholder key).toList,
      piece.substituted (entryValue (Keyed.empty.insert key "") args) = [] :=
    List.flatMap_eq_nil_iff.mp (String.ofList_eq_empty_iff.mp gone)
  obtain ⟨piece, mem⟩ : ∃ piece, piece ∈ pieces (Arg.entryPlaceholder key).toList := by
    refine List.exists_mem_of_ne_nil _ fun none => ?_
    have whole := flatten_pieces (Arg.entryPlaceholder key).toList
    rw [none, entryPlaceholder_eq_spell, spell, String.toList_ofList] at whole
    exact List.cons_ne_nil _ _ whole.symm
  have left := nothing piece mem
  unfold Piece.substituted at left
  split at left
  · rename_i value taken
    obtain ⟨p, read, shown⟩ := Option.bind_eq_some_iff.mp taken
    obtain ⟨other, asks, text⟩ := entryValue_eq_some_iff.mp shown
    have legible := (spelled_of_mem (mem_placeholders.mpr ⟨piece, mem, read⟩)).1
    have value := isValue_of_param legible asks.2
    rw [String.toList_eq_nil_iff.mp left, entryText, Keyed.get?_insert] at text
    split at text
    · rename_i template found
      split at found
      · rename_i same
        exact same ▸ value
      · cases found
    · exact absurd text value.filled
  · cases piece <;> cases left

end Passes

/-! ## 3. Torn keys -/

/-- The key has a bar, or a comma behind which no parameter follows: there is no `=` up to the next
    comma, or a blank comes first. -/
def Torn (key : List Char) : Prop :=
  '|' ∈ key ∨ ∃ part ∈ (splitAt ',' key).tail, '=' ∉ part ∨ part.head?.any isBlank = true

/-- Behind the bar a torn key makes no parameters. -/
theorem readParams_torn {key : String} (torn : Torn key.toList) :
    readParams (spelledParam ("key", key)) = none := by
  refine Option.eq_none_iff_forall_ne_some.mpr fun params read => ?_
  obtain ⟨listed, joined, noBar, readable, -⟩ := readParams_eq_some_iff.mp read
  have parts : splitAt ',' (spelledParam ("key", key)) = params.map spelledParam := by
    rw [joined]
    refine splitAt_joinWith (mt List.map_eq_nil_iff.mp listed) fun part mem => ?_
    obtain ⟨p, there, rfl⟩ := List.mem_map.mp mem
    exact (readable p there).2
  rcases torn with bar | ⟨part, mem, bad⟩
  · exact noBar (mem_spelledParam.mpr (.inr (.inr bar)))
  · -- the part is one of the parameters, so it begins with a key and has an `=`
    have noComma : ',' ∉ "key".toList ++ ['='] := by decide
    have whole : spelledParam ("key", key) = ("key".toList ++ ['=']) ++ key.toList :=
      List.append_cons ..
    rw [← tail_splitAt_append noComma, ← whole, parts] at mem
    obtain ⟨p, there, rfl⟩ := List.mem_map.mp (List.mem_of_mem_tail mem)
    rcases bad with noEquals | blank
    · exact noEquals (equals_mem_spelledParam p)
    · have keyed : p.1.toList ≠ [] := mt String.toList_eq_nil_iff.mp (readable p there).1.keyed
      obtain ⟨c, rest, letters⟩ := List.exists_cons_of_ne_nil keyed
      have unblank := (readable p there).1.unblank c (letters ▸ List.mem_cons_self)
      rw [spelledParam, letters, List.cons_append, List.head?_cons, Option.any_some, unblank] at blank
      cases blank

theorem spelled_entry (key : String) : spelled "_translation" [("key", key)] =
    "_translation".toList ++ '|' :: spelledParam ("key", key) := if_neg (List.cons_ne_nil _ _)

theorem read_torn {key : String} (torn : Torn key.toList) :
    Placeholder.read (spelled "_translation" [("key", key)]) = none := by
  have noBar : '|' ∉ "_translation".toList := by decide
  unfold Placeholder.read
  rw [spelled_entry, splitOnce_append noBar]
  dsimp only
  rw [readParams_torn torn]
  split <;> rfl

/-- **A torn key without braces leaves its placeholder as it is**, in every dictionary. -/
theorem substitute_torn {key : String} (plain : Braceless key.toList) (torn : Torn key.toList)
    (replace : Placeholder → Option String) :
    substitute (Arg.entryPlaceholder key) replace = Arg.entryPlaceholder key := by
  have filled : spelled "_translation" [("key", key)] ≠ [] := by
    rw [spelled_entry]
    exact List.append_ne_nil_of_right_ne_nil _ (List.cons_ne_nil _ _)
  have inside : Braceless (spelled "_translation" [("key", key)]) := by
    have front : Braceless ("_translation".toList ++ '|' :: "key".toList) := by decide
    rw [spelled_entry, spelledParam, ← List.cons_append, ← List.append_assoc]
    exact braceless_append.mpr ⟨front, braceless_cons.mpr ⟨by decide, plain⟩⟩
  refine substitute_of_declined fun p mem => ?_
  obtain ⟨inner, there, read⟩ := group_of_mem mem
  have alone := pieces_group filled inside []
  rw [List.append_nil] at alone
  rw [entryPlaceholder_eq_spell, spell, String.toList_ofList, alone] at there
  cases List.mem_singleton.mp there
  rw [read_torn torn] at read
  cases read

end Message

/-! ## 4. Messages -/

/-- In every fault with the arguments, a message that is no key of the dictionary and asks for the entry
    of the argument, with no other brace in it, has the text at this place. -/
def ShowsAt (args : List Arg) (arg : Arg) (text : Dictionary → String) : Prop :=
  ∀ (fault : Fault) (dictionary : Dictionary) (i : Nat) (front back : String), fault.args = args →
    Braceless front.toList → Braceless back.toList →
    fault.allMessages[i]? = some (front ++ arg.asking ++ back) →
    dictionary.get? (front ++ arg.asking ++ back) = none →
    (Message.translate dictionary fault).messages[i]? = some (front ++ text dictionary ++ back)

section Shown

variable {args : List Arg} {arg : Arg} {key : String} (named : IsName arg.name)
  (first : args.find? (·.name == arg.name) = some arg) (asked : arg.value.entryKey? = some key)
include named first asked

/-- What the placeholder becomes is what the message has. -/
theorem showsAt_of_substitute {text : Dictionary → String}
    (becomes : ∀ dictionary, substitute (Arg.entryPlaceholder key) (entryValue dictionary args) =
      text dictionary) : ShowsAt args arg text := by
  rintro fault dictionary i front back rfl plainFront plainBack listed unknown
  rw [messages_getElem?, listed, Option.map_some,
    translateMessage_asking named first asked plainFront plainBack unknown, becomes]

/-- **The entry of a type or a variant is shown, in all dictionaries, exactly if its key can be a
    value**: if there are no braces, bars and commas in the name. The entry has its arguments put in,
    and a key without an entry is shown itself. If the key has no braces but is torn, the placeholder
    that was to be read stays in the message, in every dictionary. -/
theorem entry_shown_iff :
    (ShowsAt args arg (fun dictionary => entryText dictionary args key) ↔ IsValue key) ∧
    (Braceless key.toList → Torn key.toList →
      ShowsAt args arg fun _ => Arg.entryPlaceholder key) := by
  refine ⟨⟨fun shown => ?_, fun value => ?_⟩, fun plain torn => ?_⟩
  · -- in front of the placeholder stands a letter that no key begins with
    have other : "x" ++ arg.asking ++ "" ≠ key := by
      intro same
      refine head?_entryKey asked ?_
      rw [← same, String.toList_append, String.toList_append]
      rfl
    have unknown : (Keyed.empty.insert key "").get? ("x" ++ arg.asking ++ "") = none := by
      rw [Keyed.get?_insert, if_neg other]
      rfl
    have nothing : entryText (Keyed.empty.insert key "") args key = "" := by
      rw [entryText, Keyed.get?_insert, if_pos rfl]
      rfl
    have listed : (Fault.ofMessage ("x" ++ arg.asking ++ "") args).allMessages[0]? =
        some ("x" ++ arg.asking ++ "") := rfl
    have plainX : Braceless "x".toList := by decide
    have plainEnd : Braceless "".toList := by decide
    have worded := shown _ _ 0 "x" "" rfl plainX plainEnd listed unknown
    dsimp only at worded
    rw [messages_getElem?, listed, Option.map_some, nothing] at worded
    have same := Option.some.inj worded
    rw [show (Fault.ofMessage ("x" ++ arg.asking ++ "") args).args = args from rfl,
      translateMessage_asking named first asked plainX plainEnd unknown,
      String.append_left_inj, String.append_right_inj] at same
    exact isValue_of_empty same
  · exact showsAt_of_substitute named first asked (substitute_entryPlaceholder value)
  · exact showsAt_of_substitute named first asked fun _ => substitute_torn plain torn _

end Shown

/-- Something of a type, with a number beside it. -/
def typed (fullName : String) : Fault :=
  Fault.ofMessage "is \x7bt|translation=true\x7d" [Arg.ofType "t" fullName, ⟨"n", .integer 3⟩]

/-- Entries for a list and a pair. -/
def typeNames : Dictionary :=
  (Keyed.empty.insert "Type.alloc::vec::Vec<i32>" "a list of \x7bn\x7d").insert
    "Type.(i32, alloc::string::String)" "a pair"

/-- The list is shown by its entry. The key of the pair has no braces but is torn. -/
theorem entry_shown_list :
    IsName "t" ∧ IsValue "Type.alloc::vec::Vec<i32>" ∧
      (Message.translate typeNames (typed "alloc::vec::Vec<i32>")).messages[0]? =
        some ("is " ++ "a list of 3" ++ "") ∧
      Braceless "Type.(i32, alloc::string::String)".toList ∧
      Torn "Type.(i32, alloc::string::String)".toList ∧
      (Message.translate typeNames (typed "(i32, alloc::string::String)")).messages[0]? =
        some ("is " ++ Arg.entryPlaceholder "Type.(i32, alloc::string::String)" ++ "") := by
  have named : IsName "t" := by decide
  have value : IsValue "Type.alloc::vec::Vec<i32>" := by decide
  have plain : Braceless "Type.(i32, alloc::string::String)".toList := by decide
  have torn : Torn "Type.(i32, alloc::string::String)".toList :=
    .inr ⟨" alloc::string::String)".toList, by decide, .inl (by decide)⟩
  have plainFront : Braceless "is ".toList := by decide
  have plainBack : Braceless "".toList := by decide
  have firstOf (fullName : String) : (typed fullName).args.find? (·.name == "t") =
      some (Arg.ofType "t" fullName) := rfl
  have asksList : (Arg.ofType "t" "alloc::vec::Vec<i32>").value.entryKey? =
      some "Type.alloc::vec::Vec<i32>" := by decide
  have asksPair : (Arg.ofType "t" "(i32, alloc::string::String)").value.entryKey? =
      some "Type.(i32, alloc::string::String)" := by decide
  have list := (entry_shown_iff named (firstOf "alloc::vec::Vec<i32>") asksList).1.mpr value
    (typed "alloc::vec::Vec<i32>") typeNames 0 "is " "" rfl plainFront plainBack (by decide)
    (by decide)
  have pair := (entry_shown_iff named (firstOf "(i32, alloc::string::String)") asksPair).2 plain
    torn (typed "(i32, alloc::string::String)") typeNames 0 "is " "" rfl plainFront plainBack
    (by decide) (by decide)
  have entry : entryText typeNames (typed "alloc::vec::Vec<i32>").args "Type.alloc::vec::Vec<i32>" =
      "a list of 3" := by decide
  dsimp only at list
  rw [entry] at list
  exact ⟨named, value, list, plain, torn, pair⟩

/-- **The name of a pair has a comma, so its entry is not shown**: the placeholder for it stays. -/
theorem pair_keeps_placeholder :
    typeNames.get? "Type.(i32, alloc::string::String)" = some "a pair" ∧
      (Message.translate typeNames (typed "(i32, alloc::string::String)")).messages =
        ["is \x7b_translation|key=Type.(i32, alloc::string::String)\x7d"] := by
  decide

end Assay
