import Assay.Proofs.Message.Entry

/-!
# One level of entries

A message may ask for entries of the dictionary, and these entries may ask for further ones, in a circle
or for themselves. Nothing has to be counted to end this: the entries are put into the message by one
pass, and the pass does not read what it puts in.

* `templateOf` -- what the pass reads: the message or its entry, with the arguments put in;
* `translateMessage_congr` -- so only the entries that this asks for matter;
* `translateMessage_around` -- an entry is put in with its arguments, and nothing else happens to it;
* **`entries_one_level`** -- two dictionaries with the same entries for the messages and for the keys that
  these ask for word a fault alike; placeholders of an entry that was put in stay as written.
-/

namespace Assay.Message

open Placeholder

/-- The template of a message with the arguments put in. -/
def templateOf (dictionary : Dictionary) (args : List Arg) (message : String) : String :=
  withArgs args ((dictionary.get? message).getD message)

section Passes

variable {dictionary dictionary' : Dictionary} {args : List Arg} {message : String}

/-- **Two dictionaries with the same entry for the message and for the keys it asks for word it
    alike.** -/
theorem translateMessage_congr (own : dictionary.get? message = dictionary'.get? message)
    (asked : ∀ p ∈ placeholders (templateOf dictionary args message), ∀ key, p.AsksFor key →
      dictionary.get? key = dictionary'.get? key) :
    translateMessage dictionary args message = translateMessage dictionary' args message := by
  have template : templateOf dictionary' args message = templateOf dictionary args message := by
    rw [templateOf, templateOf, own]
  have pass : ∀ p ∈ placeholders (templateOf dictionary args message),
      entryValue dictionary args p = entryValue dictionary' args p := by
    intro p mem
    have alike : ∀ key, p.AsksFor key →
        entryText dictionary args key = entryText dictionary' args key := by
      intro key asks
      rw [entryText, entryText, asked p mem key asks]
    refine Option.ext fun value => ?_
    rw [entryValue_eq_some_iff, entryValue_eq_some_iff]
    exact exists_congr fun key => and_congr_right fun asks => by rw [alike key asks]
  calc translateMessage dictionary args message
      = substitute (templateOf dictionary args message) (entryValue dictionary args) := rfl
    _ = substitute (templateOf dictionary args message) (entryValue dictionary' args) :=
        substitute_congr pass
    _ = substitute (templateOf dictionary' args message) (entryValue dictionary' args) := by
        rw [template]
    _ = translateMessage dictionary' args message := rfl

/-- **An entry that is asked for is put in with its arguments**, and no pass follows. -/
theorem translateMessage_around {p : Placeholder}
    (mem : p ∈ placeholders (templateOf dictionary args message)) {key entry : String}
    (asks : p.AsksFor key) (there : dictionary.get? key = some entry) :
    ∃ front back, translateMessage dictionary args message = front ++ withArgs args entry ++ back := by
  obtain ⟨legible, same, front, back, whole⟩ := exists_around mem
  have shown : entryValue dictionary args p = some (withArgs args entry) := by
    refine entryValue_eq_some_iff.mpr ⟨key, asks, ?_⟩
    rw [entryText, there]
  refine ⟨substitute front (entryValue dictionary args),
    substitute back (entryValue dictionary args), ?_⟩
  show substitute (templateOf dictionary args message) (entryValue dictionary args) = _
  rw [whole, substitute_around legible, ← same, shown, Option.getD_some]

/-- A placeholder that no argument answers stays as written. -/
theorem withArgs_around {q : Placeholder} (legible : Legible q.name q.params)
    (same : q = ⟨q.name, spell q.name q.params, q.params⟩)
    (unanswered : args.find? (·.name == q.name) = none) (before after : String) :
    withArgs args (before ++ q.source ++ after) =
      withArgs args before ++ q.source ++ withArgs args after := by
  have source : q.source = spell q.name q.params := congrArg Placeholder.source same
  have kept : argValue args q = none := by rw [argValue, unanswered, Option.map_none]
  rw [withArgs, source, substitute_around legible, ← same, kept, Option.getD_none]
  rfl

end Passes

/-- **Entries are put in exactly one level deep.** Two dictionaries that have the same entries, or none,
    for the messages of a fault and for every key that their templates ask for once the arguments are
    put in, word the fault alike, with the same placeholders left for the path: no other entry is read.
    An entry that is asked for stands in the message with its arguments put in, and each of its own
    placeholders that no argument answers, one for a further entry or for itself among them, stays there
    as written and is a placeholder of the message. -/
theorem entries_one_level {fault : Fault} {dictionary dictionary' : Dictionary}
    (own : ∀ message ∈ fault.allMessages, dictionary.get? message = dictionary'.get? message)
    (asked : ∀ message ∈ fault.allMessages,
      ∀ p ∈ placeholders (templateOf dictionary fault.args message), ∀ key, p.AsksFor key →
        dictionary.get? key = dictionary'.get? key) :
    translate dictionary fault = translate dictionary' fault ∧
    ∀ message ∈ fault.allMessages,
      ∀ p ∈ placeholders (templateOf dictionary fault.args message), ∀ key entry, p.AsksFor key →
        dictionary.get? key = some entry →
        (∃ front back, translateMessage dictionary fault.args message =
          front ++ withArgs fault.args entry ++ back) ∧
        ∀ q ∈ placeholders entry, fault.args.find? (·.name == q.name) = none →
          (∀ before after, entry = before ++ q.source ++ after → withArgs fault.args entry =
            withArgs fault.args before ++ q.source ++ withArgs fault.args after) ∧
          q ∈ placeholders (translateMessage dictionary fault.args message) := by
  refine ⟨?_, fun message mem p there key entry asks found => ?_⟩
  · have worded : fault.allMessages.map (translateMessage dictionary fault.args) =
        fault.allMessages.map (translateMessage dictionary' fault.args) :=
      List.map_congr_left fun message mem =>
        translateMessage_congr (own message mem) (asked message mem)
    rw [translate, worded]
    rfl
  · obtain ⟨front, back, put⟩ := translateMessage_around there asks found
    refine ⟨⟨front, back, put⟩, fun q listed unanswered => ?_⟩
    obtain ⟨legible, same, before, after, whole⟩ := exists_around listed
    have source : q.source = spell q.name q.params := congrArg Placeholder.source same
    refine ⟨fun before after cut => ?_, ?_⟩
    · rw [cut]
      exact withArgs_around legible same unanswered before after
    · -- the message around the placeholder, in front of the entry and inside it
      have stands : translateMessage dictionary fault.args message =
          (front ++ withArgs fault.args before) ++ spell q.name q.params ++
            (withArgs fault.args after ++ back) := by
        rw [put, whole, ← source, withArgs_around legible same unanswered]
        simp only [String.append_assoc]
      rw [stands, same]
      exact mem_placeholders_around legible _ _

/-- Entries in a circle, the last one with a text of its own in front. -/
def circle (last : String) : Dictionary :=
  ((Keyed.empty.insert "one" "1 \x7b_translation|key=two\x7d").insert "two"
    "2 \x7bn\x7d \x7b_translation|key=three\x7d").insert "three"
    (last ++ " \x7b_translation|key=one\x7d")

/-- A message with an entry that asks for another one. -/
def circling : Fault := Fault.ofMessage "one" [⟨"n", .integer 7⟩]

/-- Two dictionaries that differ in the third entry. The message is the first one, the second is put in,
    and the third is not read: the placeholder for it stays. -/
theorem entries_one_level_circle :
    (circle "3").get? "three" ≠ (circle "drei").get? "three" ∧
      Message.translate (circle "3") circling = Message.translate (circle "drei") circling ∧
      (Message.translate (circle "drei") circling).messages =
        ["1 2 7 \x7b_translation|key=three\x7d"] ∧
      ⟨"_translation", "\x7b_translation|key=three\x7d", [("key", "three")]⟩ ∈
        placeholders (translateMessage (circle "3") circling.args "one") := by
  have own : ∀ message ∈ circling.allMessages,
      (circle "3").get? message = (circle "drei").get? message := by decide
  have template : placeholders (templateOf (circle "3") circling.args "one") =
      [⟨"_translation", "\x7b_translation|key=two\x7d", [("key", "two")]⟩] := by decide
  have asked : ∀ message ∈ circling.allMessages,
      ∀ p ∈ placeholders (templateOf (circle "3") circling.args message), ∀ key, p.AsksFor key →
        (circle "3").get? key = (circle "drei").get? key := by
    intro message mem p there key asks
    obtain rfl := List.mem_singleton.mp mem
    rw [template] at there
    obtain rfl := List.mem_singleton.mp there
    obtain rfl : "two" = key := Option.some.inj asks.2
    decide
  obtain ⟨same, put⟩ := entries_one_level own asked
  have second : (circle "3").get? "two" =
      some "2 \x7bn\x7d \x7b_translation|key=three\x7d" := by decide
  have there : ⟨"_translation", "\x7b_translation|key=two\x7d", [("key", "two")]⟩ ∈
      placeholders (templateOf (circle "3") circling.args "one") :=
    template ▸ List.mem_singleton_self _
  have stays := (put "one" List.mem_cons_self _ there "two" _ ⟨rfl, rfl⟩ second).2
    ⟨"_translation", "\x7b_translation|key=three\x7d", [("key", "three")]⟩ (by decide) rfl
  exact ⟨by decide, same, by decide, stays.2⟩

end Assay.Message
