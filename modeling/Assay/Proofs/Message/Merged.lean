import Assay.Proofs.Fault.Registry
import Assay.Proofs.Message.Pending

/-!
# What merged faults show

Of equal faults the registry keeps the first, and whatever is recorded for another one is shown from
that. This file says what a reader can tell from it: equality is as fine as every way in which an
argument can be written, but for the short name of a type.

* `Placeholder.AsksFull p` -- a type is shown by its full name, or by the entry of its full name;
* `format_of_essence` -- equal arguments are written alike, unless a short name is written that
  differs;
* `Fault.Discreet f dictionary` -- no template that the fault can be worded by shows a short name;
* `translate_of_beq` -- equal faults are worded alike, if they agree in the short names of their types
  or show none of them;
* **`merged_shows`** -- so the fault that is kept shows what was registered.
-/

namespace Assay

open Message

/-! ## 1. Arguments -/

/-- The placeholder asks for the full name of a type. -/
def Message.Placeholder.AsksFull (p : Placeholder) : Prop :=
  p.params.lookup Arg.translationKey = some "true" ∨
    p.params.lookup Arg.formatKey = some "fullName"

/-- **Equal arguments are written alike**, with any parameters, unless they are types and the short
    name is asked for. -/
theorem format_of_essence {a b : Arg} (h : a.essence = b.essence) (p : Placeholder)
    (shown : a.value.shortName? = b.value.shortName? ∨ p.AsksFull) :
    a.format p.params = b.format p.params := by
  obtain ⟨name, value⟩ := a
  obtain ⟨name', value'⟩ := b
  simp only [Arg.essence, Arg.mk.injEq] at h
  obtain ⟨rfl, alike⟩ := h
  rcases shown with short | full
  · rw [ArgValue.eq_of_essence alike short]
  · cases value with
    | typeRef short fullName =>
      obtain ⟨short', rfl⟩ : ∃ short', value' = .typeRef short' fullName := by
        cases value' <;> cases alike
        exact ⟨_, rfl⟩
      show Arg.named p.params "Type." short fullName = Arg.named p.params "Type." short' fullName
      unfold Arg.named
      rcases full with translated | full
      · rw [if_pos translated, if_pos translated]
      · rw [if_pos full, if_pos full]
    | _ =>
      cases value' <;> cases alike
      rfl

/-- Of a type the essence is a type. -/
theorem shortName?_eq_none_of_essence {a b : Arg} (h : a.essence = b.essence)
    (plain : b.value.shortName? = none) : a.value.shortName? = none := by
  obtain ⟨name, value⟩ := a
  obtain ⟨name', value'⟩ := b
  simp only [Arg.essence, Arg.mk.injEq] at h
  cases value' with
  | typeRef short fullName => cases plain
  | _ =>
    cases value <;> cases h.2
    rfl

/-- The arguments of a name have the same essence. -/
theorem find?_essence {as bs : List Arg} (h : as.map Arg.essence = bs.map Arg.essence)
    (name : String) : (as.find? (·.name == name)).map Arg.essence =
      (bs.find? (·.name == name)).map Arg.essence := by
  have same (list : List Arg) : (list.find? (·.name == name)).map Arg.essence =
      (list.map Arg.essence).find? (·.name == name) := by
    rw [List.find?_map]
    rfl
  rw [same, same, h]

/-! ## 2. Wording -/

/-- No placeholder of the template writes an argument by a short name. -/
def Discreet (args : List Arg) (template : String) : Prop :=
  ∀ p ∈ placeholders template, ∀ a, args.find? (·.name == p.name) = some a →
    a.value.shortName? = none ∨ p.AsksFull

/-- No template that the fault can be worded by shows a short name: neither those of its messages, nor
    any entry of the dictionary, which a placeholder might ask for. -/
structure Fault.Discreet (f : Fault) (dictionary : Dictionary) : Prop where
  messages : ∀ message ∈ f.allMessages,
    Assay.Discreet f.args ((dictionary.get? message).getD message)
  entries : ∀ key template, dictionary.get? key = some template → Assay.Discreet f.args template

section Wording

variable {as bs : List Arg} (h : as.map Arg.essence = bs.map Arg.essence)
include h

theorem withArgs_of_discreet {template : String} (discreet : Discreet bs template) :
    withArgs as template = withArgs bs template := by
  refine substitute_congr fun p mem => ?_
  have alike := find?_essence h p.name
  unfold argValue
  cases foundA : as.find? (·.name == p.name) with
  | none =>
    rw [foundA, Option.map_none] at alike
    rw [Option.map_eq_none_iff.mp alike.symm]
  | some a =>
    rw [foundA, Option.map_some] at alike
    obtain ⟨b, foundB, same⟩ := Option.map_eq_some_iff.mp alike.symm
    have shown : a.value.shortName? = b.value.shortName? ∨ p.AsksFull :=
      (discreet p mem b foundB).imp_left fun plain =>
        (shortName?_eq_none_of_essence same.symm plain).trans plain.symm
    rw [foundB, Option.map_some, Option.map_some, format_of_essence same.symm p shown]

theorem translateMessage_of_discreet {dictionary : Dictionary} {message : String}
    (own : Discreet bs ((dictionary.get? message).getD message))
    (entries : ∀ key template, dictionary.get? key = some template → Discreet bs template) :
    translateMessage dictionary as message = translateMessage dictionary bs message := by
  have entry : entryValue dictionary as = entryValue dictionary bs := by
    funext p
    unfold entryValue
    split
    · refine congrFun (congrArg Option.map (funext fun key => ?_)) _
      cases found : dictionary.get? key with
      | none => rfl
      | some template => exact withArgs_of_discreet h (entries key template found)
    · rfl
  rw [translateMessage, withArgs_of_discreet h own, entry]
  rfl

end Wording

/-- **Equal faults are worded alike**, if they agree in the short names of their types or show none of
    them. -/
theorem translate_of_beq {f g : Fault} (h : (f == g) = true) {dictionary : Dictionary}
    (shown : f.shortNames = g.shortNames ∨ g.Discreet dictionary) :
    Message.translate dictionary f = Message.translate dictionary g := by
  rcases shown with short | discreet
  · rw [Fault.eq_of_beq h short]
  · have same := (Fault.beq_iff f g).mp h
    simp only [Fault.essence, Fault.mk.injEq] at same
    have messages : f.allMessages = g.allMessages := by
      rw [Fault.allMessages, Fault.allMessages, same.1, same.2.1]
    have worded : f.allMessages.map (translateMessage dictionary f.args) =
        g.allMessages.map (translateMessage dictionary g.args) := by
      rw [messages]
      exact List.map_congr_left fun message mem =>
        translateMessage_of_discreet same.2.2.2.2 (discreet.messages message mem) discreet.entries
    rw [Message.translate, worded]
    rfl

/-! ## 3. Registries -/

/-- **The fault that is kept shows what was registered.** Of faults registered one after another, each
    has a number with a fault behind it. That is one of them, equal to it, with the same codes; and in
    every translation and at every path it shows the same messages, if it names the types alike, or if
    no template shows a type by its short name. -/
theorem merged_shows {faults : List Fault} {i : Nat} {fault : Fault}
    (h : faults[i]? = some fault) :
    ∃ id stored, (Registry.empty.registerAll faults).2[i]? = some id ∧
      (Registry.empty.registerAll faults).1.get? id = some stored ∧
      stored ∈ faults ∧ (stored == fault) = true ∧ stored.allCodes = fault.allCodes ∧
      ∀ dictionary, stored.shortNames = fault.shortNames ∨ fault.Discreet dictionary →
        ∀ path, fillPath path (Message.translate dictionary stored).messages
            (Message.translate dictionary stored).pending =
          fillPath path (Message.translate dictionary fault).messages
            (Message.translate dictionary fault).pending := by
  obtain ⟨id, given, found⟩ := Registry.empty.find?_registerAll h
  obtain ⟨stored, kept, same⟩ := Registry.get?_of_find? found
  have mem : stored ∈ faults :=
    (Registry.mem_registerAll (List.mem_of_getElem? kept)).resolve_left List.not_mem_nil
  refine ⟨id, stored, given, kept, mem, same, Fault.allCodes_of_beq same,
    fun dictionary shown path => ?_⟩
  rw [translate_of_beq same shown]

/-- A type that a shop has no instance of, under some short name. -/
def crateFault (message short : String) : Fault :=
  Fault.ofMessage message [⟨"t", .typeRef short "shop::Crate"⟩]

/-- Two names for the type, and messages that show neither. -/
def crateFaults : List Fault :=
  [crateFault "no \x7bt|format=fullName\x7d" "Crate",
    crateFault "no \x7bt|format=fullName\x7d" "Box"]

/-- The second fault is shown as the first, by the full name of the type. -/
theorem merged_shows_crate :
    crateFaults[1]? = some (crateFault "no \x7bt|format=fullName\x7d" "Box") ∧
      (crateFault "no \x7bt|format=fullName\x7d" "Box").Discreet Keyed.empty ∧
      ∃ id stored, (Registry.empty.registerAll crateFaults).2[1]? = some id ∧
        (Registry.empty.registerAll crateFaults).1.get? id = some stored ∧
        stored.shortNames = [some "Crate"] ∧
        fillPath "Store" (Message.translate Keyed.empty stored).messages
          (Message.translate Keyed.empty stored).pending = ["no shop::Crate"] := by
  have discreet : (crateFault "no \x7bt|format=fullName\x7d" "Box").Discreet Keyed.empty := by
    refine ⟨fun message mem p hp a _ => .inr (.inr ?_), fun key template found => by cases found⟩
    rw [List.mem_singleton.mp mem] at hp
    have only : placeholders "no \x7bt|format=fullName\x7d" =
        [⟨"t", "\x7bt|format=fullName\x7d", [("format", "fullName")]⟩] := by decide
    obtain rfl := List.mem_singleton.mp (only ▸ hp)
    rfl
  have second : crateFaults[1]? = some (crateFault "no \x7bt|format=fullName\x7d" "Box") := rfl
  obtain ⟨id, stored, given, kept, -, -, -, shows⟩ := merged_shows second
  have first : id = 0 := (Option.some.inj given).symm
  subst first
  obtain rfl : crateFault "no \x7bt|format=fullName\x7d" "Crate" = stored := Option.some.inj kept
  exact ⟨second, discreet, 0, _, given, kept, rfl,
    (shows Keyed.empty (.inr discreet) "Store").trans (by decide)⟩

/-- **A short name is not compared**: the second fault is shown as the first. -/
theorem merged_hides_short_name :
    (Registry.empty.registerAll [crateFault "no \x7bt\x7d" "Crate",
        crateFault "no \x7bt\x7d" "Box"]).2 = [0, 0] ∧
      (Registry.empty.registerAll [crateFault "no \x7bt\x7d" "Crate",
        crateFault "no \x7bt\x7d" "Box"]).1.get? 0 = some (crateFault "no \x7bt\x7d" "Crate") ∧
      (Message.translate Keyed.empty (crateFault "no \x7bt\x7d" "Crate")).messages = ["no Crate"] ∧
      (Message.translate Keyed.empty (crateFault "no \x7bt\x7d" "Box")).messages = ["no Box"] := by
  refine ⟨by decide, rfl, by decide, by decide⟩

end Assay
