import Mathlib.Data.List.Chain
import Assay.Proofs.Text.Split
import Assay.Text.Title

/-!
# The words of a name

The scan of `words` looks back at one character and carries the word that is begun. What it finds is
said without a scan by `Reads`: a name is read by passing over a break, or by taking a word that holds
together and ends where a break, a boundary or nothing follows.

* `IsWord`, `Parted`, `Reads` -- words, where they end, and how a name is read as words;
* `reads_words`, **`words_of_reads`** -- there is exactly one way to read a name, and the scan finds it;
* `Reads.flatten`, `Reads.isWord`, `Reads.parted` -- what every reading has: nothing but breaks is lost,
  words hold together, and neighbours are parted in the name;
* `words_title` -- the title of an ASCII name has the capitalized words of the name as its words;
* **`title_of_name`** -- all of it for ASCII names, and a title is its own title.
-/

namespace Assay.Text

/-! ## 1. Readings -/

/-- Characters that hold together: there are some, none is a break, and no boundary is between two. -/
structure IsWord (word : List Char) : Prop where
  inhabited : word ≠ []
  unbroken : ∀ c ∈ word, isWordBreak c = false
  whole : word.IsChain fun a b => isBoundary a b = false

/-- The word ends in front of the rest: nothing follows, or a break, or a boundary is between them. -/
def Parted (word rest : List Char) : Prop :=
  ∀ a ∈ word.getLast?, ∀ b ∈ rest.head?, isWordBreak b = true ∨ isBoundary a b = true

/-- The name is read as the words. -/
inductive Reads : List Char → List (List Char) → Prop
  | done : Reads [] []
  | skip {c : Char} {rest : List Char} {ws : List (List Char)} :
      isWordBreak c = true → Reads rest ws → Reads (c :: rest) ws
  | take {word rest : List Char} {ws : List (List Char)} :
      IsWord word → Parted word rest → Reads rest ws → Reads (word ++ rest) (word :: ws)

variable {name rest word : List Char} {ws : List (List Char)} {c last : Char}

theorem isWord_singleton (solid : isWordBreak c = false) : IsWord [c] :=
  ⟨List.cons_ne_nil _ _, by simpa using solid, .singleton c⟩

/-- A word goes on with a character that is no break and makes no boundary. -/
theorem IsWord.snoc (h : IsWord (last :: word).reverse) (solid : isWordBreak c = false)
    (whole : isBoundary last c = false) : IsWord (c :: last :: word).reverse := by
  obtain ⟨-, unbroken, chain⟩ := h
  rw [List.reverse_cons]
  refine ⟨by simp, fun d hd => ?_, List.isChain_append.mpr ⟨chain, .singleton c, ?_⟩⟩
  · rcases List.mem_append.mp hd with hd | hd
    · exact unbroken d hd
    · exact List.mem_singleton.mp hd ▸ solid
  · simpa using whole

theorem parted_nil (word : List Char) : Parted word [] := fun _ _ _ hb => by cases hb

theorem parted_of_break (h : isWordBreak c = true) : Parted word (c :: rest) := by
  rintro a - b hb
  cases hb
  exact .inl h

/-! ## 2. Steps of the scan -/

/-- As long as no word is begun, it does not matter which character came before. -/
theorem wordsFrom_fresh (previous : Option Char) (name : List Char) :
    wordsFrom previous [] name = words name := by
  cases name with
  | nil => rfl
  | cons c rest => simp [words, wordsFrom, endWord]

theorem wordsFrom_break (previous : Option Char) (word : List Char) (h : isWordBreak c = true) :
    wordsFrom previous word (c :: rest) = endWord word (words rest) := by
  rw [wordsFrom, if_pos h, wordsFrom_fresh]

theorem words_break (h : isWordBreak c = true) : words (c :: rest) = words rest :=
  wordsFrom_break none [] h

theorem words_cons (solid : isWordBreak c = false) :
    words (c :: rest) = wordsFrom (some c) [c] rest := by
  simp [words, wordsFrom, solid]

theorem wordsFrom_boundary (solid : isWordBreak c = false) (h : isBoundary last c = true) :
    wordsFrom (some last) (last :: word) (c :: rest) =
      (last :: word).reverse :: words (c :: rest) := by
  rw [words_cons solid]
  simp [wordsFrom, solid, h, endWord]

theorem wordsFrom_inside (solid : isWordBreak c = false) (h : isBoundary last c = false) :
    wordsFrom (some last) (last :: word) (c :: rest) =
      wordsFrom (some c) (c :: last :: word) rest := by
  simp [wordsFrom, solid, h]

/-! ## 3. The scan finds the one reading -/

/-- What the scan finds is a reading, from the start and from within a word alike. -/
theorem reads_wordsFrom (name : List Char) :
    Reads name (words name) ∧ ∀ last word, IsWord (last :: word).reverse →
      Reads ((last :: word).reverse ++ name) (wordsFrom (some last) (last :: word) name) := by
  -- a scan is between words, or has begun one that ends in the character before
  induction name with
  | nil => exact ⟨.done, fun last word begun => .take begun (parted_nil _) .done⟩
  | cons c rest ih =>
    obtain ⟨fresh, within⟩ := ih
    cases broken : isWordBreak c with
    | true =>
      have skipped : Reads (c :: rest) (words rest) := .skip broken fresh
      refine ⟨?_, fun last word begun => ?_⟩
      · rwa [words_break broken]
      · rw [wordsFrom_break _ _ broken]
        exact .take begun (parted_of_break broken) skipped
    | false =>
      have started : Reads (c :: rest) (words (c :: rest)) := by
        rw [words_cons broken]
        exact within c [] (isWord_singleton broken)
      refine ⟨started, fun last word begun => ?_⟩
      cases bound : isBoundary last c with
      | true =>
        rw [wordsFrom_boundary broken bound]
        refine .take begun ?_ started
        simpa [Parted] using .inr bound
      | false =>
        rw [wordsFrom_inside broken bound]
        simpa using within c (last :: word) (begun.snoc broken bound)

theorem reads_words (name : List Char) : Reads name (words name) := (reads_wordsFrom name).1

/-- The scan takes a word up to where it is parted from the rest. -/
theorem wordsFrom_take (parted : Parted ((last :: word).reverse ++ name) rest)
    (h : IsWord ((last :: word).reverse ++ name)) :
    wordsFrom (some last) (last :: word) (name ++ rest) =
      ((last :: word).reverse ++ name) :: words rest := by
  induction name generalizing last word with
  | nil =>
    -- all of the word is taken, and what follows parts it from the rest
    rw [List.append_nil] at parted ⊢
    cases rest with
    | nil => rfl
    | cons c rest =>
      have here := parted last (by simp) c rfl
      cases broken : isWordBreak c with
      | true =>
        rw [List.nil_append, wordsFrom_break _ _ broken, words_break broken]
        rfl
      | false =>
        rw [broken, or_iff_right Bool.false_ne_true] at here
        exact wordsFrom_boundary broken here
  | cons c more ih =>
    have again : (last :: word).reverse ++ c :: more = (c :: last :: word).reverse ++ more := by simp
    have solid : isWordBreak c = false := h.unbroken c (by simp)
    have chain := (List.isChain_append.mp h.whole).2.2
    have whole : isBoundary last c = false := chain last (by simp) c rfl
    rw [again] at parted h ⊢
    rw [List.cons_append, wordsFrom_inside solid whole]
    exact ih parted h

/-- **There is no other way to read a name.** -/
theorem words_of_reads (h : Reads name ws) : words name = ws := by
  induction h with
  | done => rfl
  | skip broken _ ih => rw [words_break broken, ih]
  | @take word rest ws isWord parted _ ih =>
    obtain ⟨c, more, rfl⟩ := List.exists_cons_of_ne_nil isWord.inhabited
    rw [List.cons_append, words_cons (isWord.unbroken c List.mem_cons_self),
      wordsFrom_take (by simpa using parted) (by simpa using isWord), ih]
    rfl

/-! ## 4. What every reading has -/

theorem Reads.isWord (h : Reads name ws) : ∀ w ∈ ws, IsWord w := by
  induction h with
  | done => exact fun w hw => absurd hw List.not_mem_nil
  | skip _ _ ih => exact ih
  | take isWord _ _ ih => exact List.forall_mem_cons.mpr ⟨isWord, ih⟩

theorem IsWord.filter_eq (h : IsWord word) : word.filter (!isWordBreak ·) = word :=
  List.filter_eq_self.mpr fun c hc => by simp [h.unbroken c hc]

/-- **Nothing but breaks is lost.** -/
theorem Reads.flatten (h : Reads name ws) : ws.flatten = name.filter (!isWordBreak ·) := by
  induction h with
  | done => rfl
  | skip broken _ ih => rw [ih, List.filter_cons_of_neg (by simp [broken])]
  | take isWord _ _ ih => rw [List.flatten_cons, ih, List.filter_append, isWord.filter_eq]

/-- The first word stands behind a run of breaks. -/
theorem Reads.first (h : Reads name (word :: ws)) :
    ∃ gap after, name = gap ++ word ++ after ∧ ∀ c ∈ gap, isWordBreak c = true := by
  generalize same : word :: ws = all at h
  induction h with
  | done => cases same
  | @skip c _ _ broken _ ih =>
    obtain ⟨gap, after, rfl, breaks⟩ := ih same
    exact ⟨c :: gap, after, rfl, List.forall_mem_cons.mpr ⟨broken, breaks⟩⟩
  | @take _ rest _ _ _ _ =>
    cases same
    exact ⟨[], rest, rfl, fun c hc => absurd hc List.not_mem_nil⟩

/-- **Neighbours are parted in the name**: behind the words in front of them it has the one, then breaks,
    and then the other, and where there is no break there is a boundary. -/
theorem Reads.parted (h : Reads name ws) {front back : List (List Char)} {next : List Char}
    (here : ws = front ++ word :: next :: back) :
    ∃ before gap after, name = before ++ word ++ gap ++ next ++ after ∧
      before.filter (!isWordBreak ·) = front.flatten ∧ (∀ c ∈ gap, isWordBreak c = true) ∧
      (gap ≠ [] ∨ ∃ a ∈ word.getLast?, ∃ b ∈ next.head?, isBoundary a b = true) := by
  induction h generalizing front with
  | done => simp at here
  | @skip c _ _ broken _ ih =>
    obtain ⟨before, gap, after, rfl, flat, rest⟩ := ih here
    exact ⟨c :: before, gap, after, rfl, by rw [List.filter_cons_of_neg (by simp [broken]), flat], rest⟩
  | @take first rest ws isWord ends reads ih =>
    cases front with
    | cons own front =>
      obtain ⟨rfl, others⟩ := List.cons.inj here
      obtain ⟨before, gap, after, rfl, flat, more⟩ := ih others
      refine ⟨first ++ before, gap, after, by simp, ?_, more⟩
      rw [List.filter_append, isWord.filter_eq, flat, List.flatten_cons]
    | nil =>
      -- the two are the first words; without a break between them only a boundary parts them, since the
      -- second does not begin with a break
      obtain ⟨rfl, rfl⟩ := List.cons.inj here
      obtain ⟨gap, after, rfl, breaks⟩ := reads.first
      refine ⟨[], gap, after, by simp, rfl, breaks, ?_⟩
      cases gap with
      | cons c gap => exact .inl (List.cons_ne_nil _ _)
      | nil =>
        have isNext := reads.isWord next List.mem_cons_self
        obtain ⟨b, more, rfl⟩ := List.exists_cons_of_ne_nil isNext.inhabited
        have last := List.getLast?_eq_some_getLast isWord.inhabited
        have solid := isNext.unbroken b List.mem_cons_self
        refine .inr ⟨_, last, b, rfl, ?_⟩
        exact (ends _ last b rfl).resolve_left (by simp [solid])

/-- Words with blanks between them are read as these words. -/
theorem reads_joinWith (h : ∀ w ∈ ws, IsWord w) : Reads (joinWith ' ' ws) ws := by
  induction ws with
  | nil => exact .done
  | cons word rest ih =>
    obtain ⟨isWord, others⟩ := List.forall_mem_cons.mp h
    cases rest with
    | nil =>
      have single : Reads (word ++ []) [word] := .take isWord (parted_nil word) .done
      rwa [List.append_nil] at single
    | cons next more =>
      rw [joinWith_cons word (List.cons_ne_nil _ _)]
      exact .take isWord (parted_of_break rfl) (.skip rfl (ih others))

/-! ## 5. ASCII names -/

/-- A lowercase letter in front of a capital or a digit, or a digit in front of a letter. -/
def Boundary (a b : Char) : Prop :=
  a.isLower = true ∧ (b.isUpper = true ∨ b.isDigit = true) ∨ a.isDigit = true ∧ b.isAlpha = true

/-- The characters are ASCII. -/
def IsAscii (text : List Char) : Prop := ∀ c ∈ text, c.toNat < 128

instance (text : List Char) : Decidable (IsAscii text) := List.decidableBAll _ text

theorem isBoundary_iff {a b : Char} (ha : a.toNat < 128) (hb : b.toNat < 128) :
    isBoundary a b = true ↔ Boundary a b := by
  simp [isBoundary, Boundary, isLowercase, isUppercase, isAlphabetic, ha, hb]

/-- The word with its first letter in upper case. -/
def initialUpper : List Char → List Char
  | [] => []
  | c :: rest => c.toUpper :: rest

theorem capitalized_of_ascii (h : IsAscii word) : capitalized word = initialUpper word := by
  cases word with
  | nil => rfl
  | cons c rest => simp [capitalized, initialUpper, upperChar, h c List.mem_cons_self]

/-- What holds of every ASCII character is checked one by one. -/
theorem forall_ascii {P : Char → Prop} (each : ∀ n < 128, P (Char.ofNat n)) {c : Char}
    (h : c.toNat < 128) : P c := by
  have own := each c.toNat h
  rwa [Char.ofNat_toNat] at own

section

variable (h : c.toNat < 128)

include h

theorem toUpper_lt : c.toUpper.toNat < 128 :=
  forall_ascii (P := fun c => c.toUpper.toNat < 128) (by decide) h

theorem isLower_toUpper : c.toUpper.isLower = false :=
  forall_ascii (P := fun c => c.toUpper.isLower = false) (by decide) h

theorem isDigit_toUpper : c.toUpper.isDigit = c.isDigit :=
  forall_ascii (P := fun c => c.toUpper.isDigit = c.isDigit) (by decide) h

theorem isWordBreak_toUpper : isWordBreak c.toUpper = isWordBreak c :=
  forall_ascii (P := fun c => isWordBreak c.toUpper = isWordBreak c) (by decide) h

theorem toUpper_toUpper : c.toUpper.toUpper = c.toUpper :=
  forall_ascii (P := fun c => c.toUpper.toUpper = c.toUpper) (by decide) h

end

theorem isAscii_initialUpper (h : IsAscii word) : IsAscii (initialUpper word) := by
  cases word with
  | nil => exact h
  | cons c rest =>
    obtain ⟨first, others⟩ := List.forall_mem_cons.mp h
    exact List.forall_mem_cons.mpr ⟨toUpper_lt first, others⟩

theorem initialUpper_idem (h : IsAscii word) :
    initialUpper (initialUpper word) = initialUpper word := by
  cases word with
  | nil => rfl
  | cons c rest => exact congrArg (· :: rest) (toUpper_toUpper (h c List.mem_cons_self))

/-- A capital makes no boundary that the small letter did not make. -/
theorem IsWord.initialUpper (h : IsWord word) (ascii : IsAscii word) :
    IsWord (initialUpper word) := by
  obtain ⟨inhabited, unbroken, whole⟩ := h
  cases word with
  | nil => exact absurd rfl inhabited
  | cons c rest =>
    obtain ⟨first, others⟩ := List.forall_mem_cons.mp ascii
    obtain ⟨solid, unbroken⟩ := List.forall_mem_cons.mp unbroken
    have still : isWordBreak c.toUpper = false := (isWordBreak_toUpper first).trans solid
    refine ⟨List.cons_ne_nil _ _, List.forall_mem_cons.mpr ⟨still, unbroken⟩, ?_⟩
    cases rest with
    | nil => exact .singleton _
    | cons d rest =>
      obtain ⟨flat, whole⟩ := List.isChain_cons_cons.mp whole
      refine List.isChain_cons_cons.mpr ⟨?_, whole⟩
      have second : d.toNat < 128 := others d List.mem_cons_self
      rw [← Bool.not_eq_true, isBoundary_iff first second] at flat
      rw [← Bool.not_eq_true, isBoundary_iff (toUpper_lt first) second]
      rintro (⟨lower, -⟩ | ⟨digit, letter⟩)
      · rw [isLower_toUpper first] at lower
        exact Bool.false_ne_true lower
      · rw [isDigit_toUpper first] at digit
        exact flat (.inr ⟨digit, letter⟩)

theorem isAscii_of_mem_words {name w : List Char} (h : IsAscii name) (mem : w ∈ words name) :
    IsAscii w := fun c hc => by
  have kept : c ∈ (words name).flatten := List.mem_flatten.mpr ⟨w, mem, hc⟩
  rw [(reads_words name).flatten] at kept
  exact h c (List.mem_of_mem_filter kept)

theorem titleCase_of_ascii {name : String} (ascii : IsAscii name.toList) :
    titleCase name = String.ofList (joinWith ' ' ((words name.toList).map initialUpper)) := by
  rw [titleCase, List.map_congr_left fun w hw => capitalized_of_ascii (isAscii_of_mem_words ascii hw)]

/-- **The title of a name has the capitalized words of the name as its words.** -/
theorem words_title {name : String} (ascii : IsAscii name.toList) :
    words (titleCase name).toList = (words name.toList).map initialUpper := by
  rw [titleCase_of_ascii ascii, String.toList_ofList]
  refine words_of_reads (reads_joinWith ?_)
  exact List.forall_mem_map.mpr fun w hw =>
    ((reads_words _).isWord w hw).initialUpper (isAscii_of_mem_words ascii hw)

theorem titleCase_idem {name : String} (ascii : IsAscii name.toList) :
    titleCase (titleCase name) = titleCase name := by
  have again : ((words name.toList).map initialUpper).map capitalized =
      (words name.toList).map initialUpper := by
    refine (List.map_map ..).trans (List.map_congr_left fun w hw => ?_)
    have plain := isAscii_of_mem_words ascii hw
    exact (capitalized_of_ascii (isAscii_initialUpper plain)).trans (initialUpper_idem plain)
  rw [titleCase, words_title ascii, again, titleCase_of_ascii ascii]

/-- **A title is the words of the name, and nothing of them is lost.** The title of an ASCII name is its
    words, each with its first letter in upper case, with single blanks between them. One after another
    the words are the name without its breaks. As they are shown, none is empty, and none has a break in
    it or a boundary between two of its characters. Neighbours are parted in the name by breaks or by a
    boundary. And a title is its own title. -/
theorem title_of_name {name : String} (ascii : ∀ c ∈ name.toList, c.toNat < 128) :
    titleCase name = String.ofList (joinWith ' ' ((words name.toList).map initialUpper)) ∧
    (words name.toList).flatten = name.toList.filter (!isWordBreak ·) ∧
    (∀ w ∈ (words name.toList).map initialUpper, w ≠ [] ∧ (∀ c ∈ w, isWordBreak c = false) ∧
      w.IsChain fun a b => ¬Boundary a b) ∧
    (∀ front w next back, words name.toList = front ++ w :: next :: back →
      ∃ before gap after, name.toList = before ++ w ++ gap ++ next ++ after ∧
        before.filter (!isWordBreak ·) = front.flatten ∧ (∀ c ∈ gap, isWordBreak c = true) ∧
        (gap ≠ [] ∨ ∃ a ∈ w.getLast?, ∃ b ∈ next.head?, Boundary a b)) ∧
    titleCase (titleCase name) = titleCase name := by
  have reads := reads_words name.toList
  refine ⟨titleCase_of_ascii ascii, reads.flatten, List.forall_mem_map.mpr fun w hw => ?_,
    fun front w next back here => ?_, titleCase_idem ascii⟩
  · have plain := isAscii_initialUpper (isAscii_of_mem_words ascii hw)
    obtain ⟨inhabited, unbroken, whole⟩ :=
      (reads.isWord w hw).initialUpper (isAscii_of_mem_words ascii hw)
    refine ⟨inhabited, unbroken, whole.imp_of_mem_imp fun a b ha hb flat => ?_⟩
    rwa [← isBoundary_iff (plain a ha) (plain b hb), Bool.not_eq_true]
  · obtain ⟨before, gap, after, same, flat, breaks, ends⟩ := reads.parted here
    refine ⟨before, gap, after, same, flat, breaks, ends.imp_right ?_⟩
    rintro ⟨a, ha, b, hb, bound⟩
    have plain (w : List Char) (mem : w ∈ words name.toList) := isAscii_of_mem_words ascii mem
    have own := plain w (by simp [here]) a (List.mem_of_getLast? ha)
    have other := plain next (by simp [here]) b (List.mem_of_head? hb)
    exact ⟨a, ha, b, hb, (isBoundary_iff own other).mp bound⟩

/-- Breaks in a row, and boundaries with and without a break: of the three words, the last two are parted
    by a boundary alone. -/
theorem title_of_name_slot :
    (∀ c ∈ "__set-Slot2 ".toList, c.toNat < 128) ∧
      titleCase "__set-Slot2 " = String.ofList (joinWith ' ' [['S', 'e', 't'], ['S', 'l', 'o', 't'],
        ['2']]) ∧
      (∃ before gap after, "__set-Slot2 ".toList =
          before ++ ['S', 'l', 'o', 't'] ++ gap ++ ['2'] ++ after ∧
        before.filter (!isWordBreak ·) = ['s', 'e', 't']) ∧
      titleCase (titleCase "__set-Slot2 ") = titleCase "__set-Slot2 " := by
  have ascii : IsAscii "__set-Slot2 ".toList := by decide
  have read : words "__set-Slot2 ".toList =
      [['s', 'e', 't']] ++ ['S', 'l', 'o', 't'] :: ['2'] :: [] := by decide
  obtain ⟨title, -, -, parted, again⟩ := title_of_name ascii
  obtain ⟨before, gap, after, same, flat, -⟩ := parted _ _ _ _ read
  exact ⟨ascii, title.trans (by rw [read]; decide), ⟨before, gap, after, same, flat⟩, again⟩

end Assay.Text
