import Assay.Arg.Format
import Assay.Proofs.Number.Whole
import Assay.Proofs.Text.Split

/-!
# Integers in zero patterns

A pattern asks for as many digits as it has zeros before the point, and for zeros behind it. An
integer without places is written in a field that counts the sign, and with places it goes through the
format of 64 bits. This file says how far both do what the pattern asks.

* `Pattern.spelled width places` -- the text of a pattern, which is read as what it spells
  (`read_spelled`);
* `Pattern.asked width places n` -- what a pattern asks for: the integer with its digits filled up;
* `integerText_places` -- with places the nearest integer of 53 bits is shown, filled up as asked;
* **`integer_filled_iff`** -- integers of 53 bits are filled up as asked, unless the sign of a negative
  one without places takes the column of a digit;
* **`integer_read_back_iff`** -- with places the text is read back as the nearest integer of 53 bits,
  so as the integer itself exactly if it has no more.
-/

namespace Assay.Number

/-! ## 1. Patterns -/

namespace Pattern

/-- A run of zeros. -/
def zeros (count : Nat) : List Char := List.replicate count '0'

/-- The text of a pattern: zeros, and for places a point and more zeros. -/
def spelled (width : Nat) (places : Option Nat) : String :=
  String.ofList (zeros width ++ (places.map ('.' :: zeros ·)).getD [])

/-- What a pattern asks for: the sign, at least as many digits as there are zeros before the point, and
    the places. -/
def asked (width places : Nat) (n : Int) : String :=
  String.ofList (signText (n < 0) ++ List.leftpad width '0' (digits n.natAbs) ++
    if places = 0 then [] else '.' :: zeros places)

theorem all_zeros (count : Nat) : (zeros count).all (· == '0') = true :=
  List.all_eq_true.mpr fun _ mem => beq_iff_eq.mpr (List.eq_of_mem_replicate mem)

theorem point_notMem_zeros (count : Nat) : '.' ∉ zeros count := fun mem =>
  absurd (List.eq_of_mem_replicate mem) (by decide)

theorem toList_spelled (width : Nat) (places : Option Nat) : (spelled width places).toList =
    zeros width ++ (places.map ('.' :: zeros ·)).getD [] := String.toList_ofList

/-- What a text is read as, by the parts it is cut into. -/
theorem read_of_cut {text : String} {whole fraction : List Char}
    (cut : (Text.splitOnce '.' text.toList).getD (text.toList, []) = (whole, fraction)) :
    read text = if whole.isEmpty || !whole.all (· == '0') || !fraction.all (· == '0') then none
      else some ⟨whole.length, fraction.length⟩ := by
  rw [read, cut]

/-- **A spelled pattern is read as what it spells.** -/
theorem read_spelled {width : Nat} (pos : 0 < width) (places : Option Nat) :
    read (spelled width places) = some ⟨width, places.getD 0⟩ := by
  have cut : (Text.splitOnce '.' (spelled width places).toList).getD
      ((spelled width places).toList, []) = (zeros width, zeros (places.getD 0)) := by
    rw [toList_spelled]
    cases places with
    | none =>
      have whole : zeros width ++ (Option.map ('.' :: zeros ·) none).getD [] = zeros width :=
        List.append_nil _
      rw [whole, Text.splitOnce_eq_none_iff.mpr (point_notMem_zeros width)]
      rfl
    | some d => exact congrArg (Option.getD · _) (Text.splitOnce_append (point_notMem_zeros width) _)
  have nonempty : (zeros width).isEmpty = false :=
    List.isEmpty_eq_false_iff.mpr (List.ne_nil_of_length_pos (by rwa [zeros, List.length_replicate]))
  rw [read_of_cut cut, nonempty, all_zeros, all_zeros, zeros, zeros, List.length_replicate,
    List.length_replicate]
  rfl

/-! ## 2. What is written -/

/-- Without places the field counts the sign. -/
theorem integerText_plain (width : Nat) (n : Int) :
    (Pattern.mk width 0).integerText n = asked (width - (signText (n < 0)).length) 0 n := by
  rw [integerText, if_pos rfl, integerField, zeroFill, asked, if_pos rfl, List.append_nil]

/-- With places the nearest integer of 53 bits is shown, filled up as the pattern asks. -/
theorem integerText_places {n : Int} (fits : n.natAbs < 2 ^ 128) (width : Nat) {places : Nat}
    (pos : 0 < places) : (Pattern.mk width places).integerText n = asked width places (nearInt n) := by
  have small : n.natAbs.log2 < 1023 := by
    rcases Nat.eq_zero_or_pos n.natAbs with zero | filled
    · rw [zero]
      decide
    · exact Nat.lt_trans ((Nat.log2_lt (Nat.pos_iff_ne_zero.mp filled)).mpr fits) (by decide)
  have denoted := denotes_nearest small
  have number : (Binary.ofInt n : Double).isNaN = false := isNaN_of_denotes denoted
  have columns : (Pattern.mk width places).columns = width + ('.' :: zeros places).length := by
    rw [Pattern.columns, if_neg (Nat.pos_iff_ne_zero.mp pos), zeros, List.length_cons,
      List.length_replicate]
    rfl
  have field : ∀ negative : Bool, width + ('.' :: zeros places).length + negative.toNat -
      (signText negative).length = width + ('.' :: zeros places).length := by
    intro negative
    cases negative <;> exact Nat.add_sub_cancel _ _
  rw [integerText, if_neg (Nat.pos_iff_ne_zero.mp pos), binaryText, Binary.fixedField, number]
  simp only [Bool.not_false, Bool.and_true, zeroFill, Binary.ofInt, Binary.ofFraction, field, columns,
    fixedText_of_denotes denoted pos]
  rw [show List.replicate places '0' = zeros places from rfl, leftpad_pointed, asked,
    if_neg (Nat.pos_iff_ne_zero.mp pos), decide_eq_decide.mpr (nearInt_neg_iff n),
    natAbs_nearInt, List.append_assoc]

/-- Two widths ask for the same if the digits fill both. -/
theorem asked_inj {width more places : Nat} {n : Int} (le : width ≤ more) :
    asked width places n = asked more places n ↔
      width = more ∨ more ≤ (digits n.natAbs).length := by
  simp only [asked, String.ofList_inj, List.append_cancel_right_eq, List.append_cancel_left_eq,
    List.leftpad]
  constructor
  · intro same
    have := congrArg List.length same
    simp only [List.length_replicate] at this
    omega
  · rintro (rfl | filled)
    · rfl
    · rw [Nat.sub_eq_zero_of_le filled, Nat.sub_eq_zero_of_le (Nat.le_trans le filled)]

/-! ## 3. Reading back -/

/-- The text is read as the integer: its part before the point is, and every digit behind the point is
    zero. -/
def ReadsAs (text : String) (n : Int) : Prop :=
  ∃ whole places, Text.splitOnce '.' text.toList = some (whole, places) ∧
    readInteger whole = some n ∧ ∀ c ∈ places, c = '0'

theorem toList_asked (width places : Nat) (n : Int) (pos : 0 < places) :
    (asked width places n).toList =
      zeroFill (width + (signText (n < 0)).length) (n < 0) (digits n.natAbs) ++
        '.' :: zeros places := by
  rw [asked, if_neg (Nat.pos_iff_ne_zero.mp pos), String.toList_ofList, zeroFill,
    Nat.add_sub_cancel]

theorem point_notMem_zeroFill (width : Nat) (n : Int) :
    '.' ∉ zeroFill width (n < 0) (digits n.natAbs) := by
  intro mem
  rcases List.mem_append.mp mem with sign | digit
  · by_cases negative : n < 0
    · simp [signText, negative] at sign
    · simp [signText, negative] at sign
  · exact absurd (isDigit_leftpad digit) (by decide)

/-- **What a pattern with places asks for is read as the integer**, and as no other. -/
theorem readsAs_asked_iff {width places : Nat} (pos : 0 < places) (n m : Int) :
    ReadsAs (asked width places n) m ↔ m = n := by
  have cut : Text.splitOnce '.' (asked width places n).toList =
      some (zeroFill (width + (signText (n < 0)).length) (n < 0) (digits n.natAbs),
        zeros places) := by
    rw [toList_asked width places n pos]
    exact Text.splitOnce_append (point_notMem_zeroFill _ n) _
  constructor
  · rintro ⟨whole, fraction, found, value, -⟩
    rw [cut] at found
    cases found
    exact (Option.some.inj ((readInteger_zeroFill _ n).symm.trans value)).symm
  · rintro rfl
    exact ⟨_, _, cut, readInteger_zeroFill _ m, fun c mem => List.eq_of_mem_replicate mem⟩

end Pattern

/-! ## 4. Integer arguments -/

/-- An integer argument with a pattern. -/
theorem format_integer {params : Params} {width : Nat} {places : Option Nat} (pos : 0 < width)
    (given : params.lookup Arg.formatKey = some (Pattern.spelled width places)) (name : String)
    (n : Int) : (Arg.mk name (.integer n)).format params =
      (Pattern.mk width (places.getD 0)).integerText n := by
  have pattern : Arg.patternOf params = some ⟨width, places.getD 0⟩ := by
    rw [Arg.patternOf, given, Option.bind_some, Pattern.read_spelled pos]
  simp only [Arg.format, pattern]

/-- **How integers are filled up.** A pattern is a run of zeros, and maybe a point and another run. An
    integer of at most 53 bits is written as its sign, at least as many digits as the first run has,
    and a point and zeros for the second run, if it is not empty -- exactly if it is not negative, or
    has places, or has digits enough by itself. A negative integer without places gets one digit less
    than is asked for, since its sign is counted too. -/
theorem integer_filled_iff {n : Int} (small : n.natAbs < 2 ^ 53) {width : Nat} (pos : 0 < width)
    {places : Option Nat} {params : Params}
    (given : params.lookup Arg.formatKey = some (Pattern.spelled width places)) (name : String) :
    ((Arg.mk name (.integer n)).format params = Pattern.asked width (places.getD 0) n ↔
      0 ≤ n ∨ 0 < places.getD 0 ∨ width ≤ (digits n.natAbs).length) ∧
    (n < 0 → places.getD 0 = 0 →
      (Arg.mk name (.integer n)).format params = Pattern.asked (width - 1) 0 n) := by
  rw [format_integer pos given]
  rcases Nat.eq_zero_or_pos (places.getD 0) with plain | placed
  · rw [plain, Pattern.integerText_plain]
    by_cases negative : n < 0
    · have one : (signText (n < 0)).length = 1 := by
        rw [decide_eq_true negative]
        rfl
      rw [one, Pattern.asked_inj (Nat.sub_le width 1)]
      refine ⟨?_, fun _ _ => rfl⟩
      omega
    · have nothing : (signText (n < 0)).length = 0 := by
        rw [decide_eq_false negative]
        rfl
      rw [nothing, Nat.sub_zero]
      exact ⟨iff_of_true rfl (.inl (Int.not_lt.mp negative)), fun neg => absurd neg negative⟩
  · have fits : n.natAbs < 2 ^ 128 := Nat.lt_trans small (by decide)
    have same : nearInt n = n := (nearInt_eq_iff n).mpr (hasBits_of_lt small)
    rw [Pattern.integerText_places fits width placed, same]
    exact ⟨iff_of_true rfl (.inr (.inl placed)),
      fun _ plain => absurd plain (Nat.pos_iff_ne_zero.mp placed)⟩

/-- A debt with a point after it has all its digits. -/
theorem integer_filled_debt :
    (-42 : Int).natAbs < 2 ^ 53 ∧ 0 < 5 ∧
      List.lookup Arg.formatKey [("format", "00000.00")] = some (Pattern.spelled 5 (some 2)) ∧
      (Arg.mk "debt" (.integer (-42))).format [("format", "00000.00")] = "-00042.00" := by
  have given : List.lookup Arg.formatKey [("format", "00000.00")] =
      some (Pattern.spelled 5 (some 2)) := by decide
  have shown := (integer_filled_iff (n := -42) (by decide) (by decide) given "debt").1.mpr
    (.inr (.inl (by decide)))
  exact ⟨by decide, by decide, given, shown.trans (by decide)⟩

/-- **Without a point the sign takes the place of a digit.** -/
theorem sign_takes_digit :
    List.lookup Arg.formatKey [("format", "000")] = some (Pattern.spelled 3 none) ∧
      (Arg.mk "debt" (.integer (-7))).format [("format", "000")] = "-07" ∧
      Pattern.asked 3 0 (-7) = "-007" := by
  decide

/-- **What integers with places are read back as.** For every integer of 128 bits and every pattern
    with places, the nearest integer of at most 53 significant bits is written as the pattern asks. So
    the text is read as that integer and as no other: as the one it was made from exactly if that has
    no more bits. -/
theorem integer_read_back_iff {n : Int} (low : -(2 ^ 127) ≤ n) (high : n < 2 ^ 127)
    {width places : Nat} (pos : 0 < width) (placed : 0 < places) {params : Params}
    (given : params.lookup Arg.formatKey = some (Pattern.spelled width (some places)))
    (name : String) :
    (Arg.mk name (.integer n)).format params = Pattern.asked width places (nearInt n) ∧
    (∀ m, Pattern.ReadsAs ((Arg.mk name (.integer n)).format params) m ↔ m = nearInt n) ∧
    (Pattern.ReadsAs ((Arg.mk name (.integer n)).format params) n ↔ HasBits 53 n.natAbs) ∧
    HasBits 53 (nearInt n).natAbs ∧
    ∀ m : Int, HasBits 53 m.natAbs → (nearInt n - n).natAbs ≤ (m - n).natAbs := by
  have fits : n.natAbs < 2 ^ 128 := by omega
  have shown : (Arg.mk name (.integer n)).format params = Pattern.asked width places (nearInt n) :=
    (format_integer pos given name n).trans (Pattern.integerText_places fits width placed)
  have read (m : Int) : Pattern.ReadsAs ((Arg.mk name (.integer n)).format params) m ↔
      m = nearInt n := by
    rw [shown]
    exact Pattern.readsAs_asked_iff placed (nearInt n) m
  refine ⟨shown, read, ?_, ?_, fun m => nearInt_nearest n⟩
  · rw [read n, eq_comm]
    exact nearInt_eq_iff n
  · rw [natAbs_nearInt]
    exact hasBits_wholeNear _

/-- Three times a large power of two is read back. -/
theorem integer_read_back_power :
    List.lookup Arg.formatKey [("format", "0.0")] = some (Pattern.spelled 1 (some 1)) ∧
      HasBits 53 (-(3 * 2 ^ 100) : Int).natAbs ∧
      Pattern.ReadsAs ((Arg.mk "n" (.integer (-(3 * 2 ^ 100)))).format [("format", "0.0")])
        (-(3 * 2 ^ 100)) ∧
      (Arg.mk "n" (.integer (-(3 * 2 ^ 100)))).format [("format", "0.0")] =
        "-3802951800684688204490109616128.0" := by
  have given : List.lookup Arg.formatKey [("format", "0.0")] = some (Pattern.spelled 1 (some 1)) := by
    decide
  have bits : HasBits 53 (-(3 * 2 ^ 100) : Int).natAbs := ⟨3, 100, by decide, by decide⟩
  obtain ⟨shown, -, exact_iff, -, -⟩ := integer_read_back_iff (n := -(3 * 2 ^ 100)) (by decide)
    (by decide) (by decide) (by decide) given "n"
  refine ⟨given, bits, exact_iff.mpr bits, shown.trans ?_⟩
  rw [(nearInt_eq_iff _).mpr bits]
  decide

/-- **An integer of 54 bits is shown as its neighbour.** -/
theorem wide_integer_misread :
    (Arg.mk "n" (.integer (2 ^ 53 + 1))).format [("format", "0.0")] = "9007199254740992.0" ∧
      Pattern.ReadsAs "9007199254740992.0" (2 ^ 53) ∧
      ¬ Pattern.ReadsAs "9007199254740992.0" (2 ^ 53 + 1) := by
  have text : Pattern.asked 1 1 (2 ^ 53) = "9007199254740992.0" := by decide
  have read (m : Int) : Pattern.ReadsAs "9007199254740992.0" m ↔ m = 2 ^ 53 := by
    rw [← text]
    exact Pattern.readsAs_asked_iff (by decide) _ m
  refine ⟨by decide, (read _).mpr rfl, fun h => ?_⟩
  exact absurd ((read _).mp h) (by decide)

end Assay.Number
