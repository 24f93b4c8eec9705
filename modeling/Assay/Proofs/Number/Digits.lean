import Mathlib.Algebra.Order.Group.Nat
import Assay.Number.Decimal
import Assay.Number.Digits

/-!
# Integers in filled fields

An integer is written as its sign, zeros and the digits of its size. This file says how the digits of
a number grow when it is multiplied by ten, and that a filled field is read as the integer it was
made from, however wide it is.

* `digits_mul_pow` -- the zeros that a power of ten adds;
* `leftpad_digits` -- the digits of a whole number with places behind the point;
* **`readInteger_zeroFill`** -- a filled field is read as its integer.
-/

namespace Assay.Number

/-! ## 1. Powers of ten -/

theorem digits_zero : digits 0 = ['0'] := rfl

theorem digits_ne_nil (n : Nat) : digits n ≠ [] := Nat.toDigits_ne_nil

theorem isDigit_digits {n : Nat} {c : Char} (mem : c ∈ digits n) : c.isDigit = true :=
  Nat.isDigit_of_mem_toDigits (by decide) (by decide) mem

theorem digits_mul_ten {n : Nat} (pos : 0 < n) : digits (n * 10) = digits n ++ ['0'] := by
  have last := Nat.toDigits_append_toDigits (b := 10) (d := 0) (by decide) pos (by decide)
  rw [Nat.add_zero, Nat.mul_comm] at last
  exact last.symm

/-- **A power of ten adds zeros.** -/
theorem digits_mul_pow {n : Nat} (pos : 0 < n) (p : Nat) :
    digits (n * 10 ^ p) = digits n ++ List.replicate p '0' := by
  induction p with
  | zero => rw [Nat.pow_zero, Nat.mul_one, List.replicate_zero, List.append_nil]
  | succ p ih =>
    have grown : 0 < n * 10 ^ p := Nat.mul_pos pos (Nat.pow_pos (by decide))
    rw [Nat.pow_succ, ← Nat.mul_assoc, digits_mul_ten grown, ih, List.append_assoc,
      List.replicate_succ']

/-- The digits of a whole number with places behind the point; zero has a digit before it too. -/
theorem leftpad_digits (n p : Nat) :
    List.leftpad (p + 1) '0' (digits (n * 10 ^ p)) = digits n ++ List.replicate p '0' := by
  rcases Nat.eq_zero_or_pos n with rfl | pos
  · rw [Nat.zero_mul, digits_zero]
    simp only [List.leftpad, List.length_singleton, Nat.add_sub_cancel]
    exact (List.replicate_succ' ).symm.trans List.replicate_succ
  · have long : p + 1 ≤ (digits n ++ List.replicate p '0').length := by
      have := List.length_pos_iff.mpr (digits_ne_nil n)
      rw [List.length_append, List.length_replicate]
      omega
    rw [digits_mul_pow pos, List.leftpad, Nat.sub_eq_zero_of_le long, List.replicate_zero,
      List.nil_append]

/-- What the places are behind the point. -/
theorem pointed_append {p : Nat} (pos : 0 < p) (whole : List Char) :
    pointed p (whole ++ List.replicate p '0') = whole ++ '.' :: List.replicate p '0' := by
  have front : (whole ++ List.replicate p '0').length - p = whole.length := by
    rw [List.length_append, List.length_replicate, Nat.add_sub_cancel]
  rw [pointed, if_neg (Nat.pos_iff_ne_zero.mp pos), front, List.take_left', List.drop_left'] <;> rfl

/-- Columns for a point and the places behind it are taken by these. -/
theorem leftpad_pointed (width : Nat) (whole back : List Char) :
    List.leftpad (width + back.length) '0' (whole ++ back) =
      List.leftpad width '0' whole ++ back := by
  rw [List.leftpad, List.leftpad, List.length_append, Nat.add_sub_add_right, List.append_assoc]

/-! ## 2. Reading -/

theorem digitsValue_leftpad (width n : Nat) :
    digitsValue (List.leftpad width '0' (digits n)) = n := by
  change Nat.ofDigitChars 10 (List.replicate _ '0' ++ Nat.toDigits 10 n) 0 = n
  rw [Nat.ofDigitChars_append, Nat.ofDigitChars_replicate_zero, Nat.mul_zero,
    Nat.ofDigitChars_ten_toDigits]

theorem isDigit_leftpad {width n : Nat} {c : Char} (mem : c ∈ List.leftpad width '0' (digits n)) :
    c.isDigit = true := by
  rcases List.mem_append.mp mem with zero | digit
  · rw [List.eq_of_mem_replicate zero]
    rfl
  · exact isDigit_digits digit

theorem leftpad_digits_ne_nil (width n : Nat) : List.leftpad width '0' (digits n) ≠ [] :=
  List.append_ne_nil_of_right_ne_nil _ (digits_ne_nil n)

theorem readNatural_leftpad (width n : Nat) :
    readNatural (List.leftpad width '0' (digits n)) = some n := by
  have some : (List.leftpad width '0' (digits n)).isEmpty = false :=
    List.isEmpty_eq_false_iff.mpr (leftpad_digits_ne_nil width n)
  have all : (List.leftpad width '0' (digits n)).all Char.isDigit = true :=
    List.all_eq_true.mpr fun c mem => isDigit_leftpad mem
  rw [readNatural, some, all, digitsValue_leftpad]
  rfl

/-- A text that starts with a digit has no sign. -/
theorem takeSign_of_isDigit {text : List Char} (digits : ∀ c ∈ text, c.isDigit = true) :
    takeSign text = (false, text) := by
  unfold takeSign
  split
  · exact absurd (digits '-' List.mem_cons_self) (by decide)
  · exact absurd (digits '+' List.mem_cons_self) (by decide)
  · rfl

/-- **A filled field is read as its integer.** -/
theorem readInteger_zeroFill (width : Nat) (n : Int) :
    readInteger (zeroFill width (n < 0) (digits n.natAbs)) = some n := by
  by_cases negative : n < 0
  · have size : -(n.natAbs : Int) = n := by omega
    simp only [zeroFill, signText, negative, decide_true, if_true, List.singleton_append,
      readInteger, takeSign, readNatural_leftpad]
    exact congrArg some size
  · have size : (n.natAbs : Int) = n := by omega
    simp only [zeroFill, signText, negative, decide_false, List.nil_append, List.length_nil,
      Nat.sub_zero, readInteger, takeSign_of_isDigit fun c mem => isDigit_leftpad mem,
      readNatural_leftpad, if_false, Bool.false_eq_true]
    exact congrArg some size

end Assay.Number
