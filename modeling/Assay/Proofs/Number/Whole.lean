import Mathlib.Algebra.Order.Group.Nat
import Mathlib.Tactic.Ring
import Assay.Number.Fixed
import Assay.Proofs.Number.Digits

/-!
# Whole numbers in the format of 64 bits

A whole number that goes through the format of 64 bits comes out with at most 53 significant bits: as
itself if it has no more, and else as the nearest number that has not. This file says so of the
magnitude that is chosen for it and of the digits that are written.

* `HasBits bits n` -- the number has at most so many significant bits;
* `wholeNear n` -- the nearest number of at most 53 bits: `hasBits_wholeNear`, `wholeNear_nearest`,
  and **`wholeNear_eq_iff`**: it is the number itself exactly if that has no more;
* `Denotes magnitude n` -- the magnitude is that of the whole number;
* **`denotes_nearest`** -- the magnitude nearest to a whole number is that of `wholeNear`;
* `fixedText_of_denotes` -- and the text of such a magnitude is its digits and then zeros.
-/

namespace Assay.Number

/-! ## 1. Rounding to a multiple -/

theorem roundEven_mul (n : Nat) {d : Nat} (pos : 0 < d) : roundEven (n * d) d = n := by
  simp [roundEven, Nat.mul_div_cancel n pos, pos]

/-- The multiple that is chosen is at most half a unit away. -/
theorem roundEven_error (n : Nat) {d : Nat} (pos : 0 < d) :
    2 * (roundEven n d * d) ≤ 2 * n + d ∧ 2 * n ≤ 2 * (roundEven n d * d) + d := by
  have split : d * (n / d) + n % d = n := Nat.div_add_mod n d
  have less : n % d < d := Nat.mod_lt n pos
  have next : (n / d + 1) * d = d * (n / d) + d := by ring
  have same : n / d * d = d * (n / d) := Nat.mul_comm _ _
  simp only [roundEven]
  split_ifs with low high
  · rw [same]
    omega
  · rw [next]
    omega
  · rcases Nat.mod_two_eq_zero_or_one (n / d) with even | odd
    · rw [even, Nat.add_zero, same]
      omega
    · rw [odd, next]
      omega

/-- No multiple is nearer. -/
theorem roundEven_nearest (n : Nat) {d : Nat} (pos : 0 < d) (k : Nat) :
    ((roundEven n d * d : Nat) - (n : Int)).natAbs ≤ ((k * d : Nat) - (n : Int)).natAbs := by
  obtain ⟨above, below⟩ := roundEven_error n pos
  rcases Nat.lt_trichotomy k (roundEven n d) with less | rfl | more
  · have apart : k * d + d ≤ roundEven n d * d := by
      have := Nat.mul_le_mul_right d less
      rwa [Nat.succ_mul] at this
    omega
  · exact Nat.le_refl _
  · have apart : roundEven n d * d + d ≤ k * d := by
      have := Nat.mul_le_mul_right d more
      rwa [Nat.succ_mul] at this
    omega

/-! ## 2. Numbers of few bits -/

/-- The number has at most so many significant bits. -/
def HasBits (bits n : Nat) : Prop :=
  ∃ significand exponent, significand < 2 ^ bits ∧ n = significand * 2 ^ exponent

/-- The distance between numbers of 53 significant bits next to a number. -/
def unitOf (n : Nat) : Nat := 2 ^ (n.log2 - 52)

/-- The nearest number of at most 53 significant bits; of two the one with an even significand. -/
def wholeNear (n : Nat) : Nat := roundEven n (unitOf n) * unitOf n

theorem unitOf_pos (n : Nat) : 0 < unitOf n := Nat.pow_pos (by decide)

/-- A number is a significand of at most 53 bits and a part of the next unit. -/
theorem unitOf_bounds {n : Nat} (large : 52 ≤ n.log2) :
    2 ^ 52 * unitOf n ≤ n ∧ n < 2 ^ 53 * unitOf n := by
  have some : n ≠ 0 := by
    rintro rfl
    exact absurd large (by decide)
  have low := Nat.log2_self_le some
  have high := Nat.lt_log2_self (n := n)
  have down : 52 + (n.log2 - 52) = n.log2 := by omega
  have up : 53 + (n.log2 - 52) = n.log2 + 1 := by omega
  rw [unitOf, ← Nat.pow_add, ← Nat.pow_add, down, up]
  exact ⟨low, high⟩

theorem unitOf_of_small {n : Nat} (small : n.log2 ≤ 52) : unitOf n = 1 := by
  rw [unitOf, Nat.sub_eq_zero_of_le small, Nat.pow_zero]

/-- The significand that is chosen fills the bits there are, or is the first one that does not fit. -/
theorem roundEven_bounds {n : Nat} (large : 52 ≤ n.log2) :
    2 ^ 52 ≤ roundEven n (unitOf n) ∧ roundEven n (unitOf n) ≤ 2 ^ 53 := by
  obtain ⟨low, high⟩ := unitOf_bounds large
  obtain ⟨above, below⟩ := roundEven_error n (unitOf_pos n)
  have pos := unitOf_pos n
  constructor
  · by_contra less
    have := Nat.mul_le_mul_right (unitOf n) (Nat.succ_le_of_lt (Nat.not_le.mp less))
    rw [Nat.succ_mul] at this
    omega
  · by_contra more
    have := Nat.mul_le_mul_right (unitOf n) (Nat.succ_le_of_lt (Nat.not_le.mp more))
    rw [Nat.succ_mul] at this
    omega

theorem wholeNear_of_small {n : Nat} (small : n.log2 ≤ 52) : wholeNear n = n := by
  have whole := roundEven_mul n Nat.one_pos
  rw [Nat.mul_one] at whole
  rw [wholeNear, unitOf_of_small small, whole, Nat.mul_one]

/-- The nearest number has at most 53 bits. -/
theorem hasBits_wholeNear (n : Nat) : HasBits 53 (wholeNear n) := by
  rcases Nat.lt_or_ge n.log2 52 with small | large
  · rw [wholeNear_of_small (Nat.le_of_lt small)]
    have bound : n < 2 ^ 53 := Nat.lt_trans Nat.lt_log2_self (Nat.pow_lt_pow_right (by decide)
      (Nat.succ_lt_succ small))
    exact ⟨n, 0, bound, (Nat.mul_one n).symm⟩
  · obtain ⟨-, high⟩ := roundEven_bounds large
    rcases Nat.lt_or_eq_of_le high with fits | full
    · exact ⟨_, _, fits, rfl⟩
    · refine ⟨2 ^ 52, n.log2 - 52 + 1, by decide, ?_⟩
      rw [wholeNear, full, unitOf, ← Nat.pow_add, ← Nat.pow_add]
      exact congrArg (2 ^ ·) (by omega)

/-- A number of at most 53 bits is a multiple of the unit, or it is below all numbers with this
    unit. -/
theorem multiple_or_lt {n m : Nat} (bits : HasBits 53 m) :
    (∃ k, m = k * unitOf n) ∨ m ≤ 2 ^ 52 * unitOf n := by
  obtain ⟨significand, exponent, fits, rfl⟩ := bits
  rcases Nat.lt_or_ge exponent (n.log2 - 52) with less | more
  · refine .inr ?_
    calc significand * 2 ^ exponent
        ≤ 2 ^ 53 * 2 ^ exponent := Nat.mul_le_mul_right _ (Nat.le_of_lt fits)
      _ = 2 ^ 52 * 2 ^ (exponent + 1) := by rw [Nat.pow_succ 2 exponent]; ring
      _ ≤ 2 ^ 52 * unitOf n := Nat.mul_le_mul_left _ (Nat.pow_le_pow_right (by decide) less)
  · refine .inl ⟨significand * 2 ^ (exponent - (n.log2 - 52)), ?_⟩
    rw [unitOf, Nat.mul_assoc, ← Nat.pow_add, Nat.sub_add_cancel more]

/-- **No number of at most 53 bits is nearer.** -/
theorem wholeNear_nearest (n : Nat) {m : Nat} (bits : HasBits 53 m) :
    ((wholeNear n : Int) - n).natAbs ≤ ((m : Int) - n).natAbs := by
  rcases Nat.lt_or_ge n.log2 52 with small | large
  · rw [wholeNear_of_small (Nat.le_of_lt small)]
    omega
  · rcases multiple_or_lt (n := n) bits with ⟨k, rfl⟩ | less
    · exact roundEven_nearest n (unitOf_pos n) k
    · have first := roundEven_nearest n (unitOf_pos n) (2 ^ 52)
      have low := (unitOf_bounds large).1
      unfold wholeNear
      omega

/-- **A number is its own nearest exactly if it has at most 53 bits.** -/
theorem wholeNear_eq_iff (n : Nat) : wholeNear n = n ↔ HasBits 53 n := by
  refine ⟨fun same => same ▸ hasBits_wholeNear n, fun bits => ?_⟩
  have nearest := wholeNear_nearest n bits
  omega

theorem wholeNear_pos {n : Nat} (pos : 0 < n) : 0 < wholeNear n := by
  rcases Nat.lt_or_ge n.log2 52 with small | large
  · rwa [wholeNear_of_small (Nat.le_of_lt small)]
  · exact Nat.mul_pos (Nat.lt_of_lt_of_le (by decide) (roundEven_bounds large).1) (unitOf_pos n)

/-- The nearest integer of at most 53 bits. -/
def nearInt (n : Int) : Int := n.sign * wholeNear n.natAbs

theorem natAbs_nearInt (n : Int) : (nearInt n).natAbs = wholeNear n.natAbs := by
  rw [nearInt, Int.natAbs_mul, Int.natAbs_natCast]
  rcases Int.lt_trichotomy n 0 with neg | rfl | pos
  · rw [Int.sign_eq_neg_one_of_neg neg, Int.natAbs_neg, Int.natAbs_one, Nat.one_mul]
  · rfl
  · rw [Int.sign_eq_one_of_pos pos, Int.natAbs_one, Nat.one_mul]

theorem nearInt_neg_iff (n : Int) : nearInt n < 0 ↔ n < 0 := by
  rcases Int.lt_trichotomy n 0 with neg | rfl | pos
  · have some := wholeNear_pos (Int.natAbs_pos.mpr (Int.ne_of_lt neg))
    rw [nearInt, Int.sign_eq_neg_one_of_neg neg]
    omega
  · exact Iff.rfl
  · rw [nearInt, Int.sign_eq_one_of_pos pos]
    omega

/-- **No integer of at most 53 bits is nearer.** -/
theorem nearInt_nearest (n : Int) {m : Int} (bits : HasBits 53 m.natAbs) :
    (nearInt n - n).natAbs ≤ (m - n).natAbs := by
  have nearest := wholeNear_nearest n.natAbs bits
  have size := natAbs_nearInt n
  have sign := nearInt_neg_iff n
  omega

/-- **An integer is its own nearest exactly if it has at most 53 bits.** -/
theorem nearInt_eq_iff (n : Int) : nearInt n = n ↔ HasBits 53 n.natAbs := by
  rw [← wholeNear_eq_iff]
  have size := natAbs_nearInt n
  have sign := nearInt_neg_iff n
  omega

theorem hasBits_of_lt {n : Nat} (small : n < 2 ^ 53) : HasBits 53 n :=
  ⟨n, 0, small, (Nat.mul_one n).symm⟩

/-! ## 3. Magnitudes of whole numbers -/

theorem scaleTwo_natCast (n d e : Nat) : scaleTwo n d (e : Int) = (n * 2 ^ e, d) := by
  rw [scaleTwo, if_neg (by omega), Int.natAbs_natCast, Nat.pow_eq]

theorem scaleTwo_neg (n d : Nat) {e : Nat} (pos : 0 < e) :
    scaleTwo n d (-(e : Int)) = (n, d * 2 ^ e) := by
  rw [scaleTwo, if_pos (by omega), Int.natAbs_neg, Int.natAbs_natCast, Nat.pow_eq]

/-- The magnitude is that of the whole number. -/
def Denotes (magnitude n : Nat) : Prop :=
  ∃ significand exponent, BinaryFormat.double.decode magnitude = .finite significand exponent ∧
    0 < (scaleTwo significand 1 exponent).2 ∧
    (scaleTwo significand 1 exponent).1 = n * (scaleTwo significand 1 exponent).2

/-- It is the magnitude of a number. -/
theorem isNaN_of_denotes {negative : Bool} {magnitude n : Nat} (h : Denotes magnitude n) :
    (⟨negative, magnitude⟩ : Double).isNaN = false := by
  obtain ⟨significand, exponent, decoded, -, -⟩ := h
  by_contra nan
  have above : BinaryFormat.double.infinity < magnitude :=
    of_decide_eq_true (Bool.not_eq_false _ ▸ nan)
  rw [BinaryFormat.decode, if_pos above] at decoded
  cases decoded

theorem denotes_of_natCast {magnitude s e : Nat}
    (decoded : BinaryFormat.double.decode magnitude = .finite s e) :
    Denotes magnitude (s * 2 ^ e) := by
  refine ⟨s, e, decoded, ?_, ?_⟩
  · rw [scaleTwo_natCast]
    exact Nat.one_pos
  · rw [scaleTwo_natCast, Nat.mul_one]

theorem denotes_of_neg {magnitude n e : Nat}
    (decoded : BinaryFormat.double.decode magnitude = .finite (n * 2 ^ e) (-(e : Int))) :
    Denotes magnitude n := by
  rcases Nat.eq_zero_or_pos e with rfl | some
  · have whole := denotes_of_natCast (e := 0) decoded
    rwa [Nat.pow_zero, Nat.mul_one, Nat.mul_one] at whole
  · refine ⟨_, _, decoded, ?_, ?_⟩
    · rw [scaleTwo_neg _ _ some, Nat.one_mul]
      exact Nat.two_pow_pos e
    · rw [scaleTwo_neg _ _ some, Nat.one_mul]

/-- A magnitude with a significand of full precision. -/
theorem decode_normal {e s : Nat} (low : 2 ^ 52 ≤ s) (high : s < 2 ^ 53) (finite : e < 2046) :
    BinaryFormat.double.decode (e * 2 ^ 52 + s) = .finite s (-1074 + e) := by
  have infinity : BinaryFormat.double.infinity = 2047 * 2 ^ 52 := by decide
  have hidden : BinaryFormat.double.hidden = 2 ^ 52 := by decide
  have least : BinaryFormat.double.least = -1074 := by decide
  have biased : (e * 2 ^ 52 + s) / 2 ^ 52 = e + 1 := by omega
  have fraction : (e * 2 ^ 52 + s) % 2 ^ 52 = s - 2 ^ 52 := by omega
  have whole : 2 ^ 52 + (s - 2 ^ 52) = s := by omega
  simp only [BinaryFormat.decode, infinity, hidden, least, biased, fraction, whole]
  rw [if_neg (by omega), if_neg (by omega), if_neg (by omega), Nat.add_sub_cancel]

/-- Where a whole number has its last bit. -/
theorem exponentOf_one {n : Nat} (pos : 0 < n) :
    BinaryFormat.double.exponentOf n 1 = (n.log2 : Int) - 52 := by
  have least : BinaryFormat.double.least = -1074 := by decide
  have bits : BinaryFormat.double.fractionBits = 52 := rfl
  have low := Nat.log2_self_le (Nat.pos_iff_ne_zero.mp pos)
  have one : Nat.log2 1 = 0 := by decide
  have under : (scaleTwo n 1 (-(n.log2 : Int))).2 ≤ (scaleTwo n 1 (-(n.log2 : Int))).1 := by
    rcases Nat.eq_zero_or_pos n.log2 with zero | some
    · rw [zero]
      exact Nat.le_trans pos (Nat.le_of_eq (Nat.mul_one n).symm)
    · rw [scaleTwo_neg n 1 some, Nat.one_mul]
      exact low
  simp only [BinaryFormat.exponentOf, one, Int.natCast_zero, Int.sub_zero, if_pos under, least, bits]
  omega

/-- The magnitude of a whole number in terms of the significand that is chosen for it. -/
theorem nearest_one {n s : Nat} (pos : 0 < n) (small : n.log2 < 1023) (fits : s ≤ 2 ^ 53)
    (chosen : roundEven (scaleTwo n 1 (52 - (n.log2 : Int))).1 (scaleTwo n 1 (52 - (n.log2 : Int))).2 =
      s) :
    BinaryFormat.double.nearest n 1 = (n.log2 + 1022) * 2 ^ 52 + s := by
  have infinity : BinaryFormat.double.infinity = 2047 * 2 ^ 52 := by decide
  have hidden : BinaryFormat.double.hidden = 2 ^ 52 := by decide
  have least : BinaryFormat.double.least = -1074 := by decide
  have turned : -((n.log2 : Int) - 52) = 52 - n.log2 := by omega
  have places : ((n.log2 : Int) - 52 - -1074).toNat = n.log2 + 1022 := by omega
  simp only [BinaryFormat.nearest, if_neg (Nat.pos_iff_ne_zero.mp pos), exponentOf_one pos, turned,
    chosen, infinity, hidden, least, places]
  omega

/-- The number is shifted to full precision. -/
theorem denotes_shifted {n : Nat} (pos : 0 < n) (few : n.log2 < 52) :
    Denotes (BinaryFormat.double.nearest n 1) n := by
  obtain ⟨e, places⟩ : ∃ e, n.log2 + e = 52 := ⟨52 - n.log2, by omega⟩
  have shift : (52 : Int) - n.log2 = (e : Int) := by omega
  have back : -1074 + ((n.log2 + 1022 : Nat) : Int) = -(e : Int) := by omega
  have low : 2 ^ 52 ≤ n * 2 ^ e := by
    have := Nat.mul_le_mul_right (2 ^ e) (Nat.log2_self_le (Nat.pos_iff_ne_zero.mp pos))
    rwa [← Nat.pow_add, places] at this
  have high : n * 2 ^ e < 2 ^ 53 := by
    have := Nat.mul_lt_mul_of_pos_right (Nat.lt_log2_self (n := n)) (Nat.two_pow_pos e)
    rwa [← Nat.pow_add, Nat.add_right_comm, places] at this
  have whole : roundEven (n * 2 ^ e) 1 = n * 2 ^ e := by
    have := roundEven_mul (n * 2 ^ e) Nat.one_pos
    rwa [Nat.mul_one] at this
  refine denotes_of_neg (e := e) ?_
  rw [nearest_one (s := n * 2 ^ e) pos (by omega) (Nat.le_of_lt high)
    (by rw [shift, scaleTwo_natCast, whole]), decode_normal low high (by omega), back]

/-- The number is cut to full precision, and may get one more bit when it is rounded up. -/
theorem denotes_rounded {n : Nat} (many : 52 ≤ n.log2) (small : n.log2 < 1023) :
    Denotes (BinaryFormat.double.nearest n 1) (wholeNear n) := by
  have pos : 0 < n := by
    rcases Nat.eq_zero_or_pos n with rfl | pos
    · exact absurd many (by decide)
    · exact pos
  obtain ⟨e, places⟩ : ∃ e, n.log2 = 52 + e := ⟨n.log2 - 52, by omega⟩
  have shift : (52 : Int) - n.log2 = -(e : Int) := by omega
  have unit : unitOf n = 2 ^ e := by rw [unitOf, places, Nat.add_sub_cancel_left]
  obtain ⟨low, high⟩ := roundEven_bounds many
  have chosen := nearest_one (s := roundEven n (unitOf n)) pos small high (by
    rw [shift, unit]
    rcases Nat.eq_zero_or_pos e with rfl | some
    · rw [Int.natCast_zero, Int.neg_zero, ← Int.natCast_zero, scaleTwo_natCast, Nat.pow_zero,
        Nat.mul_one]
    · rw [scaleTwo_neg _ _ some, Nat.one_mul])
  rcases Nat.lt_or_eq_of_le high with fits | full
  · have back : -1074 + ((n.log2 + 1022 : Nat) : Int) = (e : Int) := by omega
    have decoded : BinaryFormat.double.decode (BinaryFormat.double.nearest n 1) =
        .finite (roundEven n (unitOf n)) e := by
      rw [chosen, decode_normal low fits (by omega), back]
    rw [wholeNear, unit] at *
    exact denotes_of_natCast decoded
  · have back : -1074 + ((n.log2 + 1023 : Nat) : Int) = ((e + 1 : Nat) : Int) := by omega
    have carried : (n.log2 + 1022) * 2 ^ 52 + 2 ^ 53 = (n.log2 + 1023) * 2 ^ 52 + 2 ^ 52 := by
      omega
    have decoded : BinaryFormat.double.decode (BinaryFormat.double.nearest n 1) =
        .finite (2 ^ 52) (e + 1 : Nat) := by
      rw [chosen, full, carried, decode_normal (Nat.le_refl _) (by decide) (by omega), back]
    have grown : 2 ^ 52 * 2 ^ (e + 1) = wholeNear n := by
      rw [wholeNear, full, unit, ← Nat.pow_add, ← Nat.pow_add]
      exact congrArg (2 ^ ·) (by omega)
    exact grown ▸ denotes_of_natCast decoded

/-- **The magnitude nearest to a whole number is that of the nearest number of 53 bits.** -/
theorem denotes_nearest {n : Nat} (small : n.log2 < 1023) :
    Denotes (BinaryFormat.double.nearest n 1) (wholeNear n) := by
  rcases Nat.eq_zero_or_pos n with rfl | pos
  · rw [wholeNear_of_small (by decide)]
    exact denotes_of_neg (e := 1074) (by rw [Nat.zero_mul]; decide)
  rcases Nat.lt_or_ge n.log2 52 with few | many
  · rw [wholeNear_of_small (Nat.le_of_lt few)]
    exact denotes_shifted pos few
  · exact denotes_rounded many small

/-! ## 4. Their digits -/

/-- **The digits of a magnitude that is a whole number**, and then zeros. -/
theorem fixedText_of_denotes {magnitude n p : Nat} (h : Denotes magnitude n) (pos : 0 < p) :
    BinaryFormat.double.fixedText magnitude p = digits n ++ '.' :: List.replicate p '0' := by
  obtain ⟨significand, exponent, decoded, unit, value⟩ := h
  have whole : n * (scaleTwo significand 1 exponent).2 * 10 ^ p =
      n * 10 ^ p * (scaleTwo significand 1 exponent).2 := Nat.mul_right_comm _ _ _
  simp only [BinaryFormat.fixedText, decoded, fixedDigits, value, Nat.pow_eq, whole,
    roundEven_mul _ unit, leftpad_digits, pointed_append pos]

end Assay.Number
