/-
Module: StaticSite.Proofs.FileTime
Purpose: What is left of the order of times when they are compared as floating-point numbers of
  seconds: a later time never counts as an earlier one, and it counts as later if it is later by a
  microsecond.
Trusted boundary: none
Main exports:
  Binary64.roundDiv_mono, Binary64.roundDiv_error, Binary64.roundWhole_mono,
  Binary64.roundWhole_error, FileTime.seconds_mono, FileTime.seconds_lt_of_microsecond
-/
import Mathlib.Algebra.Order.Ring.Int
import Mathlib.Tactic.Linarith
import StaticSite.FileTime

namespace StaticSite

namespace Binary64

variable {a b d k n : Nat} {x y : Int}

/-! ### Rounding a fraction -/

theorem div_le_roundDiv (n d : Nat) : n / d ≤ roundDiv n d := by
  rw [roundDiv]
  split
  · exact Nat.le_refl _
  · split
    · exact Nat.le_succ _
    · exact Nat.le_add_right _ _

theorem roundDiv_le_succ (n d : Nat) : roundDiv n d ≤ n / d + 1 := by
  rw [roundDiv]
  split
  · exact Nat.le_succ _
  · split
    · exact Nat.le_refl _
    · have parity := Nat.mod_lt (n / d) (Nat.zero_lt_two)
      omega

theorem roundDiv_mono (order : a ≤ b) : roundDiv a d ≤ roundDiv b d := by
  rcases Nat.eq_or_lt_of_le (Nat.div_le_div_right (c := d) order) with same | less
  -- With the same quotient, the remainders decide.
  · have wholeA := Nat.div_add_mod a d
    have wholeB := Nat.div_add_mod b d
    rw [same] at wholeA
    have parity := Nat.mod_lt (b / d) (Nat.zero_lt_two)
    simp only [roundDiv, same]
    split_ifs <;> omega
  · calc roundDiv a d ≤ a / d + 1 := roundDiv_le_succ a d
      _ ≤ b / d := less
      _ ≤ roundDiv b d := div_le_roundDiv b d

/-- Of the two whole numbers around a fraction, neither is taken if the other one is nearer. -/
theorem roundDiv_cases (n d : Nat) :
    roundDiv n d = n / d ∧ 2 * (n % d) ≤ d ∨ roundDiv n d = n / d + 1 ∧ d ≤ 2 * (n % d) := by
  have parity := Nat.mod_two_eq_zero_or_one (n / d)
  rw [roundDiv]
  split
  case isTrue below => exact .inl ⟨rfl, below.le⟩
  case isFalse notBelow =>
    split
    case isTrue above => exact .inr ⟨rfl, above.le⟩
    case isFalse notAbove =>
      rcases parity with even | odd
      · exact .inl ⟨by rw [even, Nat.add_zero], Nat.le_of_not_lt notAbove⟩
      · exact .inr ⟨by rw [odd], Nat.le_of_not_lt notBelow⟩

/-- A rounded quotient is at most half a unit off. -/
theorem roundDiv_error (n : Nat) (positive : 0 < d) :
    2 * n ≤ 2 * (roundDiv n d * d) + d ∧ 2 * (roundDiv n d * d) ≤ 2 * n + d := by
  have whole : n / d * d + n % d = n := by
    rw [Nat.mul_comm]
    exact Nat.div_add_mod n d
  have rest := Nat.mod_lt n positive
  rcases roundDiv_cases n d with ⟨down, near⟩ | ⟨up, near⟩
  · rw [down]
    omega
  · have next : (n / d + 1) * d = n / d * d + d := Nat.succ_mul _ _
    rw [up, next]
    omega

/-! ### Rounding a whole number -/

/-- The number of zeros behind the 53 binary digits. -/
def zeros (n : Nat) : Nat :=
  Nat.log2 n - 52

theorem roundNat_eq (n : Nat) : roundNat n = roundDiv n (2 ^ zeros n) * 2 ^ zeros n := by
  rw [← Nat.one_shiftLeft]
  rfl

theorem zeros_mono (order : a ≤ b) : zeros a ≤ zeros b := by
  rcases Nat.eq_zero_or_pos a with rfl | positive
  · exact Nat.zero_le _
  · have power := (Nat.log2_self_le positive.ne').trans order
    exact Nat.sub_le_sub_right ((Nat.le_log2 (positive.trans_le order).ne').mpr power) 52

theorem zeros_le (less : n < 2 ^ (53 + k)) : zeros n ≤ k := by
  rcases Nat.eq_zero_or_pos n with rfl | positive
  · exact Nat.zero_le _
  · have bound := (Nat.log2_lt positive.ne').mpr less
    rw [zeros]
    omega

theorem lt_of_zeros (n : Nat) : n < 2 ^ (53 + zeros n) := by
  apply Nat.lt_log2_self.trans_le
  apply Nat.pow_le_pow_right Nat.zero_lt_two
  rw [zeros]
  omega

theorem le_of_zeros (some : 0 < zeros n) : 2 ^ (52 + zeros n) ≤ n := by
  have positive : n ≠ 0 := by
    rintro rfl
    exact absurd some (by decide)
  have exponent : 52 + zeros n = Nat.log2 n := by
    rw [zeros] at some ⊢
    omega
  rw [exponent]
  exact Nat.log2_self_le positive

theorem roundNat_le (n : Nat) : roundNat n ≤ 2 ^ (53 + zeros n) := by
  have quotient : n / 2 ^ zeros n < 2 ^ 53 := by
    rw [Nat.div_lt_iff_lt_mul (Nat.two_pow_pos _), ← Nat.pow_add]
    exact lt_of_zeros n
  rw [roundNat_eq, Nat.pow_add]
  exact Nat.mul_le_mul_right _ ((roundDiv_le_succ _ _).trans quotient)

theorem le_roundNat (some : 0 < zeros n) : 2 ^ (52 + zeros n) ≤ roundNat n := by
  have quotient : 2 ^ 52 ≤ n / 2 ^ zeros n := by
    rw [Nat.le_div_iff_mul_le (Nat.two_pow_pos _), ← Nat.pow_add]
    exact le_of_zeros some
  rw [roundNat_eq, Nat.pow_add]
  exact Nat.mul_le_mul_right _ (quotient.trans (div_le_roundDiv _ _))

theorem roundNat_mono (order : a ≤ b) : roundNat a ≤ roundNat b := by
  rcases Nat.eq_or_lt_of_le (zeros_mono order) with same | fewer
  · rw [roundNat_eq, roundNat_eq, same]
    exact Nat.mul_le_mul_right _ (roundDiv_mono order)
  -- The power of two between them is not passed by rounding.
  · calc roundNat a ≤ 2 ^ (53 + zeros a) := roundNat_le a
      _ ≤ 2 ^ (52 + zeros b) := Nat.pow_le_pow_right Nat.zero_lt_two (by omega)
      _ ≤ roundNat b := le_roundNat (Nat.zero_lt_of_lt fewer)

/-- A number of at most `53 + k` binary digits is rounded by at most half of `2 ^ k`. -/
theorem roundNat_error (less : n < 2 ^ (53 + k)) :
    2 * n ≤ 2 * roundNat n + 2 ^ k ∧ 2 * roundNat n ≤ 2 * n + 2 ^ k := by
  have error := roundDiv_error n (Nat.two_pow_pos (zeros n))
  have step := Nat.pow_le_pow_right Nat.zero_lt_two (zeros_le less)
  rw [roundNat_eq]
  omega

/-! ### Signs -/

theorem roundWhole_natCast (n : Nat) : roundWhole n = roundNat n :=
  rfl

theorem roundWhole_neg (x : Int) : roundWhole (-x) = -roundWhole x := by
  rcases x with (_ | n) | n
  · rfl
  · rfl
  · exact (Int.neg_neg _).symm

theorem roundWhole_nonneg (positive : 0 ≤ x) : 0 ≤ roundWhole x := by
  obtain ⟨n, rfl⟩ := Int.eq_ofNat_of_zero_le positive
  exact Int.natCast_nonneg _

theorem roundWhole_mono (order : x ≤ y) : roundWhole x ≤ roundWhole y := by
  rcases le_total 0 x with xPositive | xNegative
  · obtain ⟨a, rfl⟩ := Int.eq_ofNat_of_zero_le xPositive
    obtain ⟨b, rfl⟩ := Int.eq_ofNat_of_zero_le (xPositive.trans order)
    exact Int.ofNat_le.mpr (roundNat_mono (Int.ofNat_le.mp order))
  · obtain ⟨a, isA⟩ := Int.eq_ofNat_of_zero_le (Int.neg_nonneg_of_nonpos xNegative)
    obtain rfl : x = -a := by omega
    rw [roundWhole_neg]
    rcases le_total 0 y with yPositive | yNegative
    · exact (Int.neg_nonpos_of_nonneg (Int.natCast_nonneg _)).trans (roundWhole_nonneg yPositive)
    · obtain ⟨b, isB⟩ := Int.eq_ofNat_of_zero_le (Int.neg_nonneg_of_nonpos yNegative)
      obtain rfl : y = -b := by omega
      rw [roundWhole_neg]
      apply Int.neg_le_neg
      exact Int.ofNat_le.mpr (roundNat_mono (by omega))

theorem roundWhole_error (positive : 0 ≤ x) (less : x < 2 ^ (53 + k)) :
    2 * x ≤ 2 * roundWhole x + 2 ^ k ∧ 2 * roundWhole x ≤ 2 * x + 2 ^ k := by
  obtain ⟨n, rfl⟩ := Int.eq_ofNat_of_zero_le positive
  have error := roundNat_error (by exact_mod_cast less : n < 2 ^ (53 + k))
  rw [roundWhole_natCast]
  exact_mod_cast error

end Binary64

namespace FileTime

open Binary64

variable {time later : Int}

/-- What is left of the nanoseconds, in the unit of `seconds`. -/
def fraction (time : Int) : Int :=
  roundWhole (nanosecond * (time % perSecond))

theorem seconds_eq (time : Int) :
    seconds time = roundWhole (time / perSecond * second + fraction time) :=
  rfl

theorem rest_bounds (time : Int) : 0 ≤ time % perSecond ∧ time % perSecond < perSecond :=
  ⟨Int.emod_nonneg time (by decide), Int.emod_lt_of_pos time (by decide)⟩

theorem fraction_nonneg (time : Int) : 0 ≤ fraction time :=
  roundWhole_nonneg (Int.mul_nonneg (by decide) (rest_bounds time).1)

theorem fraction_le_second (time : Int) : fraction time ≤ second := by
  have most : nanosecond * (time % perSecond) ≤ second := by
    have bounds := rest_bounds time
    simp only [nanosecond, second, perSecond] at bounds ⊢
    omega
  calc fraction time ≤ roundWhole second := roundWhole_mono most
    _ = second := by decide +kernel

/-- A later time does not count as an earlier one. -/
theorem seconds_mono (order : time ≤ later) : seconds time ≤ seconds later := by
  rw [seconds_eq, seconds_eq]
  apply roundWhole_mono
  rcases eq_or_lt_of_le (Int.ediv_le_ediv (by decide : 0 < perSecond) order) with same | before
  · rw [same]
    apply Int.add_le_add_left
    apply roundWhole_mono
    have wholeTime := Int.mul_ediv_add_emod time perSecond
    have wholeLater := Int.mul_ediv_add_emod later perSecond
    rw [same] at wholeTime
    exact Int.mul_le_mul_of_nonneg_left (by omega) (by decide)
  · have few := fraction_le_second time
    have some := fraction_nonneg later
    have next : (time / perSecond + 1) * second ≤ later / perSecond * second :=
      Int.mul_le_mul_of_nonneg_right before (by decide)
    rw [Int.add_mul, Int.one_mul] at next
    omega

theorem fraction_error (time : Int) :
    2 * (nanosecond * (time % perSecond)) ≤ 2 * fraction time + 2 ^ 30 ∧
      2 * fraction time ≤ 2 * (nanosecond * (time % perSecond)) + 2 ^ 30 := by
  obtain ⟨positive, bounded⟩ := rest_bounds time
  apply roundWhole_error (Int.mul_nonneg (by decide) positive)
  simp only [nanosecond, perSecond] at bounded ⊢
  omega

/-- From 1970 up to the year 2242 no time is off by half a microsecond. -/
theorem seconds_error (positive : 0 ≤ time) (bounded : time < 2 ^ 33 * perSecond) :
    2 * (time * second) ≤ 2 * (perSecond * seconds time) + perSecond * (2 ^ 62 + 2 ^ 32) ∧
      2 * (perSecond * seconds time) ≤ 2 * (time * second) + perSecond * (2 ^ 62 + 2 ^ 32) := by
  have whole := Int.mul_ediv_add_emod time perSecond
  have rest := rest_bounds time
  have nanoseconds := fraction_error time
  have some := fraction_nonneg time
  have few := fraction_le_second time
  have rounded : 2 * (time / perSecond * second + fraction time) ≤ 2 * seconds time + 2 ^ 62 ∧
      2 * seconds time ≤ 2 * (time / perSecond * second + fraction time) + 2 ^ 62 := by
    rw [seconds_eq]
    apply roundWhole_error
    · simp only [second, perSecond] at *
      omega
    · simp only [second, perSecond, nanosecond] at *
      omega
  simp only [second, perSecond, nanosecond] at *
  omega

/-- A time that is later by a microsecond counts as later. -/
theorem seconds_lt_of_microsecond (positive : 0 ≤ time) (order : time + 1000 ≤ later)
    (bounded : later < 2 ^ 33 * perSecond) : seconds time < seconds later := by
  have first := (seconds_error positive (by omega)).2
  have second := (seconds_error (by omega) bounded).1
  simp only [FileTime.second, perSecond] at *
  omega

end FileTime

end StaticSite
