import IndexExplorer.Number.Binary64
import Mathlib

/-!
Rounding to doubles, on exact rational values.

The rationals that round to a double lie between the midpoints to its two neighbours, the midpoints
themselves going to an even significand.

* `Binary.value`, `Binary.bits`, `Binary.Sound`: the value of the size of a double, and its bits;
* `Binary.Takes`: the rationals that round to it;
* `nearestBits_eq`: a ratio among them is rounded to its bits;
* `ofDecimal_eq`: so is a decimal, whatever the cut-offs of its exponent.
-/
namespace IndexExplorer.Number

/-! ## Sizes of doubles -/

namespace Binary

/-- The value of a size. -/
def value (b : Binary) : ℚ := b.significand * 2 ^ b.exponent

/-- The 63 low bits of a size. -/
def bits (b : Binary) : Nat := (b.exponent - minExponent).toNat * leadingBit + b.significand

/-- A size that a finite double has: only at the least exponent the leading bit may be missing. -/
structure Sound (b : Binary) : Prop where
  small : b.significand < 2 * leadingBit
  least : minExponent ≤ b.exponent
  leading : minExponent < b.exponent → leadingBit ≤ b.significand
  finite : b.bits < infinityBits

theorem sound_of_ofBits? {n : Nat} {b : Binary} (h : ofBits? n = some b) : b.Sound ∧ b.bits = n := by
  simp only [ofBits?] at h
  split at h
  · rename_i finite
    have parts := Nat.div_add_mod n leadingBit
    have fraction := Nat.mod_lt n (show 0 < leadingBit by decide)
    have bits : b.bits = n := by
      split at h <;> obtain rfl := Option.some.inj h <;>
        simp only [Binary.bits, leadingBit, minExponent] at * <;> omega
    refine ⟨⟨?_, ?_, ?_, bits ▸ finite⟩, bits⟩ <;> split at h <;> obtain rfl := Option.some.inj h <;>
      simp only [leadingBit, minExponent] at * <;> omega
  · cases h

theorem Sound.exponent_le {b : Binary} (sound : b.Sound) : b.exponent ≤ 971 := by
  obtain ⟨-, -, leading, finite⟩ := sound
  simp only [bits, minExponent, infinityBits, leadingBit] at leading finite
  omega

theorem Sound.succ_le {b : Binary} (sound : b.Sound) : (b.significand : ℚ) + 1 ≤ 2 ^ 53 := by
  have small := sound.small
  simp only [leadingBit] at small
  exact_mod_cast (by omega : b.significand + 1 ≤ 2 ^ 53)

/-- Where the rationals begin that round to a size. -/
def low (b : Binary) : ℚ :=
  if b.significand = leadingBit ∧ minExponent < b.exponent then
    (4 * b.significand - 1) * 2 ^ (b.exponent - 2)
  else (2 * b.significand - 1) * 2 ^ (b.exponent - 1)

/-- Where they end. -/
def high (b : Binary) : ℚ := (2 * b.significand + 1) * 2 ^ (b.exponent - 1)

/-- A rational rounds to a size. -/
def Takes (b : Binary) (v : ℚ) : Prop :=
  b.low < v ∧ v < b.high ∨ b.significand % 2 = 0 ∧ b.low ≤ v ∧ v ≤ b.high

variable {b : Binary} {v : ℚ}

theorem Takes.bounds (takes : b.Takes v) : b.low ≤ v ∧ v ≤ b.high := by
  rcases takes with ⟨above, below⟩ | ⟨-, above, below⟩
  · exact ⟨above.le, below.le⟩
  · exact ⟨above, below⟩

theorem two_zpow_sub (e : ℤ) (k : ℕ) : (2 : ℚ) ^ (e - k) = 2 ^ e / 2 ^ k := by
  rw [zpow_sub₀ two_ne_zero, zpow_natCast]

/-- The lower end, in units of the last place. -/
theorem low_eq (b : Binary) : b.low =
    (if b.significand = leadingBit ∧ minExponent < b.exponent then b.significand - 1 / 4
      else b.significand - 1 / 2 : ℚ) * 2 ^ b.exponent := by
  have quarter := two_zpow_sub b.exponent 2
  have half := two_zpow_sub b.exponent 1
  push_cast at quarter half
  unfold low
  split
  · rw [quarter]
    ring
  · rw [half]
    ring

theorem high_eq (b : Binary) : b.high = (b.significand + 1 / 2 : ℚ) * 2 ^ b.exponent := by
  have half := two_zpow_sub b.exponent 1
  push_cast at half
  rw [high, half]
  ring

theorem half_le_low (b : Binary) : (b.significand - 1 / 2 : ℚ) * 2 ^ b.exponent ≤ b.low := by
  rw [low_eq]
  gcongr
  split <;> linarith

end Binary

/-! ## Integers -/

theorem divNearestEven_of_bounds {a d m : Nat} (pos : 0 < d)
    (near : 2 * (d * m) < 2 * a + d ∧ 2 * a < 2 * (d * m) + d ∨
      m % 2 = 0 ∧ 2 * (d * m) ≤ 2 * a + d ∧ 2 * a ≤ 2 * (d * m) + d) :
    divNearestEven a d = m := by
  have parts := Nat.div_add_mod a d
  have rest := Nat.mod_lt a pos
  have either : m = a / d ∨ m = a / d + 1 := by
    by_contra other
    rcases Nat.lt_or_ge m (a / d) with less | more
    · have product := Nat.mul_le_mul_left d less
      rw [Nat.mul_succ] at product
      omega
    · have product := Nat.mul_le_mul_left d (show a / d + 2 ≤ m by omega)
      rw [Nat.mul_add] at product
      omega
  unfold divNearestEven
  dsimp only
  generalize a / d = q at *
  generalize a % d = r at *
  rcases either with rfl | rfl
  · split
    · rfl
    · split
      · omega
      · split <;> omega
  · rw [Nat.mul_succ] at near
    split
    · omega
    · split
      · rfl
      · split <;> omega

/-- An integer that a ratio is nearest to, or that is even where two are. -/
theorem divNearestEven_eq {a d m : Nat} (pos : 0 < d)
    (near : (m - 1 / 2 : ℚ) < a / d ∧ (a / d : ℚ) < m + 1 / 2 ∨
      m % 2 = 0 ∧ (m - 1 / 2 : ℚ) ≤ a / d ∧ (a / d : ℚ) ≤ m + 1 / 2) :
    divNearestEven a d = m := by
  have positive : (0 : ℚ) < d := by exact_mod_cast pos
  refine divNearestEven_of_bounds pos
    (near.imp (fun ⟨above, below⟩ => ?_) (fun ⟨even, above, below⟩ => ⟨even, ?_⟩))
  · rw [lt_div_iff₀ positive] at above
    rw [div_lt_iff₀ positive] at below
    constructor
    · exact_mod_cast (by linarith : (2 * (d * m) : ℚ) < 2 * a + d)
    · exact_mod_cast (by linarith : (2 * a : ℚ) < 2 * (d * m) + d)
  · rw [le_div_iff₀ positive] at above
    rw [div_le_iff₀ positive] at below
    constructor
    · exact_mod_cast (by linarith : (2 * (d * m) : ℚ) ≤ 2 * a + d)
    · exact_mod_cast (by linarith : (2 * a : ℚ) ≤ 2 * (d * m) + d)

/-- A ratio in units of a power of two. -/
theorem scaled_eq {n d a c : Nat} {e : Int} (pos : 0 < d) (h : scaled n d e = (a, c)) :
    0 < c ∧ (a / c : ℚ) = n / d / 2 ^ e := by
  have positive : (d : ℚ) ≠ 0 := by exact_mod_cast pos.ne'
  unfold scaled at h
  split at h
  · rename_i nonneg
    obtain ⟨rfl, rfl⟩ := Prod.mk.inj h
    obtain ⟨k, rfl⟩ := Int.eq_ofNat_of_zero_le nonneg
    refine ⟨Nat.mul_pos pos (Nat.pow_pos (by decide)), ?_⟩
    simp only [Int.toNat_natCast, Nat.pow_eq, zpow_natCast]
    push_cast
    field_simp
  · rename_i negative
    obtain ⟨rfl, rfl⟩ := Prod.mk.inj h
    obtain ⟨k, rfl⟩ : ∃ k : Nat, e = -k := ⟨(-e).toNat, by omega⟩
    refine ⟨pos, ?_⟩
    simp only [neg_neg, Int.toNat_natCast, Nat.pow_eq, zpow_neg, zpow_natCast]
    push_cast
    field_simp

theorem two_zpow_log2_le {n : Nat} (some : n ≠ 0) :
    (2 : ℚ) ^ (n.log2 : ℤ) ≤ n ∧ (n : ℚ) < 2 ^ ((n.log2 : ℤ) + 1) := by
  constructor
  · rw [zpow_natCast]
    exact_mod_cast Nat.log2_self_le some
  · have above := Nat.lt_log2_self (n := n)
    have cast : ((n.log2 : ℤ) + 1) = ((n.log2 + 1 : ℕ) : ℤ) := by push_cast; rfl
    rw [cast, zpow_natCast]
    exact_mod_cast above

/-- The exponent of the leading bit of a ratio, as it is found. -/
def leadOf (n d : Nat) : Int :=
  let guess : Int := (n.log2 : Int) - (d.log2 : Int)
  let (a, b) := scaled n d guess
  if a < b then guess - 1 else guess

theorem leadOf_spec {n d : Nat} (some : n ≠ 0) (pos : 0 < d) :
    (2 : ℚ) ^ leadOf n d ≤ n / d ∧ (n / d : ℚ) < 2 ^ (leadOf n d + 1) := by
  have positive : (0 : ℚ) < d := by exact_mod_cast pos
  obtain ⟨n_above, n_below⟩ := two_zpow_log2_le some
  obtain ⟨d_above, d_below⟩ := two_zpow_log2_le pos.ne'
  unfold leadOf
  dsimp only
  generalize taken : scaled n d ((n.log2 : Int) - (d.log2 : Int)) = cut
  obtain ⟨a, c⟩ := cut
  obtain ⟨cpos, ratio⟩ := scaled_eq pos taken
  have cpositive : (0 : ℚ) < c := by exact_mod_cast cpos
  have power : (0 : ℚ) < 2 ^ ((n.log2 : ℤ) - d.log2) := by positivity
  have lower : (2 : ℚ) ^ ((n.log2 : ℤ) - d.log2 - 1) ≤ n / d := by
    calc (2 : ℚ) ^ ((n.log2 : ℤ) - d.log2 - 1)
        = 2 ^ (n.log2 : ℤ) / 2 ^ ((d.log2 : ℤ) + 1) := by
          rw [← zpow_sub₀ two_ne_zero, sub_sub]
      _ ≤ n / d := by gcongr
  have upper : (n / d : ℚ) < 2 ^ ((n.log2 : ℤ) - d.log2 + 1) := by
    calc (n / d : ℚ)
        < 2 ^ ((n.log2 : ℤ) + 1) / 2 ^ (d.log2 : ℤ) :=
          div_lt_div₀ n_below d_above (by positivity) (by positivity)
      _ = 2 ^ ((n.log2 : ℤ) - d.log2 + 1) := by
          rw [← zpow_sub₀ two_ne_zero]
          ring_nf
  dsimp only
  split
  · rename_i less
    refine ⟨lower, ?_⟩
    have small : (a / c : ℚ) < 1 := by
      rw [div_lt_one cpositive]
      exact_mod_cast less
    rw [ratio, div_lt_one power] at small
    rwa [sub_add_cancel]
  · rename_i more
    refine ⟨?_, upper⟩
    have big : (1 : ℚ) ≤ a / c := by
      rw [one_le_div cpositive]
      exact_mod_cast Nat.le_of_not_lt more
    rwa [ratio, one_le_div power] at big

theorem nearestBits_of_ne {n d : Nat} (some : n ≠ 0) :
    nearestBits n d =
      let exponent := max (leadOf n d - 52) minExponent
      let (a, c) := scaled n d exponent
      min ((exponent - minExponent).toNat * leadingBit + divNearestEven a c) infinityBits := by
  rw [nearestBits, if_neg some]
  rfl

variable {b : Binary} {v : ℚ}

/-- In units of the last place. -/
theorem Binary.Takes.scaled (takes : b.Takes v) :
    (b.significand - 1 / 2 : ℚ) < v / 2 ^ b.exponent ∧ v / 2 ^ b.exponent < b.significand + 1 / 2 ∨
      b.significand % 2 = 0 ∧ (b.significand - 1 / 2 : ℚ) ≤ v / 2 ^ b.exponent ∧
        v / 2 ^ b.exponent ≤ b.significand + 1 / 2 := by
  have unit : (0 : ℚ) < 2 ^ b.exponent := by positivity
  have lower := b.half_le_low
  have upper := b.high_eq
  refine takes.imp (fun ⟨above, below⟩ => ?_) (fun ⟨even, above, below⟩ => ⟨even, ?_⟩)
  · rw [lt_div_iff₀ unit, div_lt_iff₀ unit, ← upper]
    exact ⟨lower.trans_lt above, below⟩
  · rw [le_div_iff₀ unit, div_le_iff₀ unit, ← upper]
    exact ⟨lower.trans above, below⟩

theorem two_zpow_mul_le {k : Nat} {e l : Int} (h : k + e ≤ l) : (2 : ℚ) ^ k * 2 ^ e ≤ 2 ^ l := by
  rw [← zpow_natCast, ← zpow_add₀ two_ne_zero]
  exact zpow_le_zpow_right₀ one_le_two h

theorem two_zpow_le_mul {k : Nat} {e l : Int} (h : l ≤ k + e) : (2 : ℚ) ^ l ≤ 2 ^ k * 2 ^ e := by
  rw [← zpow_natCast, ← zpow_add₀ two_ne_zero]
  exact zpow_le_zpow_right₀ one_le_two h

/-- Rationals that round to a size have the exponent of that size, or the one below it in front of
a power of two. -/
theorem exponent_of_takes {n d : Nat} (sound : b.Sound) (some : n ≠ 0) (pos : 0 < d)
    (takes : b.Takes (n / d)) :
    max (leadOf n d - 52) minExponent = b.exponent ∨
      max (leadOf n d - 52) minExponent = b.exponent - 1 ∧ minExponent < b.exponent ∧
        b.significand = leadingBit ∧ (n / d : ℚ) < 2 ^ 52 * 2 ^ b.exponent := by
  obtain ⟨above, below⟩ := leadOf_spec some pos
  obtain ⟨low, high⟩ := takes.bounds
  have least := sound.least
  have unit : (0 : ℚ) < 2 ^ b.exponent := by positivity
  have small := sound.succ_le
  have not_above : leadOf n d - 52 ≤ b.exponent := by
    by_contra more
    have far : (2 : ℚ) ^ 53 * 2 ^ b.exponent ≤ n / d :=
      (two_zpow_mul_le (show (53 : Nat) + b.exponent ≤ leadOf n d by omega)).trans above
    rw [Binary.high_eq] at high
    nlinarith
  by_cases bottom : b.exponent = minExponent
  · left
    omega
  · have higher : minExponent < b.exponent := by omega
    have leading : (2 : ℚ) ^ 52 ≤ b.significand := by
      exact_mod_cast sound.leading higher
    have not_below : b.exponent - 1 ≤ leadOf n d - 52 := by
      by_contra less
      have near : (n / d : ℚ) < 2 ^ 51 * 2 ^ b.exponent :=
        below.trans_le (two_zpow_le_mul (show leadOf n d + 1 ≤ (51 : Nat) + b.exponent by omega))
      have start := b.half_le_low
      nlinarith
    rcases lt_or_ge (leadOf n d - 52) b.exponent with less | same
    · right
      have near : (n / d : ℚ) < 2 ^ 52 * 2 ^ b.exponent :=
        below.trans_le (two_zpow_le_mul (show leadOf n d + 1 ≤ (52 : Nat) + b.exponent by omega))
      refine ⟨by omega, higher, ?_, near⟩
      have start := b.half_le_low
      have top : (b.significand : ℚ) < 2 ^ 52 + 1 := by
        by_contra more
        nlinarith
      have : b.significand < 2 ^ 52 + 1 := by exact_mod_cast top
      have := sound.leading higher
      simp only [leadingBit] at this ⊢
      omega
    · left
      omega

/-- A ratio that rounds to a size has the bits of that size. -/
theorem nearestBits_eq {n d : Nat} (sound : b.Sound) (positive : b.significand ≠ 0) (pos : 0 < d)
    (takes : b.Takes (n / d)) : nearestBits n d = b.bits := by
  have some : n ≠ 0 := by
    rintro rfl
    have start := b.half_le_low
    have low := takes.bounds.1
    have unit : (0 : ℚ) < 2 ^ b.exponent := by positivity
    have one : (1 : ℚ) ≤ b.significand := by exact_mod_cast Nat.one_le_iff_ne_zero.mpr positive
    simp only [Nat.cast_zero, zero_div] at low
    nlinarith
  rw [nearestBits_of_ne some]
  dsimp only
  generalize taken : scaled n d (max (leadOf n d - 52) minExponent) = cut
  obtain ⟨a, c⟩ := cut
  obtain ⟨cpos, ratio⟩ := scaled_eq pos taken
  dsimp only
  have finite := sound.finite
  rcases exponent_of_takes sound some pos takes with same | ⟨below, higher, power, near⟩
  · have rounded : divNearestEven a c = b.significand := by
      refine divNearestEven_eq cpos ?_
      rw [ratio, same]
      exact takes.scaled
    rw [rounded, same]
    exact min_eq_left finite.le
  · -- just below a power of two the last place is worth half as much
    have halves : (2 : ℚ) ^ (b.exponent - 1) = 2 ^ b.exponent / 2 := by
      have half := Binary.two_zpow_sub b.exponent 1
      push_cast at half
      rw [half, pow_one]
    have unit : (0 : ℚ) < 2 ^ b.exponent := by positivity
    have start : (2 ^ 52 - 1 / 4 : ℚ) * 2 ^ b.exponent ≤ n / d := by
      have low := takes.bounds.1
      rw [Binary.low_eq, if_pos ⟨power, higher⟩, power] at low
      exact_mod_cast low
    have rounded : divNearestEven a c = 2 * leadingBit := by
      refine divNearestEven_eq cpos (.inr ⟨by decide, ?_, ?_⟩)
      · rw [ratio, below, halves, le_div_iff₀ (by positivity)]
        norm_num [leadingBit]
        linarith
      · rw [ratio, below, halves, div_le_iff₀ (by positivity)]
        norm_num [leadingBit]
        linarith
    rw [rounded, below]
    have same : (b.exponent - 1 - minExponent).toNat * leadingBit + 2 * leadingBit = b.bits := by
      simp only [Binary.bits, power, leadingBit, minExponent] at *
      omega
    rw [same]
    exact min_eq_left finite.le

/-! ## Decimals -/

/-- How well the power of ten of a number is told by its power of two. -/
theorem ten_pow_log2 : ∀ l < 1024, 10 ^ (l * 30103 / 100000) ≤ 2 ^ l ∧
    2 ^ (l + 1) ≤ 10 ^ (l * 30103 / 100000 + 2) := by decide +kernel

theorem infinite_lt : (2 : ℚ) ^ (1024 : ℤ) < 10 ^ (311 : ℤ) := by
  have sizes : 2 ^ 1024 < 10 ^ 311 := by decide +kernel
  exact_mod_cast sizes

theorem vanishing_lt : (10 : ℚ) ^ (-328 : ℤ) < 2 ^ (-1075 : ℤ) := by
  have sizes : 2 ^ 1075 < 10 ^ 328 := by decide +kernel
  have cast : (2 : ℚ) ^ 1075 < 10 ^ 328 := by exact_mod_cast sizes
  rw [zpow_neg, zpow_neg]
  refine inv_strictAnti₀ (by positivity) ?_
  exact_mod_cast cast

/-- All that rounds to a size is less than what is infinite, and not less than half of the least
size. -/
theorem Binary.Takes.range (takes : b.Takes v) (sound : b.Sound) (positive : b.significand ≠ 0) :
    2 ^ (-1075 : ℤ) ≤ v ∧ v ≤ 2 ^ (1024 : ℤ) := by
  obtain ⟨low, high⟩ := takes.bounds
  have least := sound.least
  constructor
  · have one : (1 : ℚ) ≤ b.significand := by exact_mod_cast Nat.one_le_iff_ne_zero.mpr positive
    have half := two_zpow_sub minExponent 1
    calc (2 : ℚ) ^ (-1075 : ℤ)
        = 1 / 2 * 2 ^ minExponent := by
          rw [show (-1075 : ℤ) = minExponent - (1 : ℕ) by decide, half]
          ring
      _ ≤ (b.significand - 1 / 2) * 2 ^ b.exponent :=
          mul_le_mul (by linarith) (zpow_le_zpow_right₀ one_le_two least) (by positivity)
            (by linarith)
      _ ≤ v := b.half_le_low.trans low
  · have top := sound.exponent_le
    have full := sound.succ_le
    calc v ≤ (b.significand + 1 / 2) * 2 ^ b.exponent := high.trans_eq b.high_eq
      _ ≤ 2 ^ 53 * 2 ^ (971 : ℤ) :=
          mul_le_mul (by linarith) (zpow_le_zpow_right₀ one_le_two top) (by positivity)
            (by positivity)
      _ = 2 ^ (1024 : ℤ) := by
          rw [← zpow_natCast, ← zpow_add₀ two_ne_zero]
          rfl

/-- A decimal in the range of the doubles is not cut off for the place of its first digit, as this
is told from its bits. -/
theorem place_bounds {n : Nat} {e : Int} (some : n ≠ 0) (short : n < 10 ^ 200)
    (above : (2 : ℚ) ^ (-1075 : ℤ) ≤ n * 10 ^ e) (below : (n * 10 ^ e : ℚ) ≤ 2 ^ (1024 : ℤ)) :
    ¬ 310 < (n.log2 : Int) * 30103 / 100000 + e ∧
      ¬ (n.log2 : Int) * 30103 / 100000 + e < -330 := by
  have bits : n.log2 < 1024 := by
    rw [Nat.log2_lt some]
    exact short.trans (by decide +kernel)
  obtain ⟨power, next⟩ := ten_pow_log2 n.log2 bits
  obtain ⟨start, stop⟩ := two_zpow_log2_le some
  obtain ⟨k, places⟩ : ∃ k, k = n.log2 * 30103 / 100000 := ⟨_, rfl⟩
  rw [← places] at power next
  rw [show (n.log2 : Int) * 30103 / 100000 + e = k + e by omega]
  constructor
  · intro far
    have high : (10 : ℚ) ^ (311 : ℤ) ≤ n * 10 ^ e := by
      calc (10 : ℚ) ^ (311 : ℤ) ≤ 10 ^ ((k : ℤ) + e) := zpow_le_zpow_right₀ (by norm_num) far
        _ = 10 ^ k * 10 ^ e := by rw [zpow_add₀ (by norm_num), zpow_natCast]
        _ ≤ n * 10 ^ e := by
            gcongr
            rw [zpow_natCast] at start
            exact le_trans (by exact_mod_cast power) start
    exact absurd (high.trans below) (not_le.mpr infinite_lt)
  · intro far
    have low : (n * 10 ^ e : ℚ) < 10 ^ (-328 : ℤ) := by
      calc (n * 10 ^ e : ℚ) < 2 ^ ((n.log2 : ℤ) + 1) * 10 ^ e := by gcongr
        _ ≤ 10 ^ (k + 2) * 10 ^ e := by
            gcongr
            rw [show ((n.log2 : ℤ) + 1) = ((n.log2 + 1 : ℕ) : ℤ) by push_cast; rfl, zpow_natCast]
            exact_mod_cast next
        _ = 10 ^ ((k : ℤ) + e + 2) := by
            rw [← zpow_natCast, ← zpow_add₀ (by norm_num)]
            push_cast
            ring_nf
        _ ≤ 10 ^ (-328 : ℤ) := zpow_le_zpow_right₀ (by norm_num) (by omega)
    exact absurd (low.trans vanishing_lt) (not_lt.mpr above)

/-- A decimal that rounds to a size is read as a double of that size. -/
theorem ofDecimal_eq {n : Nat} {e : Int} (sound : b.Sound) (positive : b.significand ≠ 0)
    (takes : b.Takes (n * 10 ^ e)) (short : n < 10 ^ 200) (negative : Bool) :
    ofDecimal negative n e =
      Float.ofBits (UInt64.ofNat (b.bits + if negative then signBit else 0)) := by
  obtain ⟨above, below⟩ := takes.range sound positive
  have some : n ≠ 0 := by
    rintro rfl
    have half : (0 : ℚ) < 2 ^ (-1075 : ℤ) := by positivity
    simp only [Nat.cast_zero, zero_mul] at above
    linarith
  obtain ⟨not_infinite, not_vanishing⟩ := place_bounds some short above below
  unfold ofDecimal
  dsimp only
  rw [if_neg some, if_neg not_infinite, if_neg not_vanishing]
  split
  · rename_i nonneg
    obtain ⟨m, rfl⟩ := Int.eq_ofNat_of_zero_le nonneg
    have ratio : ((n * Nat.pow 10 (m : Int).toNat : ℕ) / (1 : ℕ) : ℚ) = n * 10 ^ (m : ℤ) := by
      simp
    rw [nearest, nearestBits_eq sound positive Nat.one_pos (ratio ▸ takes)]
  · rename_i below_zero
    obtain ⟨m, rfl⟩ : ∃ m : Nat, e = -m := ⟨(-e).toNat, by omega⟩
    have ratio : (n / (Nat.pow 10 (- -(m : Int)).toNat : ℕ) : ℚ) = n * 10 ^ (-m : ℤ) := by
      simp [zpow_neg, div_eq_mul_inv]
    rw [nearest, nearestBits_eq sound positive (d := Nat.pow 10 (- -(m : Int)).toNat)
      (Nat.pow_pos (by decide)) (ratio ▸ takes)]

/-- A finite double is made up of its sign and the bits of its size. -/
theorem ofBits_bits {x : Float} (h : size? x = some b) :
    b.Sound ∧ Float.ofBits (UInt64.ofNat (b.bits + if signed x then signBit else 0)) = x := by
  obtain ⟨sound, bits⟩ := Binary.sound_of_ofBits? h
  refine ⟨sound, ?_⟩
  have whole : b.bits + (if signed x then signBit else 0) = x.toBits.toNat := by
    have range : x.toBits.toNat < 2 * signBit := x.toBits.toNat_lt
    rw [bits, signed]
    by_cases negative : signBit ≤ x.toBits.toNat
    · rw [decide_eq_true negative, if_pos rfl]
      simp only [signBit] at *
      omega
    · rw [decide_eq_false negative, if_neg Bool.false_ne_true]
      simp only [signBit] at *
      omega
  rw [whole, UInt64.ofNat_toNat, Float.ofBits_toBits]

end IndexExplorer.Number
