import IndexExplorer.Number.Shortest
import IndexExplorer.Proofs.Number.Rounding

/-!
The digits that are found for a double.

The search ends with a decimal that rounds to the double: on the grid of the seventeenth digit one
of the double's two neighbours always does.

* `readsBack_iff`: what reads back is what rounds to the size;
* `onGrid_cases`, `onGrid_ne_none`: what is found on one grid, and when something is;
* `shortest_takes`: the decimal that the search ends with rounds to the size.
-/
namespace IndexExplorer.Number

/-! ## Ratios -/

namespace Ratio

/-- The value of a ratio. -/
def value (r : Ratio) : ℚ := r.num / r.den

variable {r s : Ratio}

theorem le_iff (first : 0 < r.den) (second : 0 < s.den) : r.le s = true ↔ r.value ≤ s.value := by
  have positive : (0 : ℚ) < r.den := by exact_mod_cast first
  have positive' : (0 : ℚ) < s.den := by exact_mod_cast second
  rw [value, value, div_le_div_iff₀ positive positive', le, decide_eq_true_eq]
  exact_mod_cast Iff.rfl

theorem lt_iff (first : 0 < r.den) (second : 0 < s.den) : r.lt s = true ↔ r.value < s.value := by
  have positive : (0 : ℚ) < r.den := by exact_mod_cast first
  have positive' : (0 : ℚ) < s.den := by exact_mod_cast second
  rw [value, value, div_lt_div_iff₀ positive positive', lt, decide_eq_true_eq]
  exact_mod_cast Iff.rfl

theorem ofBinary_value (b : Binary) : 0 < (ofBinary b).den ∧ (ofBinary b).value = b.value := by
  unfold ofBinary
  generalize taken : scaled b.significand 1 (-b.exponent) = cut
  obtain ⟨n, d⟩ := cut
  obtain ⟨positive, ratio⟩ := scaled_eq Nat.one_pos taken
  refine ⟨positive, ?_⟩
  dsimp only [value]
  rw [ratio, Nat.cast_one, div_one, zpow_neg, div_inv_eq_mul]
  rfl

theorem ofDecimal_value (n : Nat) (e : Int) :
    0 < (ofDecimal n e).den ∧ (ofDecimal n e).value = n * 10 ^ e := by
  unfold ofDecimal
  split
  · rename_i nonneg
    obtain ⟨k, rfl⟩ := Int.eq_ofNat_of_zero_le nonneg
    exact ⟨Nat.one_pos, by simp [value]⟩
  · rename_i negative
    obtain ⟨k, rfl⟩ : ∃ k : Nat, e = -k := ⟨(-e).toNat, by omega⟩
    exact ⟨Nat.pow_pos (by decide), by simp [value, zpow_neg, div_eq_mul_inv]⟩

/-- What fits as whole units of a power of ten, and one more does not. -/
theorem floorAt_spec (positive : 0 < r.den) (e : Int) :
    r.floorAt e * 10 ^ e ≤ r.value ∧ r.value < (r.floorAt e + 1) * 10 ^ e := by
  have unit : (0 : ℚ) < 10 ^ e := by positivity
  -- in units the floor is that of a quotient
  have quotient : ∃ n d : Nat, 0 < d ∧ r.floorAt e = n / d ∧ (n / d : ℚ) = r.value / 10 ^ e := by
    have nonzero : (r.den : ℚ) ≠ 0 := by exact_mod_cast positive.ne'
    unfold floorAt
    split
    · rename_i nonneg
      obtain ⟨k, rfl⟩ := Int.eq_ofNat_of_zero_le nonneg
      refine ⟨_, _, Nat.mul_pos positive (Nat.pow_pos (by decide)), rfl, ?_⟩
      simp only [Int.toNat_natCast, zpow_natCast, value]
      push_cast
      field_simp
    · rename_i negative
      obtain ⟨k, rfl⟩ : ∃ k : Nat, e = -k := ⟨(-e).toNat, by omega⟩
      refine ⟨_, _, positive, rfl, ?_⟩
      simp only [neg_neg, Int.toNat_natCast, Nat.pow_eq, zpow_neg, zpow_natCast, value]
      push_cast
      field_simp
  obtain ⟨n, d, whole, floor, same⟩ := quotient
  have whole' : (0 : ℚ) < d := by exact_mod_cast whole
  have parts := Nat.div_add_mod n d
  have rest := Nat.mod_lt n whole
  rw [floor, ← le_div_iff₀ unit, ← div_lt_iff₀ unit, ← same, le_div_iff₀ whole',
    div_lt_iff₀ whole']
  constructor
  · exact_mod_cast Nat.div_mul_le_self n d
  · exact_mod_cast Nat.lt_mul_of_div_lt (Nat.lt_succ_self (n / d)) whole

end Ratio

variable {b : Binary} {v : ℚ}

/-- A ratio reads back as a size exactly when it rounds to it. -/
theorem readsBack_iff (nonzero : b.significand ≠ 0) {r : Ratio} (positive : 0 < r.den) :
    readsBack b r = true ↔ b.Takes r.value := by
  have low : (roundingEnds b).1.value = b.low ∧ 0 < (roundingEnds b).1.den := by
    unfold roundingEnds Binary.low
    dsimp only
    split
    · obtain ⟨den, value⟩ := Ratio.ofBinary_value ⟨4 * b.significand - 1, b.exponent - 2⟩
      rw [value, Binary.value, Nat.cast_sub (by omega)]
      exact ⟨by push_cast; rfl, den⟩
    · obtain ⟨den, value⟩ := Ratio.ofBinary_value ⟨2 * b.significand - 1, b.exponent - 1⟩
      rw [value, Binary.value, Nat.cast_sub (by omega)]
      exact ⟨by push_cast; rfl, den⟩
  have high : (roundingEnds b).2.value = b.high ∧ 0 < (roundingEnds b).2.den := by
    obtain ⟨den, value⟩ := Ratio.ofBinary_value ⟨2 * b.significand + 1, b.exponent - 1⟩
    refine ⟨?_, den⟩
    show (Ratio.ofBinary _).value = _
    rw [value, Binary.value, Binary.high]
    push_cast
    rfl
  unfold readsBack Binary.Takes
  dsimp only
  split
  · rename_i even
    rw [Bool.and_eq_true, Ratio.le_iff low.2 positive, Ratio.le_iff positive high.2, low.1, high.1]
    constructor
    · exact fun inside => .inr ⟨even, inside⟩
    · rintro (⟨above, below⟩ | ⟨-, inside⟩)
      · exact ⟨above.le, below.le⟩
      · exact inside
  · rename_i odd
    rw [Bool.and_eq_true, Ratio.lt_iff low.2 positive, Ratio.lt_iff positive high.2, low.1, high.1]
    constructor
    · exact .inl
    · rintro (inside | ⟨even, -⟩)
      · exact inside
      · exact absurd even odd

/-! ## One grid -/

/-- What is found on a grid is one of the neighbours, and it rounds to the size. -/
theorem onGrid_cases (nonzero : b.significand ≠ 0) {e : Int} {n : Nat} (found : onGrid b e = some n) :
    0 < n ∧ b.Takes (n * 10 ^ e) ∧
      (n = (Ratio.ofBinary b).floorAt e ∨ n = (Ratio.ofBinary b).floorAt e + 1) := by
  obtain ⟨down, down_value⟩ := Ratio.ofDecimal_value ((Ratio.ofBinary b).floorAt e) e
  obtain ⟨up, up_value⟩ := Ratio.ofDecimal_value ((Ratio.ofBinary b).floorAt e + 1) e
  have below (h : (0 < (Ratio.ofBinary b).floorAt e &&
      readsBack b (Ratio.ofDecimal ((Ratio.ofBinary b).floorAt e) e)) = true) :
      0 < (Ratio.ofBinary b).floorAt e ∧ b.Takes ((Ratio.ofBinary b).floorAt e * 10 ^ e) := by
    rw [Bool.and_eq_true, decide_eq_true_eq, readsBack_iff nonzero down, down_value] at h
    exact h
  have above (h : readsBack b (Ratio.ofDecimal ((Ratio.ofBinary b).floorAt e + 1) e) = true) :
      b.Takes (((Ratio.ofBinary b).floorAt e + 1 : Nat) * 10 ^ e) := by
    rwa [readsBack_iff nonzero up, up_value] at h
  unfold onGrid at found
  dsimp only at found
  generalize (Ratio.ofBinary b).floorAt e = m at *
  split at found
  · rename_i first second
    obtain rfl := Option.some.inj found
    exact ⟨(below first).1, (below first).2, .inl rfl⟩
  · rename_i first second
    obtain rfl := Option.some.inj found
    exact ⟨Nat.succ_pos _, above second, .inr rfl⟩
  · cases found
  · rename_i first second
    have either : n = m ∨ n = m + 1 := by
      split_ifs at found
      · exact .inl (Option.some.inj found).symm
      · exact .inr (Option.some.inj found).symm
      · exact .inl (Option.some.inj found).symm
      · exact .inr (Option.some.inj found).symm
    rcases either with rfl | rfl
    · exact ⟨(below first).1, (below first).2, .inl rfl⟩
    · exact ⟨Nat.succ_pos _, above second, .inr rfl⟩

/-- Something is found on a grid when one of the neighbours rounds to the size. -/
theorem onGrid_ne_none (nonzero : b.significand ≠ 0) {e : Int}
    (near : 0 < (Ratio.ofBinary b).floorAt e ∧ b.Takes ((Ratio.ofBinary b).floorAt e * 10 ^ e) ∨
      b.Takes (((Ratio.ofBinary b).floorAt e + 1 : Nat) * 10 ^ e)) : onGrid b e ≠ none := by
  obtain ⟨down, down_value⟩ := Ratio.ofDecimal_value ((Ratio.ofBinary b).floorAt e) e
  obtain ⟨up, up_value⟩ := Ratio.ofDecimal_value ((Ratio.ofBinary b).floorAt e + 1) e
  rw [← down_value, ← up_value, ← readsBack_iff nonzero down, ← readsBack_iff nonzero up] at near
  unfold onGrid
  dsimp only
  split
  · exact nofun
  · exact nofun
  · rename_i first second
    rcases near with ⟨positive, reads⟩ | reads
    · rw [reads, Bool.and_true, decide_eq_false_iff_not] at first
      exact absurd positive first
    · rw [reads] at second
      cases second
  · split_ifs <;> exact nofun

/-! ## The search -/

/-- A search that finds something on one of its grids ends with what is found on the first such. -/
theorem searchGrids_found {place : Int} {fuel count : Nat}
    (found : ∃ j < fuel, onGrid b (place - (count + j : Nat)) ≠ none) :
    ∃ j < fuel, (searchGrids b place fuel count).exponent = place - (count + j : Nat) ∧
      onGrid b (place - (count + j : Nat)) = some (searchGrids b place fuel count).digits := by
  induction fuel generalizing count with
  | zero =>
    obtain ⟨j, less, -⟩ := found
    cases less
  | succ fuel ih =>
    unfold searchGrids
    split
    · rename_i n here
      exact ⟨0, Nat.succ_pos fuel, rfl, here⟩
    · rename_i nothing
      have later : ∃ j < fuel, onGrid b (place - (count + 1 + j : Nat)) ≠ none := by
        obtain ⟨j, less, here⟩ := found
        cases j with
        | zero => exact absurd nothing here
        | succ j => exact ⟨j, by omega, by rwa [show count + 1 + j = count + (j + 1) by omega]⟩
      obtain ⟨j, less, exponent, digits⟩ := ih later
      exact ⟨j + 1, by omega, by rw [show count + (j + 1) = count + 1 + j by omega]; exact exponent,
        by rw [show count + (j + 1) = count + 1 + j by omega]; exact digits⟩

/-! ## The place of the first digit -/

/-- How well the power of ten of a fraction is told by its power of two. -/
theorem ten_pow_inv_log2 : ∀ l < 1075, 2 ^ l ≤ 10 ^ ((l * 30103 + 99999) / 100000) ∧
    10 ^ ((l * 30103 + 99999) / 100000) * 2 ≤ 10 ^ 2 * 2 ^ l := by decide +kernel

theorem guess_spec (lead : Int) (least : -1075 < lead) (most : lead < 1024) :
    (10 : ℚ) ^ (lead * 30103 / 100000) ≤ 2 ^ lead ∧
      (2 : ℚ) ^ (lead + 1) ≤ 10 ^ (lead * 30103 / 100000 + 2) := by
  rcases le_or_gt 0 lead with nonneg | negative
  · obtain ⟨l, rfl⟩ := Int.eq_ofNat_of_zero_le nonneg
    obtain ⟨power, next⟩ := ten_pow_log2 l (by omega)
    have place : (l : Int) * 30103 / 100000 = (l * 30103 / 100000 : Nat) := by omega
    rw [place]
    generalize l * 30103 / 100000 = k at *
    constructor
    · rw [zpow_natCast, zpow_natCast]
      exact_mod_cast power
    · rw [show ((l : ℤ) + 1) = ((l + 1 : ℕ) : ℤ) by push_cast; rfl,
        show ((k : ℤ) + 2) = ((k + 2 : ℕ) : ℤ) by push_cast; rfl, zpow_natCast, zpow_natCast]
      exact_mod_cast next
  · obtain ⟨l, rfl⟩ : ∃ l : Nat, lead = -l := ⟨(-lead).toNat, by omega⟩
    obtain ⟨power, next⟩ := ten_pow_inv_log2 l (by omega)
    have place : -(l : Int) * 30103 / 100000 = -((l * 30103 + 99999) / 100000 : Nat) := by omega
    rw [place]
    generalize (l * 30103 + 99999) / 100000 = k at *
    have power' : (2 : ℚ) ^ l ≤ 10 ^ k := by exact_mod_cast power
    have next' : (10 : ℚ) ^ k * 2 ≤ 10 ^ 2 * 2 ^ l := by exact_mod_cast next
    constructor
    · rw [zpow_neg, zpow_neg, zpow_natCast, zpow_natCast]
      exact inv_anti₀ (by positivity) power'
    · rw [zpow_add₀ two_ne_zero, zpow_add₀ (by norm_num), zpow_neg, zpow_neg, zpow_natCast,
        zpow_natCast, zpow_one, inv_mul_eq_div, inv_mul_eq_div,
        div_le_div_iff₀ (by positivity) (by positivity)]
      exact_mod_cast (by linarith : (2 : ℚ) * 10 ^ k ≤ 10 ^ 2 * 2 ^ l)

theorem value_bounds (nonzero : b.significand ≠ 0) :
    (2 : ℚ) ^ ((b.significand.log2 : Int) + b.exponent) ≤ b.value ∧
      b.value < 2 ^ ((b.significand.log2 : Int) + b.exponent + 1) := by
  obtain ⟨start, stop⟩ := two_zpow_log2_le nonzero
  have unit : (0 : ℚ) < 2 ^ b.exponent := by positivity
  constructor
  · rw [zpow_add₀ two_ne_zero, Binary.value]
    gcongr
  · rw [add_right_comm, zpow_add₀ two_ne_zero, Binary.value]
    gcongr

theorem leadingPlace_spec (sound : b.Sound) (nonzero : b.significand ≠ 0) :
    let place := leadingPlace (Ratio.ofBinary b) ((b.significand.log2 : Int) + b.exponent)
    (10 : ℚ) ^ place ≤ b.value ∧ b.value < 10 ^ (place + 1) := by
  obtain ⟨start, stop⟩ := value_bounds nonzero
  obtain ⟨den, value⟩ := Ratio.ofBinary_value b
  have bits : b.significand.log2 < 53 := by
    rw [Nat.log2_lt nonzero]
    exact sound.small
  have least := sound.least
  have top : b.exponent ≤ 971 := sound.exponent_le
  simp only [minExponent] at least
  obtain ⟨power, next⟩ := guess_spec ((b.significand.log2 : Int) + b.exponent)
    (by omega) (by omega)
  generalize (b.significand.log2 : Int) + b.exponent = lead at *
  obtain ⟨one, one_value⟩ := Ratio.ofDecimal_value 1 (lead * 30103 / 100000 + 1)
  dsimp only
  unfold leadingPlace
  dsimp only
  split
  · rename_i reached
    rw [Ratio.le_iff one den, one_value, value, Nat.cast_one, one_mul] at reached
    rw [add_assoc]
    exact ⟨reached, stop.trans_le next⟩
  · rename_i short
    rw [Ratio.le_iff one den, one_value, value, Nat.cast_one, one_mul, not_le] at short
    exact ⟨power.trans start, short⟩

/-! ## Seventeen digits -/

/-- What is nearer to a size than half a unit of its last place rounds to it, unless it is below a
power of two. -/
theorem Binary.takes_of_near (above : b.value - 2 ^ b.exponent / 2 < v)
    (below : v < b.value + 2 ^ b.exponent / 2)
    (side : b.significand = leadingBit ∧ minExponent < b.exponent → b.value ≤ v) : b.Takes v := by
  have unit : (0 : ℚ) < 2 ^ b.exponent := by positivity
  refine .inl ⟨?_, ?_⟩
  · rw [Binary.low_eq]
    split
    · rename_i power
      have near := side power
      rw [Binary.value] at near
      linarith
    · rw [Binary.value] at above
      linarith
  · rw [Binary.high_eq]
    rw [Binary.value] at below
    linarith

/-- With seventeen digits a neighbour is near enough. -/
theorem onGrid_seventeen (sound : b.Sound) (nonzero : b.significand ≠ 0) {place : Int}
    (start : (10 : ℚ) ^ place ≤ b.value) : onGrid b (place - 16) ≠ none := by
  obtain ⟨den, value⟩ := Ratio.ofBinary_value b
  obtain ⟨down, up⟩ := Ratio.floorAt_spec den (place - 16)
  rw [value] at down up
  have unit : (0 : ℚ) < 2 ^ b.exponent := by positivity
  have step : (0 : ℚ) < 10 ^ (place - 16) := by positivity
  have size : b.value = b.significand * 2 ^ b.exponent := rfl
  have small : (b.significand : ℚ) ≤ 2 ^ 53 := by
    exact_mod_cast sound.small.le
  have steps : (10 : ℚ) ^ (place - 16) * 10 ^ 16 ≤ b.value := by
    have whole : (10 : ℚ) ^ (place - 16) * 10 ^ 16 = 10 ^ place := by
      rw [← zpow_natCast, ← zpow_add₀ (by norm_num)]
      congr 1
      push_cast
      ring
    rwa [whole]
  refine onGrid_ne_none nonzero ?_
  generalize (Ratio.ofBinary b).floorAt (place - 16) = m at *
  generalize (10 : ℚ) ^ (place - 16) = g at *
  by_cases power : b.significand = leadingBit ∧ minExponent < b.exponent
  · right
    have exact : (b.significand : ℚ) = 2 ^ 52 := by exact_mod_cast power.1
    rw [exact] at size
    refine Binary.takes_of_near ?_ ?_ fun _ => ?_ <;> push_cast <;> nlinarith
  · rcases le_or_gt (b.value - m * g) (g / 2) with near | far
    · left
      constructor
      · by_contra none
        obtain rfl : m = 0 := by omega
        rw [Nat.cast_zero, zero_mul, sub_zero] at near
        linarith
      · refine Binary.takes_of_near ?_ ?_ fun exact => absurd exact power <;> nlinarith
    · right
      refine Binary.takes_of_near ?_ ?_ fun exact => absurd exact power <;> push_cast <;> nlinarith

/-- **The digits of a double.** The decimal that is found for a size rounds to it. It has a digit
and not more than seventeen, or is the next power of ten. -/
theorem shortest_takes (sound : b.Sound) (nonzero : b.significand ≠ 0) :
    0 < (shortest b).digits ∧ (shortest b).digits ≤ 10 ^ 17 ∧
      b.Takes ((shortest b).digits * 10 ^ (shortest b).exponent) := by
  obtain ⟨start, stop⟩ := leadingPlace_spec sound nonzero
  unfold shortest
  dsimp only
  generalize leadingPlace (Ratio.ofBinary b) (b.significand.log2 + b.exponent) = place at *
  have last : ∃ j < 17, onGrid b (place - (0 + j : Nat)) ≠ none :=
    ⟨16, by decide, onGrid_seventeen sound nonzero start⟩
  obtain ⟨j, less, exponent, found⟩ := searchGrids_found last
  obtain ⟨positive, takes, which⟩ := onGrid_cases nonzero found
  rw [exponent]
  refine ⟨positive, ?_, takes⟩
  obtain ⟨den, value⟩ := Ratio.ofBinary_value b
  obtain ⟨down, -⟩ := Ratio.floorAt_spec den (place - (0 + j : Nat))
  rw [value] at down
  have few : (Ratio.ofBinary b).floorAt (place - (0 + j : Nat)) < 10 ^ (j + 1) := by
    have step : (0 : ℚ) < 10 ^ (place - (0 + j : Nat)) := by positivity
    have scale : (10 : ℚ) ^ (place + 1) = 10 ^ (j + 1) * 10 ^ (place - (0 + j : Nat)) := by
      rw [← zpow_natCast, ← zpow_add₀ (by norm_num)]
      congr 1
      push_cast
      ring
    rw [scale] at stop
    exact_mod_cast lt_of_mul_lt_mul_right (down.trans_lt stop) step.le
  have limit : 10 ^ (j + 1) ≤ 10 ^ 17 := Nat.pow_le_pow_right (by decide) (by omega)
  omega

end IndexExplorer.Number
