import AlertPolicy.Number.Binary64
import Mathlib.Data.EReal.Operations
import Mathlib.Data.Int.ConditionallyCompleteOrder

/-!
The values of binary64 numbers as extended reals. The magnitude bits hold an exponent above 52 bits
of a fraction, and every finite value is a multiple of the least positive one. Larger magnitude bits
stand for larger values, so to compare numbers by rank is to compare their values.
-/

namespace AlertPolicy.Number.Binary64

/-- How many times the least positive number the magnitude bits of a finite number stand for. Where
the exponent is not zero, a one is put before the fraction. -/
def multiple (m : Nat) : Nat :=
  if m < 2 ^ 52 then m else (2 ^ 52 + m % 2 ^ 52) * 2 ^ (m / 2 ^ 52 - 1)

/-- The value of the magnitude bits. The least positive number is `2 ^ -1074`. -/
noncomputable def absolute (m : Nat) : EReal :=
  if m < infinityMagnitude then ((multiple m / 2 ^ 1074 : ℝ) : EReal) else ⊤

/-- What a number other than NaN stands for. -/
noncomputable def value (x : Binary64) : EReal :=
  if x.isNegative then -absolute x.magnitude else absolute x.magnitude

/-! ### Magnitudes -/

theorem multiple_lt_succ (m : Nat) : multiple m < multiple (m + 1) := by
  by_cases hsub : m + 1 < 2 ^ 52
  · rw [multiple, multiple, if_pos (by omega), if_pos hsub]
    exact Nat.lt_succ_self m
  · by_cases hfirst : m < 2 ^ 52
    · have hm : m + 1 = 2 ^ 52 := by omega
      rw [multiple, multiple, if_pos hfirst, if_neg hsub, hm]
      exact hfirst
    · rw [multiple, multiple, if_neg hfirst, if_neg hsub]
      obtain ⟨e, he⟩ : ∃ e, m / 2 ^ 52 = e + 1 := ⟨m / 2 ^ 52 - 1, by omega⟩
      by_cases hcarry : m % 2 ^ 52 + 1 = 2 ^ 52
      · -- The fraction is full: the exponent grows and the step from one number to the next doubles.
        have hfraction : (m + 1) % 2 ^ 52 = 0 := by omega
        have hexponent : (m + 1) / 2 ^ 52 = e + 2 := by omega
        rw [he, hfraction, hexponent]
        calc (2 ^ 52 + m % 2 ^ 52) * 2 ^ (e + 1 - 1)
            < (2 ^ 52 * 2) * 2 ^ e := Nat.mul_lt_mul_of_pos_right (by omega) (by positivity)
          _ = (2 ^ 52 + 0) * 2 ^ (e + 1) := by
            rw [Nat.add_zero, Nat.mul_assoc, ← Nat.pow_succ']
      · have hfraction : (m + 1) % 2 ^ 52 = m % 2 ^ 52 + 1 := by omega
        have hexponent : (m + 1) / 2 ^ 52 = e + 1 := by omega
        rw [he, hfraction, hexponent]
        exact Nat.mul_lt_mul_of_pos_right (by omega) (by positivity)

theorem multiple_strictMono : StrictMono multiple := strictMono_nat_of_lt_succ multiple_lt_succ

theorem absolute_zero : absolute 0 = 0 := by
  have hzero : multiple 0 = 0 := rfl
  rw [absolute, if_pos (by decide), hzero, Nat.cast_zero, zero_div, EReal.coe_zero]

theorem absolute_strictMonoOn : StrictMonoOn absolute {m | m ≤ infinityMagnitude} := by
  intro m _ n hn hlt
  have hm : m < infinityMagnitude := Nat.lt_of_lt_of_le hlt hn
  rw [absolute, absolute, if_pos hm]
  split
  · rw [EReal.coe_lt_coe_iff]
    have hmultiple : (multiple m : ℝ) < multiple n := Nat.cast_lt.2 (multiple_strictMono hlt)
    exact div_lt_div_of_pos_right hmultiple (by positivity)
  · exact EReal.coe_lt_top _

theorem absolute_nonneg {m : Nat} (hm : m ≤ infinityMagnitude) : 0 ≤ absolute m := by
  rw [← absolute_zero]
  exact absolute_strictMonoOn.monotoneOn (Nat.zero_le _) hm (Nat.zero_le m)

/-! ### Ranks -/

/-- The value of the numbers of a rank. -/
noncomputable def valueAt (rank : Int) : EReal :=
  if rank < 0 then -absolute rank.natAbs else absolute rank.natAbs

theorem value_eq (x : Binary64) : x.value = valueAt x.rank := by
  rw [value, valueAt, rank]
  cases x.isNegative with
  | false => simp
  | true =>
      cases x.magnitude with
      | zero => simp [absolute_zero]
      | succ m =>
          have hneg : -((m + 1 : Nat) : Int) < 0 := by omega
          rw [if_pos rfl, if_pos rfl, if_pos hneg, Int.natAbs_neg, Int.natAbs_natCast]

theorem valueAt_strictMonoOn : StrictMonoOn valueAt {r | r.natAbs ≤ infinityMagnitude} := by
  intro r hr s hs hlt
  change r.natAbs ≤ infinityMagnitude at hr
  change s.natAbs ≤ infinityMagnitude at hs
  by_cases hsneg : s < 0
  · rw [valueAt, valueAt, if_pos (by omega), if_pos hsneg, EReal.neg_lt_neg_iff]
    exact absolute_strictMonoOn hs hr (by omega)
  · by_cases hrneg : r < 0
    · rw [valueAt, valueAt, if_pos hrneg, if_neg hsneg]
      have hpos : 0 < absolute r.natAbs := by
        rw [← absolute_zero]
        exact absolute_strictMonoOn (Nat.zero_le _) hr (by omega)
      calc -absolute r.natAbs < 0 := by rwa [EReal.neg_lt_comm, neg_zero]
        _ ≤ absolute s.natAbs := absolute_nonneg hs
    · rw [valueAt, valueAt, if_neg hrneg, if_neg hsneg]
      exact absolute_strictMonoOn hr hs (by omega)

theorem natAbs_rank (x : Binary64) : x.rank.natAbs = x.magnitude := by
  rw [rank]
  split
  · rw [Int.natAbs_neg, Int.natAbs_natCast]
  · rw [Int.natAbs_natCast]

theorem rank_bounded {x : Binary64} (hx : x.isNaN = false) :
    x.rank ∈ {r : Int | r.natAbs ≤ infinityMagnitude} := by
  change x.rank.natAbs ≤ infinityMagnitude
  rw [natAbs_rank]
  simpa [isNaN] using hx

/-! ### Comparison -/

variable {x y : Binary64}

theorem lessThan_iff (hx : x.isNaN = false) (hy : y.isNaN = false) :
    x.lessThan y = true ↔ x.value < y.value := by
  rw [value_eq, value_eq, valueAt_strictMonoOn.lt_iff_lt (rank_bounded hx) (rank_bounded hy)]
  simp [lessThan, hx, hy]

theorem atMost_iff (hx : x.isNaN = false) (hy : y.isNaN = false) :
    x.atMost y = true ↔ x.value ≤ y.value := by
  rw [value_eq, value_eq, valueAt_strictMonoOn.le_iff_le (rank_bounded hx) (rank_bounded hy)]
  simp [atMost, hx, hy]

theorem equals_iff (hx : x.isNaN = false) (hy : y.isNaN = false) :
    x.equals y = true ↔ x.value = y.value := by
  rw [value_eq, value_eq,
    valueAt_strictMonoOn.injOn.eq_iff (rank_bounded hx) (rank_bounded hy)]
  simp [equals, hx, hy]

theorem not_isNaN_of_isFinite (h : x.isFinite = true) : x.isNaN = false := by
  simp only [isFinite, decide_eq_true_eq] at h
  simp only [isNaN, decide_eq_false_iff_not]
  omega

end AlertPolicy.Number.Binary64
