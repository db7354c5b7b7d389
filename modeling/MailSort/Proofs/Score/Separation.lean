import Mathlib
import MailSort.Proofs.Score.Comparison
import MailSort.Sliding.Histogram

/-! # Scores that comparison tells apart

Of two different scores one is less than the other, unless they are zeros or no numbers at all.
This is so for rational numbers, and `Score.Separated` says it for both kinds of scores.  A
floating-point number is determined by its sign, its exponent and its mantissa
(`unpack_injective`), and these by its place in the order.
-/

namespace MailSort

class Score.Separated (α : Type) [Score α] : Prop where
  lt_irrefl (score : α) : ¬ score < score
  lt_trans {low middle high : α} : low < middle → middle < high → low < high
  eq_of_not_lt {first second : α} : isNumber first → ¬ Histogram.isZero first →
    isNumber second → ¬ Histogram.isZero second → ¬ first < second → ¬ second < first →
      first = second

namespace Score

instance : Separated Rat where
  lt_irrefl score := lt_irrefl score
  lt_trans below above := lt_trans below above
  eq_of_not_lt _ _ _ _ notBelow notAbove := (le_of_not_gt notAbove).antisymm (le_of_not_gt notBelow)

/-! ## Floating-point numbers -/

section FloatingPoint

open Float.Model (UnpackedFloat)

theorem unpack_injective {first second : Float}
    (same : first.toModel.unpack = second.toModel.unpack) : first = second := by
  rw [← Float.toBits_inj, ← UInt64.toBitVec_inj]
  exact (UnpackedFloat.unpack_inj_of_valid first.toModel.valid second.toModel.valid).1 same

/-- The place in the order tells numbers apart, unless they are zeros. -/
theorem eq_of_order_eq {low high : UnpackedFloat} (apart : side low ≠ 0)
    (same : order low high = .eq) : low = high := by
  rw [order_eq_then, Ordering.then_eq_eq, Ordering.then_eq_eq] at same
  simp only [Int.compare_eq_eq] at same
  obtain ⟨sides, exponents, mantissas⟩ := same
  cases low with
  | zero | notANumber => contradiction
  | infinity sign =>
    cases sign <;> cases high with
    | zero | notANumber => contradiction
    | infinity sign' => cases sign' <;> simp_all [side]
    | finite sign' => cases sign' <;> simp [side] at sides
  | finite sign m e =>
    cases sign <;> cases high with
    | zero | notANumber => contradiction
    | infinity sign' => cases sign' <;> simp [side] at sides
    | finite sign' m' e' => cases sign' <;> simp_all [side, exponent, mantissa]

theorem side_ne_zero {score : Float} (number : isNumber score)
    (nonzero : ¬ Histogram.isZero score) : side score.toModel.unpack ≠ 0 := by
  intro middle
  apply nonzero
  have origin : (zero : Float).toModel.unpack = .zero .positive := rfl
  rw [isNumber_iff] at number
  rw [Histogram.isZero, decide_eq_true_iff, float_le_iff, float_le_iff, le_iff_order, le_iff_order,
    origin]
  generalize score.toModel.unpack = unpacked at number middle ⊢
  cases unpacked with
  | notANumber => contradiction
  | zero sign => simp [order_eq_then, side, exponent, mantissa]
  | infinity sign => cases sign <;> simp [side] at middle
  | finite sign m e => cases sign <;> simp [side] at middle

instance : Separated Float where
  lt_irrefl score below := by
    obtain ⟨_, _, below⟩ := (lt_iff_order _ _).1 ((float_lt_iff score score).1 below)
    have same : order score.toModel.unpack score.toModel.unpack = .eq := Std.ReflCmp.compare_self
    rw [same] at below
    contradiction
  lt_trans := by
    intro low middle high below above
    obtain ⟨isLow, _, below⟩ := (lt_iff_order _ _).1 ((float_lt_iff low middle).1 below)
    obtain ⟨_, isHigh, above⟩ := (lt_iff_order _ _).1 ((float_lt_iff middle high).1 above)
    exact (float_lt_iff low high).2 <| (lt_iff_order _ _).2
      ⟨isLow, isHigh, Std.TransCmp.lt_trans below above⟩
  eq_of_not_lt := by
    intro first second isFirst nonzero isSecond _ notBelow notAbove
    apply unpack_injective
    apply eq_of_order_eq (side_ne_zero isFirst nonzero)
    rw [float_lt_iff, lt_iff_order] at notBelow notAbove
    have isFirst := isNumber_iff.1 isFirst
    have isSecond := isNumber_iff.1 isSecond
    cases compared : order first.toModel.unpack second.toModel.unpack with
    | eq => rfl
    | lt => exact absurd ⟨isFirst, isSecond, compared⟩ notBelow
    | gt => exact absurd ⟨isSecond, isFirst, Std.OrientedCmp.lt_of_gt compared⟩ notAbove

end FloatingPoint

end Score

end MailSort
