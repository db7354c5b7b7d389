import MailSort.Proofs.Score.Rational
import MailSort.Proofs.Score.Rounding
import MailSort.Proofs.Score.Separation

/-! # Shares

A share is a quotient of two counts.  No share of a total is below 0, provided that the scores can
hold the total (`Score.Shares`): rational numbers hold every count, and floating-point numbers hold
those below `2 ^ 1023`.  A longer count could become infinity, and the share would be no number.
-/

namespace MailSort

namespace Score

def Shares (α : Type) [Score α] (total : Nat) : Prop :=
  ∀ part : Nat, higher zero (ratio part total : α) = ratio part total

theorem shares_rat (total : Nat) : Shares Rat total := by
  intro part
  have nonneg : (0 : Rat) ≤ ratio part total :=
    div_nonneg (Nat.cast_nonneg part) (Nat.cast_nonneg total)
  rw [higher_eq]
  exact max_eq_right nonneg

/-! ## Floating-point numbers -/

section FloatingPoint

open Float.Model (UnpackedFloat Format totalExponent)
open Float.Model.UnpackedFloat

variable {count : Nat}

/-- Counts of up to 53 bits are rounded in a word and multiplied by 1. -/
theorem ofNat_of_small (small : count < 2 ^ 53) :
    (Float.ofNat count).toModel =
      .pack (.mul .binary64 (Float.Model.ofUInt64 count.toUInt64).unpack
        (.finite .positive (2 ^ 52) (-52) (by decide))) := by
  have one : (Float.ofBits 0x3FF0000000000000).toModel.unpack =
      .finite .positive (2 ^ 52) (-52) (by decide) := rfl
  have fast : Float.ofNat count = count.toUInt64.toFloat * Float.ofBits 0x3FF0000000000000 := by
    show Float.ofScientific count false 0 = _
    rw [Float.ofScientific, dif_pos ⟨small, by decide⟩]
    rfl
  rw [fast, ← one]
  rfl

/-- Longer counts are rounded once. -/
theorem ofNat_of_large (large : 2 ^ 53 ≤ count) :
    (Float.ofNat count).toModel =
      .pack (roundWithAccuracy .binary64 .positive (count <<< 53) (-53) .exact) := by
  have slow : Float.ofNat count = .ofModel (.ofScientific count 0) := by
    show Float.ofScientific count false 0 = _
    rw [Float.ofScientific, dif_neg fun fast => absurd fast.1 (Nat.not_lt.2 large)]
    rfl
  rw [slow]
  show Float.Model.pack (UnpackedFloat.ofScientific .binary64 count 0) = _
  rw [UnpackedFloat.ofScientific, dif_neg (by omega), if_neg (by decide), if_neg (by simp),
    if_pos le_rfl]
  show Float.Model.pack
    (roundWithAccuracy .binary64 .positive (count <<< 53 * 1) (-53 + 0) .exact) = _
  rw [Nat.mul_one, Int.add_zero]

theorem unsigned_ofUInt64 (word : UInt64) : Unsigned (Float.Model.ofUInt64 word).unpack := by
  apply Unsigned.unpack_pack
  rw [UnpackedFloat.ofUInt64, UnpackedFloat.ofNat, UnpackedFloat.ofInt, UnpackedFloat.normalize]
  split
  · next negative =>
    rw [Int.compare_eq_lt] at negative
    omega
  · rfl
  · exact unsigned_roundWithAccuracy ..

theorem log2_lt_of_lt {bits : Nat} (positive : 0 < count) (below : count < 2 ^ bits) :
    count.log2 < bits :=
  (Nat.log2_lt positive.ne').2 below

theorem log2_shiftLeft (positive : 0 < count) (places : Nat) :
    (count <<< places).log2 = count.log2 + places := by
  induction places with
  | zero => rfl
  | succ places ih =>
    have shifted : count <<< places ≠ 0 := (Nat.shiftLeft_pos_iff.2 positive).ne'
    rw [Nat.shiftLeft_succ, Nat.log2_two_mul shifted, ih, Nat.add_assoc]

/-- Short counts are shifted until they fill the mantissa. -/
theorem normal_round (positive : 0 < count) (small : count < 2 ^ 53) :
    Normal (-52) 1 (UnpackedFloat.round .binary64 .positive count 0) := by
  have bits := log2_lt_of_lt positive small
  have target : Format.binary64.targetExponent (totalExponent count 0) = count.log2 - 52 := by
    simp only [Format.targetExponent, totalExponent, Format.mantissaBits, Format.minExponent]
    omega
  have places : (0 - ((count.log2 : Int) - 52)).toNat = 52 - count.log2 := by omega
  have filled : (count <<< (52 - count.log2)).log2 = 52 := by
    rw [log2_shiftLeft positive]
    omega
  have enough := ((Nat.log2_eq_iff (Nat.shiftLeft_pos_iff.2 positive).ne').1 filled).1
  unfold UnpackedFloat.round
  simp only [target, decreaseExponent, places]
  exact (normal_roundWithAccuracy enough (by omega)).mono (by omega) (by omega)

theorem normal_ofUInt64 (positive : 0 < count) (small : count < 2 ^ 53) :
    Normal (-52) 1 (Float.Model.ofUInt64 count.toUInt64).unpack := by
  have word : count.toUInt64.toNat = count := by
    show count % 2 ^ 64 = count
    omega
  refine Normal.unpack_pack ?_ (by decide) (by decide)
  rw [UnpackedFloat.ofUInt64, word, UnpackedFloat.ofNat, UnpackedFloat.ofInt,
    UnpackedFloat.normalize, Int.compare_eq_gt.2 (by omega)]
  exact normal_round positive small

theorem unsigned_ofNat (count : Nat) : Unsigned (Float.ofNat count).toModel.unpack := by
  by_cases small : count < 2 ^ 53
  · rw [ofNat_of_small small]
    have one : Normal (-52) (-52) (.finite .positive (2 ^ 52) (-52) (by decide)) :=
      .finite _ le_rfl (by decide) le_rfl le_rfl
    exact ((unsigned_ofUInt64 _).mul one).unpack_pack
  · rw [ofNat_of_large (Nat.not_lt.1 small)]
    exact (unsigned_roundWithAccuracy ..).unpack_pack

theorem normal_ofNat (positive : 0 < count) (held : count < 2 ^ 1023) :
    Normal (-1074) 971 (Float.ofNat count).toModel.unpack := by
  by_cases small : count < 2 ^ 53
  · rw [ofNat_of_small small]
    have rounded := normal_ofUInt64 positive small
    generalize (Float.Model.ofUInt64 count.toUInt64).unpack = number at rounded ⊢
    obtain @⟨mantissa, exponent, positive, enough, fits, low_le, le_high⟩ := rounded
    have bits : (mantissa * 2 ^ 52).log2 < 105 := (Nat.log2_lt (by omega)).2 (by omega)
    have product : Normal (exponent + -52) (exponent + -52 + (mantissa * 2 ^ 52).log2 - 51)
        (.mul .binary64 (.finite .positive mantissa exponent positive)
          (.finite .positive (2 ^ 52) (-52) (by decide))) :=
      normal_roundWithAccuracy (by omega) (by omega)
    exact (product.mono (by omega) (by omega)).unpack_pack le_rfl le_rfl
  · rw [ofNat_of_large (Nat.not_lt.1 small)]
    have bits := log2_lt_of_lt positive held
    have shifted := log2_shiftLeft positive 53
    have enough : 2 ^ 52 ≤ count <<< 53 := by
      rw [Nat.shiftLeft_eq]
      omega
    have rounded := normal_roundWithAccuracy enough (show -1074 ≤ -53 by decide)
    exact (rounded.mono (by decide) (by omega)).unpack_pack le_rfl le_rfl

theorem higher_of_unsigned {score : Float} (unsigned : Unsigned score.toModel.unpack) :
    higher zero score = score := by
  rw [higher]
  split
  · rfl
  · next notAbove =>
    apply unpack_injective
    have origin : (zero : Float).toModel.unpack = .zero .positive := rfl
    rw [float_lt_iff, lt_iff_order, origin] at notAbove
    rw [origin]
    generalize score.toModel.unpack = number at unsigned notAbove ⊢
    cases number with
    | notANumber => contradiction
    | zero sign =>
      cases unsigned
      rfl
    | infinity sign | finite sign mantissa exponent positive =>
      cases unsigned
      exact absurd ⟨by simp, by simp, rfl⟩ notAbove

/-- Floating-point numbers hold every total up to the range that they have. -/
theorem shares_float {total : Nat} (positive : 0 < total) (held : total < 2 ^ 1023) :
    Shares Float total := by
  intro part
  have divided : (ratio part total : Float).toModel =
      .pack (.div .binary64 (Float.ofNat part).toModel.unpack
        (Float.ofNat total).toModel.unpack) := rfl
  apply higher_of_unsigned
  rw [divided]
  exact ((unsigned_ofNat part).div (normal_ofNat positive held)).unpack_pack

end FloatingPoint

end Score

end MailSort
