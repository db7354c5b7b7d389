import Mathlib

/-! # Floating-point numbers without a sign

Rounding to 53 bits keeps two properties of floating-point numbers, and so do packing a number into
a word and unpacking it again.  A number without a sign stays one, though it may become 0 or
infinity (`Unsigned`).  One above 0 with enough bits, and an exponent far enough from the ends of
the range, stays finite and above 0 (`Normal`); each rounding may raise its exponent by one, if it
carries.
-/

namespace MailSort

namespace Score

open Float.Model (UnpackedFloat Format totalExponent)
open Float.Model.UnpackedFloat

/-- What is not below 0: numbers without a sign, infinity among them. -/
def Unsigned : UnpackedFloat → Prop
  | .notANumber => False
  | .infinity sign | .zero sign | .finite sign .. => sign = .positive

/-- Finite numbers above 0 with all bits of their mantissa, and exponents in a range. -/
inductive Normal (low high : Int) : UnpackedFloat → Prop
  | finite {mantissa : Nat} {exponent : Int} (positive : 0 < mantissa)
      (mantissa_ge : 2 ^ 52 ≤ mantissa) (mantissa_lt : mantissa < 2 ^ 53)
      (low_le : low ≤ exponent) (le_high : exponent ≤ high) :
      Normal low high (.finite .positive mantissa exponent positive)

variable {mantissa : Nat} {exponent low high : Int} {first second number : UnpackedFloat}

theorem Normal.mono {lower higher : Int} (normal : Normal low high number) (below : lower ≤ low)
    (above : high ≤ higher) : Normal lower higher number := by
  obtain ⟨positive, enough, fits, low_le, le_high⟩ := normal
  exact .finite positive enough fits (below.trans low_le) (le_high.trans above)

/-! ## Rounding -/

theorem mantissa_shiftRight (extended : ExtendedMantissa) (places : Nat) :
    (extended >>> places).mantissa = extended.mantissa / 2 ^ places := by
  show (places.repeat ExtendedMantissa.shiftRightOne extended).mantissa = _
  induction places with
  | zero => rw [Nat.repeat, Nat.pow_zero, Nat.div_one]
  | succ places ih =>
    rw [Nat.repeat, ExtendedMantissa.shiftRightOne, ih, Nat.div_div_eq_div_mul, Nat.pow_succ]

theorem roundedMantissa_bounds (extended : ExtendedMantissa) :
    extended.mantissa ≤ extended.roundedMantissa ∧
      extended.roundedMantissa ≤ extended.mantissa + 1 := by
  obtain ⟨mantissa, round, sticky⟩ := extended
  cases round <;> cases sticky <;>
    simp [ExtendedMantissa.roundedMantissa, ExtendedMantissa.accuracy, Accuracy.roundToNearestEven]
  omega

theorem fiftyTwo_le_log2 (enough : 2 ^ 52 ≤ mantissa) : 52 ≤ mantissa.log2 :=
  (Nat.le_log2 (by omega)).2 enough

/-- The first 53 bits of a mantissa. -/
theorem leading_bounds (enough : 2 ^ 52 ≤ mantissa) :
    2 ^ 52 ≤ mantissa / 2 ^ (mantissa.log2 - 52) ∧
      mantissa / 2 ^ (mantissa.log2 - 52) < 2 ^ 53 := by
  have bits := fiftyTwo_le_log2 enough
  constructor
  · rw [Nat.le_div_iff_mul_le (Nat.two_pow_pos _), ← Nat.pow_add, Nat.add_sub_cancel' bits]
    exact Nat.log2_self_le (by omega)
  · have all : 53 + (mantissa.log2 - 52) = mantissa.log2 + 1 := by omega
    rw [Nat.div_lt_iff_lt_mul (Nat.two_pow_pos _), ← Nat.pow_add, all]
    exact Nat.lt_log2_self

/-- A mantissa with enough bits is cut down to its first 53. -/
theorem shiftToTargetExponent_bounds (enough : 2 ^ 52 ≤ mantissa) (least : -1074 ≤ exponent) :
    2 ^ 52 ≤ (shiftToTargetExponent .binary64 mantissa exponent .exact).1.mantissa ∧
    (shiftToTargetExponent .binary64 mantissa exponent .exact).1.mantissa < 2 ^ 53 ∧
    (shiftToTargetExponent .binary64 mantissa exponent .exact).2 + 52 =
      exponent + mantissa.log2 := by
  have bits := fiftyTwo_le_log2 enough
  have target : Format.binary64.targetExponent (totalExponent mantissa exponent) =
      exponent + (mantissa.log2 - 52 : Nat) := by
    simp only [Format.targetExponent, totalExponent, Format.mantissaBits, Format.minExponent]
    omega
  have places : (exponent + (mantissa.log2 - 52 : Nat) - exponent).toNat = mantissa.log2 - 52 := by
    omega
  rw [shiftToTargetExponent, target, shiftToExponent, places]
  dsimp only
  rw [mantissa_shiftRight]
  obtain ⟨lower, upper⟩ := leading_bounds enough
  exact ⟨lower, upper, by omega⟩

theorem unsigned_roundWithAccuracy (mantissa : Nat) (exponent : Int) (accuracy : Accuracy) :
    Unsigned (roundWithAccuracy .binary64 .positive mantissa exponent accuracy) := by
  unfold roundWithAccuracy
  dsimp only
  split <;> rfl

theorem normal_roundWithAccuracy (enough : 2 ^ 52 ≤ mantissa) (least : -1074 ≤ exponent) :
    Normal exponent (exponent + mantissa.log2 - 51)
      (roundWithAccuracy .binary64 .positive mantissa exponent .exact) := by
  have bits := fiftyTwo_le_log2 enough
  have cut := shiftToTargetExponent_bounds enough least
  unfold roundWithAccuracy
  generalize shiftToTargetExponent .binary64 mantissa exponent .exact = shifted at cut ⊢
  obtain ⟨extended, place⟩ := shifted
  obtain ⟨lower, upper, placed⟩ := cut
  obtain ⟨down, up⟩ := roundedMantissa_bounds extended
  dsimp only at lower upper placed ⊢
  generalize extended.roundedMantissa = rounded at down up ⊢
  have enough : 2 ^ 52 ≤ rounded := lower.trans down
  have bits := fiftyTwo_le_log2 enough
  -- Rounding up may carry into one more bit, which the second cut takes off.
  have carried : rounded.log2 < 54 := (Nat.log2_lt (by omega)).2 (by omega)
  have cut := shiftToTargetExponent_bounds enough (show -1074 ≤ place by omega)
  generalize shiftToTargetExponent .binary64 rounded place .exact = shifted at cut ⊢
  obtain ⟨extended, last⟩ := shifted
  obtain ⟨lower, upper, placed⟩ := cut
  dsimp only at lower upper placed ⊢
  split
  · omega
  · exact .finite _ lower upper (by omega) (by omega)

/-! ## Products and quotients -/

theorem Unsigned.mul (unsigned : Unsigned first) (normal : Normal low high second) :
    Unsigned (UnpackedFloat.mul .binary64 first second) := by
  cases normal
  cases first with
  | notANumber => contradiction
  | infinity sign | zero sign =>
    cases unsigned
    rfl
  | finite sign mantissa exponent positive =>
    cases unsigned
    exact unsigned_roundWithAccuracy ..

theorem Unsigned.div (unsigned : Unsigned first) (normal : Normal low high second) :
    Unsigned (UnpackedFloat.div .binary64 first second) := by
  cases normal
  cases first with
  | notANumber => contradiction
  | infinity sign | zero sign =>
    cases unsigned
    rfl
  | finite sign mantissa exponent positive =>
    cases unsigned
    exact unsigned_roundWithAccuracy ..

/-! ## Packing -/

theorem sign_packComponents (sign : Sign) (exponent : BitVec 11) (mantissa : BitVec 52) :
    Sign.ofBitVec (unpackSign (packComponents .binary64 sign exponent mantissa)) = sign := by
  have bit : unpackSign (packComponents .binary64 sign exponent mantissa) = sign.toBitVec := by
    show (sign.toBitVec ++ exponent ++ mantissa).extractLsb' 63 1 = sign.toBitVec
    rw [BitVec.extractLsb'_append_eq_of_le (by decide),
      BitVec.extractLsb'_append_eq_of_le (by decide)]
    exact BitVec.extractLsb'_eq_self
  rw [bit]
  cases sign <;> rfl

theorem unsigned_unpack_packComponents {exponent : BitVec 11} (finite : exponent ≠ -1#11)
    (mantissa : BitVec 52) :
    Unsigned (unpack .binary64 (packComponents .binary64 .positive exponent mantissa)) := by
  unfold UnpackedFloat.unpack
  simp only [unpackMantissa_packComponents, unpackExponent_packComponents, sign_packComponents]
  rw [if_neg finite]
  split
  · split <;> rfl
  · rfl

theorem normal_unpack_packComponents {exponent : BitVec 11} (finite : exponent ≠ -1#11)
    (large : exponent ≠ 0#11) (mantissa : BitVec 52) :
    Normal (exponent.toNat - 1075) (exponent.toNat - 1075)
      (unpack .binary64 (packComponents .binary64 .positive exponent mantissa)) := by
  unfold UnpackedFloat.unpack
  simp only [unpackMantissa_packComponents, unpackExponent_packComponents, sign_packComponents]
  rw [if_neg finite, if_neg large]
  have enough : 2 ^ 52 ≤ (1#1 ++ mantissa).toNat := by
    rw [BitVec.toNat_append]
    exact Nat.left_le_or
  exact .finite _ enough (1#1 ++ mantissa).isLt le_rfl le_rfl

theorem ofNat_ne_allOnes {exponent : Nat} (small : exponent + 1 < 2048) :
    BitVec.ofNat 11 exponent ≠ -1#11 := by
  intro same
  have bits : exponent % 2048 = 2047 := congrArg BitVec.toNat same
  omega

theorem Unsigned.unpack_pack (unsigned : Unsigned number) :
    Unsigned (Float.Model.pack number).unpack := by
  show Unsigned (unpack .binary64 (pack .binary64 number))
  cases number with
  | notANumber => contradiction
  | infinity sign | zero sign =>
    cases unsigned
    rfl
  | finite sign mantissa exponent positive =>
    cases unsigned
    unfold UnpackedFloat.pack
    dsimp only
    split
    · rfl
    · next inside =>
      split
      · exact unsigned_unpack_packComponents (ofNat_ne_allOnes (Nat.not_le.1 inside)) _
      · exact unsigned_unpack_packComponents (by decide) _

theorem Normal.unpack_pack (normal : Normal low high number) (least : -1074 ≤ low)
    (most : high ≤ 971) : Normal low high (Float.Model.pack number).unpack := by
  show Normal low high (unpack .binary64 (pack .binary64 number))
  obtain @⟨mantissa, exponent, positive, lower, upper, low_le, le_high⟩ := normal
  have bits : mantissa.log2 + 1 = Format.binary64.mantissaBits := by
    rw [(Nat.log2_eq_iff positive.ne').2 ⟨lower, upper⟩]
    rfl
  have biased : (exponent + Format.binary64.exponentBias +
      Format.binary64.mantissaBitsWithoutImplicit).toNat = (exponent + 1075).toNat := by
    show (exponent + 1023 + 52).toNat = _
    omega
  have fits : ¬ 2 ^ Format.binary64.exponentBits ≤ (exponent + 1075).toNat + 1 := by
    show ¬ 2048 ≤ _
    omega
  simp only [pack, biased, if_neg fits, if_pos bits]
  have held : (BitVec.ofNat 11 (exponent + 1075).toNat).toNat = (exponent + 1075).toNat := by
    rw [BitVec.toNat_ofNat]
    omega
  have finite := ofNat_ne_allOnes (Nat.not_le.1 fits)
  have large : BitVec.ofNat 11 (exponent + 1075).toNat ≠ 0#11 := by
    intro same
    rw [same, BitVec.toNat_zero] at held
    omega
  exact (normal_unpack_packComponents finite large _).mono (by omega) (by omega)

end Score

end MailSort
