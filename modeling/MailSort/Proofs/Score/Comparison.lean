import MailSort.Score
import Mathlib.Algebra.Order.Ring.Unbundled.Rat
import Mathlib.Tactic.Linarith

/-! # Comparing scores

Models compare scores with limits, and `Score.Ordered` is what they rely on when they do.  It
holds for rational numbers, and also for floating-point numbers: those that are numbers are in
the lexicographic order of side, exponent and mantissa (`Score.compare_eq`), and the others
compare with nothing.  So a highest score can be found among numbers, which `Score.Total` says.
-/

namespace MailSort

/-- Scores whose comparisons agree with one another and with 0. -/
class Score.Ordered (α : Type) [Score α] : Prop where
  lt_of_lt_of_le {low middle high : α} : low < middle → middle ≤ high → low < high
  not_lt_of_le {low high : α} : low ≤ high → ¬high < low
  /-- No part of a whole is not more than 0. -/
  not_lt_ratio_zero {limit : α} (total : Nat) : Score.zero ≤ limit → ¬limit < Score.ratio 0 total

/-- Scores of which any two can be compared, if both are numbers. -/
class Score.Total (α : Type) [Score α] : Prop extends Score.Ordered α where
  le_refl {score : α} : isNumber score → score ≤ score
  le_trans {low middle high : α} : low ≤ middle → middle ≤ high → low ≤ high
  le_of_lt {low high : α} : low < high → low ≤ high
  lt_of_not_le {low high : α} : isNumber low → isNumber high → ¬high ≤ low → low < high
  isNumber_of_lt {low high : α} : low < high → isNumber low ∧ isNumber high

namespace Score

instance : Ordered Rat where
  lt_of_lt_of_le below reaches := below.trans_le reaches
  not_lt_of_le reaches := reaches.not_gt
  not_lt_ratio_zero := by
    intro limit total nonneg above
    have nothing : (ratio 0 total : Rat) = 0 := by simp [ratio, ofNat]
    have least : (0 : Rat) ≤ limit := nonneg
    rw [nothing] at above
    linarith

instance : Total Rat where
  le_refl _ := le_rfl
  le_trans := fun below above => below.trans above
  le_of_lt := fun below => below.le
  lt_of_not_le _ _ := lt_of_not_ge
  isNumber_of_lt _ := ⟨rfl, rfl⟩

/-! ## Floating-point numbers -/

section FloatingPoint

open Float.Model (UnpackedFloat)

def side : UnpackedFloat → Int
  | .infinity .negative => -2
  | .finite .negative .. => -1
  | .finite .positive .. => 1
  | .infinity .positive => 2
  | .zero _ | .notANumber => 0

/-- The exponent of a number, turned round on the negative side. -/
def exponent : UnpackedFloat → Int
  | .finite .negative _ exponent _ => -exponent
  | .finite .positive _ exponent _ => exponent
  | _ => 0

def mantissa : UnpackedFloat → Int
  | .finite .negative mantissa .. => -mantissa
  | .finite .positive mantissa .. => mantissa
  | _ => 0

def order : UnpackedFloat → UnpackedFloat → Ordering :=
  compareLex (compareOn side) (compareLex (compareOn exponent) (compareOn mantissa))

instance : Std.TransCmp order :=
  inferInstanceAs <| Std.TransCmp <|
    compareLex (compareOn side) (compareLex (compareOn exponent) (compareOn mantissa))

theorem order_eq_then (low high : UnpackedFloat) :
    order low high =
      (compare (side low) (side high)).then
        ((compare (exponent low) (exponent high)).then
          (compare (mantissa low) (mantissa high))) :=
  rfl

theorem compare_neg (first second : Int) : compare (-first) (-second) = compare second first := by
  simp only [compare, compareOfLessAndEq]
  grind

theorem compare_natCast (first second : Nat) :
    compare (first : Int) (second : Int) = compare first second := by
  simp only [compare, compareOfLessAndEq]
  grind

theorem notANumber_compare (high : UnpackedFloat) : UnpackedFloat.notANumber.compare high = none :=
  rfl

theorem compare_notANumber (low : UnpackedFloat) : low.compare .notANumber = none := by
  cases low <;> rfl

/-- Two numbers compare as they are ordered. -/
theorem compare_eq {low high : UnpackedFloat} (isNumber : low ≠ .notANumber)
    (isNumber' : high ≠ .notANumber) : low.compare high = some (order low high) := by
  rw [order_eq_then]
  cases low with
  | notANumber => contradiction
  | infinity sign => cases sign <;> cases high with
    | notANumber => contradiction
    | infinity sign' => cases sign' <;> rfl
    | zero => rfl
    | finite sign' m' e' => cases sign' <;> rfl
  | zero sign => cases high with
    | notANumber => contradiction
    | infinity sign' => cases sign' <;> rfl
    | zero => rfl
    | finite sign' m' e' => cases sign' <;> rfl
  | finite sign m e => cases sign with
    | negative => cases high with
      | notANumber => contradiction
      | infinity sign' => cases sign' <;> rfl
      | zero => rfl
      | finite sign' m' e' => cases sign' with
        | positive => rfl
        | negative =>
          show some ((compare e e').then (compare m m')).swap =
            some ((compare (-e) (-e')).then (compare (-(m : Int)) (-(m' : Int))))
          rw [compare_neg, compare_neg, compare_natCast, Ordering.swap_then, Int.compare_swap,
            Nat.compare_swap]
    | positive => cases high with
      | notANumber => contradiction
      | infinity sign' => cases sign' <;> rfl
      | zero => rfl
      | finite sign' m' e' => cases sign' with
        | negative => rfl
        | positive =>
          show some ((compare e e').then (compare m m')) =
            some ((compare e e').then (compare (m : Int) (m' : Int)))
          rw [compare_natCast]

theorem lt_iff_order (low high : UnpackedFloat) :
    low.lt high ↔ low ≠ .notANumber ∧ high ≠ .notANumber ∧ order low high = .lt := by
  by_cases isNumber : low = .notANumber ∨ high = .notANumber
  · rcases isNumber with rfl | rfl
    · simp [UnpackedFloat.lt, notANumber_compare]
    · simp [UnpackedFloat.lt, compare_notANumber]
  · rw [not_or] at isNumber
    simp [UnpackedFloat.lt, compare_eq isNumber.1 isNumber.2, isNumber]

theorem le_iff_order (low high : UnpackedFloat) :
    low.le high ↔ low ≠ .notANumber ∧ high ≠ .notANumber ∧ (order low high).isLE := by
  by_cases isNumber : low = .notANumber ∨ high = .notANumber
  · rcases isNumber with rfl | rfl
    · simp [UnpackedFloat.le, notANumber_compare]
    · simp [UnpackedFloat.le, compare_notANumber]
  · rw [not_or] at isNumber
    simp [UnpackedFloat.le, compare_eq isNumber.1 isNumber.2, isNumber]

/-- Zero divided by anything is a zero, unless it is not a number. -/
theorem zero_div_eq (total : UnpackedFloat) :
    UnpackedFloat.div .binary64 (.zero .positive) total = .notANumber ∨
      ∃ sign, UnpackedFloat.div .binary64 (.zero .positive) total = .zero sign := by
  cases total with
  | notANumber => exact .inl rfl
  | zero sign => exact .inl rfl
  | infinity sign => exact .inr ⟨_, rfl⟩
  | finite sign m e => exact .inr ⟨_, rfl⟩

theorem unpack_pack_zero (sign : UnpackedFloat.Sign) :
    (Float.Model.pack (.zero sign)).unpack = .zero sign := by
  cases sign <;> rfl

theorem unpack_ratio_zero (total : Nat) :
    (ratio 0 total : Float).toModel.unpack = .notANumber ∨
      ∃ sign, (ratio 0 total : Float).toModel.unpack = .zero sign := by
  have divided : (ratio 0 total : Float).toModel =
      .pack (.div .binary64 (.zero .positive) (ofNat total : Float).toModel.unpack) := rfl
  rw [divided]
  rcases zero_div_eq (ofNat total : Float).toModel.unpack with nothing | ⟨sign, zero⟩
  · rw [nothing]
    exact .inl rfl
  · rw [zero, unpack_pack_zero]
    exact .inr ⟨sign, rfl⟩

theorem float_lt_iff (low high : Float) : low < high ↔ low.toModel.unpack.lt high.toModel.unpack :=
  decide_eq_true_iff

theorem float_le_iff (low high : Float) : low ≤ high ↔ low.toModel.unpack.le high.toModel.unpack :=
  decide_eq_true_iff

instance : Ordered Float where
  lt_of_lt_of_le := by
    intro low middle high below reaches
    obtain ⟨isLow, _, below⟩ := (lt_iff_order _ _).1 ((float_lt_iff low middle).1 below)
    obtain ⟨_, isHigh, reaches⟩ := (le_iff_order _ _).1 ((float_le_iff middle high).1 reaches)
    exact (float_lt_iff low high).2 <| (lt_iff_order _ _).2
      ⟨isLow, isHigh, Std.TransCmp.lt_of_lt_of_isLE below reaches⟩
  not_lt_of_le := by
    intro low high reaches below
    obtain ⟨_, _, reaches⟩ := (le_iff_order _ _).1 ((float_le_iff low high).1 reaches)
    obtain ⟨_, _, below⟩ := (lt_iff_order _ _).1 ((float_lt_iff high low).1 below)
    exact Std.OrientedCmp.not_lt_of_isLE reaches below
  not_lt_ratio_zero := by
    intro limit total nonneg above
    obtain ⟨_, isLimit, nonneg⟩ := (le_iff_order _ _).1 ((float_le_iff zero limit).1 nonneg)
    obtain ⟨_, isNumber, above⟩ := (lt_iff_order _ _).1 ((float_lt_iff limit _).1 above)
    obtain nothing | ⟨sign, same⟩ := unpack_ratio_zero total
    · exact isNumber nothing
    · rw [same] at above
      exact Std.OrientedCmp.not_lt_of_isLE nonneg above

theorem isNumber_iff {score : Float} : isNumber score ↔ score.toModel.unpack ≠ .notANumber := by
  show (!score.toModel.unpack.isNaN) = true ↔ _
  cases score.toModel.unpack with
  | notANumber =>
    exact ⟨fun number => absurd number Bool.false_ne_true, fun other => absurd rfl other⟩
  | zero | infinity | finite => exact ⟨fun _ => nofun, fun _ => rfl⟩

instance : Total Float where
  le_refl := by
    intro score number
    rw [isNumber_iff] at number
    rw [float_le_iff, le_iff_order]
    exact ⟨number, number, Std.ReflCmp.isLE_rfl⟩
  le_trans := by
    intro low middle high below above
    rw [float_le_iff, le_iff_order] at below above ⊢
    exact ⟨below.1, above.2.1, Std.TransCmp.isLE_trans below.2.2 above.2.2⟩
  le_of_lt := by
    intro low high below
    rw [float_lt_iff, lt_iff_order] at below
    rw [float_le_iff, le_iff_order]
    exact ⟨below.1, below.2.1, Ordering.isLE_of_eq_lt below.2.2⟩
  lt_of_not_le := by
    intro low high isLow isHigh notAbove
    rw [isNumber_iff] at isLow isHigh
    rw [float_le_iff, le_iff_order] at notAbove
    rw [float_lt_iff, lt_iff_order]
    exact ⟨isLow, isHigh,
      Std.OrientedCmp.lt_of_not_isLE fun above => notAbove ⟨isHigh, isLow, above⟩⟩
  isNumber_of_lt := by
    intro low high below
    rw [float_lt_iff, lt_iff_order] at below
    exact ⟨isNumber_iff.2 below.1, isNumber_iff.2 below.2.1⟩

end FloatingPoint

end Score

end MailSort
