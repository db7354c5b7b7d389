import MailSort.Sliding.Overlap
import Mathlib.Data.List.Infix
import Mathlib.Order.Bounds.Basic

/-! # Equal positions

Two texts that are slid along each other have the same character at some positions.  How many, at
any offset whatever, is `Overlap.equalPositions`; an overlap counts them in what both texts have
behind its beginning (`Overlap.agreements_drop`).  There are as many as the shorter text has
characters just when one text contains the other (`Overlap.exists_equalPositions_eq_iff`).
-/

namespace MailSort

def Text.at? (text : Text) : Int → Option Char
  | .ofNat position => text[position]?
  | .negSucc _ => none

namespace Text

variable {position : Int}

theorem at?_of_neg (text : Text) (before : position < 0) : text.at? position = none := by
  cases position with
  | ofNat position => exact absurd before (Int.not_lt.2 (Int.natCast_nonneg position))
  | negSucc position => rfl

theorem at?_nil (position : Int) : Text.at? [] position = none := by
  cases position <;> rfl

theorem at?_cons (c : Char) (text : Text) (inside : 0 ≤ position) :
    Text.at? (c :: text) (position + 1) = text.at? position := by
  cases position with
  | ofNat position => rfl
  | negSucc position => exact absurd inside (Int.not_le.2 (Int.negSucc_lt_zero position))

end Text

namespace Overlap

/-- At how many positions of the first text the second one has the same character if it begins at
    an offset. -/
def equalPositions (first second : Text) (offset : Int) : Nat :=
  (List.range first.length).countP fun i : Nat => first[i]? = second.at? (i - offset)

variable {first second : Text} {offset : Int}

/-! ## From the beginning -/

@[simp] theorem agreements_nil_left (second : Text) : agreements [] second = 0 := rfl

@[simp] theorem agreements_nil_right (first : Text) : agreements first [] = 0 := by
  cases first <;> rfl

@[simp] theorem agreements_cons (c d : Char) (first second : Text) :
    agreements (c :: first) (d :: second) = (if c = d then 1 else 0) + agreements first second :=
  rfl

theorem agreements_comm (first second : Text) :
    agreements first second = agreements second first := by
  induction first generalizing second with
  | nil => simp
  | cons c first ih =>
    cases second with
    | nil => rfl
    | cons d second => simp [ih second, eq_comm]

theorem agreements_le_length (first second : Text) : agreements first second ≤ second.length := by
  induction second generalizing first with
  | nil => simp
  | cons d second ih =>
    cases first with
    | nil => simp
    | cons c first =>
      have later := ih first
      rw [agreements_cons, List.length_cons]
      split <;> omega

/-- A text has the same character at each of its positions only as what begins with it. -/
theorem agreements_eq_length_iff : agreements first second = second.length ↔ second <+: first := by
  induction second generalizing first with
  | nil => simp
  | cons d second ih =>
    cases first with
    | nil => simp
    | cons c first =>
      have room := agreements_le_length first second
      rw [agreements_cons, List.length_cons, List.cons_prefix_cons, ← ih]
      by_cases same : c = d
      · rw [if_pos same, and_iff_right same.symm]
        omega
      · have short : 0 + agreements first second ≠ second.length + 1 := by omega
        rw [if_neg same, iff_false_intro short, false_iff]
        exact fun both => same both.1.symm

/-! ## From any offset -/

theorem equalPositions_nil_right (first : Text) (offset : Int) :
    equalPositions first [] offset = 0 := by
  apply List.countP_eq_zero.2
  intro i inside
  rw [Text.at?_nil, List.getElem?_eq_getElem (List.mem_range.1 inside)]
  simp

/-- The first character of the first text has an equal one where the second text has it, and the
    others lie one further to the left from there. -/
theorem equalPositions_cons_left (c : Char) (first second : Text) (offset : Int) :
    equalPositions (c :: first) second offset =
      (if second.at? (-offset) = some c then 1 else 0) +
        equalPositions first second (offset - 1) := by
  have moved (i : Nat) : (i : Int) + 1 - offset = i - (offset - 1) := by omega
  rw [equalPositions, List.length_cons, List.range_succ_eq_map, List.countP_cons, List.countP_map,
    Nat.add_comm, equalPositions]
  simp [Function.comp_def, moved, eq_comm]

/-- What lies in front of the first text has no equal characters. -/
theorem equalPositions_cons_right (first : Text) (d : Char) (second : Text) (before : offset < 0) :
    equalPositions first (d :: second) offset = equalPositions first second (offset + 1) := by
  apply List.countP_congr
  intro i _
  have moved : (i : Int) - offset = i - (offset + 1) + 1 := by omega
  rw [moved, Text.at?_cons d second (by omega)]

theorem equalPositions_zero (first second : Text) :
    equalPositions first second 0 = agreements first second := by
  induction first generalizing second with
  | nil => rfl
  | cons c first ih =>
    cases second with
    | nil => exact equalPositions_nil_right _ 0
    | cons d second =>
      rw [equalPositions_cons_left, equalPositions_cons_right first d second (by decide),
        agreements_cons, ← ih second]
      simp [Text.at?, eq_comm]

theorem agreements_drop_left (first second : Text) (shift : Nat) :
    agreements (first.drop shift) second = equalPositions first second shift := by
  induction shift generalizing first with
  | zero => exact (equalPositions_zero first second).symm
  | succ shift ih =>
    cases first with
    | nil => rfl
    | cons c first =>
      have outside : second.at? (-(shift + 1 : Nat)) = none := Text.at?_of_neg second (by omega)
      have moved : ((shift + 1 : Nat) : Int) - 1 = shift := by omega
      rw [List.drop_succ_cons, ih, equalPositions_cons_left, outside, moved]
      simp

theorem agreements_drop_right (first second : Text) (shift : Nat) :
    agreements first (second.drop shift) = equalPositions first second (-shift) := by
  induction shift generalizing second with
  | zero => exact (equalPositions_zero first second).symm
  | succ shift ih =>
    cases second with
    | nil => rw [List.drop_nil, agreements_nil_right, equalPositions_nil_right]
    | cons d second =>
      have moved : -((shift + 1 : Nat) : Int) + 1 = -shift := by omega
      rw [List.drop_succ_cons, ih, equalPositions_cons_right first d second (by omega), moved]

/-- What is left of two texts from the beginning of their overlap agrees at the positions at which
    the texts do. -/
theorem agreements_drop (first second : Text) (offset : Int) :
    agreements (first.drop offset.toNat) (second.drop (-offset).toNat) =
      equalPositions first second offset := by
  obtain ⟨shift, rfl | rfl⟩ := offset.eq_nat_or_neg
  · simpa using agreements_drop_left first second shift
  · simpa using agreements_drop_right first second shift

theorem equalPositions_comm (first second : Text) (offset : Int) :
    equalPositions second first (-offset) = equalPositions first second offset := by
  rw [← agreements_drop, ← agreements_drop, Int.neg_neg, agreements_comm]

/-- There are no more equal positions than characters in what is left of either text. -/
theorem equalPositions_le_left (first second : Text) (offset : Int) :
    equalPositions first second offset ≤ first.length - offset.toNat ∧
      equalPositions first second offset ≤ second.length - (-offset).toNat := by
  rw [← agreements_drop, ← List.length_drop, ← List.length_drop]
  constructor
  · rw [agreements_comm]
    exact agreements_le_length ..
  · exact agreements_le_length ..

theorem equalPositions_le (first second : Text) (offset : Int) :
    equalPositions first second offset ≤ shorterLength first second := by
  have left := equalPositions_le_left first second offset
  rw [shorterLength]
  omega

/-- Texts that do not overlap have no equal positions. -/
theorem overlaps_of_equalPositions_pos (some : 0 < equalPositions first second offset) :
    -(second.length : Int) < offset ∧ offset < first.length := by
  have left := equalPositions_le_left first second offset
  omega

/-! ## Containment -/

theorem exists_equalPositions_eq_length_iff (first second : Text) :
    (∃ offset, equalPositions first second offset = second.length) ↔ second <:+: first := by
  constructor
  · rintro ⟨offset, full⟩
    have right := (equalPositions_le_left first second offset).2
    rw [full, ← List.length_drop] at right
    rw [← agreements_drop] at full
    -- Nothing of the second text lies in front of the first one.
    have whole : second.drop (-offset).toNat = second :=
      (List.drop_suffix _ second).eq_of_length_le right
    rw [whole, agreements_eq_length_iff] at full
    exact full.isInfix.trans (List.drop_suffix _ first).isInfix
  · rintro ⟨before, after, rfl⟩
    exists before.length
    rw [← agreements_drop_left, agreements_eq_length_iff, List.append_assoc, List.drop_left]
    exact List.prefix_append second after

theorem infix_or_iff (shorter : second.length ≤ first.length) :
    first <:+: second ∨ second <:+: first ↔ second <:+: first := by
  apply or_iff_right_of_imp
  intro inside
  rw [inside.eq_of_length_le shorter]

/-- One text contains the other if all characters of the shorter one have equal ones somewhere, and
    only then. -/
theorem exists_equalPositions_eq_iff (first second : Text) :
    (∃ offset, equalPositions first second offset = shorterLength first second) ↔
      first <:+: second ∨ second <:+: first := by
  rw [shorterLength]
  obtain shorter | shorter := Nat.le_total second.length first.length
  · rw [Nat.min_eq_right shorter, infix_or_iff shorter, exists_equalPositions_eq_length_iff]
  · rw [Nat.min_eq_left shorter, or_comm, infix_or_iff shorter,
      ← exists_equalPositions_eq_length_iff]
    constructor
    · rintro ⟨offset, full⟩
      exact ⟨-offset, (equalPositions_comm first second offset).trans full⟩
    · rintro ⟨offset, full⟩
      exact ⟨-offset, (equalPositions_comm second first offset).trans full⟩

end Overlap

end MailSort
