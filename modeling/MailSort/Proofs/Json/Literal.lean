import MailSort.Json.Parser
import Mathlib.Data.List.TakeDrop

/-! # Reading literals

A string is read from the literal it is quoted as, and a count from its digits.
-/

namespace MailSort

namespace Json

namespace Piece

theorem hexNumber?_control (code : Nat) (control : code < 0x20) :
    hexNumber? ['0', '0', Nat.digitChar (code / 16), Nat.digitChar (code % 16)] = some code := by
  revert code
  decide

/-! ## Characters -/

theorem read?_plain {c : Char} (plain : isPlain c) (rest : Text) :
    read? (c :: rest) = (read? rest).map fun (pieces, rest) => (.char c :: pieces, rest) := by
  have quote : c ≠ '"' := by rintro rfl; contradiction
  have slash : c ≠ '\\' := by rintro rfl; contradiction
  rw [read? ]
  · rw [if_pos plain]
  all_goals simp_all

theorem read?_named {c name : Char} (other : name ≠ 'u') (stands : escaped? name = some c)
    (rest : Text) : read? ('\\' :: name :: rest) =
      (read? rest).map fun (pieces, rest) => (.char c :: pieces, rest) := by
  rw [read?]
  · rw [stands]
    cases read? rest <;> rfl
  · simp_all

theorem read?_control {c : Char} (control : c.toNat < 0x20) (rest : Text) :
    read? ('\\' :: 'u' :: '0' :: '0' :: Nat.digitChar (c.toNat / 16) ::
        Nat.digitChar (c.toNat % 16) :: rest) =
      (read? rest).map fun (pieces, rest) => (.unit c.toNat :: pieces, rest) := by
  rw [read?, hexNumber?_control _ control]
  cases read? rest <;> rfl

theorem text?_char (c : Char) (pieces : List Piece) :
    text? (.char c :: pieces) = (text? pieces).map (c :: ·) := by
  rw [text?]

theorem text?_control {c : Char} (control : c.toNat < 0x20) (pieces : List Piece) :
    text? (.unit c.toNat :: pieces) = (text? pieces).map (c :: ·) := by
  have high : isHigh c.toNat = false := by simp [isHigh]; omega
  have low : isLow c.toNat = false := by simp [isLow]; omega
  cases pieces with
  | nil => simp [text?, high, low]
  | cons piece pieces => cases piece <;> simp [text?, high, low]

/-- Every character is written as what is read as one piece, which stands for it. -/
theorem exists_piece (c : Char) :
    ∃ piece, (∀ rest, read? (escape c ++ rest) =
        (read? rest).map fun (pieces, rest) => (piece :: pieces, rest)) ∧
      ∀ pieces, text? (piece :: pieces) = (text? pieces).map (c :: ·) := by
  unfold escape
  split
  case h_8 =>
    split
    · next control => exact ⟨.unit c.toNat, read?_control control, text?_control control⟩
    · next visible =>
      have plain : isPlain c := by simp_all [isPlain]
      exact ⟨.char c, read?_plain plain, text?_char c⟩
  -- The others have a name.
  all_goals exact ⟨.char _, read?_named (by decide) rfl, text?_char _⟩

/-! ## Texts -/

theorem exists_pieces (text rest : Text) :
    ∃ pieces, read? (text.flatMap escape ++ '"' :: rest) = some (pieces, rest) ∧
      text? pieces = some text := by
  induction text with
  | nil => exact ⟨[], by simp [read?], rfl⟩
  | cons c text ih =>
    obtain ⟨piece, read, stands⟩ := exists_piece c
    obtain ⟨pieces, readRest, standsRest⟩ := ih
    refine ⟨piece :: pieces, ?_, ?_⟩
    · rw [List.flatMap_cons, List.append_assoc, read, readRest, Option.map_some]
    · rw [stands, standsRest, Option.map_some]

end Piece

theorem exists_renderString (text? : Option Text) :
    ∃ body, renderString text? = '"' :: body ∧
      ∀ rest, readString? (body ++ rest) = some (text?, rest) := by
  cases text? with
  | none => exact ⟨"\\ud800\"".toList, rfl, fun rest => rfl⟩
  | some text =>
    refine ⟨text.flatMap escape ++ ['"'], rfl, fun rest => ?_⟩
    obtain ⟨pieces, read, stands⟩ := Piece.exists_pieces text rest
    rw [List.append_assoc, List.singleton_append]
    simp only [readString?, read, Option.map_some, stands]

/-! ## Counts -/

inductive Closing : Text → Prop where
  | nil : Closing []
  | comma (rest : Text) : Closing (',' :: rest)
  | bracket (rest : Text) : Closing (']' :: rest)
  | brace (rest : Text) : Closing ('}' :: rest)

variable {rest : Text}

theorem splitDigits_append {digits : Text} (all : ∀ c ∈ digits, c.isDigit)
    (closing : Closing rest) :
    splitDigits (digits ++ rest) = (digits, rest) := by
  have stop : rest.takeWhile Char.isDigit = [] ∧ rest.dropWhile Char.isDigit = rest := by
    cases closing <;> exact ⟨rfl, rfl⟩
  rw [splitDigits, List.span_eq_takeWhile_dropWhile, List.takeWhile_append_of_pos all,
    List.dropWhile_append_of_pos all, stop.1, stop.2, List.append_nil]

theorem isDigit_of_mem_ofCount {count : Nat} {c : Char} (member : c ∈ Text.ofCount count) :
    c.isDigit :=
  Nat.isDigit_of_mem_toDigits (by decide) (by decide) member

theorem exists_ofCount_eq_cons (count : Nat) :
    ∃ c digits, Text.ofCount count = c :: digits ∧ c.isDigit := by
  obtain ⟨c, digits, written⟩ :=
    List.exists_cons_of_ne_nil (Nat.toDigits_ne_nil (n := count) (b := 10))
  exact ⟨c, digits, written, isDigit_of_mem_ofCount (written ▸ List.mem_cons_self)⟩

/-- Only 0 is written with a zero in front. -/
theorem eq_nil_of_ofCount_eq_zero_cons {count : Nat} {digits : Text}
    (written : Text.ofCount count = '0' :: digits) : digits = [] := by
  unfold Text.ofCount at written
  induction count using Nat.strongRecOn generalizing digits with
  | ind count ih =>
    rw [Nat.toDigits_eq_if (by decide)] at written
    split at written
    · exact (List.cons.inj written).2.symm
    · next large =>
      obtain ⟨higher, below⟩ : ∃ higher, Nat.toDigits 10 (count / 10) = '0' :: higher := by
        cases digits' : Nat.toDigits 10 (count / 10) with
        | nil => exact absurd digits' Nat.toDigits_ne_nil
        | cons c higher =>
          rw [digits', List.cons_append] at written
          exact ⟨higher, by rw [(List.cons.inj written).1]⟩
      have none := ih (count / 10) (by omega) below
      subst none
      have zero : count / 10 = 0 := by
        rw [← Nat.ofDigitChars_ten_toDigits (n := count / 10), below]
        rfl
      omega

theorem splitWhole?_ofCount (count : Nat) (closing : Closing rest) :
    splitWhole? (Text.ofCount count ++ rest) = some (Text.ofCount count, rest) := by
  unfold splitWhole?
  split
  · next tail same =>
    obtain ⟨c, digits, written, -⟩ := exists_ofCount_eq_cons count
    rw [written, List.cons_append] at same
    obtain ⟨rfl, rfl⟩ := List.cons.inj same
    rw [written, eq_nil_of_ofCount_eq_zero_cons written, List.nil_append]
  · rw [splitDigits_append (fun _ => isDigit_of_mem_ofCount) closing]
    exact if_neg Nat.toDigits_ne_nil

theorem splitNumber?_ofCount (count : Nat) (closing : Closing rest) :
    splitNumber? (Text.ofCount count ++ rest) = some (Text.ofCount count, rest) := by
  obtain ⟨c, digits, written, digit⟩ := exists_ofCount_eq_cons count
  have unsigned : c ≠ '-' := by rintro rfl; contradiction
  have whole := splitWhole?_ofCount count closing
  have fraction : splitFraction rest = ([], rest) := by cases closing <;> rfl
  have exponent : splitExponent rest = ([], rest) := by cases closing <;> rfl
  rw [written, List.cons_append] at whole ⊢
  simp [splitNumber?, unsigned, whole, fraction, exponent]

theorem toCount?_ofCount {count : Nat} (bounded : count ≤ Text.largestCount) :
    Text.toCount? (Text.ofCount count) = some count := by
  have digits : Text.ofCount count ≠ [] ∧ (Text.ofCount count).all Char.isDigit :=
    ⟨Nat.toDigits_ne_nil, List.all_eq_true.2 fun _ => isDigit_of_mem_ofCount⟩
  have value : Nat.ofDigitChars 10 (Text.ofCount count) 0 = count := Nat.ofDigitChars_ten_toDigits
  unfold Text.toCount?
  rw [if_pos digits, value]
  exact if_pos bounded

end Json

end MailSort
