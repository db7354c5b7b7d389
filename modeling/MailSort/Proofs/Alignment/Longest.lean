import MailSort.Proofs.Alignment.Meeting
import MailSort.Proofs.Alignment.Settling
import Mathlib.Order.Bounds.Defs

/-! # Alignments keep as much as possible

No script from one text to another keeps more than their alignment does: its shared runs are
together as long as a longest common subsequence (`EditScript.sharedLength_between_isGreatest`).

The script is made from the outside in.  What two texts share at either end belongs to a longest
common subsequence, and so does what a longest one of either part keeps if the texts are cut at a
point of a shortest path.  Texts that differ at both ends are at least two changes apart
(`Text.DifferAtEnds.apart_two`), so the cut has characters on both sides and the texts are always
cut further.
-/

namespace MailSort

namespace Text

variable {first second : Text} {most most' : Nat}

def SharesAtMost (most : Nat) (first second : Text) : Prop :=
  ∀ shared : Text, shared.Sublist first → shared.Sublist second → shared.length ≤ most

namespace SharesAtMost

theorem nil_first (most : Nat) (second : Text) : SharesAtMost most [] second := by
  intro shared inFirst _
  rw [List.sublist_nil.1 inFirst]
  exact Nat.zero_le most

theorem nil_second (most : Nat) (first : Text) : SharesAtMost most first [] :=
  fun shared inFirst inSecond => nil_first most first shared inSecond inFirst

theorem prepend (shares : SharesAtMost most first second) (start : Text) :
    SharesAtMost (start.length + most) (start ++ first) (start ++ second) := by
  intro shared inFirst inSecond
  have rest := inFirst.drop start.length
  have rest' := inSecond.drop start.length
  rw [List.drop_left] at rest rest'
  have short := shares _ rest rest'
  rw [List.length_drop] at short
  omega

theorem reverse (shares : SharesAtMost most first second) :
    SharesAtMost most first.reverse second.reverse := by
  intro shared inFirst inSecond
  have short := shares shared.reverse (by simpa using inFirst.reverse)
    (by simpa using inSecond.reverse)
  rwa [List.length_reverse] at short

theorem append (shares : SharesAtMost most first second) (stop : Text) :
    SharesAtMost (most + stop.length) (first ++ stop) (second ++ stop) := by
  have whole := (shares.reverse.prepend stop.reverse).reverse
  simpa [Nat.add_comm] using whole

/-- Two parts bound the whole if they are together as far apart as the whole is. -/
theorem of_splits {column row before after : Nat}
    (splits : Frontier.Splits first second column row before after)
    (apart : Apart (before + after) first second)
    (shares : SharesAtMost most (first.take column) (second.take row))
    (shares' : SharesAtMost most' (first.drop column) (second.drop row)) :
    SharesAtMost (most + most') first second := by
  intro shared inFirst inSecond
  have all := apart.length_le inFirst inSecond
  obtain ⟨part, inPart, inPart', long⟩ := splits.before
  obtain ⟨rest, inRest, inRest', long'⟩ := splits.after
  have few := shares part inPart inPart'
  have few' := shares' rest inRest inRest'
  have column_le := splits.column_le
  have row_le := splits.row_le
  simp only [List.length_take, List.length_drop] at long long'
  omega

end SharesAtMost

/-! ## Texts that differ at both ends -/

structure DifferAtEnds (first second : Text) : Prop where
  heads_ne : ∀ c, first.head? = some c → second.head? ≠ some c
  lasts_ne : ∀ c, first.getLast? = some c → second.getLast? ≠ some c

namespace DifferAtEnds

theorem symm (differ : DifferAtEnds first second) : DifferAtEnds second first where
  heads_ne c head head' := differ.heads_ne c head' head
  lasts_ne c last last' := differ.lasts_ne c last' last

/-- A text that is inside of another one and not at either end of it is shorter by two. -/
theorem length_add_two_le (differ : DifferAtEnds first second) (nonempty : first ≠ [])
    (inside : first.Sublist second) : first.length + 2 ≤ second.length := by
  cases inside with
  | slnil => contradiction
  | @cons _ rest c inRest =>
    rw [List.length_cons]
    by_contra long
    -- Without a character between its end and the other's, both would end alike.
    obtain rfl := inRest.eq_of_length_le (by omega)
    obtain ⟨d, last⟩ := Option.isSome_iff_exists.1 (List.getLast?_isSome.2 nonempty)
    refine differ.lasts_ne d last ?_
    rw [List.getLast?_cons, last]
    rfl
  | @cons_cons rest rest' c _ => exact absurd rfl (differ.heads_ne c rfl)

theorem apart_two (differ : DifferAtEnds first second) (nonempty : first ≠ [])
    (nonempty' : second ≠ []) : Apart 2 first second := by
  rintro enough ⟨shared, inFirst, inSecond, long⟩
  by_contra few
  have short := inFirst.length_le
  have short' := inSecond.length_le
  -- With one change only, one of the texts would be the common subsequence.
  obtain all | all : first.length ≤ shared.length ∨ second.length ≤ shared.length := by omega
  · obtain rfl := inFirst.eq_of_length_le all
    have longer := differ.length_add_two_le nonempty inSecond
    omega
  · obtain rfl := inSecond.eq_of_length_le all
    have longer := differ.symm.length_add_two_le nonempty' inFirst
    omega

end DifferAtEnds

/-- Without what they share at their ends, two texts differ there. -/
theorem differAtEnds_of_split (first second : Text) :
    DifferAtEnds
      (splitSuffix (splitPrefix first second).2.1 (splitPrefix first second).2.2).2.1
      (splitSuffix (splitPrefix first second).2.1 (splitPrefix first second).2.2).2.2 := by
  refine ⟨fun c head head' => ?_, fun c => getLast?_splitSuffix_ne⟩
  -- What is taken off behind a character does not change which one is first.
  have first_head : (splitPrefix first second).2.1.head? = some c := by
    rw [← splitSuffix_append_first (splitPrefix first second).2.1 (splitPrefix first second).2.2,
      List.head?_append, head]
    rfl
  have second_head : (splitPrefix first second).2.2.head? = some c := by
    rw [← splitSuffix_append_second (splitPrefix first second).2.1 (splitPrefix first second).2.2,
      List.head?_append, head']
    rfl
  exact head?_splitPrefix_ne first_head second_head

end Text

namespace EditScript

open Text (SharesAtMost Apart)

variable {first second : Text}

/-! ## Cutting -/

/-- Texts that are at least two changes apart are cut at a point of a shortest path. -/
theorem exists_cut? (apart : Apart 2 first second) :
    ∃ cut, cut? first second = some cut ∧ Frontier.Halves first second cut.column cut.row := by
  obtain ⟨column, row, found, halves⟩ := Frontier.exists_split? first second
  obtain ⟨pos, lt_length⟩ := halves.proper apart
  have inside := halves.inside
  refine ⟨⟨column, row, inside.1, inside.2, pos, lt_length⟩, ?_, halves⟩
  simp only [cut?, found]
  rw [dif_pos ⟨inside, pos, lt_length⟩]

/-! ## The script -/

/-- No common subsequence is longer than what a shortest script keeps. -/
theorem sharesAtMost_shortest (first second : Text) :
    SharesAtMost (shortest first second).keptText.length first second := by
  fun_induction shortest first second with
  | case1 first second start stop middle ihLeft ihRight =>
    have inner : SharesAtMost (keptText middle).length stop.2.1 stop.2.2 := by
      unfold middle
      split
      · next empty =>
        rw [empty.1]
        exact .nil_first _ _
      · split
        · next empty =>
          rw [empty]
          exact .nil_second _ _
        · split
          · next empty =>
            rw [empty]
            exact .nil_first _ _
          · next some' some =>
            have apart := (Text.differAtEnds_of_split first second).apart_two some some'
            obtain ⟨cut, found, before, after, splits, together, -⟩ := exists_cut? apart
            -- There is a cut, so both parts are as good as can be.
            split
            · next other found' =>
              rw [found] at found'
              cases found'
              rw [keptText_append, List.length_append]
              exact .of_splits splits together (ihLeft cut) (ihRight cut)
            · next none =>
              rw [found] at none
              contradiction
    have whole := (inner.append stop.1).prepend start.1
    simpa [start, stop] using whole

/-- The shared runs of an alignment are together as long as a longest common subsequence of the
    texts. -/
theorem sharedLength_between_isGreatest (first second : Text) :
    IsGreatest
      {length | ∃ shared : Text, shared.Sublist first ∧ shared.Sublist second ∧
        shared.length = length}
      ((between first second).sharedLength 1) := by
  rw [sharedLength_one]
  constructor
  · -- What is kept is part of both texts.
    have inFirst := keptText_sublist_source (between first second)
    have inSecond := keptText_sublist_target (between first second)
    rw [(between_leads first second).source_eq] at inFirst
    rw [(between_leads first second).target_eq] at inSecond
    exact ⟨_, inFirst, inSecond, rfl⟩
  · rintro length ⟨shared, inFirst, inSecond, rfl⟩
    rw [keptText_between]
    exact sharesAtMost_shortest first second shared inFirst inSecond

/-- The alignment keeps `c`, `b` and `ba`. -/
example : (between "abcabba".toList "cbabac".toList).sharedLength 1 = 4 := by decide +kernel

end EditScript

end MailSort
