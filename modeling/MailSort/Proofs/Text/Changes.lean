import MailSort.Proofs.Text.Split

/-! # Changes between two texts

How far two texts are apart is measured by what a common subsequence leaves out of them
(`Text.Within`).  Parts that are put one behind the other are no further apart than all of them
together, and two texts can be cut so that given numbers of changes fall on both sides
(`Text.Within.exists_cut`).  Texts that are not within fewer changes are `Text.Apart`: every common
subsequence leaves out so many characters (`Text.Apart.length_le`).
-/

namespace MailSort

namespace Text

/-- A common subsequence of two texts that leaves out as many of their characters as given, or
    less. -/
structure Shares (shared first second : Text) (changes : Nat) : Prop where
  sublist_first : shared.Sublist first
  sublist_second : shared.Sublist second
  length_le : first.length + second.length ≤ 2 * shared.length + changes

/-- One text can be made of the other by at most the given number of deletions and insertions. -/
def Within (changes : Nat) (first second : Text) : Prop :=
  ∃ shared, Shares shared first second changes

/-- Neither text can be made of the other by fewer deletions and insertions than given. -/
def Apart (changes : Nat) (first second : Text) : Prop :=
  ∀ enough, Within enough first second → changes ≤ enough

variable {shared first second first' second' : Text} {changes changes' : Nat} {c d : Char}

/-! ## Parts and wholes -/

theorem within_length (first second : Text) : Within (first.length + second.length) first second :=
  ⟨[], List.nil_sublist first, List.nil_sublist second, by simp⟩

theorem within_refl (text : Text) : Within 0 text text :=
  ⟨text, List.Sublist.refl text, List.Sublist.refl text, by omega⟩

theorem Shares.append {shared' : Text} (shares : Shares shared first second changes)
    (shares' : Shares shared' first' second' changes') :
    Shares (shared ++ shared') (first ++ first') (second ++ second') (changes + changes') := by
  refine ⟨shares.sublist_first.append shares'.sublist_first,
    shares.sublist_second.append shares'.sublist_second, ?_⟩
  have before := shares.length_le
  have after := shares'.length_le
  simp only [List.length_append]
  omega

namespace Within

theorem append (within : Within changes first second) (within' : Within changes' first' second') :
    Within (changes + changes') (first ++ first') (second ++ second') := by
  obtain ⟨shared, shares⟩ := within
  obtain ⟨shared', shares'⟩ := within'
  exact ⟨shared ++ shared', shares.append shares'⟩

/-- Text that both begin with makes no difference. -/
theorem prepend (within : Within changes first second) (start : Text) :
    Within changes (start ++ first) (start ++ second) := by
  simpa using (within_refl start).append within

theorem symm (within : Within changes first second) : Within changes second first := by
  obtain ⟨shared, inFirst, inSecond, long⟩ := within
  exact ⟨shared, inSecond, inFirst, by omega⟩

theorem reverse (within : Within changes first second) :
    Within changes first.reverse second.reverse := by
  obtain ⟨shared, inFirst, inSecond, long⟩ := within
  refine ⟨shared.reverse, inFirst.reverse, inSecond.reverse, ?_⟩
  simpa using long

theorem cons_first (within : Within changes first second) (c : Char) :
    Within (changes + 1) (c :: first) second := by
  obtain ⟨shared, inFirst, inSecond, long⟩ := within
  refine ⟨shared, inFirst.cons c, inSecond, ?_⟩
  rw [List.length_cons]
  omega

theorem cons_second (within : Within changes first second) (c : Char) :
    Within (changes + 1) first (c :: second) :=
  (within.symm.cons_first c).symm

/-! ## Cutting -/

/-- The first step between two texts: a character is deleted, inserted or kept. -/
theorem first_step (within : Within (changes + 1) first second) :
    first = [] ∧ second = [] ∨
      (∃ c rest, first = c :: rest ∧ Within changes rest second) ∨
      (∃ c rest, second = c :: rest ∧ Within changes first rest) ∨
      ∃ c rest rest', first = c :: rest ∧ second = c :: rest' ∧
        Within (changes + 1) rest rest' := by
  obtain ⟨shared, inFirst, inSecond, long⟩ := within
  cases inFirst with
  | slnil =>
    cases second with
    | nil => exact .inl ⟨rfl, rfl⟩
    | cons d rest =>
      refine .inr (.inr (.inl ⟨d, rest, rfl, [], List.nil_sublist _, List.nil_sublist _, ?_⟩))
      simp only [List.length_cons] at long
      simp only [List.length_nil] at long ⊢
      omega
  | @cons _ rest c inRest =>
    refine .inr (.inl ⟨c, rest, rfl, shared, inRest, inSecond, ?_⟩)
    rw [List.length_cons] at long
    omega
  | @cons_cons shared rest c inRest =>
    cases inSecond with
    | @cons _ rest' d inRest' =>
      refine .inr (.inr (.inl ⟨d, rest', rfl, c :: shared, inRest.cons_cons c, inRest', ?_⟩))
      simp only [List.length_cons] at long ⊢
      omega
    | @cons_cons _ rest' _ inRest' =>
      refine .inr (.inr (.inr ⟨c, rest, rest', rfl, rfl, shared, inRest, inRest', ?_⟩))
      simp only [List.length_cons] at long
      omega

/-- Two texts can be cut so that so many changes come before the cut and the others behind it. -/
theorem exists_cut {before after : Nat} {first second : Text}
    (within : Within (before + after) first second) :
    ∃ start stop start' stop', first = start ++ stop ∧ second = start' ++ stop' ∧
      Within before start start' ∧ Within after stop stop' := by
  cases before with
  | zero =>
    rw [Nat.zero_add] at within
    exact ⟨[], first, [], second, rfl, rfl, within_refl [], within⟩
  | succ before =>
    rw [Nat.add_right_comm] at within
    obtain ⟨rfl, rfl⟩ | ⟨c, rest, rfl, left⟩ | ⟨c, rest, rfl, left⟩ |
      ⟨c, rest, rest', rfl, rfl, left⟩ := within.first_step
    · exact ⟨[], [], [], [], rfl, rfl, ⟨[], .slnil, .slnil, Nat.zero_le _⟩,
        ⟨[], .slnil, .slnil, Nat.zero_le _⟩⟩
    · obtain ⟨start, stop, start', stop', rfl, rfl, near, far⟩ := left.exists_cut
      exact ⟨c :: start, stop, start', stop', rfl, rfl, near.cons_first c, far⟩
    · obtain ⟨start, stop, start', stop', rfl, rfl, near, far⟩ := left.exists_cut
      exact ⟨start, stop, c :: start', stop', rfl, rfl, near.cons_second c, far⟩
    · rw [Nat.add_right_comm] at left
      obtain ⟨start, stop, start', stop', rfl, rfl, near, far⟩ := left.exists_cut
      exact ⟨c :: start, stop, c :: start', stop', rfl, rfl, near.prepend [c], far⟩
termination_by first.length + second.length

end Within

/-! ## Texts that are far apart -/

namespace Apart

theorem zero (first second : Text) : Apart 0 first second :=
  fun enough _ => Nat.zero_le enough

theorem mono (apart : Apart changes' first second) (less : changes ≤ changes') :
    Apart changes first second :=
  fun enough within => Nat.le_trans less (apart enough within)

theorem succ (apart : Apart changes first second) (without : ¬Within changes first second) :
    Apart (changes + 1) first second := by
  intro enough within
  obtain more | same := Nat.lt_or_eq_of_le (apart enough within)
  · exact more
  · exact absurd (same ▸ within) without

theorem reverse (apart : Apart changes first second) :
    Apart changes first.reverse second.reverse := by
  intro enough within
  refine apart enough ?_
  simpa only [List.reverse_reverse] using within.reverse

theorem length_le {shared : Text} (apart : Apart changes first second)
    (inFirst : shared.Sublist first) (inSecond : shared.Sublist second) :
    2 * shared.length + changes ≤ first.length + second.length := by
  have short := inFirst.length_le
  have short' := inSecond.length_le
  have enough := apart (first.length + second.length - 2 * shared.length)
    ⟨shared, inFirst, inSecond, by omega⟩
  omega

end Apart

end Text

end MailSort
