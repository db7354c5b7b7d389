import MailSort.Proofs.SortedMap
import MailSort.Tally

/-! # Counts and their sums

What `add` and `take` do to the counts of a tally, and to the sum of its counts over some of the
keys.  Without entries that count 0 a tally is determined by its counts (`ext_count`).
-/

namespace MailSort

namespace Tally

variable {κ μ : Type}

/-! ## Sums -/

/-- The sum of the counts of the keys with a property. -/
def weigh (p : κ → Bool) : List (κ × Nat) → Nat
  | [] => 0
  | entry :: entries => (if p entry.1 then entry.2 else 0) + weigh p entries

theorem weigh_perm {p : κ → Bool} {first second : List (κ × Nat)} (same : first.Perm second) :
    weigh p first = weigh p second := by
  induction same with
  | nil => rfl
  | cons entry _ ih => rw [weigh, weigh, ih]
  | swap => simp only [weigh, Nat.add_left_comm]
  | trans _ _ ih ih' => exact ih.trans ih'

theorem weigh_eq_zero {p : κ → Bool} {entries : List (κ × Nat)}
    (none : ∀ entry ∈ entries, p entry.1 = false) : weigh p entries = 0 := by
  induction entries with
  | nil => rfl
  | cons entry entries ih =>
    rw [List.forall_mem_cons] at none
    rw [weigh, ih none.2, none.1]
    rfl

theorem weigh_congr {p q : κ → Bool} {entries : List (κ × Nat)}
    (same : ∀ entry ∈ entries, p entry.1 = q entry.1) : weigh p entries = weigh q entries := by
  induction entries with
  | nil => rfl
  | cons entry entries ih =>
    rw [List.forall_mem_cons] at same
    rw [weigh, weigh, same.1, ih same.2]

theorem weigh_pos_iff {p : κ → Bool} {entries : List (κ × Nat)}
    (positive : ∀ entry ∈ entries, 0 < entry.2) :
    0 < weigh p entries ↔ ∃ entry ∈ entries, p entry.1 := by
  induction entries with
  | nil => simp [weigh]
  | cons entry entries ih =>
    rw [List.forall_mem_cons] at positive
    rw [weigh, List.exists_mem_cons_iff, ← ih positive.2]
    by_cases weighed : p entry.1
    · rw [if_pos weighed]
      exact ⟨fun _ => .inl weighed, fun _ => Nat.add_pos_left positive.1 _⟩
    · rw [if_neg weighed, Nat.zero_add]
      exact (or_iff_right weighed).symm

theorem weigh_map_one (p : κ → Bool) (keys : List κ) :
    weigh p (keys.map (·, 1)) = keys.countP p := by
  induction keys with
  | nil => rfl
  | cons key keys ih => rw [List.map_cons, weigh, ih, List.countP_cons, Nat.add_comm]

variable [Ord κ]

/-! ## Counts -/

def Positive (tally : Tally κ) : Prop :=
  ∀ entry ∈ tally.toList, 0 < entry.2

theorem positive_empty : Positive (.empty : Tally κ) :=
  nofun

variable [Std.LawfulEqOrd κ]

theorem Positive.erase {tally : Tally κ} (positive : tally.Positive) (key : κ) :
    Positive (SortedMap.erase tally key) :=
  fun entry member => positive entry (SortedMap.mem_erase.1 member).1

theorem mem_of_count_pos {tally : Tally κ} {key : κ} (seen : 0 < tally.count key) :
    (key, tally.count key) ∈ tally.toList := by
  rw [← SortedMap.get?_eq_some_iff]
  unfold count at *
  cases found : tally.get? key with
  | none => simp [found] at seen
  | some amount => rfl

theorem count_of_mem {tally : Tally κ} {key : κ} {amount : Nat}
    (member : (key, amount) ∈ tally.toList) : tally.count key = amount := by
  rw [count, SortedMap.get?_eq_some_iff.2 member, Option.getD_some]

theorem Positive.contains_iff {tally : Tally κ} (positive : tally.Positive) {key : κ} :
    tally.contains key ↔ 0 < tally.count key := by
  rw [SortedMap.contains, Option.isSome_iff_exists]
  constructor
  · rintro ⟨amount, found⟩
    have member := SortedMap.get?_eq_some_iff.1 found
    rw [count_of_mem member]
    exact positive _ member
  · intro seen
    exact ⟨_, SortedMap.get?_eq_some_iff.2 (mem_of_count_pos seen)⟩

variable [Std.TransOrd κ]

theorem Positive.insert {tally : Tally κ} (positive : tally.Positive) (key : κ) {amount : Nat}
    (some : 0 < amount) : Positive (SortedMap.insert tally key amount) := by
  intro entry member
  rw [(SortedMap.insert_perm tally key amount).mem_iff, List.mem_cons] at member
  obtain rfl | old := member
  · exact some
  · exact positive.erase key entry old

theorem Positive.add {tally : Tally κ} (positive : tally.Positive) (key : κ) (amount : Nat) :
    (tally.add key amount).Positive := by
  unfold Tally.add
  split
  · exact positive
  · exact positive.insert key (by omega)

theorem Positive.take {tally : Tally κ} (positive : tally.Positive) (key : κ) (amount : Nat) :
    (tally.take key amount).Positive := by
  unfold Tally.take
  split
  · exact positive.erase key
  · exact positive.insert key (by omega)

/-- Tallies without entries that count nothing are equal if their counts are. -/
theorem ext_count {first second : Tally κ} (positive : first.Positive)
    (positive' : second.Positive) (same : ∀ key, first.count key = second.count key) :
    first = second := by
  have found {first second : Tally κ} (positive : first.Positive)
      (same : ∀ key, first.count key = second.count key) {key : κ} {amount : Nat}
      (member : (key, amount) ∈ first.toList) : (key, amount) ∈ second.toList := by
    have counted := same key
    rw [count_of_mem member] at counted
    rw [counted]
    exact mem_of_count_pos (counted ▸ positive _ member)
  refine SortedMap.ext_get? fun key => Option.ext fun amount => ?_
  rw [SortedMap.get?_eq_some_iff, SortedMap.get?_eq_some_iff]
  exact ⟨found positive same, found positive' fun key => (same key).symm⟩

/-! ## Adding and taking -/

theorem count_add [DecidableEq κ] (tally : Tally κ) (key other : κ) (amount : Nat) :
    (tally.add key amount).count other =
      tally.count other + if key = other then amount else 0 := by
  unfold Tally.add
  split
  · next nothing => simp [nothing]
  · rw [count, SortedMap.get?_insert]
    split
    · next same => rw [Option.getD_some, same]
    · rfl

theorem count_take [DecidableEq κ] (tally : Tally κ) (key other : κ) (amount : Nat) :
    (tally.take key amount).count other =
      tally.count other - if key = other then amount else 0 := by
  unfold Tally.take
  split
  · next exhausted =>
    rw [count, SortedMap.get?_erase]
    split
    · next same => subst same; simp; omega
    · rfl
  · rw [count, SortedMap.get?_insert]
    split
    · next same => rw [Option.getD_some, same]
    · rfl

theorem weigh_insert (p : κ → Bool) (tally : Tally κ) (key : κ) (amount : Nat) :
    weigh p (SortedMap.insert tally key amount).toList =
      (if p key then amount else 0) + weigh p (SortedMap.erase tally key).toList := by
  rw [weigh_perm (SortedMap.insert_perm tally key amount), weigh]

/-- The sum is what one key adds to it and what the other keys add to it. -/
theorem weigh_eq_add_erase (p : κ → Bool) (tally : Tally κ) (key : κ) :
    weigh p tally.toList =
      (if p key then tally.count key else 0) + weigh p (SortedMap.erase tally key).toList := by
  cases found : tally.get? key with
  | none =>
    have nothing : tally.count key = 0 := by rw [count, found, Option.getD_none]
    rw [SortedMap.erase_eq_self found, nothing, ite_self, Nat.zero_add]
  | some amount =>
    have counted : tally.count key = amount := by rw [count, found, Option.getD_some]
    have inserted := weigh_insert p tally key amount
    rw [SortedMap.insert_eq_self found] at inserted
    rw [inserted, counted]

theorem weigh_eq_count [DecidableEq κ] (tally : Tally κ) (key : κ) :
    weigh (· = key) tally.toList = tally.count key := by
  have others : weigh (· = key) (SortedMap.erase tally key).toList = 0 := by
    refine weigh_eq_zero fun entry kept => ?_
    have other := (SortedMap.mem_erase.1 kept).2
    simp [Ne.symm other]
  rw [weigh_eq_add_erase _ tally key, others]
  simp

theorem weigh_add (p : κ → Bool) (tally : Tally κ) (key : κ) (amount : Nat) :
    weigh p (tally.add key amount).toList =
      weigh p tally.toList + if p key then amount else 0 := by
  unfold Tally.add
  split
  · next nothing => rw [nothing, ite_self, Nat.add_zero]
  · rw [weigh_insert, weigh_eq_add_erase p tally key]
    split <;> omega

theorem weigh_take (p : κ → Bool) (tally : Tally κ) (key : κ) (amount : Nat) :
    weigh p (tally.take key amount).toList =
      weigh p tally.toList - if p key then min amount (tally.count key) else 0 := by
  rw [weigh_eq_add_erase p tally key]
  unfold Tally.take
  split
  · split <;> omega
  · rw [weigh_insert]
    split <;> omega

end Tally

end MailSort
