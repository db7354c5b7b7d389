import MailSort.Proofs.Sliding.Histogram
import MailSort.Proofs.Sliding.Search

/-! # The best overlap

Of two overlaps that are equally good the one further to the left is kept, as it comes first.  So
the best overlap is the first one in an order without ties (`Overlap.Ahead`), and it is known by
what it is and not by how it was found: no offset has more equal positions, and none with as many
lies closer (`Overlap.exists_optimal`).  Hence it does not matter which of two texts is slid along
the other (`Overlap.Optimal.swap`).
-/

namespace MailSort

namespace Overlap

variable {first second : Text} {overlap held next best back : Overlap} {offset : Int}

/-! ## An order without ties -/

/-- An overlap that misses less than another, or as much with less of a shift, or as much with as
    much of a shift to the left. -/
def Ahead (overlap other : Overlap) : Prop :=
  overlap.missed < other.missed ∨ overlap.missed = other.missed ∧
    (overlap.offset.natAbs < other.offset.natAbs ∨
      overlap.offset.natAbs = other.offset.natAbs ∧ overlap.offset < other.offset)

instance : DecidableRel Ahead :=
  fun _ _ => inferInstanceAs (Decidable (_ ∨ _))

/-- One that comes later is better only if it is ahead. -/
theorem isBetter_iff_ahead (later : held.offset < next.offset) :
    next.isBetter held ↔ Ahead next held := by
  simp only [isBetter, Ahead, Bool.or_eq_true, Bool.and_eq_true, decide_eq_true_eq]
  omega

theorem ranked_ahead (first second : Text) :
    Ranked Ahead ((offsets first second).map (ofOffset first second)) where
  irrefl overlap ahead := by
    rw [Ahead] at ahead
    omega
  trans above below := by
    rw [Ahead] at above below ⊢
    omega
  eq_of_neither here there notAbove notBelow := by
    obtain ⟨offset, -, rfl⟩ := List.mem_map.1 here
    obtain ⟨offset', -, rfl⟩ := List.mem_map.1 there
    rw [Ahead] at notAbove notBelow
    have same : (ofOffset first second offset).offset = (ofOffset first second offset').offset := by
      omega
    exact congrArg (ofOffset first second) same

/-- Keeping the better of overlaps that come from left to right is keeping the one ahead. -/
theorem foldl_better_eq {rest : List Overlap}
    (ascending : (held :: rest).Pairwise fun overlap other => overlap.offset < other.offset) :
    rest.foldl better (some held) = some (rest.foldl (keep Ahead) held) := by
  induction rest generalizing held with
  | nil => rfl
  | cons next rest ih =>
    obtain ⟨behind, later⟩ := List.pairwise_cons.1 ascending
    have step : better (some held) next = some (keep Ahead held next) := by
      simp only [better, keep, isBetter_iff_ahead (behind next List.mem_cons_self)]
      split <;> rfl
    rw [List.foldl_cons, List.foldl_cons, step]
    apply ih
    rw [keep]
    split
    · exact later
    · apply List.pairwise_cons.2
      exact ⟨fun other member => behind other (List.mem_cons_of_mem _ member),
        (List.pairwise_cons.1 later).2⟩

theorem ascending_offsets (first second : Text) :
    ((offsets first second).map (ofOffset first second)).Pairwise fun overlap other =>
      overlap.offset < other.offset := by
  rw [offsets, List.map_map, List.pairwise_map]
  apply List.pairwise_lt_range.imp
  intro index later before
  show (index : Int) + 1 - second.length < later + 1 - second.length
  omega

theorem exists_best? (some : first ≠ []) (some' : second ≠ []) :
    ∃ offset ∈ offsets first second, best? first second = .some (ofOffset first second offset) ∧
      ∀ other ∈ offsets first second,
        ¬ Ahead (ofOffset first second other) (ofOffset first second offset) := by
  have ascending := ascending_offsets first second
  have ranked := ranked_ahead first second
  have unshifted := List.mem_map_of_mem (f := ofOffset first second)
    (unshifted_mem_offsets some some')
  rw [best?, if_neg (by simp [some, some'])]
  cases listed : (offsets first second).map (ofOffset first second) with
  | nil =>
    rw [listed] at unshifted
    contradiction
  | cons held rest =>
    rw [listed] at ascending ranked
    have kept : rest.foldl (keep Ahead) held ∈ held :: rest := foldl_keep_mem held rest
    rw [← listed] at kept
    obtain ⟨offset, inside, same⟩ := List.mem_map.1 kept
    have found : (held :: rest).foldl better none = .some (rest.foldl (keep Ahead) held) :=
      foldl_better_eq ascending
    rw [found, ← same]
    apply Exists.intro offset
    apply And.intro inside
    apply And.intro rfl
    intro other inside'
    rw [same]
    apply ranked.not_better_foldl_keep
    rw [← listed]
    exact List.mem_map_of_mem inside'

/-! ## Most equal positions -/

theorem missed_ofOffset (first second : Text) (offset : Int) :
    (ofOffset first second offset).missed =
      shorterLength first second - equalPositions first second offset := by
  rw [ofOffset, agreements_drop]

/-- An overlap with the most equal positions, and of several the one with the least shift, to the
    left if there are two. -/
structure Optimal (first second : Text) (best : Overlap) : Prop where
  overlaps : -(second.length : Int) < best.offset ∧ best.offset < first.length
  missed_eq : best.missed = shorterLength first second - equalPositions first second best.offset
  most (offset : Int) : equalPositions first second offset ≤ equalPositions first second best.offset
  closest {offset : Int}
    (same : equalPositions first second offset = equalPositions first second best.offset) :
    best.offset.natAbs ≤ offset.natAbs ∧
      (best.offset.natAbs = offset.natAbs → best.offset ≤ offset)

theorem exists_optimal (some : first ≠ []) (some' : second ≠ []) :
    ∃ best, best? first second = .some best ∧ Optimal first second best := by
  obtain ⟨offset, inside, found, unbeaten⟩ := exists_best? some some'
  have unshifted := unshifted_mem_offsets some some'
  have apart {other : Int} (outside : other ∉ offsets first second) :
      equalPositions first second other = 0 := by
    rw [← Nat.le_zero, ← Nat.not_lt]
    exact fun equal => outside (mem_offsets.2 (overlaps_of_equalPositions_pos equal))
  have behind {other : Int} (inside : other ∈ offsets first second) :
      equalPositions first second other < equalPositions first second offset ∨
        equalPositions first second other = equalPositions first second offset ∧
          (offset.natAbs < other.natAbs ∨ offset.natAbs = other.natAbs ∧ offset ≤ other) := by
    have room := equalPositions_le first second other
    have room' := equalPositions_le first second offset
    have notAhead := unbeaten other inside
    rw [Ahead, missed_ofOffset, missed_ofOffset] at notAhead
    simp only [ofOffset] at notAhead
    omega
  refine ⟨_, found, mem_offsets.1 inside, missed_ofOffset first second offset, ?_, ?_⟩
  · intro other
    show equalPositions first second other ≤ equalPositions first second offset
    by_cases inside' : other ∈ offsets first second
    · have placed := behind inside'
      omega
    · rw [apart inside']
      exact Nat.zero_le _
  · intro other same
    replace same : equalPositions first second other = equalPositions first second offset := same
    show offset.natAbs ≤ other.natAbs ∧ (offset.natAbs = other.natAbs → offset ≤ other)
    by_cases inside' : other ∈ offsets first second
    · have placed := behind inside'
      omega
    · -- Without equal positions anywhere the texts are not shifted.
      have placed := behind unshifted
      rw [apart inside'] at same
      omega

theorem Optimal.equalPositions_swap_le (optimal : Optimal first second best) (offset : Int) :
    equalPositions second first offset ≤ equalPositions first second best.offset := by
  rw [← equalPositions_comm]
  exact optimal.most _

/-- Slid along the other way round, the texts are best shifted as much and miss as much. -/
theorem Optimal.swap (optimal : Optimal first second best) (optimal' : Optimal second first back) :
    back.missed = best.missed ∧ back.offset.natAbs = best.offset.natAbs := by
  have same : equalPositions second first back.offset = equalPositions first second best.offset :=
    Nat.le_antisymm (optimal.equalPositions_swap_le _) (optimal'.equalPositions_swap_le _)
  have shorter : shorterLength second first = shorterLength first second := Nat.min_comm ..
  constructor
  · rw [optimal'.missed_eq, optimal.missed_eq, same, shorter]
  · have closer := (optimal.closest ((equalPositions_comm second first _).trans same)).1
    have closer' := (optimal'.closest ((equalPositions_comm first second _).trans same.symm)).1
    rw [Int.natAbs_neg] at closer closer'
    exact Nat.le_antisymm closer' closer

/-- Nothing is missed if one text contains the other, and only then. -/
theorem Optimal.missed_eq_zero_iff (optimal : Optimal first second best) :
    best.missed = 0 ↔ first <:+: second ∨ second <:+: first := by
  have room := equalPositions_le first second
  rw [← exists_equalPositions_eq_iff, optimal.missed_eq]
  constructor
  · intro nothing
    exact ⟨best.offset, Nat.le_antisymm (room _) (Nat.sub_eq_zero_iff_le.1 nothing)⟩
  · rintro ⟨offset, full⟩
    have most := optimal.most offset
    omega

theorem Optimal.score_eq (optimal : Optimal first second best) :
    (best.score first second : Rat) =
      (shorterLength first second - equalPositions first second best.offset) /
        shorterLength first second := by
  rw [score, Score.ratio_eq, optimal.missed_eq, Nat.cast_sub (equalPositions_le ..)]

theorem Optimal.score_eq_zero_iff (optimal : Optimal first second best) (some : first ≠ [])
    (some' : second ≠ []) :
    (best.score first second : Rat) = 0 ↔ first <:+: second ∨ second <:+: first := by
  have length : (shorterLength first second : Rat) ≠ 0 :=
    Nat.cast_ne_zero.2 (shorterLength_pos some some').ne'
  rw [← optimal.missed_eq_zero_iff, score, Score.ratio_eq, div_eq_zero_iff, or_iff_left length,
    Nat.cast_eq_zero]

theorem Optimal.score_swap (optimal : Optimal first second best)
    (optimal' : Optimal second first back) :
    (back.score second first : Rat) = best.score first second := by
  have shorter : shorterLength second first = shorterLength first second := Nat.min_comm ..
  rw [score, score, (optimal.swap optimal').1, shorter]

/-- The best overlap of two texts lies where they have the most equal positions, no further off
    than any such place and on the left if there are two, and its score is the share of the shorter
    text that has no equal there.  The search for it never takes more from a count than there is.
    The score is 0 if one text contains the other, and only then.  Slid along the other way round,
    the texts have the same score, with as much of a shift. -/
theorem best?_optimal {first second : Text} (some : first ≠ []) (some' : second ≠ []) :
    ∃ (best back : Overlap) (most : Nat),
      best? first second = .some best ∧ best? second first = .some back ∧
      search? first second = .some (.some best) ∧
      (-(second.length : Int) < best.offset ∧ best.offset < first.length) ∧
      IsGreatest (Set.range (equalPositions first second)) most ∧
      (best.score first second : Rat) =
        ((min first.length second.length : Nat) - most) / (min first.length second.length : Nat) ∧
      equalPositions first second best.offset = most ∧
      (∀ offset, equalPositions first second offset = most →
        best.offset.natAbs ≤ offset.natAbs ∧
          (best.offset.natAbs = offset.natAbs → best.offset ≤ offset)) ∧
      ((best.score first second : Rat) = 0 ↔ first <:+: second ∨ second <:+: first) ∧
      (back.score second first : Rat) = best.score first second ∧
      back.offset.natAbs = best.offset.natAbs := by
  obtain ⟨best, found, optimal⟩ := exists_optimal some some'
  obtain ⟨back, found', optimal'⟩ := exists_optimal some' some
  have searched : search? first second = .some (.some best) := by
    rw [search?_eq some some', found]
  have greatest : IsGreatest (Set.range (equalPositions first second))
      (equalPositions first second best.offset) := by
    apply And.intro (Set.mem_range_self best.offset)
    rintro _ ⟨offset, rfl⟩
    exact optimal.most offset
  exact ⟨best, back, _, found, found', searched, optimal.overlaps, greatest, optimal.score_eq, rfl,
    fun _ => optimal.closest, optimal.score_eq_zero_iff some some', optimal.score_swap optimal',
    (optimal.swap optimal').2⟩

/-- Two characters are equal one step to the left and one step to the right; both texts lie to the
    left of the other. -/
theorem best?_optimal_of_tie :
    best? "aba".toList "bab".toList = some ⟨-1, 1⟩ ∧
      best? "bab".toList "aba".toList = some ⟨-1, 1⟩ ∧
      IsGreatest (Set.range (equalPositions "aba".toList "bab".toList)) 2 ∧
      equalPositions "aba".toList "bab".toList 1 = 2 ∧
      (Overlap.score "aba".toList "bab".toList ⟨-1, 1⟩ : Rat) = 1 / 3 ∧
      ¬ ("aba".toList <:+: "bab".toList ∨ "bab".toList <:+: "aba".toList) := by
  obtain ⟨best, back, most, found, found', -, -, greatest, scored, reached, -, zero, -, -⟩ :=
    @best?_optimal "aba".toList "bab".toList (by decide) (by decide)
  have here : best? "aba".toList "bab".toList = some ⟨-1, 1⟩ := by decide
  have there : best? "bab".toList "aba".toList = some ⟨-1, 1⟩ := by decide
  cases here.symm.trans found
  obtain rfl : 2 = most := reached
  have third : (Overlap.score "aba".toList "bab".toList ⟨-1, 1⟩ : Rat) = 1 / 3 := by
    have lengths : min "aba".toList.length "bab".toList.length = 3 := rfl
    rw [scored, lengths]
    norm_num
  have apart : ¬ ("aba".toList <:+: "bab".toList ∨ "bab".toList <:+: "aba".toList) := by
    rw [← zero, third]
    norm_num
  exact ⟨here, there, greatest, rfl, third, apart⟩

end Overlap

end MailSort
