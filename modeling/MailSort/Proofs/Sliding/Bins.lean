import MailSort.Proofs.Sliding.Histogram

/-! # Bins of scores

The bins of a histogram lie beside each other from the lowest score to the highest, and each score
is in one of them (`Histogram.Spread.holds_iff`).  The middle of the fullest bin lies between the
lowest score and the highest, so the confidence in scores that are not 0 lies between what these
lack to 1 (`Histogram.confidence_modal`).
-/

namespace MailSort

namespace Histogram

variable {histogram : Histogram Rat} {scores : List Rat} {score lowest highest : Rat}
  {bin other : Nat}

/-! ## The lowest and the highest -/

theorem isLeast_foldl_lower (first : Rat) (rest : List Rat) :
    IsLeast {score | score ∈ first :: rest} (rest.foldl lower first) := by
  have ranked : Ranked (fun first second : Rat => first < second) (first :: rest) :=
    ⟨lt_irrefl, lt_trans, fun _ _ notBelow notAbove =>
      le_antisymm (not_lt.1 notAbove) (not_lt.1 notBelow)⟩
  apply And.intro (foldl_keep_mem first rest)
  exact fun score member => not_lt.1 (ranked.not_better_foldl_keep score member)

theorem isGreatest_foldl_higher (first : Rat) (rest : List Rat) :
    IsGreatest {score | score ∈ first :: rest} (rest.foldl Score.higher first) := by
  have ranked : Ranked (fun first second : Rat => second < first) (first :: rest) :=
    ⟨lt_irrefl, fun above below => lt_trans below above, fun _ _ notAbove notBelow =>
      le_antisymm (not_lt.1 notAbove) (not_lt.1 notBelow)⟩
  apply And.intro (foldl_keep_mem first rest)
  exact fun score member => not_lt.1 (ranked.not_better_foldl_keep score member)

/-! ## Where a score is -/

/-- A score lies in a bin: not below its lower edge, and below its upper edge, or, in the last bin,
    not above it. -/
def Holds (histogram : Histogram Rat) (bin : Nat) (score : Rat) : Prop :=
  histogram.lowest + bin * histogram.width ≤ score ∧
    (score < histogram.lowest + (bin + 1) * histogram.width ∨
      bin + 1 = histogram.bins ∧ score ≤ histogram.lowest + (bin + 1) * histogram.width)

instance (histogram : Histogram Rat) (bin : Nat) : DecidablePred (histogram.Holds bin) :=
  fun _ => inferInstanceAs (Decidable (_ ∧ _))

structure Spread (histogram : Histogram Rat) : Prop where
  width_pos : 0 < histogram.width
  bins_pos : 0 < histogram.bins

theorem Spread.bin_lt (spread : histogram.Spread) (score : Rat) :
    histogram.bin score < histogram.bins := by
  have some := spread.bins_pos
  rw [Histogram.bin]
  omega

/-- Each score from the lowest edge to the highest lies in one bin and in no other. -/
theorem Spread.holds_iff (spread : histogram.Spread) (low : histogram.lowest ≤ score)
    (high : score ≤ histogram.lowest + histogram.bins * histogram.width)
    (inside : bin < histogram.bins) :
    histogram.Holds bin score ↔ bin = histogram.bin score := by
  -- How many widths the score is from the lowest edge decides on both edges of each bin.
  let widths : Rat := (score - histogram.lowest) / histogram.width
  have below (count : Rat) :
      histogram.lowest + count * histogram.width ≤ score ↔ count ≤ widths := by
    rw [le_div_iff₀ spread.width_pos, le_sub_iff_add_le']
  have above (count : Rat) :
      score ≤ histogram.lowest + count * histogram.width ↔ widths ≤ count := by
    rw [div_le_iff₀ spread.width_pos, sub_le_iff_le_add']
  have start : 0 ≤ widths := (below 0).1 (by simpa using low)
  have stop : widths ≤ histogram.bins := (above _).1 high
  have place : histogram.bin score = min ⌊widths⌋₊ (histogram.bins - 1) := rfl
  rw [Holds, below, ← not_le, below, above, not_le, place]
  constructor
  · rintro ⟨after, before | ⟨last, -⟩⟩
    · have whole : ⌊widths⌋₊ = bin := (Nat.floor_eq_iff start).2 ⟨after, before⟩
      omega
    · have whole : bin ≤ ⌊widths⌋₊ := Nat.le_floor after
      omega
  · intro placed
    have whole : (bin : Rat) ≤ ⌊widths⌋₊ := Nat.cast_le.2 (by omega)
    apply And.intro (whole.trans (Nat.floor_le start))
    by_cases last : ⌊widths⌋₊ < histogram.bins
    · have same : bin = ⌊widths⌋₊ := by omega
      left
      rw [same]
      exact Nat.lt_floor_add_one widths
    · -- The score is on the outer edge, which the last bin has as well.
      have same : bin + 1 = histogram.bins := by omega
      right
      apply And.intro same
      rwa [← Nat.cast_succ, Nat.succ_eq_add_one, same]

/-! ## The fullest bin -/

/-- The fullest bin is one of the given ones, no bin has more, and none before it has as many. -/
theorem fullest_spec {bins : List Nat} (some : bins ≠ []) :
    fullest bins ∈ bins ∧ ∀ bin, bins.count bin ≤ bins.count (fullest bins) ∧
      (bin < fullest bins → bins.count bin < bins.count (fullest bins)) := by
  cases bins with
  | nil => contradiction
  | cons first rest =>
    have member : fullest (first :: rest) ∈ first :: rest := by
      rw [fullest_cons]
      exact foldl_keep_mem first rest
    apply And.intro member
    intro bin
    by_cases inside : bin ∈ first :: rest
    · have notFuller := (ranked_fuller (first :: rest) _).not_better_foldl_keep bin inside
      rw [← fullest_cons, Fuller] at notFuller
      omega
    · have positive := List.count_pos_iff.2 member
      rw [List.count_eq_zero.2 inside]
      exact ⟨Nat.zero_le _, fun _ => positive⟩

/-- The scores that are counted for a bin are those that lie in it. -/
theorem Spread.count_eq (spread : histogram.Spread)
    (within : ∀ score ∈ scores, histogram.lowest ≤ score ∧
      score ≤ histogram.lowest + histogram.bins * histogram.width)
    (inside : bin < histogram.bins) :
    (scores.map histogram.bin).count bin = scores.countP (histogram.Holds bin) := by
  rw [List.count, List.countP_map]
  apply List.countP_congr
  intro score member
  obtain ⟨low, high⟩ := within score member
  rw [decide_eq_true_iff, spread.holds_iff low high inside, Function.comp_apply, beq_iff_eq,
    eq_comm]

structure Modal (histogram : Histogram Rat) (scores : List Rat) (bin : Nat) : Prop where
  inside : bin < histogram.bins
  most {other : Nat} (inside : other < histogram.bins) :
    scores.countP (histogram.Holds other) ≤ scores.countP (histogram.Holds bin)
  first {other : Nat} (before : other < bin) :
    scores.countP (histogram.Holds other) < scores.countP (histogram.Holds bin)

theorem Spread.modal (spread : histogram.Spread) (some : scores ≠ [])
    (within : ∀ score ∈ scores, histogram.lowest ≤ score ∧
      score ≤ histogram.lowest + histogram.bins * histogram.width) :
    histogram.Modal scores (fullest (scores.map histogram.bin)) := by
  have counted : scores.map histogram.bin ≠ [] := by
    simpa using some
  obtain ⟨member, most⟩ := fullest_spec counted
  obtain ⟨score, -, placed⟩ := List.mem_map.1 member
  have inside : fullest (scores.map histogram.bin) < histogram.bins := by
    rw [← placed]
    exact spread.bin_lt score
  constructor
  · exact inside
  · intro other inside'
    rw [← spread.count_eq within inside', ← spread.count_eq within inside]
    exact (most other).1
  · intro other before
    rw [← spread.count_eq within (before.trans inside), ← spread.count_eq within inside]
    exact (most other).2 before

/-! ## From the lowest to the highest -/

def between (lowest highest : Rat) (bins : Nat) : Histogram Rat :=
  ⟨lowest, (highest - lowest) / (max bins 1 : Nat), max bins 1⟩

theorem spread_between (apart : lowest < highest) (bins : Nat) :
    (between lowest highest bins).Spread := by
  have some : 0 < max bins 1 := by omega
  exact ⟨div_pos (sub_pos.2 apart) (Nat.cast_pos.2 some), some⟩

theorem highest_edge (lowest highest : Rat) (bins : Nat) :
    (between lowest highest bins).lowest +
      (between lowest highest bins).bins * (between lowest highest bins).width = highest := by
  have some : ((max bins 1 : Nat) : Rat) ≠ 0 := Nat.cast_ne_zero.2 (by omega)
  rw [between, mul_div_cancel₀ _ some, add_sub_cancel]

theorem middle_eq (histogram : Histogram Rat) (bin : Nat) :
    histogram.middle bin = histogram.lowest + (bin + 1 / 2) * histogram.width := by
  rw [middle, Score.ratio_eq, Score.ofNat_eq, Nat.cast_one, Nat.cast_two]

/-- The middle of a bin lies between the outer edges. -/
theorem Spread.middle_mem (spread : histogram.Spread) (inside : bin < histogram.bins) :
    histogram.lowest < histogram.middle bin ∧
      histogram.middle bin < histogram.lowest + histogram.bins * histogram.width := by
  have start : (0 : Rat) < bin + 1 / 2 := by positivity
  have stop : (bin : Rat) + 1 / 2 < histogram.bins := by
    have next : ((bin + 1 : Nat) : Rat) ≤ histogram.bins := Nat.cast_le.2 inside
    rw [Nat.cast_succ] at next
    linarith
  rw [middle_eq]
  constructor
  · exact lt_add_of_pos_right _ (mul_pos start spread.width_pos)
  · exact add_lt_add_right (mul_lt_mul_of_pos_right stop spread.width_pos) _

theorem within_between (least : IsLeast {score | score ∈ scores} lowest)
    (greatest : IsGreatest {score | score ∈ scores} highest) (bins : Nat) :
    ∀ score ∈ scores, (between lowest highest bins).lowest ≤ score ∧
      score ≤ (between lowest highest bins).lowest +
        (between lowest highest bins).bins * (between lowest highest bins).width := by
  intro score member
  rw [highest_edge]
  exact ⟨least.2 member, greatest.2 member⟩

theorem middle_fullest_mem (some : scores ≠ []) (least : IsLeast {score | score ∈ scores} lowest)
    (greatest : IsGreatest {score | score ∈ scores} highest) (bins : Nat)
    (apart : lowest < highest) :
    lowest < (between lowest highest bins).middle
        (fullest (scores.map (between lowest highest bins).bin)) ∧
      (between lowest highest bins).middle
        (fullest (scores.map (between lowest highest bins).bin)) < highest := by
  have spread := spread_between apart bins
  have modal := spread.modal some (within_between least greatest bins)
  have inside := spread.middle_mem modal.inside
  rwa [highest_edge] at inside

/-! ## The confidence -/

section Confidence

variable (some : scores ≠ []) (shares : ∀ score ∈ scores, 0 < score ∧ score ≤ 1)
  (least : IsLeast {score | score ∈ scores} lowest)
  (greatest : IsGreatest {score | score ∈ scores} highest) (bins : Nat)

include some shares least greatest

theorem confidence_eq :
    confidence scores bins = if highest ≤ lowest then Score.clamp (1 - lowest) else
      Score.clamp (1 - (between lowest highest bins).middle
        (fullest (scores.map (between lowest highest bins).bin))) := by
  have nonzero : ¬ scores.any isZero := by
    rw [List.any_eq_true]
    rintro ⟨score, member, zero⟩
    rw [isZero, decide_eq_true_iff] at zero
    exact absurd zero.1 (not_le.2 (shares score member).1)
  have numbers : scores.filter Score.isNumber = scores := List.filter_eq_self.2 fun _ _ => rfl
  cases scores with
  | nil => contradiction
  | cons first rest =>
    obtain rfl := (isLeast_foldl_lower first rest).unique least
    obtain rfl := (isGreatest_foldl_higher first rest).unique greatest
    rw [confidence, if_neg nonzero, numbers]
    rfl

/-- What scores that are all alike lack to 1. -/
theorem confidence_of_alike (alike : lowest = highest) :
    confidence scores bins = 1 - lowest := by
  have inside := shares lowest least.1
  rw [confidence_eq some shares least greatest, if_pos alike.ge,
    Score.clamp_of_mem_Icc ⟨by linarith, by linarith⟩]

/-- What the middle of the fullest bin lacks to 1. -/
theorem confidence_of_apart (apart : lowest < highest) :
    confidence scores bins = 1 - (between lowest highest bins).middle
      (fullest (scores.map (between lowest highest bins).bin)) := by
  have low := shares lowest least.1
  have high := shares highest greatest.1
  obtain ⟨above, below⟩ := middle_fullest_mem some least greatest bins apart
  rw [confidence_eq some shares least greatest, if_neg apart.not_ge,
    Score.clamp_of_mem_Icc ⟨by linarith, by linarith⟩]

theorem confidence_bounds :
    1 - highest ≤ confidence scores bins ∧ confidence scores bins ≤ 1 - lowest := by
  obtain alike | apart := (least.2 greatest.1).eq_or_lt
  · rw [confidence_of_alike some shares least greatest bins alike, alike]
    exact ⟨le_rfl, le_rfl⟩
  · obtain ⟨above, below⟩ := middle_fullest_mem some least greatest bins apart
    rw [confidence_of_apart some shares least greatest bins apart]
    exact ⟨by linarith, by linarith⟩

end Confidence

theorem exists_isLeast_isGreatest (some : scores ≠ []) :
    ∃ lowest highest, IsLeast {score | score ∈ scores} lowest ∧
      IsGreatest {score | score ∈ scores} highest := by
  cases scores with
  | nil => contradiction
  | cons first rest =>
    exact ⟨_, _, isLeast_foldl_lower first rest, isGreatest_foldl_higher first rest⟩

theorem confidence_lt_one (some : scores ≠ []) (shares : ∀ score ∈ scores, 0 < score ∧ score ≤ 1)
    (bins : Nat) : confidence scores bins < 1 := by
  obtain ⟨lowest, highest, least, greatest⟩ := exists_isLeast_isGreatest some
  have positive := (shares lowest least.1).1
  have below := (confidence_bounds some shares least greatest bins).2
  linarith

/-- The confidence is full if one of the scores is 0, and only then. -/
theorem confidence_eq_one_iff (shares : ∀ score ∈ scores, 0 ≤ score ∧ score ≤ 1) (bins : Nat) :
    confidence scores bins = 1 ↔ (0 : Rat) ∈ scores := by
  by_cases zero : (0 : Rat) ∈ scores
  · have found : scores.any isZero := List.any_eq_true.2 ⟨0, zero, rfl⟩
    rw [confidence, if_pos found]
    exact iff_of_true rfl zero
  · apply iff_of_false _ zero
    by_cases some : scores = []
    · subst some
      exact zero_ne_one
    · have positive : ∀ score ∈ scores, 0 < score ∧ score ≤ 1 := by
        intro score member
        have nonzero : 0 ≠ score := fun same => zero (same ▸ member)
        exact ⟨(shares score member).1.lt_of_ne nonzero, (shares score member).2⟩
      exact (confidence_lt_one some positive bins).ne

/-- The confidence in scores that are not 0 is what the middle of the first of the fullest bins
    lacks to 1, or what all scores lack if they are alike.  It lies between what the highest score
    lacks and what the lowest one does, whatever the order of the scores. -/
theorem confidence_modal {scores : List Rat} (some : scores ≠ [])
    (shares : ∀ score ∈ scores, 0 < score ∧ score ≤ 1) (bins : Nat) :
    ∃ lowest highest : Rat,
      IsLeast {score | score ∈ scores} lowest ∧ IsGreatest {score | score ∈ scores} highest ∧
      (lowest = highest → confidence scores bins = 1 - lowest) ∧
      (lowest < highest →
        (∀ score ∈ scores, (between lowest highest bins).bin score < max bins 1 ∧
          ∀ bin < max bins 1, (between lowest highest bins).Holds bin score ↔
            bin = (between lowest highest bins).bin score) ∧
        ∃ fullest, (between lowest highest bins).Modal scores fullest ∧
          confidence scores bins =
            1 - (lowest + (fullest + 1 / 2) * ((highest - lowest) / (max bins 1 : Nat)))) ∧
      (1 - highest ≤ confidence scores bins ∧ confidence scores bins ≤ 1 - lowest ∧
        confidence scores bins < 1) ∧
      ∀ other : List Rat, other.Perm scores → confidence other bins = confidence scores bins := by
  obtain ⟨lowest, highest, least, greatest⟩ := exists_isLeast_isGreatest some
  obtain ⟨low, high⟩ := confidence_bounds some shares least greatest bins
  have placed (apart : lowest < highest) (score : Rat) (member : score ∈ scores) :
      (between lowest highest bins).bin score < max bins 1 ∧
        ∀ bin < max bins 1, (between lowest highest bins).Holds bin score ↔
          bin = (between lowest highest bins).bin score := by
    have spread := spread_between apart bins
    obtain ⟨above, below⟩ := within_between least greatest bins score member
    exact ⟨spread.bin_lt score, fun bin inside => spread.holds_iff above below inside⟩
  have middle (apart : lowest < highest) :
      ∃ fullest, (between lowest highest bins).Modal scores fullest ∧
        confidence scores bins =
          1 - (lowest + (fullest + 1 / 2) * ((highest - lowest) / (max bins 1 : Nat))) := by
    have confident := confidence_of_apart some shares least greatest bins apart
    rw [middle_eq] at confident
    exact ⟨_, (spread_between apart bins).modal some (within_between least greatest bins),
      confident⟩
  exact ⟨lowest, highest, least, greatest, confidence_of_alike some shares least greatest bins,
    fun apart => ⟨placed apart, middle apart⟩, ⟨low, high, confidence_lt_one some shares bins⟩,
    fun _ same => confidence_of_perm same bins⟩

/-- The highest score is on the upper edge of the last bin, and the other two are in the first. -/
theorem confidence_modal_of_three :
    confidence [1 / 5, 1 / 4, 3 / 5] 2 = (7 / 10 : Rat) ∧
      confidence [3 / 5, 1 / 5, 1 / 4] 2 = (7 / 10 : Rat) ∧
      (between (1 / 5) (3 / 5) 2).Modal [1 / 5, 1 / 4, 3 / 5] 0 ∧
      (between (1 / 5) (3 / 5) 2).Holds 1 (3 / 5) ∧
      (1 - 3 / 5 : Rat) ≤ 7 / 10 ∧ (7 / 10 : Rat) ≤ 1 - 1 / 5 := by
  have shares : ∀ score ∈ [1 / 5, 1 / 4, 3 / 5], (0 : Rat) < score ∧ score ≤ 1 := by
    norm_num
  have confident : confidence [1 / 5, 1 / 4, 3 / 5] 2 = (7 / 10 : Rat) := by decide +kernel
  obtain ⟨lowest, highest, least, greatest, -, binned, bounds, reordered⟩ :=
    confidence_modal (by simp) shares 2
  obtain rfl : lowest = 1 / 5 := least.unique ⟨by simp, by norm_num [mem_lowerBounds]⟩
  obtain rfl : highest = 3 / 5 := greatest.unique ⟨by simp, by norm_num [mem_upperBounds]⟩
  obtain ⟨placed, fullest, modal, middle⟩ := binned (by norm_num)
  rw [confident] at middle bounds
  obtain rfl : fullest = 0 := by
    have first : (fullest : Rat) = 0 := by
      norm_num at middle
      linarith
    exact Nat.cast_eq_zero.1 first
  have last : (between (1 / 5) (3 / 5) 2).bin (3 / 5) = 1 := by decide +kernel
  have held := ((placed (3 / 5) (by simp)).2 1 (by decide)).2 last.symm
  have turned := (reordered [3 / 5, 1 / 5, 1 / 4] (by decide +kernel)).trans confident
  exact ⟨confident, turned, modal, held, bounds.1, bounds.2.1⟩

end Histogram

end MailSort
