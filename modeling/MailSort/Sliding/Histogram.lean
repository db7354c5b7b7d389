import MailSort.Score

/-! # Histograms

Scores are distributed over bins of equal width between the lowest and the highest of
them.  What the middle of the fullest bin lacks to 1 is the confidence in the scores; if
one of them is 0, the confidence is full.
-/

namespace MailSort

/-- Bins of equal width. -/
structure Histogram (α : Type) where
  /-- Where the first bin begins. -/
  lowest : α
  width : α
  bins : Nat

namespace Histogram

variable {α : Type} [Score α]

def isZero (score : α) : Bool :=
  score ≤ Score.zero ∧ Score.zero ≤ score

/-- The lower of two scores; the first one if neither is. -/
def lower (first second : α) : α :=
  if second < first then second else first

/-- The bin of a score.  Scores at the upper edge are in the last bin. -/
def bin (histogram : Histogram α) (score : α) : Nat :=
  min (Score.whole ((score - histogram.lowest) / histogram.width)) (histogram.bins - 1)

def middle (histogram : Histogram α) (bin : Nat) : α :=
  histogram.lowest + (Score.ofNat bin + Score.ratio 1 2) * histogram.width

/-- The bin that holds the most of the given ones, and the first of several. -/
def fullest (bins : List Nat) : Nat :=
  bins.foldl (fun best bin =>
    if bins.count best < bins.count bin ∨
        (bins.count best = bins.count bin ∧ bin < best) then bin
    else best) (bins.headD 0)

/-- The confidence in scores, with the given number of bins or one. -/
def confidence (scores : List α) (bins : Nat) : α :=
  if scores.any isZero then Score.one
  else
    match scores.filter Score.isNumber with
    | [] => Score.zero
    | first :: rest =>
      let lowest := rest.foldl lower first
      let highest := rest.foldl Score.higher first
      -- Bins would have no width if all scores were alike.
      if highest ≤ lowest then Score.clamp (Score.one - lowest)
      else
        let histogram : Histogram α :=
          ⟨lowest, (highest - lowest) / Score.ofNat (max bins 1), max bins 1⟩
        Score.clamp (Score.one - histogram.middle (fullest (scores.map histogram.bin)))

end Histogram

end MailSort
