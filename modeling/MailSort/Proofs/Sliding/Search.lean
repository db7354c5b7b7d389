import MailSort.Proofs.Score.Rational
import MailSort.Proofs.Sliding.Positions
import Mathlib.Algebra.Order.Field.Basic

/-! # Sliding step by step

An overlap can be found from where it begins in each text and from how long it is, and overlaps can
be compared by their scores.  Each count on the way is a difference that must not be negative, and
each part of a text must be inside it; `Overlap.search?` finds nothing at all where that fails.  It
does not fail anywhere, and what it finds is the best overlap (`Overlap.search?_eq`).
-/

namespace MailSort

def excess? (count other : Nat) : Option Nat :=
  if other ≤ count then some (count - other) else none

def Text.part? (text : Text) (start length : Nat) : Option Text :=
  if start + length ≤ text.length then some ((text.drop start).take length) else none

/-- Steps that all come to something come to what they do one after the other. -/
theorem foldlM_eq_some {α β : Type} {step : β → α → Option β} {next : β → α → β} {inputs : List α}
    (steps : ∀ input ∈ inputs, ∀ state, step state input = some (next state input)) (state : β) :
    inputs.foldlM step state = some (inputs.foldl next state) := by
  induction inputs generalizing state with
  | nil => rfl
  | cons input inputs ih =>
    rw [List.foldlM_cons, steps input List.mem_cons_self]
    exact ih (fun later member => steps later (List.mem_cons_of_mem _ member)) _

namespace Overlap

/-- The overlap at an offset: what the shorter text has outside is missed, and so is what is inside
    and different. -/
def measure? (first second : Text) (offset : Int) : Option Overlap := do
  let start := (max offset 0).toNat
  let start' := (max (-offset) 0).toNat
  let length := min (← excess? first.length start) (← excess? second.length start')
  let part ← first.part? start length
  let part' ← second.part? start' length
  let outside ← excess? (shorterLength first second) length
  return ⟨offset, outside + (part.zip part').countP fun pair => pair.1 ≠ pair.2⟩

/-- Whether an overlap has a lower score than another, or the same one with less of a shift. -/
def scoresLower (first second : Text) (overlap other : Overlap) : Bool :=
  (overlap.score first second : Rat) < other.score first second ||
    ((overlap.score first second : Rat) = other.score first second &&
      overlap.offset.natAbs < other.offset.natAbs)

def search? (first second : Text) : Option (Option Overlap) :=
  (offsets first second).foldlM (fun best offset => do
    let next ← measure? first second offset
    match best with
    | some held => return some (if scoresLower first second next held then next else held)
    | none => return some next) none

variable {first second : Text} {offset : Int}

theorem mem_offsets : offset ∈ offsets first second ↔
    -(second.length : Int) < offset ∧ offset < first.length := by
  rw [offsets, List.mem_map]
  constructor
  · rintro ⟨index, inside, rfl⟩
    rw [List.mem_range] at inside
    omega
  · intro overlaps
    exact ⟨(offset - 1 + second.length).toNat, List.mem_range.2 (by omega), by omega⟩

theorem unshifted_mem_offsets (some : first ≠ []) (some' : second ≠ []) :
    0 ∈ offsets first second := by
  have length := List.length_pos_iff.2 some
  have length' := List.length_pos_iff.2 some'
  exact mem_offsets.2 ⟨by omega, by omega⟩

theorem agreements_add_mismatches (first second : Text) :
    agreements first second + (first.zip second).countP (fun pair => pair.1 ≠ pair.2) =
      shorterLength first second := by
  induction first generalizing second with
  | nil => simp [shorterLength]
  | cons c first ih =>
    cases second with
    | nil => simp [shorterLength]
    | cons d second =>
      have later := ih second
      have length : shorterLength (c :: first) (d :: second) = shorterLength first second + 1 :=
        Nat.succ_min_succ ..
      rw [agreements_cons, List.zip_cons_cons, List.countP_cons, length, ← later]
      by_cases same : c = d
      · rw [if_pos same, if_neg (by simp [same])]
        omega
      · rw [if_neg same, if_pos (by simp [same])]
        omega

theorem part?_eq {text : Text} {start length : Nat} (inside : start + length ≤ text.length) :
    text.part? start length = some ((text.drop start).take length) :=
  if_pos inside

theorem excess?_eq {count other : Nat} (enough : other ≤ count) :
    excess? count other = some (count - other) :=
  if_pos enough

/-- Where two texts overlap, nothing is negative and nothing outside. -/
theorem measure?_eq (overlaps : -(second.length : Int) < offset ∧ offset < first.length) :
    measure? first second offset = some (ofOffset first second offset) := by
  have start : (max offset 0).toNat = offset.toNat := by omega
  have start' : (max (-offset) 0).toNat = (-offset).toNat := by omega
  have counted := agreements_add_mismatches (first.drop offset.toNat) (second.drop (-offset).toNat)
  rw [List.zip_eq_zip_take_min] at counted
  simp only [shorterLength, List.length_drop] at counted
  simp only [measure?, start, start', Option.bind_eq_bind, Option.pure_def]
  rw [excess?_eq (by omega), excess?_eq (by omega)]
  simp only [Option.bind_some]
  rw [part?_eq (by omega), part?_eq (by omega), excess?_eq (by rw [shorterLength]; omega)]
  simp only [Option.bind_some, ofOffset, shorterLength, Option.some.injEq, Overlap.mk.injEq,
    true_and]
  omega

theorem shorterLength_pos (some : first ≠ []) (some' : second ≠ []) :
    0 < shorterLength first second :=
  Nat.lt_min.2 ⟨List.length_pos_iff.2 some, List.length_pos_iff.2 some'⟩

theorem scoresLower_eq (some : first ≠ []) (some' : second ≠ []) (overlap other : Overlap) :
    scoresLower first second overlap other = overlap.isBetter other := by
  have length : (0 : Rat) < shorterLength first second :=
    Nat.cast_pos.2 (shorterLength_pos some some')
  simp only [scoresLower, isBetter, score, Score.ratio_eq, div_lt_div_iff_of_pos_right length,
    div_left_inj' length.ne', Nat.cast_lt, Nat.cast_inj]

theorem search?_eq (some : first ≠ []) (some' : second ≠ []) :
    search? first second = .some (best? first second) := by
  rw [search?, best?, if_neg (by simp [some, some']), List.foldl_map]
  apply foldlM_eq_some
  intro offset inside best
  rw [measure?_eq (mem_offsets.1 inside)]
  cases best with
  | none => rfl
  | some held =>
    simp only [Option.bind_eq_bind, Option.bind_some, scoresLower_eq some some', better]
    split <;> rfl

end Overlap

end MailSort
