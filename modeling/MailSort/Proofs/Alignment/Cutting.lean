import MailSort.Proofs.Alignment.CommonTemplate

/-! # Cutting alignments

An edit script can be cut in two at every place of its source that no run lies across that is long
enough (`EditScript.exists_cut`).  There is something else beside the place then, which a template
reads as a wildcard, so the script also stands for the texts that have more text there.
-/

namespace MailSort

namespace EditScript

def RunsApart : EditScript → Prop
  | .keep _ :: .keep _ :: _ => False
  | _ :: rest => RunsApart rest
  | [] => True

/-- A run of at least the given length lies across a place in the source. -/
def Straddles (least : Nat) (script : EditScript) (place : Nat) : Prop :=
  ∃ (before : EditScript) (run : Text) (after : EditScript),
    script = before ++ .keep run :: after ∧ least ≤ run.length ∧
      before.source.length < place ∧ place < before.source.length + run.length

variable {edit : Edit} {script rest first second : EditScript} {least place : Nat}

theorem runsApart_cons_keep {run : Text} :
    RunsApart (.keep run :: rest) ↔ (∀ other after, rest ≠ .keep other :: after) ∧ RunsApart rest :=
  match rest with
  | [] => by simp [RunsApart]
  | .keep _ :: _ => by simp [RunsApart]
  | .change _ _ :: _ => by simp [RunsApart]

theorem RunsApart.tail (apart : RunsApart (edit :: rest)) : RunsApart rest := by
  cases edit with
  | keep run => exact (runsApart_cons_keep.1 apart).2
  | change kind text => exact apart

/-- What follows a kept run is a change. -/
theorem RunsApart.change_after {run : Text} (apart : RunsApart (.keep run :: rest))
    (more : rest ≠ []) : ∃ kind text after, rest = .change kind text :: after := by
  cases rest with
  | nil => contradiction
  | cons next after =>
    cases next with
    | keep other => exact absurd rfl ((runsApart_cons_keep.1 apart).1 other after)
    | change kind text => exact ⟨kind, text, after, rfl⟩

theorem RunsApart.keepBefore (text : Text) (apart : RunsApart script) :
    RunsApart (keepBefore text script) := by
  unfold EditScript.keepBefore
  split
  · exact apart
  · cases script with
    | nil => trivial
    | cons next rest =>
      cases next with
      | keep other => exact runsApart_cons_keep.2 (runsApart_cons_keep.1 apart)
      | change kind changed => exact apart

theorem runsApart_joined (script : EditScript) : RunsApart script.joined := by
  induction script with
  | nil => trivial
  | cons edit script ih =>
    cases edit with
    | keep text => exact ih.keepBefore text
    | change kind text =>
      rw [joined]
      split
      · exact ih
      · exact ih

/-! ## Runs across a place -/

@[simp] theorem not_straddles_nil : ¬Straddles least [] place := by
  rintro ⟨before, run, after, same, -⟩
  exact List.append_ne_nil_of_right_ne_nil before (List.cons_ne_nil _ _) same.symm

/-- A run lies across a place if it is the first edit, or if it comes behind the first edit and
    lies across the place that is left. -/
theorem straddles_cons :
    Straddles least (edit :: rest) place ↔
      (∃ run, edit = .keep run ∧ least ≤ run.length ∧ 0 < place ∧ place < run.length) ∨
        Straddles least rest (place - edit.source.length) := by
  constructor
  · rintro ⟨before, run, after, same, long, behind, ahead⟩
    cases before with
    | nil =>
      rw [List.nil_append, List.cons.injEq] at same
      rw [source_nil, List.length_nil] at behind ahead
      exact .inl ⟨run, same.1, long, behind, by omega⟩
    | cons first before =>
      obtain ⟨rfl, rfl⟩ := List.cons.inj same
      rw [source_cons, List.length_append] at behind ahead
      exact .inr ⟨before, run, after, rfl, long, by omega, by omega⟩
  · rintro (⟨run, rfl, long, behind, ahead⟩ | ⟨before, run, after, rfl, long, behind, ahead⟩)
    · refine ⟨[], run, rest, rfl, long, behind, ?_⟩
      rw [source_nil, List.length_nil]
      omega
    · refine ⟨edit :: before, run, after, rfl, long, ?_, ?_⟩
      all_goals
        rw [source_cons, List.length_append]
        omega

@[simp] theorem straddles_cons_change {kind : Change} {text : Text} :
    Straddles least (.change kind text :: rest) place ↔
      Straddles least rest (place - (Edit.change kind text).source.length) := by
  simp [straddles_cons]

@[simp] theorem straddles_cons_keep {run : Text} :
    Straddles least (.keep run :: rest) place ↔
      (least ≤ run.length ∧ 0 < place ∧ place < run.length) ∨
        Straddles least rest (place - run.length) := by
  rw [straddles_cons]
  simp [Edit.source]

theorem Straddles.cons (edit : Edit) (straddles : Straddles least rest place) :
    Straddles least (edit :: rest) (edit.source.length + place) := by
  rw [straddles_cons, Nat.add_sub_cancel_left]
  exact .inr straddles

/-! ## Cuts -/

theorem toElement_eq (least : Nat) (edit : Edit) :
    toElement least edit = .wildcard ∨
      ∃ run, edit = .keep run ∧ least ≤ run.length ∧ toElement least edit = .literal run := by
  cases edit with
  | keep run =>
    rw [toElement]
    split
    · next long => exact .inr ⟨run, rfl, long, rfl⟩
    · exact .inl rfl
  | change kind text => exact .inl rfl

/-- A script that is cut in two: what its parts stand for can be put together with any text
    between them, and no run lies across a place of the second part that did not before. -/
structure Cut (least : Nat) (script first second : EditScript) : Prop where
  apart : RunsApart second
  straddles {place : Nat} : Straddles least second place →
    Straddles least script (first.source.length + place)
  denotes {others : List Element} {before after : Text} (gap : Text) :
    Element.Denotes (first.map (toElement least)) before →
    Element.Denotes (second.map (toElement least) ++ others) after →
    Element.Denotes (script.map (toElement least) ++ others) (before ++ (gap ++ after))

theorem Cut.cons (edit : Edit) (cut : Cut least rest first second) :
    Cut least (edit :: rest) (edit :: first) second where
  apart := cut.apart
  straddles := by
    intro place straddles
    rw [source_cons, List.length_append, Nat.add_assoc]
    exact (cut.straddles straddles).cons edit
  denotes := by
    intro others before after gap denoted behind
    have whole : Element.Denotes ([toElement least edit] ++ first.map (toElement least)) before :=
      denoted
    obtain ⟨here, before, rfl, alone, denoted⟩ := whole.split
    rw [List.append_assoc]
    exact alone.append (cut.denotes gap denoted behind)

/-- Between an edit and the next one there is a wildcard on one side. -/
theorem cut_behind (apart : RunsApart (edit :: rest)) (more : rest ≠ []) :
    Cut least (edit :: rest) [edit] rest where
  apart := apart.tail
  straddles := by
    intro place straddles
    rw [source_cons, source_nil, List.append_nil]
    exact straddles.cons edit
  denotes := by
    intro others before after gap denoted behind
    rw [List.map_cons, List.map_nil] at denoted
    rw [List.map_cons, List.cons_append]
    obtain open_here | ⟨run, rfl, -, read⟩ := toElement_eq least edit
    · rw [open_here, ← List.append_assoc]
      exact .wildcard _ behind
    · obtain ⟨kind, text, after, rfl⟩ := apart.change_after more
      rw [read] at denoted ⊢
      obtain ⟨none, rfl, nothing⟩ := Element.denotes_literal.1 denoted
      obtain rfl := Element.denotes_nil.1 nothing
      rw [List.append_nil]
      exact .literal run (behind.prepend gap)

/-- An edit that is read as a wildcard can be cut wherever its text can. -/
theorem cut_within {before after : Text} (whole : edit.source = before ++ after)
    (apart : RunsApart (edit :: rest)) (open_here : toElement least edit = .wildcard) :
    Cut least (edit :: rest) [.change .delete before] (.change .delete after :: rest) where
  apart := apart.tail
  straddles := by
    intro place straddles
    have deleted (text : Text) : (Edit.change .delete text).source = text := rfl
    rw [straddles_cons_change, deleted] at straddles
    have left : before.length + place - edit.source.length = place - after.length := by
      rw [whole, List.length_append]
      omega
    rw [source_cons, source_nil, deleted, List.append_nil, straddles_cons, left]
    exact .inr straddles
  denotes := by
    intro others first second gap _ behind
    rw [List.map_cons, open_here]
    exact (behind.prepend gap).prepend first

/-- A script can be cut at every place within its source that no run lies across. -/
theorem exists_cut (apart : RunsApart script) {before after : Text}
    (whole : script.source = before ++ after) (some : before ≠ []) (more : after ≠ [])
    (clear : ¬Straddles least script before.length) :
    ∃ first second, source first = before ∧ source second = after ∧
      Cut least script first second := by
  induction script generalizing before with
  | nil => exact absurd (List.append_eq_nil_iff.1 whole.symm).1 some
  | cons edit rest ih =>
    rw [source_cons] at whole
    have beside (here : edit.source = before) (behind : source rest = after) :
        ∃ first second, source first = before ∧ source second = after ∧
          Cut least (edit :: rest) first second := by
      have later : rest ≠ [] := by
        rintro rfl
        exact more behind.symm
      refine ⟨[edit], rest, ?_, behind, cut_behind apart later⟩
      rw [source_cons, source_nil, List.append_nil, here]
    obtain ⟨left, same, behind⟩ | ⟨left, here, same⟩ := List.append_eq_append_iff.1 whole
    · -- The place is behind the edit.
      obtain rfl | kept := eq_or_ne left []
      · exact beside (by rw [same, List.append_nil]) behind
      · have clear_behind : ¬Straddles least rest left.length := by
          intro straddles
          rw [same, List.length_append] at clear
          exact clear (straddles.cons edit)
        obtain ⟨first, second, here, after_here, cut⟩ := ih apart.tail behind kept clear_behind
        exact ⟨edit :: first, second, by rw [source_cons, here, same], after_here, cut.cons edit⟩
    · -- The place is within the edit, which cannot be a run that is long enough.
      obtain rfl | kept := eq_or_ne left []
      · exact beside (by rw [here, List.append_nil]) same.symm
      · have open_here : toElement least edit = .wildcard := by
          obtain open_here | ⟨run, rfl, long, -⟩ := toElement_eq least edit
          · exact open_here
          · have longer := List.length_pos_iff.2 kept
            have whole_run : run.length = before.length + left.length :=
              (congrArg List.length here).trans List.length_append
            have across : Straddles least (.keep run :: rest) before.length :=
              straddles_cons_keep.2 (.inl ⟨long, List.length_pos_iff.2 some, by omega⟩)
            exact absurd across clear
        exact ⟨[.change .delete before], .change .delete left :: rest,
          List.append_nil before, same.symm, cut_within here apart open_here⟩

end EditScript

end MailSort
