import MailSort.Alignment
import MailSort.Proofs.Text.Split
import Mathlib.Data.List.TakeDrop

/-! # Agreement of edit scripts

Two edit scripts agree if they lead from the same text to the same text.  Settling changes
is made of a few moves that keep agreement: a kept run is cut in two or put together, two
changes of one kind become one, two changes of different kinds trade places, and an
insertion slides over kept text.  So the alignment of two texts, however its runs were
moved on the way, is a script from the first text to the second (`EditScript.between_leads`).
-/

namespace MailSort

attribute [simp] Edit.source Edit.target

namespace EditScript

@[simp] theorem source_nil : source [] = [] := rfl

@[simp] theorem target_nil : target [] = [] := rfl

@[simp] theorem source_cons (edit : Edit) (script : EditScript) :
    source (edit :: script) = edit.source ++ script.source :=
  List.flatMap_cons

@[simp] theorem target_cons (edit : Edit) (script : EditScript) :
    target (edit :: script) = edit.target ++ script.target :=
  List.flatMap_cons

@[simp] theorem source_append (script rest : EditScript) :
    source (script ++ rest) = script.source ++ rest.source :=
  List.flatMap_append

@[simp] theorem target_append (script rest : EditScript) :
    target (script ++ rest) = script.target ++ rest.target :=
  List.flatMap_append

structure Agrees (script other : EditScript) : Prop where
  source_eq : script.source = other.source
  target_eq : script.target = other.target

namespace Agrees

variable {script other third before after rest : EditScript}

@[refl] theorem refl (script : EditScript) : Agrees script script :=
  ⟨rfl, rfl⟩

theorem symm (agrees : Agrees script other) : Agrees other script :=
  ⟨agrees.source_eq.symm, agrees.target_eq.symm⟩

theorem trans (first : Agrees script other) (second : Agrees other third) :
    Agrees script third :=
  ⟨first.source_eq.trans second.source_eq, first.target_eq.trans second.target_eq⟩

theorem prepend (agrees : Agrees script other) (before : EditScript) :
    Agrees (before ++ script) (before ++ other) := by
  constructor
  · simp [agrees.source_eq]
  · simp [agrees.target_eq]

theorem append (agrees : Agrees script other) (after : EditScript) :
    Agrees (script ++ after) (other ++ after) := by
  constructor
  · simp [agrees.source_eq]
  · simp [agrees.target_eq]

theorem within (agrees : Agrees script other) (before after : EditScript) :
    Agrees (before ++ script ++ after) (before ++ other ++ after) :=
  (agrees.prepend before).append after

/-! ## Moves -/

theorem keep_nil : Agrees [.keep []] [] :=
  ⟨rfl, rfl⟩

theorem change_nil (kind : Change) : Agrees [.change kind []] [] := by
  cases kind <;> exact ⟨rfl, rfl⟩

theorem keep_append (first second : Text) :
    Agrees [.keep (first ++ second)] [.keep first, .keep second] := by
  constructor <;> simp

theorem merge (kind : Change) (first second : Text) :
    Agrees [.change kind first, .change kind second] [.change kind (first ++ second)] := by
  cases kind <;> constructor <;> simp

theorem swap {kind other : Change} (differ : other ≠ kind) (first second : Text) :
    Agrees [.change other first, .change kind second]
      [.change kind second, .change other first] := by
  cases kind <;> cases other <;> first | contradiction | constructor <;> simp

/-- An insertion slides over kept text if the same text comes out. -/
theorem slide {kept left passed text moved : Text} (keeps : left ++ passed = kept)
    (inserts : left ++ moved ++ passed = kept ++ text) :
    Agrees [.keep kept, .change .insert text]
      [.keep left, .change .insert moved, .keep passed] := by
  constructor
  · simp [← keeps]
  · simpa using inserts.symm

end Agrees

/-! ## Sliding -/

theorem slideLeft_keeps (keptBack inserted passed : Text) :
    (slideLeft keptBack inserted passed).1 ++ (slideLeft keptBack inserted passed).2.2 =
      keptBack.reverse ++ passed := by
  fun_induction slideLeft keptBack inserted passed <;> simp_all

theorem slideLeft_inserts (keptBack inserted passed : Text) :
    (slideLeft keptBack inserted passed).1 ++ (slideLeft keptBack inserted passed).2.1 ++
        (slideLeft keptBack inserted passed).2.2 =
      keptBack.reverse ++ inserted ++ passed := by
  fun_induction slideLeft keptBack inserted passed with
  | case1 => simp
  | case2 c keptBack inserted passed last ih =>
    have whole : inserted.dropLast ++ [c] = inserted :=
      List.dropLast_append_getLast? c last
    rw [ih, List.reverse_cons, ← whole]
    simp
  | case3 => simp

theorem slideRight_keeps (passed inserted kept : Text) :
    (slideRight passed inserted kept).1 ++ (slideRight passed inserted kept).2.2 =
      passed ++ kept := by
  fun_induction slideRight passed inserted kept <;> simp_all

theorem slideRight_inserts (passed inserted kept : Text) :
    (slideRight passed inserted kept).1 ++ (slideRight passed inserted kept).2.1 ++
        (slideRight passed inserted kept).2.2 =
      passed ++ inserted ++ kept := by
  fun_induction slideRight passed inserted kept with
  | case1 passed d inserted kept ih => simpa using ih
  | case2 => simp
  | case3 => simp

/-! ## Putting kept runs beside others -/

theorem keepBefore_agrees (text : Text) (script : EditScript) :
    Agrees (keepBefore text script) (.keep text :: script) := by
  unfold keepBefore
  split
  · next empty =>
    subst empty
    exact (Agrees.keep_nil.append script).symm
  · split
    · next next rest => exact (Agrees.keep_append text next).append rest
    · rfl

theorem keepAfter_agrees (before : List Edit) (text : Text) :
    Agrees (keepAfter before text).reverse (before.reverse ++ [.keep text]) := by
  unfold keepAfter
  split
  · next empty =>
    subst empty
    simpa using (Agrees.keep_nil.prepend before.reverse).symm
  · split
    · next last rest => simpa using (Agrees.keep_append last text).prepend rest.reverse
    · simp [Agrees.refl]

/-! ## Settling -/

/-- One slide to the left, as `raise` does it: only insertions slide, and the text they
    pass joins what is behind them. -/
theorem agrees_of_slideLeft {kind : Change} {kept text left moved passed : Text}
    (slid : (match kind with
      | .insert => slideLeft kept.reverse text []
      | .delete => (kept, text, [])) = (left, moved, passed))
    (after : EditScript) :
    Agrees (.keep left :: .change kind moved :: keepBefore passed after)
      (.keep kept :: .change kind text :: after) := by
  refine ((keepBefore_agrees passed after).prepend [.keep left, .change kind moved]).trans ?_
  cases kind with
  | delete =>
    cases slid
    simpa using Agrees.keep_nil.within [.keep kept, .change .delete text] after
  | insert =>
    have keeps := slideLeft_keeps kept.reverse text []
    have inserts := slideLeft_inserts kept.reverse text []
    simp only [slid, List.reverse_reverse, List.append_nil] at keeps inserts
    simpa using (Agrees.slide keeps inserts).symm.append after

/-- One slide to the right, as `lower` does it. -/
theorem agrees_of_slideRight {kind : Change} {kept text left moved passed : Text}
    (slid : (match kind with
      | .insert => slideRight [] text kept
      | .delete => ([], text, kept)) = (passed, moved, left))
    (before : List Edit) :
    Agrees ((keepAfter before passed).reverse ++ [.change kind moved, .keep left])
      (before.reverse ++ [.change kind text, .keep kept]) := by
  refine ((keepAfter_agrees before passed).append [.change kind moved, .keep left]).trans ?_
  cases kind with
  | delete =>
    cases slid
    simpa using Agrees.keep_nil.within before.reverse [.change .delete text, .keep kept]
  | insert =>
    have keeps := slideRight_keeps [] text kept
    have inserts := slideRight_inserts [] text kept
    simp only [slid, List.nil_append] at keeps inserts
    constructor
    · simp [keeps]
    · simpa using inserts

/-- The script around a change that is on its way: the edits before it, nearest first, its
    text, and the edits behind it. -/
def around (kind : Change) (place : List Edit × Text × List Edit) : EditScript :=
  place.1.reverse ++ .change kind place.2.1 :: place.2.2

theorem raise_agrees (kind : Change) (before : List Edit) (text : Text) (after : List Edit) :
    Agrees (around kind (raise kind before text after)) (around kind (before, text, after)) := by
  fun_induction raise kind before text after with
  | case1 => rfl
  | case2 kept before text after moved passed _ slid ih =>
    -- The kept run is used up; an empty one in its place makes no difference.
    have used := Agrees.keep_nil.within before.reverse
      (.change kind moved :: keepBefore passed after)
    have slides := (agrees_of_slideLeft slid after).prepend before.reverse
    refine ih.trans ?_
    simp only [around, List.reverse_cons, List.append_assoc, List.cons_append, List.nil_append]
      at used slides ⊢
    exact used.symm.trans slides
  | case3 kept before text after left moved passed slid =>
    simpa [around] using (agrees_of_slideLeft slid after).prepend before.reverse
  | case4 earlier before text after ih =>
    refine ih.trans ?_
    simpa [around] using ((Agrees.merge kind earlier text).within before.reverse after).symm
  | case5 other earlier before text after differ ih =>
    refine ih.trans ?_
    simpa [around] using ((Agrees.swap differ earlier text).within before.reverse after).symm

theorem lower_agrees (kind : Change) (before : List Edit) (text : Text) (after : List Edit) :
    Agrees (around kind (lower kind before text after)) (around kind (before, text, after)) := by
  fun_induction lower kind before text after with
  | case1 => rfl
  | case2 before text kept after passed moved _ slid ih =>
    have used := Agrees.keep_nil.within
      ((keepAfter before passed).reverse ++ [.change kind moved]) after
    have slides := (agrees_of_slideRight slid before).append after
    refine ih.trans ?_
    simp only [around, List.append_assoc, List.cons_append, List.nil_append] at used slides ⊢
    exact used.symm.trans slides
  | case3 before text kept after passed moved left slid =>
    simpa [around] using (agrees_of_slideRight slid before).append after
  | case4 before text later after ih =>
    refine ih.trans ?_
    simpa [around] using ((Agrees.merge kind text later).within before.reverse after).symm
  | case5 before text other later after differ ih =>
    refine ih.trans ?_
    simpa [around] using
      (Agrees.swap (Ne.symm differ) text later).symm.within before.reverse after

/-- The edits up to the first change of a kind are skipped. -/
theorem eq_of_span {kind other : Change} {script skipped rest : EditScript} {text : Text}
    (spanned : script.span (fun edit => !edit.isChange kind) =
      (skipped, .change other text :: rest)) :
    script = skipped ++ .change kind text :: rest := by
  rw [List.span_eq_takeWhile_dropWhile, Prod.mk.injEq] at spanned
  obtain ⟨taken, dropped⟩ := spanned
  have whole := List.takeWhile_append_dropWhile
    (p := fun edit : Edit => !edit.isChange kind) (l := script)
  -- The first edit that is not skipped is a change of the kind that is looked for.
  have first := List.head?_dropWhile_not (fun edit : Edit => !edit.isChange kind) script
  rw [dropped, List.head?_cons] at first
  obtain rfl : other = kind := by simpa [Edit.isChange] using first
  rw [taken, dropped] at whole
  exact whole.symm

/-- What no move of a change makes a difference to, settling one change after the other does not
    either. -/
theorem settle_invariant {α : Type} (reading : EditScript → α) (kind : Change)
    (raises : ∀ before text after, reading (around kind (raise kind before text after)) =
      reading (around kind (before, text, after)))
    (lowers : ∀ before text after, reading (around kind (lower kind before text after)) =
      reading (around kind (before, text, after)))
    (turns : Nat) (before after : List Edit) :
    reading (settle kind turns before after) = reading (before.reverse ++ after) := by
  fun_induction settle kind turns before after with
  | case1 => rfl
  | case2 turns before after skipped _ text rest before₁ text₁ rest₁ raised before₂ text₂ rest₂
      lowered spanned ih =>
    -- What has been skipped is before the change, so all three moves meet in one script.
    have raises := raises (skipped.reverse ++ before) text rest
    have lowers := lowers before₁ text₁ rest₁
    rw [raised] at raises
    rw [lowered] at lowers
    rw [eq_of_span spanned]
    simp only [around, List.reverse_append, List.reverse_reverse, List.reverse_cons,
      List.append_assoc, List.cons_append, List.nil_append] at raises lowers ih ⊢
    exact (ih.trans lowers).trans raises
  | case3 => rfl

/-- Settling changes one after the other keeps the texts, whatever the changes pass. -/
theorem settle_agrees (kind : Change) (turns : Nat) (before after : List Edit) :
    Agrees (settle kind turns before after) (before.reverse ++ after) where
  source_eq := settle_invariant source kind
    (fun before text after => (raise_agrees kind before text after).source_eq)
    (fun before text after => (lower_agrees kind before text after).source_eq) turns before after
  target_eq := settle_invariant target kind
    (fun before text after => (raise_agrees kind before text after).target_eq)
    (fun before text after => (lower_agrees kind before text after).target_eq) turns before after

theorem compact_agrees (script : EditScript) : Agrees script.compact script :=
  (settle_agrees .insert _ [] _).trans (settle_agrees .delete _ [] script)

theorem joined_agrees (script : EditScript) : Agrees (joined script) script := by
  induction script with
  | nil => rfl
  | cons edit script ih =>
    cases edit with
    | keep text => exact (keepBefore_agrees text (joined script)).trans (ih.prepend [.keep text])
    | change kind text =>
      simp only [joined]
      split
      · next empty =>
        subst empty
        exact ih.trans ((Agrees.change_nil kind).append script).symm
      · exact ih.prepend [.change kind text]

/-! ## Scripts between two texts -/

structure Leads (script : EditScript) (first second : Text) : Prop where
  source_eq : script.source = first
  target_eq : script.target = second

namespace Leads

variable {script other rest : EditScript} {first second first' second' : Text}

theorem of_agrees (leads : Leads other first second) (agrees : Agrees script other) :
    Leads script first second :=
  ⟨agrees.source_eq.trans leads.source_eq, agrees.target_eq.trans leads.target_eq⟩

theorem append (leads : Leads script first second) (leadsOn : Leads rest first' second') :
    Leads (script ++ rest) (first ++ first') (second ++ second') := by
  constructor
  · rw [source_append, leads.source_eq, leadsOn.source_eq]
  · rw [target_append, leads.target_eq, leadsOn.target_eq]

end Leads

theorem keeping_leads (text : Text) : Leads (keeping text) text text := by
  unfold keeping
  split
  · next empty =>
    subst empty
    exact ⟨rfl, rfl⟩
  · exact ⟨List.append_nil text, List.append_nil text⟩

/-- Whatever way the texts are cut on the way, the parts are put together in order. -/
theorem shortest_leads (first second : Text) : Leads (shortest first second) first second := by
  fun_induction shortest first second with
  | case1 first second start stop middle ihLeft ihRight =>
    -- Each way to fill the middle accounts for what the shared ends leave over.
    have inner : Leads middle stop.2.1 stop.2.2 := by
      unfold middle
      split
      · next empty => exact ⟨empty.1.symm, empty.2.symm⟩
      · split
        · next empty => exact ⟨by simp, by simp [empty]⟩
        · split
          · next empty => exact ⟨by simp [empty], by simp⟩
          · split
            · next cut _ =>
              simpa only [List.take_append_drop] using (ihLeft cut).append (ihRight cut)
            · exact ⟨by simp, by simp⟩
    have whole := ((keeping_leads start.1).append inner).append (keeping_leads stop.1)
    simpa [start, stop] using whole

/-- The alignment of two texts is a script from the first to the second. -/
theorem between_leads (first second : Text) : Leads (between first second) first second :=
  (shortest_leads first second).of_agrees
    ((joined_agrees _).trans (compact_agrees _))

end EditScript

end MailSort
