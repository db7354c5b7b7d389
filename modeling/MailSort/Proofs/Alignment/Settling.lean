import MailSort.Proofs.Alignment.SharedLength

/-! # Settling keeps the shared text

A change that moves over kept text only cuts it elsewhere: an insertion has at one end what it
takes up at the other.  So neither settling the changes of a script nor joining its kept runs makes
a difference to what is kept in all (`EditScript.keptText_compact`, `EditScript.keptText_joined`).
What is kept is a common subsequence of the two texts, as long as the shared runs of any length.
-/

namespace MailSort

namespace EditScript

/-! ## What a script keeps -/

def keptText (script : EditScript) : Text :=
  script.kept.flatten

@[simp] theorem keptText_nil : keptText [] = [] := rfl

@[simp] theorem keptText_cons_keep (run : Text) (script : EditScript) :
    keptText (.keep run :: script) = run ++ script.keptText :=
  rfl

@[simp] theorem keptText_cons_change (kind : Change) (text : Text) (script : EditScript) :
    keptText (.change kind text :: script) = script.keptText :=
  rfl

@[simp] theorem keptText_append (script rest : EditScript) :
    keptText (script ++ rest) = script.keptText ++ rest.keptText := by
  simp [keptText, kept]

theorem keptText_sublist_source (script : EditScript) :
    script.keptText.Sublist script.source := by
  induction script with
  | nil => exact .slnil
  | cons edit script ih =>
    rw [source_cons]
    cases edit with
    | keep run => exact ih.append_left run
    | change kind text => exact ih.trans (List.sublist_append_right _ _)

theorem keptText_sublist_target (script : EditScript) :
    script.keptText.Sublist script.target := by
  induction script with
  | nil => exact .slnil
  | cons edit script ih =>
    rw [target_cons]
    cases edit with
    | keep run => exact ih.append_left run
    | change kind text => exact ih.trans (List.sublist_append_right _ _)

/-- Every run counts if it need not be longer than one character. -/
theorem sharedLength_one (script : EditScript) :
    script.sharedLength 1 = script.keptText.length := by
  induction script with
  | nil => rfl
  | cons edit script ih =>
    cases edit with
    | keep run =>
      rw [sharedLength_cons_keep, keptText_cons_keep, List.length_append, ih]
      split <;> omega
    | change kind text => exact ih

/-! ## Runs that are put beside others -/

@[simp] theorem keptText_keeping (text : Text) : (keeping text).keptText = text := by
  unfold keeping
  split
  · next empty => exact empty.symm
  · exact List.append_nil text

theorem keptText_keepBefore (text : Text) (script : EditScript) :
    (keepBefore text script).keptText = text ++ script.keptText := by
  unfold keepBefore
  split
  · next empty => rw [empty, List.nil_append]
  · split
    · exact List.append_assoc ..
    · rfl

theorem keptText_keepAfter (before : List Edit) (text : Text) :
    keptText (keepAfter before text).reverse = keptText before.reverse ++ text := by
  unfold keepAfter
  split
  · next empty => rw [empty, List.append_nil]
  · split <;> simp

theorem keptText_joined (script : EditScript) : script.joined.keptText = script.keptText := by
  induction script with
  | nil => rfl
  | cons edit script ih =>
    cases edit with
    | keep text => rw [joined, keptText_keepBefore, ih, keptText_cons_keep]
    | change kind text =>
      rw [joined, keptText_cons_change, ← ih]
      split <;> rfl

/-! ## Changes that move -/

/-- Sliding to the left cuts a kept run in two at most. -/
theorem append_of_slideLeft {kind : Change} {kept text left moved passed : Text}
    (slid : (match kind with
      | .insert => slideLeft kept.reverse text []
      | .delete => (kept, text, [])) = (left, moved, passed)) : left ++ passed = kept := by
  cases kind with
  | delete =>
    cases slid
    exact List.append_nil kept
  | insert => simpa [slid] using slideLeft_keeps kept.reverse text []

/-- Sliding to the right cuts a kept run in two at most. -/
theorem append_of_slideRight {kind : Change} {kept text left moved passed : Text}
    (slid : (match kind with
      | .insert => slideRight [] text kept
      | .delete => ([], text, kept)) = (passed, moved, left)) : passed ++ left = kept := by
  cases kind with
  | delete =>
    cases slid
    exact List.nil_append kept
  | insert => simpa [slid] using slideRight_keeps [] text kept

theorem keptText_raise (kind : Change) (before : List Edit) (text : Text) (after : List Edit) :
    keptText (around kind (raise kind before text after)) =
      keptText (around kind (before, text, after)) := by
  fun_induction raise kind before text after with
  | case1 => rfl
  | case2 kept before text after moved passed behind slid ih =>
    rw [ih, ← append_of_slideLeft slid]
    simp [around, behind, keptText_keepBefore]
  | case3 kept before text after left moved passed slid behind =>
    rw [← append_of_slideLeft slid]
    simp [around, behind, keptText_keepBefore]
  | case4 earlier before text after ih =>
    rw [ih]
    simp [around]
  | case5 other earlier before text after differ ih =>
    rw [ih]
    simp [around]

theorem keptText_lower (kind : Change) (before : List Edit) (text : Text) (after : List Edit) :
    keptText (around kind (lower kind before text after)) =
      keptText (around kind (before, text, after)) := by
  fun_induction lower kind before text after with
  | case1 => rfl
  | case2 before text kept after passed moved ahead slid ih =>
    rw [ih, ← append_of_slideRight slid]
    simp [around, ahead, keptText_keepAfter]
  | case3 before text kept after passed moved left slid ahead =>
    rw [← append_of_slideRight slid]
    simp [around, ahead, keptText_keepAfter]
  | case4 before text later after ih =>
    rw [ih]
    simp [around]
  | case5 before text other later after differ ih =>
    rw [ih]
    simp [around]

theorem keptText_settle (kind : Change) (turns : Nat) (before after : List Edit) :
    keptText (settle kind turns before after) = keptText (before.reverse ++ after) :=
  settle_invariant keptText kind (keptText_raise kind) (keptText_lower kind) turns before after

theorem keptText_compact (script : EditScript) : script.compact.keptText = script.keptText :=
  (keptText_settle .insert _ [] _).trans (keptText_settle .delete _ [] script)

/-- The alignment keeps what the script keeps that it is made of. -/
theorem keptText_between (first second : Text) :
    (between first second).keptText = (shortest first second).keptText :=
  (keptText_joined _).trans (keptText_compact _)

end EditScript

end MailSort
