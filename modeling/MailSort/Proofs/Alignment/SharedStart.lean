import MailSort.Proofs.Alignment.Coarsening
import MailSort.Proofs.Alignment.Identity
import MailSort.Proofs.Alignment.Settling

/-! # Shared beginnings

What two texts begin with alike is kept in one run, whatever the changes behind it pass on their
way (`EditScript.head?_between`).  A deletion does not pass kept text at all.  An insertion may
slide into the shared beginning, where others join it, but it comes out again: it slides right until
it differs from the character that follows it, and within the shared beginning it cannot differ,
since both texts go on with the same character there (`EditScript.KeepsFirst.insert_stopped`).
-/

namespace MailSort

namespace Text

structure SharedStart (shared first second : Text) : Prop where
  prefix_first : shared <+: first
  prefix_second : shared <+: second
  longest : ∀ other, other <+: first → other <+: second → other <+: shared

theorem sharedStart_splitPrefix (first second : Text) :
    SharedStart (splitPrefix first second).1 first second where
  prefix_first := ⟨_, splitPrefix_append_first first second⟩
  prefix_second := ⟨_, splitPrefix_append_second first second⟩
  longest := by
    intro other inFirst inSecond
    fun_induction splitPrefix first second generalizing other with
    | case1 first second c shared first' second' split ih =>
      cases other with
      | nil => exact List.nil_prefix
      | cons d other =>
        obtain ⟨rfl, behind⟩ := List.cons_prefix_cons.1 inFirst
        rw [split] at ih
        exact List.cons_prefix_cons.2 ⟨rfl, ih other behind (List.cons_prefix_cons.1 inSecond).2⟩
    | case2 c first d second differ =>
      cases other with
      | nil => exact List.nil_prefix
      | cons e other =>
        obtain ⟨rfl, -⟩ := List.cons_prefix_cons.1 inFirst
        exact absurd (List.cons_prefix_cons.1 inSecond).1 differ
    | case3 first second ends =>
      cases first with
      | nil => exact inFirst
      | cons c first =>
        cases second with
        | nil => exact inSecond
        | cons d second => exact absurd rfl (ends c first d second rfl)

theorem SharedStart.unique {shared other first second : Text}
    (longest : SharedStart shared first second) (longest' : SharedStart other first second) :
    shared = other := by
  have within := longest'.longest shared longest.prefix_first longest.prefix_second
  have within' := longest.longest other longest'.prefix_first longest'.prefix_second
  exact within.eq_of_length_le within'.length_le

/-- Behind a part that is shorter than what a text begins with, the text goes on with what comes
    next in its beginning. -/
theorem head?_of_prefix {start part rest : Text} (begins : start <+: part ++ rest)
    (short : part.length < start.length) : rest.head? = start[part.length]? := by
  have here := begins.getElem short
  rw [List.getElem?_eq_getElem short, here, List.head?_eq_getElem?,
    List.getElem_append_right (Nat.le_refl _)]
  simp

end Text

def Edit.text : Edit → Text
  | .keep text => text
  | .change _ text => text

namespace EditScript

/-- The first characters of a script, as many as given, are kept: no change comes before the end of
    them, except for changes without characters. -/
def KeepsFirst : (count : Nat) → EditScript → Prop
  | _, [] => True
  | count, .keep run :: rest => KeepsFirst (count - run.length) rest
  | count, .change _ text :: rest => (count = 0 ∨ text = []) ∧ KeepsFirst count rest

variable {script rest before after : EditScript} {text start : Text} {kind : Change} {count : Nat}

@[simp] theorem keepsFirst_nil : KeepsFirst count [] := trivial

@[simp] theorem keepsFirst_cons_keep {run : Text} :
    KeepsFirst count (.keep run :: rest) ↔ KeepsFirst (count - run.length) rest :=
  Iff.rfl

@[simp] theorem keepsFirst_cons_change :
    KeepsFirst count (.change kind text :: rest) ↔
      (count = 0 ∨ text = []) ∧ KeepsFirst count rest :=
  Iff.rfl

@[simp] theorem keepsFirst_zero (script : EditScript) : KeepsFirst 0 script := by
  induction script with
  | nil => trivial
  | cons edit script ih =>
    cases edit with
    | keep run => simpa using ih
    | change kind text => exact ⟨.inl rfl, ih⟩

/-- Behind a script, as many characters have to be kept as it does not keep itself. -/
@[simp] theorem keepsFirst_append :
    KeepsFirst count (script ++ rest) ↔
      KeepsFirst count script ∧ KeepsFirst (count - script.keptText.length) rest := by
  induction script generalizing count with
  | nil => simp
  | cons edit script ih =>
    cases edit with
    | keep run => simp [ih, Nat.sub_sub]
    | change kind text => simp [ih, and_assoc]

@[simp] theorem keepsFirst_keepBefore :
    KeepsFirst count (keepBefore text script) ↔ KeepsFirst (count - text.length) script := by
  unfold keepBefore
  split
  · next empty => simp [empty]
  · split
    · simp [Nat.sub_sub]
    · rfl

@[simp] theorem keepsFirst_keepAfter :
    KeepsFirst count (keepAfter before text).reverse ↔ KeepsFirst count before.reverse := by
  unfold keepAfter
  split
  · rfl
  · split <;> simp

@[simp] theorem keepBefore_nil (script : EditScript) : keepBefore [] script = script :=
  if_pos rfl

@[simp] theorem keepAfter_nil (before : List Edit) : keepAfter before [] = before :=
  if_pos rfl

theorem keepsFirst_keeping (text : Text) : KeepsFirst count (keeping text) := by
  unfold keeping
  split <;> simp

/-- Until so many characters are kept, both texts are what is kept. -/
theorem KeepsFirst.eq_keptText (kept : KeepsFirst count script)
    (short : script.keptText.length < count) :
    script.source = script.keptText ∧ script.target = script.keptText := by
  induction script generalizing count with
  | nil => exact ⟨rfl, rfl⟩
  | cons edit script ih =>
    cases edit with
    | keep run =>
      rw [keptText_cons_keep, List.length_append] at short
      obtain ⟨source, target⟩ := ih kept (by omega)
      simp [source, target]
    | change kind text =>
      rw [keptText_cons_change] at short
      obtain rfl : text = [] := kept.1.resolve_left (by omega)
      obtain ⟨source, target⟩ := ih kept.2 short
      cases kind <;> simp [source, target]

/-- Two changes of one kind spare what is kept first if they do so put together. -/
theorem keepsFirst_merge (kind : Change) (first second : Text) :
    KeepsFirst count (.change kind first :: .change kind second :: rest) ↔
      KeepsFirst count (.change kind (first ++ second) :: rest) := by
  simp [or_and_left, and_assoc]

theorem keepsFirst_swap (kind other : Change) (first second : Text) :
    KeepsFirst count (.change kind first :: .change other second :: rest) ↔
      KeepsFirst count (.change other second :: .change kind first :: rest) :=
  and_left_comm

/-! ## Deletions -/

/-- A deletion passes no kept text when it is raised. -/
theorem keepsFirst_raise_delete (before : List Edit) (text : Text) (after : List Edit) :
    KeepsFirst count (around .delete (raise .delete before text after)) ↔
      KeepsFirst count (around .delete (before, text, after)) := by
  fun_induction raise Change.delete before text after with
  | case1 => rfl
  | case2 kept before text after moved passed behind slid ih =>
    cases slid
    simpa [around, behind] using ih
  | case3 kept before text after left moved passed slid behind =>
    cases slid
    simp [around, behind]
  | case4 earlier before text after ih =>
    rw [ih]
    simp only [around, List.reverse_cons, List.append_assoc, List.cons_append, List.nil_append]
    rw [keepsFirst_append, keepsFirst_append, keepsFirst_merge]
  | case5 other earlier before text after differ ih =>
    rw [ih]
    simp only [around, List.reverse_cons, List.append_assoc, List.cons_append, List.nil_append]
    rw [keepsFirst_append, keepsFirst_append, keepsFirst_swap]

/-- A deletion passes no kept text when it is lowered. -/
theorem keepsFirst_lower_delete (before : List Edit) (text : Text) (after : List Edit) :
    KeepsFirst count (around .delete (lower .delete before text after)) ↔
      KeepsFirst count (around .delete (before, text, after)) := by
  fun_induction lower Change.delete before text after with
  | case1 => rfl
  | case2 before text kept after passed moved ahead slid ih =>
    cases slid
    simpa [around, ahead] using ih
  | case3 before text kept after passed moved left slid ahead =>
    cases slid
    simp [around, ahead]
  | case4 before text later after ih =>
    rw [ih]
    simp only [around]
    rw [keepsFirst_append, keepsFirst_append, keepsFirst_merge]
  | case5 before text other later after differ ih =>
    rw [ih]
    simp only [around, List.reverse_cons, List.append_assoc, List.cons_append, List.nil_append]
    rw [keepsFirst_append, keepsFirst_append, keepsFirst_swap]

theorem keepsFirst_settle_delete (turns : Nat) (before after : List Edit) :
    KeepsFirst count (settle .delete turns before after) ↔
      KeepsFirst count (before.reverse ++ after) :=
  iff_of_eq <| settle_invariant (KeepsFirst count) .delete
    (fun before text after => propext (keepsFirst_raise_delete before text after))
    (fun before text after => propext (keepsFirst_lower_delete before text after))
    turns before after

/-! ## Insertions -/

def beside (place : List Edit × Text × List Edit) : EditScript :=
  place.1.reverse ++ place.2.2

/-- What a change passes when it is raised keeps as much as before. -/
theorem KeepsFirst.raise (kept : KeepsFirst count (beside (before, text, after))) :
    KeepsFirst count (beside (raise kind before text after)) := by
  fun_induction EditScript.raise kind before text after with
  | case1 => exact kept
  | case2 run before text after moved passed behind slid ih =>
    obtain rfl : passed = run := append_of_slideLeft slid
    exact ih (by simpa [beside, behind] using kept)
  | case3 run before text after left moved passed slid behind =>
    obtain rfl := append_of_slideLeft slid
    simpa [beside, behind, Nat.sub_sub, Nat.add_assoc] using kept
  | case4 earlier before text after ih =>
    simp only [beside, List.reverse_cons, List.append_assoc, keepsFirst_append] at kept
    exact ih (keepsFirst_append.2 ⟨kept.1, kept.2.2⟩)
  | case5 other earlier before text after differ ih =>
    exact ih (by simpa [beside, and_assoc] using kept)

/-- What a change passes when it is lowered keeps as much as before. -/
theorem KeepsFirst.lower (kept : KeepsFirst count (beside (before, text, after))) :
    KeepsFirst count (beside (lower kind before text after)) := by
  fun_induction EditScript.lower kind before text after with
  | case1 => exact kept
  | case2 before text run after passed moved ahead slid ih =>
    obtain rfl : passed = run := by simpa using append_of_slideRight slid
    exact ih (by simpa [beside, ahead, keptText_keepAfter, Nat.sub_sub] using kept)
  | case3 before text run after passed moved left slid ahead =>
    obtain rfl := append_of_slideRight slid
    simpa [beside, ahead, keptText_keepAfter, Nat.sub_sub, Nat.add_assoc] using kept
  | case4 before text later after ih =>
    have split := keepsFirst_append.1 kept
    exact ih (keepsFirst_append.2 ⟨split.1, split.2.2⟩)
  | case5 before text other later after differ ih =>
    exact ih (by simpa [beside, and_assoc] using kept)

/-- An insertion slides right until it differs from what follows it. -/
theorem slideRight_stops {passed inserted kept : Text} {c : Char}
    (head : (slideRight passed inserted kept).2.2.head? = some c) :
    (slideRight passed inserted kept).2.1.head? ≠ some c := by
  fun_induction slideRight passed inserted kept with
  | case1 passed inserted c kept ih => exact ih head
  | case2 passed d inserted e kept differ =>
    cases head
    intro same
    cases same
    exact differ rfl
  | case3 passed inserted kept ends =>
    cases inserted with
    | nil => exact (Option.some_ne_none c).symm
    | cons d inserted =>
      cases kept with
      | nil => contradiction
      | cons e kept => exact absurd rfl (ends d inserted e kept rfl)

/-- An insertion that has been lowered differs from the text that follows it. -/
theorem lower_insert_stops {before : List Edit} {text : Text} {after : List Edit} {c : Char}
    (head : (source (lower .insert before text after).2.2).head? = some c) :
    (lower .insert before text after).2.1.head? ≠ some c := by
  fun_induction lower Change.insert before text after with
  | case1 => contradiction
  | case2 before text kept after passed moved ahead slid ih => exact ih head
  | case3 before text kept after passed moved left slid ahead some =>
    have first : left.head? = Option.some c := by
      rwa [source_cons, Edit.source, List.head?_append_of_ne_nil _ some] at head
    have slid : slideRight [] text kept = (passed, moved, left) := slid
    have stops := @slideRight_stops [] text kept c
    rw [slid] at stops
    exact stops first
  | case4 before text later after ih => exact ih head
  | case5 before text other later after differ ih => exact ih head

/-- An insertion that has come to a stop is not within what both texts begin with: it would begin
    with the character that follows it. -/
theorem KeepsFirst.insert_stopped
    (kept : KeepsFirst start.length (beside (before, text, after)))
    (inSource : start <+: source (around .insert (before, text, after)))
    (inTarget : start <+: target (around .insert (before, text, after)))
    (stopped : ∀ c, (source after).head? = some c → text.head? ≠ some c) :
    KeepsFirst start.length (around .insert (before, text, after)) := by
  obtain ⟨ahead, behind⟩ := keepsFirst_append.1 kept
  refine keepsFirst_append.2 ⟨ahead, ?_, behind⟩
  dsimp only
  by_contra within
  rw [not_or] at within
  obtain ⟨short, some⟩ := within
  have short : (keptText before.reverse).length < start.length := by omega
  obtain ⟨source_eq, target_eq⟩ := ahead.eq_keptText short
  obtain ⟨c, more, rfl⟩ := List.exists_cons_of_ne_nil some
  simp only [around, source_append, target_append, source_cons, target_cons, source_eq,
    target_eq, Edit.source, Edit.target, List.nil_append] at inSource inTarget
  have next := Text.head?_of_prefix inSource short
  have next' := Text.head?_of_prefix inTarget short
  exact stopped c (next.trans next'.symm) rfl

/-- The edits that are skipped on the way to a change are before it. -/
theorem around_skipped (kind : Change) (before : List Edit) (skipped rest : EditScript)
    (text : Text) : around kind (skipped.reverse ++ before, text, rest) =
      before.reverse ++ (skipped ++ .change kind text :: rest) := by
  simp [around]

/-- What both texts begin with stays kept when the insertions are settled. -/
theorem KeepsFirst.settle_insert {turns : Nat}
    (kept : KeepsFirst start.length (before.reverse ++ after))
    (inSource : start <+: source (before.reverse ++ after))
    (inTarget : start <+: target (before.reverse ++ after)) :
    KeepsFirst start.length (settle .insert turns before after) := by
  fun_induction settle Change.insert turns before after with
  | case1 => exact kept
  | case2 turns before after skipped _ text rest before₁ text₁ rest₁ raised before₂ text₂ rest₂
      lowered spanned ih =>
    rw [eq_of_span spanned, ← around_skipped] at kept inSource inTarget
    have raises := raise_agrees .insert (skipped.reverse ++ before) text rest
    have lowers := lower_agrees .insert before₁ text₁ rest₁
    rw [raised] at raises
    rw [lowered] at lowers
    have agrees := lowers.trans raises
    have passed : KeepsFirst start.length (beside (before₂, text₂, rest₂)) := by
      rw [← lowered]
      refine KeepsFirst.lower ?_
      rw [← raised]
      refine KeepsFirst.raise ?_
      have parts := keepsFirst_append.1 kept
      exact keepsFirst_append.2 ⟨parts.1, parts.2.2⟩
    have stopped := @lower_insert_stops before₁ text₁ rest₁
    rw [lowered] at stopped
    have whole := passed.insert_stopped (agrees.source_eq ▸ inSource) (agrees.target_eq ▸ inTarget)
      fun _ => stopped
    rw [← agrees.source_eq] at inSource
    rw [← agrees.target_eq] at inTarget
    simp only [around, List.reverse_cons, List.append_assoc] at whole inSource inTarget ih
    exact ih whole inSource inTarget
  | case3 => exact kept

/-! ## The first run of an alignment -/

theorem keepsFirst_shortest (first second : Text) :
    KeepsFirst (Text.splitPrefix first second).1.length (shortest first second) := by
  rw [shortest, List.append_assoc, keepsFirst_append, keptText_keeping, Nat.sub_self]
  exact ⟨keepsFirst_keeping _, keepsFirst_zero _⟩

theorem KeepsFirst.joined (kept : KeepsFirst count script) : KeepsFirst count script.joined := by
  induction script generalizing count with
  | nil => exact kept
  | cons edit script ih =>
    cases edit with
    | keep run => exact keepsFirst_keepBefore.2 (ih kept)
    | change kind text =>
      rw [EditScript.joined]
      split
      · exact ih kept.2
      · exact ⟨kept.1, ih kept.2⟩

/-- What two texts begin with, their alignment keeps before any change. -/
theorem keepsFirst_between (first second : Text) :
    KeepsFirst (Text.splitPrefix first second).1.length (between first second) := by
  have shared := Text.sharedStart_splitPrefix first second
  have leads := (shortest_leads first second).of_agrees
    (settle_agrees .delete (shortest first second).length [] _)
  refine KeepsFirst.joined (KeepsFirst.settle_insert ?_ ?_ ?_)
  · exact (keepsFirst_settle_delete _ [] _).2 (keepsFirst_shortest first second)
  · rw [List.reverse_nil, List.nil_append, leads.source_eq]
    exact shared.prefix_first
  · rw [List.reverse_nil, List.nil_append, leads.target_eq]
    exact shared.prefix_second

theorem text_ne_nil_of_mem_keepBefore (full : ∀ edit ∈ script, edit.text ≠ []) :
    ∀ edit ∈ keepBefore text script, edit.text ≠ [] := by
  unfold keepBefore
  split
  · exact full
  · next some =>
    split
    · next next rest =>
      rw [List.forall_mem_cons] at full ⊢
      exact ⟨List.append_ne_nil_of_left_ne_nil some next, full.2⟩
    · exact List.forall_mem_cons.2 ⟨some, full⟩

/-- No edit of a joined script is without characters. -/
theorem text_ne_nil_of_mem_joined (script : EditScript) :
    ∀ edit ∈ script.joined, edit.text ≠ [] := by
  induction script with
  | nil => simp [EditScript.joined]
  | cons edit script ih =>
    cases edit with
    | keep run => exact text_ne_nil_of_mem_keepBefore ih
    | change kind text =>
      rw [EditScript.joined]
      split
      · exact ih
      · next some => exact List.forall_mem_cons.2 ⟨some, ih⟩

/-- An alignment begins with a run just if both texts begin alike, and then with all that they
    begin with. -/
theorem head?_between (first second : Text) :
    (between first second).head? = some (.keep (Text.splitPrefix first second).1) ∨
      (Text.splitPrefix first second).1 = [] ∧
        ∀ run, (between first second).head? ≠ some (.keep run) := by
  have shared := Text.sharedStart_splitPrefix first second
  have kept := keepsFirst_between first second
  have leads := between_leads first second
  have apart : RunsApart (between first second) := runsApart_joined _
  have full : ∀ edit ∈ between first second, edit.text ≠ [] := text_ne_nil_of_mem_joined _
  generalize (Text.splitPrefix first second).1 = start at shared kept ⊢
  generalize between first second = script at kept leads apart full ⊢
  cases script with
  | nil =>
    obtain rfl : [] = first := leads.source_eq
    exact .inr ⟨List.prefix_nil.1 shared.prefix_first, by simp⟩
  | cons edit rest =>
    cases edit with
    | change kind text =>
      have none : start.length = 0 := kept.1.resolve_right (full _ List.mem_cons_self)
      exact .inr ⟨List.length_eq_zero_iff.1 none, by simp⟩
    | keep run =>
      left
      have begins : run <+: start :=
        shared.longest run ⟨_, leads.source_eq⟩ ⟨_, leads.target_eq⟩
      have long : start.length ≤ run.length := by
        cases rest with
        | nil =>
          have whole : first = run := leads.source_eq.symm.trans (List.append_nil run)
          exact whole ▸ shared.prefix_first.length_le
        | cons next rest =>
          -- The change behind the run is not within the shared beginning.
          obtain ⟨kind, text, after, same⟩ := apart.change_after (List.cons_ne_nil next rest)
          rw [same] at kept full
          have within := kept.1.resolve_right (full (.change kind text) (by simp))
          omega
      rw [List.head?_cons, begins.eq_of_length_le long]

end EditScript

namespace Template

open Text (splitPrefix)

variable {template : Template} {first second : Text} {least : SegmentLength}

/-- A shared beginning that is long enough is the first literal. -/
theorem head?_common (enough : least.chars ≤ (splitPrefix first second).1.length) :
    (common first second least).elements.head? = some (.literal (splitPrefix first second).1) := by
  have two := least.two_le
  have apart : EditScript.RunsApart (EditScript.between first second) :=
    EditScript.runsApart_joined _
  obtain begins | ⟨none, -⟩ := EditScript.head?_between first second
  · obtain ⟨rest, same⟩ := List.head?_eq_some_iff.1 begins
    rw [same] at apart
    have pos : 0 < least.chars := by omega
    have literals := apart.literalsApart pos
    rw [common, EditScript.template, same]
    rw [List.map_cons, EditScript.toElement, if_pos enough] at literals ⊢
    exact head?_of_literal literals.1 literals.2.1
  · rw [none, List.length_nil] at enough
    omega

/-- Without one a template begins with a wildcard, unless there is nothing in common at all. -/
theorem startsOpen_common (short : (splitPrefix first second).1.length < least.chars)
    (nonempty : (common first second least).isEmpty = false) :
    (common first second least).startsOpen := by
  rw [common, EditScript.template] at nonempty ⊢
  have begins := EditScript.head?_between first second
  cases script : EditScript.between first second with
  | nil =>
    rw [script] at nonempty
    contradiction
  | cons edit rest =>
    rw [script] at nonempty begins
    have open_here : EditScript.toElement least.chars edit = .wildcard := by
      cases edit with
      | keep run =>
        obtain same | ⟨-, no_run⟩ := begins
        · cases same
          exact if_neg (by omega)
        · exact absurd rfl (no_run run)
      | change kind text => rfl
    rw [List.map_cons, open_here] at nonempty ⊢
    exact startsOpen_of_wildcard nonempty

/-- A text has all of itself in common with itself. -/
theorem elements_common_self {text : Text} (enough : least.chars ≤ text.length) :
    (common text text least).elements = [.literal text] := by
  have two := least.two_le
  have some : text ≠ [] := List.ne_nil_of_length_pos (by omega)
  rw [common, EditScript.template, EditScript.map_toElement_between_self some enough]
  exact elements_ofElements_literal some

/-- Two texts have a text without gaps in common only if they are the same. -/
theorem common_closed_iff (first second : Text) (least : SegmentLength) :
    ((common first second least).isEmpty = false ∧ (common first second least).gapCount = 0) ↔
      first = second ∧ least.chars ≤ first.length := by
  constructor
  · rintro ⟨nonempty, closed⟩
    have no_wildcard := fun member => (gapCount_pos_of_mem member).ne' closed
    obtain ⟨part, elements⟩ := exists_elements_eq_literal nonempty no_wildcard
    obtain ⟨fitsFirst, fitsSecond⟩ := fits_common nonempty
    have long := longLiterals_common first second least part (by simp [elements])
    -- A single literal fits nothing but itself.
    have eq_part {text : Text} (fitted : (common first second least).fits text) : text = part := by
      have denoted := (fits_iff.1 fitted).2
      rw [elements] at denoted
      exact Element.denotes_single_literal.1 denoted
    rw [eq_part fitsFirst, eq_part fitsSecond]
    exact ⟨rfl, long⟩
  · rintro ⟨rfl, enough⟩
    have elements := elements_common_self enough
    refine ⟨?_, ?_⟩
    · simp [isEmpty_eq_false_iff, elements]
    · simp [gapCount, elements, Element.isWildcard]

/-- What two texts have in common begins with the longest text that both begin with, if that is
    long enough; if not, it begins with a wildcard or is nothing.  It has no wildcards just if both
    texts are the same and long enough, and then it is that text. -/
theorem common_begins (first second : Text) (least : SegmentLength) :
    ∃ shared, Text.SharedStart shared first second ∧
      (least.chars ≤ shared.length →
        (common first second least).elements.head? = some (.literal shared)) ∧
      (shared.length < least.chars →
        (common first second least).isEmpty ∨ (common first second least).startsOpen) ∧
      (((common first second least).isEmpty = false ∧
          (common first second least).gapCount = 0) ↔
        first = second ∧ least.chars ≤ first.length) ∧
      (first = second → least.chars ≤ first.length →
        (common first second least).elements = [.literal first]) := by
  refine ⟨_, Text.sharedStart_splitPrefix first second, head?_common, fun short => ?_,
    common_closed_iff first second least, ?_⟩
  · cases empty : (common first second least).isEmpty with
    | true => exact .inl rfl
    | false => exact .inr (startsOpen_common short empty)
  · rintro rfl enough
    exact elements_common_self enough

/-- The characters that are inserted could be the first ones as well, but the run at the beginning
    is kept whole. -/
theorem common_begins_before_repetition :
    (common "ababx".toList "abababx".toList .shortest).elements.head? =
      some (.literal "abab".toList) := by
  have shared := Text.sharedStart_splitPrefix "ababx".toList "abababx".toList
  have split : (splitPrefix "ababx".toList "abababx".toList).1 = "abab".toList := by decide
  rw [split] at shared
  obtain ⟨start, longest, enough, -⟩ :=
    common_begins "ababx".toList "abababx".toList SegmentLength.shortest
  obtain rfl := longest.unique shared
  exact enough (by decide)

end Template

end MailSort
