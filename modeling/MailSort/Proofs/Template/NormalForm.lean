import MailSort.Proofs.Template.Gaps

/-! # Normal form

What bringing elements into normal form does to them, and what a template looks like for being in
it.  Where no literal follows another one, all literals stay as they are and only wildcards are
joined (`Element.LiteralsApart.literals_tidy`).  A template begins with what its elements begin with
(`Template.head?_of_literal`, `Template.startsOpen_of_wildcard`).  Beside a literal there is a
wildcard or nothing (`Element.Alternating.behind_literal`).
-/

namespace MailSort

namespace Element

def LiteralsApart : List Element → Prop
  | [] => True
  | .literal part :: rest =>
    part ≠ [] ∧ (∀ other after, rest ≠ .literal other :: after) ∧ LiteralsApart rest
  | .wildcard :: rest => LiteralsApart rest

variable {elements before after rest : List Element} {part : Text}

@[simp] theorem literals_cons_literal (part : Text) (rest : List Element) :
    (.literal part :: rest).filterMap literal? = part :: rest.filterMap literal? := rfl

@[simp] theorem literals_cons_wildcard (rest : List Element) :
    (.wildcard :: rest).filterMap literal? = rest.filterMap literal? := rfl

/-- A wildcard in front of elements stays, and takes the place of one that they begin with. -/
theorem exists_tidy_wildcard (rest : List Element) :
    ∃ after, tidy (.wildcard :: rest) = .wildcard :: after ∧
      (tidy rest = after ∨ tidy rest = .wildcard :: after) := by
  have unfolded : tidy (.wildcard :: rest) = attach .wildcard (tidy rest) := rfl
  rw [unfolded]
  cases tidy rest with
  | nil => exact ⟨[], rfl, .inl rfl⟩
  | cons next after =>
    cases next with
    | literal other => exact ⟨_, rfl, .inl rfl⟩
    | wildcard => exact ⟨after, rfl, .inr rfl⟩

/-- Elements that begin with a literal still do so when they are tidied. -/
theorem exists_tidy_literal (rest : List Element) (some : part ≠ []) :
    ∃ joined after, tidy (.literal part :: rest) = .literal joined :: after := by
  obtain ⟨c, part, rfl⟩ := List.exists_cons_of_ne_nil some
  have unfolded : tidy (.literal (c :: part) :: rest) = attach (.literal (c :: part)) (tidy rest) :=
    rfl
  rw [unfolded]
  cases tidy rest with
  | nil => exact ⟨_, _, rfl⟩
  | cons next after => cases next <;> exact ⟨_, _, rfl⟩

/-- A literal stays as it is if no other one follows it. -/
theorem tidy_literal (some : part ≠ []) (alone : ∀ other after, rest ≠ .literal other :: after) :
    tidy (.literal part :: rest) = .literal part :: tidy rest := by
  obtain ⟨c, part, rfl⟩ := List.exists_cons_of_ne_nil some
  cases rest with
  | nil => rfl
  | cons next rest =>
    cases next with
    | literal other => exact absurd rfl (alone other rest)
    | wildcard =>
      obtain ⟨after, tidied, -⟩ := exists_tidy_wildcard rest
      have unfolded : tidy (.literal (c :: part) :: .wildcard :: rest) =
        attach (.literal (c :: part)) (tidy (.wildcard :: rest)) := rfl
      rw [unfolded, tidied]
      rfl

theorem LiteralsApart.literals_tidy (apart : LiteralsApart elements) :
    (tidy elements).filterMap literal? = elements.filterMap literal? := by
  induction elements with
  | nil => rfl
  | cons element elements ih =>
    cases element with
    | literal part => simp [tidy_literal apart.1 apart.2.1, ih apart.2.2]
    | wildcard =>
      obtain ⟨after, tidied, same | same⟩ := exists_tidy_wildcard elements
      all_goals
        rw [tidied, ← same]
        exact ih apart

/-! ## What is beside a literal -/

theorem Alternating.of_append (alternating : Alternating (before ++ after)) :
    Alternating after := by
  induction before with
  | nil => exact alternating
  | cons element before ih => exact ih alternating.tail

theorem Alternating.behind_literal (alternating : Alternating (.literal part :: rest)) :
    rest = [] ∨ ∃ more, rest = .wildcard :: more := by
  obtain none | some := eq_or_ne rest []
  · exact .inl none
  · exact .inr (alternating.wildcard_after some)

theorem Alternating.behind_wildcard (alternating : Alternating (.wildcard :: rest)) :
    rest = [] ∨ ∃ part more, rest = .literal part :: more := by
  cases rest with
  | nil => exact .inl rfl
  | cons next more =>
    cases next with
    | literal part => exact .inr ⟨part, more, rfl⟩
    | wildcard => exact absurd rfl alternating.1

theorem Alternating.before_literal (alternating : Alternating (before ++ .literal part :: after)) :
    before = [] ∨ ∃ more, before = more ++ [.wildcard] := by
  induction before using List.reverseRecOn with
  | nil => exact .inl rfl
  | append_singleton more last _ =>
    rw [List.append_assoc] at alternating
    cases last with
    | literal other => exact absurd rfl alternating.of_append.1
    | wildcard => exact .inr ⟨more, rfl⟩

end Element

namespace Template

variable {template : Template} {elements rest : List Element} {part : Text}

/-- Elements that have a literal when they are tidied make up a template as they are then. -/
theorem elements_ofElements_of_mem (member : .literal part ∈ Element.tidy elements) :
    (ofElements elements).elements = Element.tidy elements := by
  unfold ofElements
  split
  · next lone =>
    rw [lone, List.mem_singleton] at member
    cases member
  · rfl

/-- A wildcard alone has no literals, so nothing is lost with it. -/
theorem literals_ofElements (apart : Element.LiteralsApart elements) :
    (ofElements elements).literals = elements.filterMap Element.literal? := by
  rw [← apart.literals_tidy]
  unfold ofElements
  split
  · next lone =>
    rw [lone]
    rfl
  · rfl

/-- A template begins with the literal that its elements begin with. -/
theorem head?_of_literal (some : part ≠ [])
    (alone : ∀ other after, rest ≠ .literal other :: after) :
    (ofElements (.literal part :: rest)).elements.head? = .some (.literal part) := by
  have tidied := Element.tidy_literal some alone
  rw [elements_ofElements_of_mem (tidied ▸ List.mem_cons_self), tidied]
  rfl

/-- A template begins with a wildcard if its elements do, unless there is nothing else. -/
theorem startsOpen_of_wildcard (nonempty : (ofElements (.wildcard :: rest)).isEmpty = false) :
    (ofElements (.wildcard :: rest)).startsOpen := by
  obtain ⟨after, tidied, -⟩ := Element.exists_tidy_wildcard rest
  rw [startsOpen, elements_ofElements nonempty, tidied]
  rfl

theorem elements_ofElements_literal (some : part ≠ []) :
    (ofElements [.literal part]).elements = [.literal part] := by
  have tidied : Element.tidy [.literal part] = [.literal part] :=
    Element.tidy_literal some (by simp)
  exact (elements_ofElements_of_mem (tidied ▸ List.mem_cons_self)).trans tidied

/-- A template begins with a literal if its elements do. -/
theorem not_startsOpen_of_literal (some : part ≠ []) :
    (ofElements (.literal part :: rest)).startsOpen = false := by
  obtain ⟨joined, after, tidied⟩ := Element.exists_tidy_literal rest some
  have elements : (ofElements (.literal part :: rest)).elements = Element.tidy _ :=
    elements_ofElements_of_mem (tidied ▸ List.mem_cons_self)
  rw [startsOpen, elements, tidied]
  rfl

/-! ## The shape of a template -/

theorem exists_elements_of_opens (opens : template.startsOpen) :
    ∃ part rest, template.elements = .wildcard :: .literal part :: rest := by
  obtain ⟨rest, elements⟩ := startsOpen_iff.1 opens
  have alternating := template.normal.alternating
  have more := template.normal.not_lone_wildcard
  rw [elements] at alternating more
  match rest with
  | [] => contradiction
  | .literal part :: rest => exact ⟨part, rest, elements⟩
  | .wildcard :: rest => exact absurd rfl alternating.1

theorem exists_elements_of_closes (closes : template.endsOpen) :
    ∃ before part, template.elements = before ++ [.literal part, .wildcard] := by
  obtain ⟨before, elements⟩ := endsOpen_iff.1 closes
  have alternating := template.normal.alternating
  have more := template.normal.not_lone_wildcard
  rw [elements] at alternating more
  induction before using List.reverseRecOn with
  | nil => contradiction
  | append_singleton before last _ =>
    rw [List.append_assoc] at elements alternating
    cases last with
    | literal part => exact ⟨before, part, elements⟩
    | wildcard => exact absurd rfl alternating.of_append.1

theorem exists_elements_of_not_opens (nonempty : template.isEmpty = false)
    (closed : template.startsOpen = false) :
    ∃ part rest, template.elements = .literal part :: rest := by
  rw [isEmpty_eq_false_iff] at nonempty
  cases elements : template.elements with
  | nil => contradiction
  | cons element rest =>
    cases element with
    | literal part => exact ⟨part, rest, rfl⟩
    | wildcard =>
      rw [startsOpen_iff.2 ⟨rest, elements⟩] at closed
      contradiction

theorem exists_elements_of_not_closes (nonempty : template.isEmpty = false)
    (closed : template.endsOpen = false) :
    ∃ before part, template.elements = before ++ [.literal part] := by
  rw [isEmpty_eq_false_iff] at nonempty
  induction elements : template.elements using List.reverseRecOn with
  | nil => contradiction
  | append_singleton before last _ =>
    cases last with
    | literal part => exact ⟨before, part, rfl⟩
    | wildcard =>
      rw [endsOpen_iff.2 ⟨before, elements⟩] at closed
      contradiction

/-- A template without wildcards is a single literal. -/
theorem exists_elements_eq_literal (nonempty : template.isEmpty = false)
    (no_wildcard : .wildcard ∉ template.elements) :
    ∃ part, template.elements = [.literal part] := by
  have alternating := template.normal.alternating
  rw [isEmpty_eq_false_iff] at nonempty
  cases elements : template.elements with
  | nil => contradiction
  | cons element rest =>
    rw [elements] at no_wildcard alternating
    cases element with
    | wildcard => exact absurd List.mem_cons_self no_wildcard
    | literal part =>
      obtain rfl | ⟨more, rfl⟩ := alternating.behind_literal
      · exact ⟨part, rfl⟩
      · exact absurd (by simp) no_wildcard

end Template

end MailSort
