import MailSort.Json.Decode
import MailSort.Proofs.Json.Literal
import Mathlib.Data.List.Infix

/-! # Reading documents

What is rendered is read back (`parse?_render`), as long as its numbers are counts.  In the
induction a reader stands in front of the rendered value, with a text behind it that no value
goes on with, and with fuel for twice the length of what is rendered.
-/

namespace MailSort

namespace Json

/-- All numbers are counts. -/
inductive Plain : Json → Prop where
  | null : Plain .null
  | bool (value : Bool) : Plain (.bool value)
  | count (count : Nat) : Plain (.count count)
  | string (text? : Option Text) : Plain (.string text?)
  | array {items : List Json} : (∀ item ∈ items, Plain item) → Plain (.array items)
  | object {members : List (Option Text × Json)} :
      (∀ member ∈ members, Plain member.2) → Plain (.object members)

def Returns (value : Json) : Prop :=
  ∀ (fuel : Nat) (rest : Text), 2 * value.render.length ≤ fuel → Closing rest →
    readValue? fuel (value.render ++ rest) = some (value, rest)

theorem skipBlanks_cons {c : Char} (visible : isBlank c = false) (text : Text) :
    skipBlanks (c :: text) = c :: text := by
  rw [skipBlanks, List.dropWhile_cons_of_neg (by simp [visible])]

theorem ne_of_isDigit {c d : Char} (digit : c.isDigit) (other : d.isDigit = false) : c ≠ d := by
  rintro rfl
  rw [digit] at other
  contradiction

theorem Plain.exists_render_eq_cons {value : Json} (plain : Plain value) :
    ∃ c text, value.render = c :: text ∧ isBlank c = false ∧ c ≠ ']' := by
  cases plain with
  | null => exact ⟨_, _, rfl, rfl, by decide⟩
  | bool value => cases value <;> exact ⟨_, _, rfl, rfl, by decide⟩
  | count count =>
    obtain ⟨c, digits, written, digit⟩ := exists_ofCount_eq_cons count
    have visible : isBlank c = false := by
      simp [isBlank, ne_of_isDigit digit (d := ' ') rfl, ne_of_isDigit digit (d := '\t') rfl,
        ne_of_isDigit digit (d := '\n') rfl, ne_of_isDigit digit (d := '\r') rfl]
    exact ⟨c, digits, written, visible, ne_of_isDigit digit rfl⟩
  | string text? =>
    obtain ⟨body, written, -⟩ := exists_renderString text?
    exact ⟨_, _, written, rfl, by decide⟩
  | array => exact ⟨_, _, rfl, rfl, by decide⟩
  | object => exact ⟨_, _, rfl, rfl, by decide⟩

/-! ## Single values -/

/-- A value is never rendered as nothing, so there is fuel for it. -/
theorem Plain.returns_of_succ {value : Json} (plain : Plain value)
    (reads : ∀ (fuel : Nat) (rest : Text), 2 * value.render.length ≤ fuel + 1 → Closing rest →
      readValue? (fuel + 1) (value.render ++ rest) = some (value, rest)) : Returns value := by
  intro fuel rest enough closing
  obtain ⟨c, text, written, -⟩ := plain.exists_render_eq_cons
  cases fuel with
  | zero =>
    rw [written, List.length_cons] at enough
    omega
  | succ fuel => exact reads fuel rest enough closing

theorem readWord?_append (word : String) (value : Json) (rest : Text) :
    readWord? word value (word.toList ++ rest) = some (value, rest) := by
  rw [readWord?, List.isPrefixOf?_eq_some_iff_append_eq.2 rfl, Option.map_some]

theorem returns_null : Returns .null :=
  Plain.null.returns_of_succ fun _ _ _ _ => readWord?_append "ull" ..

theorem returns_bool (value : Bool) : Returns (.bool value) := by
  cases value with
  | false => exact (Plain.bool false).returns_of_succ fun _ _ _ _ => readWord?_append "alse" ..
  | true => exact (Plain.bool true).returns_of_succ fun _ _ _ _ => readWord?_append "rue" ..

theorem returns_count (count : Nat) : Returns (.count count) := by
  refine (Plain.count count).returns_of_succ fun _ _ _ closing => ?_
  obtain ⟨c, digits, written, digit⟩ := exists_ofCount_eq_cons count
  have number := splitNumber?_ofCount count closing
  rw [Json.count, render, written, List.cons_append] at *
  -- No other value begins with a digit.
  rw [readValue?, number]
  · rfl
  all_goals
    rintro _ same
    cases same
    contradiction

theorem returns_string (text? : Option Text) : Returns (.string text?) := by
  refine (Plain.string text?).returns_of_succ fun _ _ _ _ => ?_
  obtain ⟨body, written, read⟩ := exists_renderString text?
  rw [render, written, List.cons_append, readValue?, read]
  rfl

/-! ## Arrays and objects -/

theorem exists_separated_cons_eq (separator first : Text) (others : List Text) :
    ∃ rest, separated separator (first :: others) = first ++ rest := by
  cases others with
  | nil => exact ⟨[], (List.append_nil _).symm⟩
  | cons => exact ⟨_, List.append_assoc ..⟩

theorem exists_items_eq_cons {items : List Json} (some : items ≠ [])
    (plain : ∀ item ∈ items, Plain item) :
    ∃ c text, separated [','] (renderItems items) = c :: text ∧ isBlank c = false ∧ c ≠ ']' := by
  cases items with
  | nil => contradiction
  | cons item items =>
    obtain ⟨c, text, written, visible⟩ := (plain item List.mem_cons_self).exists_render_eq_cons
    obtain ⟨rest, begins⟩ := exists_separated_cons_eq [','] item.render (renderItems items)
    exact ⟨c, text ++ rest, by rw [renderItems, begins, written, List.cons_append], visible⟩

theorem exists_members_eq_cons {members : List (Option Text × Json)} (some : members ≠ []) :
    ∃ text, separated [','] (renderMembers members) = '"' :: text := by
  cases members with
  | nil => contradiction
  | cons member members =>
    obtain ⟨name, value⟩ := member
    obtain ⟨body, written, -⟩ := exists_renderString name
    obtain ⟨rest, begins⟩ := exists_separated_cons_eq [',']
      (renderString name ++ ':' :: value.render) (renderMembers members)
    exact ⟨_, by rw [renderMembers, begins, written, List.cons_append, List.cons_append]⟩

theorem readItems?_separated {items : List Json} (some : items ≠ [])
    (plain : ∀ item ∈ items, Plain item) (returns : ∀ item ∈ items, Returns item) (fuel : Nat)
    (rest : Text) (enough : 2 * (separated [','] (renderItems items)).length + 1 ≤ fuel) :
    readItems? fuel (separated [','] (renderItems items) ++ ']' :: rest) = .some (items, rest) := by
  induction items generalizing fuel with
  | nil => contradiction
  | cons item items ih =>
    obtain ⟨fuel, rfl⟩ : ∃ less, fuel = less + 1 := ⟨fuel - 1, by omega⟩
    rw [List.forall_mem_cons] at plain returns
    have returned := returns.1 fuel
    by_cases last : items = []
    · subst last
      simp only [renderItems, separated] at enough ⊢
      rw [readItems?, returned _ (by omega) (.bracket rest)]
      rfl
    · -- The next item shows at once: nothing is skipped behind the comma.
      obtain ⟨c, text, written, visible, -⟩ := exists_items_eq_cons last plain.2
      have others : separated [','] (renderItems (item :: items)) =
          item.render ++ ',' :: separated [','] (renderItems items) := by
        cases items with
        | nil => contradiction
        | cons => simp [renderItems, separated]
      rw [others, List.length_append, List.length_cons] at enough
      have later := ih last plain.2 returns.2 fuel (by omega)
      rw [others, List.append_assoc, List.cons_append, readItems?, returned _ (by omega) (.comma _)]
      show (readItems? fuel (skipBlanks _)).map _ = _
      rw [written, List.cons_append] at later ⊢
      rw [skipBlanks_cons visible, later]
      rfl

/-- Behind a member stands the end of the object or a comma and the other members. -/
theorem readMembers?_member {name : Option Text} {value : Json} (plain : Plain value) {fuel : Nat}
    {behind rest : Text} {others : List (Option Text × Json)}
    (returned : readValue? fuel (value.render ++ behind) = some (value, behind))
    (next : behind = '}' :: rest ∧ others = [] ∨
      ∃ text, behind = ',' :: text ∧ readMembers? fuel (skipBlanks text) = some (others, rest)) :
    readMembers? (fuel + 1) (renderString name ++ ':' :: (value.render ++ behind)) =
      some ((name, value) :: others, rest) := by
  obtain ⟨body, written, named⟩ := exists_renderString name
  obtain ⟨c, text, shown, visible, -⟩ := plain.exists_render_eq_cons
  have colon (rest : Text) : skipBlanks (':' :: rest) = ':' :: rest := skipBlanks_cons rfl rest
  rw [shown, List.cons_append] at returned ⊢
  rw [written, List.cons_append, readMembers?, named]
  simp only [colon, skipBlanks_cons visible, returned]
  obtain ⟨rfl, rfl⟩ | ⟨text, rfl, read⟩ := next
  · rfl
  · show (readMembers? fuel (skipBlanks text)).map _ = _
    rw [read]
    rfl

theorem readMembers?_separated {members : List (Option Text × Json)} (some : members ≠ [])
    (plain : ∀ member ∈ members, Plain member.2) (returns : ∀ member ∈ members, Returns member.2)
    (fuel : Nat) (rest : Text)
    (enough : 2 * (separated [','] (renderMembers members)).length + 1 ≤ fuel) :
    readMembers? fuel (separated [','] (renderMembers members) ++ '}' :: rest) =
      .some (members, rest) := by
  induction members generalizing fuel with
  | nil => contradiction
  | cons member members ih =>
    obtain ⟨name, value⟩ := member
    obtain ⟨fuel, rfl⟩ : ∃ less, fuel = less + 1 := ⟨fuel - 1, by omega⟩
    rw [List.forall_mem_cons] at plain returns
    have returned : ∀ rest, 2 * value.render.length ≤ fuel → Closing rest →
        readValue? fuel (value.render ++ rest) = .some (value, rest) := returns.1 fuel
    by_cases last : members = []
    · subst last
      simp only [renderMembers, separated, List.length_append, List.length_cons] at enough
      simp only [renderMembers, separated, List.append_assoc, List.cons_append]
      exact readMembers?_member plain.1 (returned _ (by omega) (.brace rest)) (.inl ⟨rfl, rfl⟩)
    · obtain ⟨text, written⟩ := exists_members_eq_cons last
      have others : separated [','] (renderMembers ((name, value) :: members)) =
          renderString name ++ ':' ::
            (value.render ++ ',' :: separated [','] (renderMembers members)) := by
        cases members with
        | nil => contradiction
        | cons => simp [renderMembers, separated]
      simp only [others, List.length_append, List.length_cons] at enough
      have later := ih last plain.2 returns.2 fuel (by omega)
      simp only [others, List.append_assoc, List.cons_append]
      refine readMembers?_member plain.1 (returned _ (by omega) (.comma _)) (.inr ⟨_, rfl, ?_⟩)
      rw [written, List.cons_append] at later ⊢
      rw [skipBlanks_cons rfl, later]

theorem readValue?_bracket {c : Char} (visible : isBlank c = false) (other : c ≠ ']') (fuel : Nat)
    (text : Text) : readValue? (fuel + 1) ('[' :: c :: text) =
      (readItems? fuel (c :: text)).map fun (items, rest) => (.array items, rest) := by
  rw [readValue?, skipBlanks_cons visible]
  split
  · next closed => exact absurd (List.cons.inj closed).1 other
  · rfl

theorem returns_array {items : List Json} (plain : ∀ item ∈ items, Plain item)
    (returns : ∀ item ∈ items, Returns item) : Returns (.array items) := by
  refine (Plain.array plain).returns_of_succ fun fuel rest enough _ => ?_
  simp only [render, List.length_cons, List.length_append] at enough
  by_cases none : items = []
  · subst none
    rfl
  · obtain ⟨c, text, written, visible, other⟩ := exists_items_eq_cons none plain
    have read := readItems?_separated none plain returns fuel rest (by omega)
    simp only [render, written, List.cons_append, List.append_assoc] at read ⊢
    rw [readValue?_bracket visible other, List.nil_append, read]
    rfl

theorem returns_object {members : List (Option Text × Json)}
    (plain : ∀ member ∈ members, Plain member.2) (returns : ∀ member ∈ members, Returns member.2) :
    Returns (.object members) := by
  refine (Plain.object plain).returns_of_succ fun fuel rest enough _ => ?_
  simp only [render, List.length_cons, List.length_append] at enough
  by_cases none : members = []
  · subst none
    rfl
  · obtain ⟨text, written⟩ := exists_members_eq_cons none
    have read := readMembers?_separated none plain returns fuel rest (by omega)
    simp only [render, written, List.cons_append, List.append_assoc] at read ⊢
    show (readMembers? fuel ('"' :: _)).map _ = _
    rw [List.nil_append, read]
    rfl

/-! ## Documents -/

theorem Plain.returns {value : Json} (plain : Plain value) : Returns value := by
  induction plain with
  | null => exact returns_null
  | bool value => exact returns_bool value
  | count count => exact returns_count count
  | string text? => exact returns_string text?
  | array plain ih => exact returns_array plain ih
  | object plain ih => exact returns_object plain ih

theorem parse?_render {value : Json} (plain : Plain value) : parse? value.render = some value := by
  obtain ⟨c, text, written, visible, -⟩ := plain.exists_render_eq_cons
  have read := plain.returns (2 * value.render.length + 2) [] (by omega) .nil
  rw [List.append_nil] at read
  have ahead : skipBlanks value.render = value.render := by
    rw [written, skipBlanks_cons visible]
  rw [parse?, ahead, read]
  rfl

/-! ## Decoding -/

theorem mapM_map_eq_some {α β : Type} {write : α → β} {read? : β → Option α} {items : List α}
    (back : ∀ item ∈ items, read? (write item) = some item) :
    (items.map write).mapM read? = some items := by
  induction items with
  | nil => rfl
  | cons item items ih =>
    rw [List.forall_mem_cons] at back
    rw [List.map_cons, List.mapM_cons, back.1, ih back.2]
    rfl

theorem members?_object (members : List (Text × Json)) :
    (Json.object (members.map fun (name, value) => (some name, value))).members? = some members :=
  mapM_map_eq_some fun _ _ => rfl

theorem asCount?_count {count : Nat} (bounded : count ≤ Text.largestCount) :
    (Json.count count).asCount? = some count :=
  toCount?_ofCount bounded

end Json

end MailSort
