import MailSort.Proofs.Json.Literal
import MailSort.Proofs.Text.Entries
import MailSort.Settings.SegmentLengths
import Mathlib.Data.List.Induction
import Mathlib.Data.List.Nodup

/-! # Lists of segment lengths in settings

What a list of segment lengths says is told from its text: an entry gives a length if it is a number
that is large enough, with white space around (`SegmentLength.Gives`), and all other entries give
none.  The lengths that are read are those that an entry gives, each one where the first of its
entries stands, and the standard ones if no entry gives any.  So lengths that are written with
commas between them are read back.
-/

namespace MailSort

namespace SegmentLength

/-! ## Repeated lengths -/

theorem eraseDups_concat (lengths : List Nat) (length : Nat) :
    (lengths ++ [length]).eraseDups =
      lengths.eraseDups ++ if length ∈ lengths then [] else [length] := by
  rw [List.eraseDups_append, List.removeAll]
  by_cases repeated : length ∈ lengths
  · simp [repeated]
  · simp [repeated, List.eraseDups_cons]

theorem nodup_eraseDups (lengths : List Nat) : lengths.eraseDups.Nodup := by
  induction lengths using List.reverseRecOn with
  | nil => exact List.nodup_nil
  | append_singleton lengths length ih =>
    rw [eraseDups_concat]
    split
    · rw [List.append_nil]
      exact ih
    · next new =>
      rw [← List.concat_eq_append]
      exact ih.concat (by rwa [List.mem_eraseDups])

theorem eraseDups_of_nodup {lengths : List Nat} (distinct : lengths.Nodup) :
    lengths.eraseDups = lengths := by
  induction lengths using List.reverseRecOn with
  | nil => rfl
  | append_singleton lengths length ih =>
    rw [List.nodup_append] at distinct
    have new : length ∉ lengths := fun old =>
      distinct.2.2 length old length (List.mem_singleton_self length) rfl
    rw [eraseDups_concat, ih distinct.1, if_neg new]

/-- Each length stands before those that do not occur as early. -/
theorem pairwise_eraseDups (lengths : List Nat) :
    lengths.eraseDups.Pairwise fun first second =>
      ∃ before after, lengths = before ++ first :: after ∧ second ∉ before := by
  induction lengths using List.reverseRecOn with
  | nil => exact .nil
  | append_singleton lengths length ih =>
    have kept : lengths.eraseDups.Pairwise fun first second =>
        ∃ before after, lengths ++ [length] = before ++ first :: after ∧ second ∉ before := by
      refine ih.imp ?_
      rintro first second ⟨before, after, same, absent⟩
      exact ⟨before, after ++ [length], by simp [same], absent⟩
    rw [eraseDups_concat]
    split
    · rw [List.append_nil]
      exact kept
    · next new =>
      refine List.pairwise_append.2 ⟨kept, List.pairwise_singleton .., ?_⟩
      intro first member second last
      obtain rfl := List.mem_singleton.1 last
      obtain ⟨before, after, same⟩ := List.append_of_mem (List.mem_eraseDups.1 member)
      exact ⟨before, after ++ [second], by simp [same], fun old => new (by simp [same, old])⟩

/-! ## Entries -/

/-- An entry that is a number large enough for a segment: digits, with an optional plus sign in
    front and white space around. -/
def Gives (entry : Text) (length : Nat) : Prop :=
  ∃ before sign digits after : Text, entry = before ++ (sign ++ digits) ++ after ∧
    (∀ c ∈ before ++ after, Text.isBlank c) ∧ (sign = [] ∨ sign = ['+']) ∧
    digits ≠ [] ∧ (∀ c ∈ digits, c.isDigit) ∧ Nat.ofDigitChars 10 digits 0 = length ∧
    shortest.chars ≤ length ∧ length ≤ Text.largestCount

variable {text entry : Text} {length : Nat} {standard : List Nat}

theorem Gives.large (gives : Gives entry length) : shortest.chars ≤ length := by
  obtain ⟨_, _, _, _, _, _, _, _, _, _, large, _⟩ := gives
  exact large

theorem toCount?_eq_some_iff {digits : Text} :
    digits.toCount? = some length ↔
      digits ≠ [] ∧ (∀ c ∈ digits, c.isDigit) ∧ Nat.ofDigitChars 10 digits 0 = length ∧
        length ≤ Text.largestCount := by
  rw [Text.toCount?, ← List.all_eq_true]
  split
  · next written =>
    simp only [Option.ite_none_right_eq_some, Option.some_inj, written, true_and, ne_eq,
      not_false_eq_true]
    constructor
    · rintro ⟨bounded, rfl⟩
      exact ⟨rfl, bounded⟩
    · rintro ⟨rfl, bounded⟩
      exact ⟨bounded, rfl⟩
  · next unwritten =>
    refine iff_of_false nofun ?_
    rintro ⟨some, all, -⟩
    exact unwritten ⟨some, all⟩

theorem toSignedCount?_eq_some_iff :
    text.toSignedCount? = some length ↔
      ∃ sign digits, text = sign ++ digits ∧ (sign = [] ∨ sign = ['+']) ∧
        digits.toCount? = some length := by
  constructor
  · intro read
    unfold Text.toSignedCount? at read
    split at read
    · next digits => exact ⟨['+'], digits, rfl, .inr rfl, read⟩
    · exact ⟨[], text, rfl, .inl rfl, read⟩
  · rintro ⟨sign, digits, rfl, rfl | rfl, read⟩
    · obtain ⟨-, all, -⟩ := toCount?_eq_some_iff.1 read
      unfold Text.toSignedCount?
      split
      · next rest same =>
        -- A plus sign is no digit.
        rw [List.nil_append] at same
        have plus := all '+' (by simp [same])
        contradiction
      · exact read
    · exact read

theorem isBlank_of_isDigit {c : Char} (digit : c.isDigit) : Text.isBlank c = false := by
  have bounds : 48 ≤ c.toNat ∧ c.toNat ≤ 57 := by
    simpa [Char.isDigit, UInt32.le_iff_toNat_le] using digit
  simp [Text.isBlank]
  omega

theorem entryLength?_trim_eq_some_iff :
    entryLength? entry.trim = some length ↔ Gives entry length := by
  rw [entryLength?, Option.filter_eq_some_iff, toSignedCount?_eq_some_iff, decide_eq_true_iff]
  constructor
  · rintro ⟨⟨sign, digits, trimmed, signed, read⟩, large⟩
    obtain ⟨before, after, same, blank⟩ := Text.exists_around_trim entry
    obtain ⟨some, all, value, bounded⟩ := toCount?_eq_some_iff.1 read
    rw [trimmed] at same
    exact ⟨before, sign, digits, after, same, blank, signed, some, all, value, large, bounded⟩
  · rintro ⟨before, sign, digits, after, rfl, blank, signed, some, all, value, large, bounded⟩
    have visible : ∀ c ∈ sign ++ digits, Text.isBlank c = false := by
      refine List.forall_mem_append.2 ⟨?_, fun c member => isBlank_of_isDigit (all c member)⟩
      obtain rfl | rfl := signed
      · nofun
      · exact List.forall_mem_singleton.2 rfl
    have read := toCount?_eq_some_iff.2 ⟨some, all, value, bounded⟩
    exact ⟨⟨sign, digits, Text.trim_around blank visible, signed, read⟩, large⟩

/-! ## Whole lists -/

def given (text : Text) : List Nat :=
  (text.splitOn ',').filterMap fun entry => entryLength? (Text.trim entry)

theorem parseList_eq (text : Text) (standard : List Nat) :
    parseList text standard = if given text = [] then standard else (given text).eraseDups := by
  -- Entries that are left empty would give nothing anyway.
  have entries_eq : (entries text).filterMap entryLength? = given text := by
    rw [entries, given, List.filterMap_filter, List.filterMap_map, Text.splitAtEach_eq_splitOn]
    refine List.filterMap_congr fun entry _ => ?_
    rw [Function.comp_apply]
    split
    · rfl
    · next empty =>
      have nothing : Text.trim entry = [] := by simpa using empty
      rw [nothing]
      rfl
  have empty_iff : (given text).eraseDups = [] ↔ given text = [] := by
    simp only [List.eq_nil_iff_forall_not_mem, List.mem_eraseDups]
  rw [parseList, entries_eq]
  simp only [empty_iff]

theorem mem_given : length ∈ given text ↔ ∃ entry ∈ text.splitOn ',', Gives entry length := by
  simp only [given, List.mem_filterMap, entryLength?_trim_eq_some_iff]

def Precedes (text : Text) (first second : Nat) : Prop :=
  ∃ before entry after, text.splitOn ',' = before ++ entry :: after ∧ Gives entry first ∧
    ∀ earlier ∈ before, ¬ Gives earlier second

theorem precedes_of_given {first second : Nat} {before after : List Nat}
    (same : given text = before ++ first :: after) (absent : second ∉ before) :
    Precedes text first second := by
  obtain ⟨start, rest, listed, rfl, later⟩ := List.filterMap_eq_append_iff.1 same
  obtain ⟨skipped, entry, behind, rfl, none, gives, -⟩ := List.filterMap_eq_cons_iff.1 later
  refine ⟨start ++ skipped, entry, behind, by rw [listed, List.append_assoc],
    entryLength?_trim_eq_some_iff.1 gives, fun earlier member gives' => ?_⟩
  rw [← entryLength?_trim_eq_some_iff] at gives'
  obtain inStart | inSkipped := List.mem_append.1 member
  · exact absent (List.mem_filterMap.2 ⟨earlier, inStart, gives'⟩)
  · rw [none earlier inSkipped] at gives'
    contradiction

theorem pairwise_parseList (some : given text ≠ []) :
    (parseList text standard).Pairwise (Precedes text) := by
  rw [parseList_eq, if_neg some]
  refine (pairwise_eraseDups (given text)).imp ?_
  rintro first second ⟨before, after, same, absent⟩
  exact precedes_of_given same absent

/-! ## Written lists -/

structure Listed where
  before : Text
  length : Nat
  after : Text
  blank : ∀ c ∈ before ++ after, Text.isBlank c
  large : shortest.chars ≤ length
  bounded : length ≤ Text.largestCount

def Listed.written (listed : Listed) : Text :=
  listed.before ++ Text.ofCount listed.length ++ listed.after

theorem Listed.gives_written (listed : Listed) : Gives listed.written listed.length := by
  obtain ⟨some, all, value, bounded⟩ :=
    toCount?_eq_some_iff.1 (Json.toCount?_ofCount listed.bounded)
  exact ⟨listed.before, [], Text.ofCount listed.length, listed.after, rfl, listed.blank, .inl rfl,
    some, all, value, listed.large, bounded⟩

theorem Listed.comma_not_mem_written (listed : Listed) : ',' ∉ listed.written := by
  have outside : ',' ∉ listed.before ++ listed.after := fun member => by
    have blank := listed.blank ',' member
    contradiction
  have inside : ',' ∉ Text.ofCount listed.length := fun member => by
    have digit := Json.isDigit_of_mem_ofCount member
    contradiction
  rw [List.mem_append, not_or] at outside
  rw [written, List.mem_append, List.mem_append]
  simp only [outside, inside, or_self, not_false_eq_true]

/-- Every entry gives the length that is written in it. -/
theorem given_intercalate {lengths : List Listed} (some : lengths ≠ []) :
    given ([','].intercalate (lengths.map Listed.written)) = lengths.map Listed.length := by
  have entries : ([','].intercalate (lengths.map Listed.written)).splitOn ',' =
      lengths.map Listed.written := by
    refine List.splitOn_intercalate ',' ?_ (by simpa using some)
    intro entry member
    obtain ⟨listed, -, rfl⟩ := List.mem_map.1 member
    exact listed.comma_not_mem_written
  rw [given, entries, List.filterMap_map, ← List.filterMap_eq_map]
  refine List.filterMap_congr fun listed _ => ?_
  exact entryLength?_trim_eq_some_iff.2 listed.gives_written

theorem parseList_intercalate {lengths : List Listed} (some : lengths ≠ [])
    (distinct : (lengths.map Listed.length).Nodup) (standard : List Nat) :
    parseList ([','].intercalate (lengths.map Listed.written)) standard =
      lengths.map Listed.length := by
  rw [parseList_eq, given_intercalate some, if_neg (by simpa using some),
    eraseDups_of_nodup distinct]

/-- A list in which no entry gives a length is read as the standard lengths.  Any other list is read
    as the lengths that its entries give, each one once and in the order of their first entries, so
    none of them is too short.  Lengths that are written with commas between them and white space
    around them are read as they are. -/
theorem parseList_lossless :
    (∀ (text : Text) (standard : List Nat),
      ((∀ entry ∈ text.splitOn ',', ∀ length, ¬ Gives entry length) →
        parseList text standard = standard) ∧
      ((∃ entry ∈ text.splitOn ',', ∃ length, Gives entry length) →
        (parseList text standard).Nodup ∧
        (∀ length,
          length ∈ parseList text standard ↔ ∃ entry ∈ text.splitOn ',', Gives entry length) ∧
        (parseList text standard).Pairwise (Precedes text) ∧
        ∀ length ∈ parseList text standard, 2 ≤ length)) ∧
    ∀ (lengths : List Listed) (standard : List Nat), lengths ≠ [] →
      (lengths.map Listed.length).Nodup →
        parseList ([','].intercalate (lengths.map Listed.written)) standard =
          lengths.map Listed.length := by
  refine ⟨fun text standard => ⟨fun none => ?_, ?_⟩,
    fun lengths standard some distinct => parseList_intercalate some distinct standard⟩
  · have nothing : given text = [] := by
      refine List.eq_nil_iff_forall_not_mem.2 fun length member => ?_
      obtain ⟨entry, inside, gives⟩ := mem_given.1 member
      exact none entry inside length gives
    rw [parseList_eq, if_pos nothing]
  · rintro ⟨entry, inside, length, gives⟩
    have some : given text ≠ [] := List.ne_nil_of_mem (mem_given.2 ⟨entry, inside, gives⟩)
    have read : parseList text standard = (given text).eraseDups := by
      rw [parseList_eq, if_neg some]
    have members (length : Nat) : length ∈ parseList text standard ↔
        ∃ entry ∈ text.splitOn ',', Gives entry length := by
      rw [read, List.mem_eraseDups, mem_given]
    refine ⟨by rw [read]; exact nodup_eraseDups _, members, pairwise_parseList some, ?_⟩
    intro length member
    obtain ⟨entry, -, gives⟩ := (members length).1 member
    exact gives.large

/-- An entry is no number, one is too short, one is empty, and one repeats another with a 0 in
    front. -/
theorem parseList_lossless_of_repeated :
    ∃ (text : Text) (lengths : List Listed),
      text = " 7,x,+5 ,1,,07,\t4".toList ∧
      (∃ entry ∈ text.splitOn ',', ∃ length, Gives entry length) ∧
      parseList text [2] = [7, 5, 4] ∧ (parseList text [2]).Nodup ∧
      (parseList text [2]).Pairwise (Precedes text) ∧
      (∀ entry ∈ "1,x".toList.splitOn ',', ∀ length, ¬ Gives entry length) ∧
      parseList "1,x".toList [2] = [2] ∧
      lengths.map Listed.written = [" 5".toList, "31\t ".toList] ∧
      (lengths.map Listed.length).Nodup ∧
      parseList ([','].intercalate (lengths.map Listed.written)) [2] = [5, 31] := by
  have gives : ∃ entry ∈ " 7,x,+5 ,1,,07,\t4".toList.splitOn ',', ∃ length, Gives entry length :=
    ⟨" 7".toList, by decide, 7, entryLength?_trim_eq_some_iff.1 (by decide)⟩
  have none : ∀ entry ∈ "1,x".toList.splitOn ',', ∀ length, ¬ Gives entry length := by
    intro entry member length gives
    have inside := mem_given.2 ⟨entry, member, gives⟩
    have nothing : given "1,x".toList = [] := by decide
    rw [nothing] at inside
    contradiction
  obtain ⟨distinct, -, ordered, -⟩ := (parseList_lossless.1 _ [2]).2 gives
  let lengths : List Listed :=
    [⟨" ".toList, 5, [], List.all_eq_true.1 rfl, by decide, by decide⟩,
      ⟨[], 31, "\t ".toList, List.all_eq_true.1 rfl, by decide, by decide⟩]
  exact ⟨_, lengths, rfl, gives, by decide, distinct, ordered, none,
    (parseList_lossless.1 _ [2]).1 none, rfl, by decide,
    parseList_lossless.2 lengths [2] (by decide) (by decide)⟩

end SegmentLength

end MailSort
