import MailSort.Proofs.Outcome
import MailSort.TransitionTable.Snapshot
import Mathlib.Data.List.Forall2

/-! # Reading snapshots

A snapshot is accepted if all of its entries can be read and it has samples for them; the table
is then made of the transitions that were read.
-/

namespace MailSort

namespace Transition

/-- Nothing leads from the end of a sample, and nothing to its start. -/
def Proper (transition : Transition) : Prop :=
  transition.source ≠ .finish ∧ transition.target ≠ .start

theorem ofKey?_key {transition : Transition} (proper : transition.Proper) :
    ofKey? transition.key = some transition := by
  obtain ⟨source, target⟩ := transition
  cases source with
  | finish => exact absurd rfl proper.1
  | start =>
    cases target with
    | start => exact absurd rfl proper.2
    | finish => rfl
    | char c =>
      have rest : Token.startWord.isPrefixOf? (Token.startWord ++ [c]) = some [c] :=
        List.isPrefixOf?_eq_some_iff_append_eq.2 rfl
      have single : afterStart? [c] = some ⟨.start, .char c⟩ := by
        have short : [c] ≠ Token.finishWord := by
          intro same
          have lengths : 1 = 6 := congrArg List.length same
          contradiction
        rw [afterStart?, if_neg short]
      show ((Token.startWord.isPrefixOf? (Token.startWord ++ [c])).bind afterStart?).or _ = _
      rw [rest, Option.bind_some, single, Option.some_or]
  | char c =>
    cases target with
    | start => exact absurd rfl proper.2
    | char d => rfl
    | finish =>
      have no_start : Token.startWord.isPrefixOf? ([c] ++ Token.finishWord) = none := by
        rw [Option.eq_none_iff_forall_ne_some]
        intro rest found
        rw [List.isPrefixOf?_eq_some_iff_append_eq] at found
        have second : some 'T' = some 'F' := congrArg (fun key : Text => key[1]?) found
        contradiction
      have rest : Token.finishWord.isSuffixOf? ([c] ++ Token.finishWord) = some [c] :=
        List.isSuffixOf?_eq_some_iff_append_eq.2 rfl
      show ((Token.startWord.isPrefixOf? ([c] ++ Token.finishWord)).bind afterStart?).or
        ((Token.finishWord.isSuffixOf? ([c] ++ Token.finishWord)).bind beforeFinish?) = _
      rw [no_start, rest]
      rfl

theorem proper_of_afterStart? {rest : Text} {transition : Transition}
    (read : afterStart? rest = some transition) : transition.Proper := by
  unfold afterStart? at read
  split at read
  · cases read
    exact ⟨nofun, nofun⟩
  · split at read
    · cases read
      exact ⟨nofun, nofun⟩
    · contradiction

theorem proper_of_beforeFinish? {rest : Text} {transition : Transition}
    (read : beforeFinish? rest = some transition) : transition.Proper := by
  unfold beforeFinish? at read
  split at read
  · cases read
    exact ⟨nofun, nofun⟩
  · contradiction

theorem proper_of_ofKey? {key : Text} {transition : Transition}
    (read : ofKey? key = some transition) : transition.Proper := by
  unfold ofKey? at read
  split at read
  · cases read
    exact ⟨nofun, nofun⟩
  · rw [Option.or_eq_some_iff, Option.bind_eq_some_iff, Option.bind_eq_some_iff] at read
    obtain ⟨rest, -, read⟩ | ⟨-, rest, -, read⟩ := read
    · exact proper_of_afterStart? read
    · exact proper_of_beforeFinish? read

theorem key_injective {first second : Transition} (proper : first.Proper) (proper' : second.Proper)
    (same : first.key = second.key) : first = second := by
  have read := ofKey?_key proper
  rw [same, ofKey?_key proper'] at read
  exact (Option.some.inj read).symm

end Transition

namespace TransitionTable

/-! ## Entries -/

structure Reads (entry : Text × Nat) (read : Transition × Nat) : Prop where
  key : Transition.ofKey? entry.1 = some read.1
  count : entry.2 = read.2
  pos : 0 < entry.2

theorem proper_of_reads {entries : List (Text × Nat)} {reads : List (Transition × Nat)}
    (all : List.Forall₂ Reads entries reads) : ∀ read ∈ reads, read.1.Proper := by
  induction all with
  | nil => nofun
  | cons first _ ih =>
    exact List.forall_mem_cons.2 ⟨Transition.proper_of_ofKey? first.key, ih⟩

def addCounts (table : TransitionTable) (reads : List (Transition × Nat)) : TransitionTable :=
  reads.foldl (fun table read => table.addTransition read.1 read.2) table

variable {table result : TransitionTable}

theorem addEntry_eq_ok_iff {entry : Text × Nat} :
    table.addEntry entry.1 entry.2 = .ok result ↔
      ∃ read, Reads entry read ∧ table.addTransition read.1 read.2 = result := by
  obtain ⟨key, count⟩ := entry
  unfold addEntry
  split
  · next zero =>
    refine ⟨nofun, ?_⟩
    rintro ⟨read, reads, -⟩
    exact absurd zero (Nat.ne_of_gt reads.pos)
  · next some =>
    split
    · next transition found =>
      constructor
      · rintro ⟨⟩
        exact ⟨(transition, count), ⟨found, rfl, Nat.pos_of_ne_zero some⟩, rfl⟩
      · rintro ⟨⟨transition', count'⟩, ⟨found', rfl, -⟩, rfl⟩
        rw [found'] at found
        cases found
        rfl
    · next unread =>
      refine ⟨nofun, ?_⟩
      rintro ⟨read, reads, -⟩
      have found := reads.key
      rw [unread] at found
      contradiction

theorem foldlM_addEntry_eq_ok_iff {entries : List (Text × Nat)} :
    entries.foldlM (fun table entry => table.addEntry entry.1 entry.2) table = .ok result ↔
      ∃ reads, List.Forall₂ Reads entries reads ∧ table.addCounts reads = result := by
  induction entries generalizing table with
  | nil =>
    rw [List.foldlM_nil, Outcome.pure_eq_ok_iff]
    constructor
    · intro same
      exact ⟨[], .nil, same⟩
    · rintro ⟨_, ⟨⟩, same⟩
      exact same
  | cons entry entries ih =>
    rw [List.foldlM_cons, Outcome.bind_eq_ok_iff]
    constructor
    · rintro ⟨middle, added, rest⟩
      obtain ⟨read, first, rfl⟩ := addEntry_eq_ok_iff.1 added
      obtain ⟨reads, later, same⟩ := ih.1 rest
      exact ⟨read :: reads, .cons first later, same⟩
    · rintro ⟨reads, all, same⟩
      cases all with
      | cons first later => exact ⟨_, addEntry_eq_ok_iff.2 ⟨_, first, rfl⟩, ih.2 ⟨_, later, same⟩⟩

/-! ## Whole snapshots -/

def withTotals (table : TransitionTable) (length samples : Nat) : TransitionTable :=
  { table with totalLength := length, totalSamples := samples }

theorem ofSnapshot_of_missing {snapshot : Snapshot} (some : snapshot.table.toList ≠ [])
    (none : snapshot.totalSamples = 0) : ofSnapshot snapshot = .error .missingSamples := by
  unfold ofSnapshot
  rw [if_pos ⟨some, none⟩]
  rfl

theorem ofSnapshot_eq_ok_iff {snapshot : Snapshot} :
    ofSnapshot snapshot = .ok result ↔
      (snapshot.table.toList = [] ∨ 0 < snapshot.totalSamples) ∧
        ∃ reads, List.Forall₂ Reads snapshot.table.toList reads ∧
          (empty.addCounts reads).withTotals snapshot.totalLength snapshot.totalSamples =
            result := by
  by_cases missing : snapshot.table.toList ≠ [] ∧ snapshot.totalSamples = 0
  · rw [ofSnapshot_of_missing missing.1 missing.2]
    refine ⟨nofun, ?_⟩
    rintro ⟨none | some, -⟩
    · exact absurd none missing.1
    · exact absurd missing.2 (Nat.ne_of_gt some)
  · have allowed : snapshot.table.toList = [] ∨ 0 < snapshot.totalSamples := by
      by_cases none : snapshot.table.toList = []
      · exact .inl none
      · exact .inr (Nat.pos_of_ne_zero fun zero => missing ⟨none, zero⟩)
    unfold ofSnapshot
    rw [if_neg missing]
    show (snapshot.table.toList.foldlM _ empty >>= _) = _ ↔ _
    simp only [Outcome.bind_eq_ok_iff, Outcome.pure_eq_ok_iff, foldlM_addEntry_eq_ok_iff, allowed,
      true_and]
    constructor
    · rintro ⟨middle, ⟨reads, all, rfl⟩, same⟩
      exact ⟨reads, all, same⟩
    · rintro ⟨reads, all, same⟩
      exact ⟨_, ⟨reads, all, rfl⟩, same⟩

end TransitionTable

end MailSort
