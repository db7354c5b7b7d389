import MailSort.Proofs.TransitionTable.RoundTrip

/-! # Accepted snapshots

A key has one of four forms, and from each of them it is read as the only transition that it is
the key of (`Transition.ofKey?_eq_some_iff`).  So a snapshot is accepted exactly if its keys have
these forms, its counts are positive and it has samples for its transitions, and the table that is
made of it has this very snapshot (`TransitionTable.ofSnapshot_accepts`).
-/

namespace MailSort

namespace Transition

inductive IsKey : Text → Prop where
  | whole : IsKey "STARTFINISH".toList
  | first (c : Char) : IsKey ("START".toList ++ [c])
  | last (c : Char) : IsKey (c :: "FINISH".toList)
  | inner (c d : Char) : IsKey [c, d]

variable {key rest : Text} {transition : Transition}

/-! ## Keys -/

theorem key_of_afterStart? (read : afterStart? rest = some transition) :
    transition.key = Token.startWord ++ rest := by
  unfold afterStart? at read
  split at read
  · next finish =>
    cases read
    rw [finish]
    rfl
  · split at read
    · cases read
      rfl
    · contradiction

theorem key_of_beforeFinish? (read : beforeFinish? rest = some transition) :
    transition.key = rest ++ Token.finishWord := by
  unfold beforeFinish? at read
  split at read
  · cases read
    rfl
  · contradiction

theorem key_of_ofKey? (read : ofKey? key = some transition) : transition.key = key := by
  unfold ofKey? at read
  split at read
  · cases read
    rfl
  · rw [Option.or_eq_some_iff, Option.bind_eq_some_iff, Option.bind_eq_some_iff] at read
    obtain ⟨rest, left, read⟩ | ⟨-, rest, left, read⟩ := read
    · rw [List.isPrefixOf?_eq_some_iff_append_eq] at left
      rw [key_of_afterStart? read, left]
    · rw [List.isSuffixOf?_eq_some_iff_append_eq] at left
      rw [key_of_beforeFinish? read, left]

/-- A key is read as the one transition that it is the key of. -/
theorem ofKey?_eq_some_iff :
    ofKey? key = some transition ↔ transition.Proper ∧ transition.key = key := by
  constructor
  · intro read
    exact ⟨proper_of_ofKey? read, key_of_ofKey? read⟩
  · rintro ⟨proper, rfl⟩
    exact ofKey?_key proper

theorem isKey_key (proper : transition.Proper) : IsKey transition.key := by
  obtain ⟨source, target⟩ := transition
  cases source with
  | finish => exact absurd rfl proper.1
  | start =>
    cases target with
    | start => exact absurd rfl proper.2
    | char c => exact .first c
    | finish => exact .whole
  | char c =>
    cases target with
    | start => exact absurd rfl proper.2
    | char d => exact .inner c d
    | finish => exact .last c

theorem IsKey.exists_proper (spelled : IsKey key) :
    ∃ transition : Transition, transition.Proper ∧ transition.key = key := by
  cases spelled with
  | whole => exact ⟨⟨.start, .finish⟩, ⟨nofun, nofun⟩, rfl⟩
  | first c => exact ⟨⟨.start, .char c⟩, ⟨nofun, nofun⟩, rfl⟩
  | last c => exact ⟨⟨.char c, .finish⟩, ⟨nofun, nofun⟩, rfl⟩
  | inner c d => exact ⟨⟨.char c, .char d⟩, ⟨nofun, nofun⟩, rfl⟩

theorem exists_ofKey?_iff : (∃ transition, ofKey? key = some transition) ↔ IsKey key := by
  constructor
  · rintro ⟨transition, read⟩
    obtain ⟨proper, rfl⟩ := ofKey?_eq_some_iff.1 read
    exact isKey_key proper
  · intro spelled
    obtain ⟨transition, proper, rfl⟩ := spelled.exists_proper
    exact ⟨transition, ofKey?_key proper⟩

end Transition

structure Snapshot.Acceptable (snapshot : Snapshot) : Prop where
  backed : snapshot.table.toList = [] ∨ 0 < snapshot.totalSamples
  counts_pos : ∀ entry ∈ snapshot.table.toList, 0 < entry.2
  keys : ∀ entry ∈ snapshot.table.toList, Transition.IsKey entry.1

namespace TransitionTable

variable {snapshot : Snapshot} {table : TransitionTable} {entries : List (Text × Nat)}
  {reads : List (Transition × Nat)}

/-! ## Entries -/

theorem exists_forall₂_reads_iff :
    (∃ reads, List.Forall₂ Reads entries reads) ↔
      ∀ entry ∈ entries, 0 < entry.2 ∧ Transition.IsKey entry.1 := by
  induction entries with
  | nil => exact ⟨fun _ => nofun, fun _ => ⟨[], .nil⟩⟩
  | cons entry entries ih =>
    rw [List.forall_mem_cons, ← ih]
    constructor
    · rintro ⟨_, all⟩
      cases all with
      | cons first later =>
        exact ⟨⟨first.pos, Transition.exists_ofKey?_iff.1 ⟨_, first.key⟩⟩, _, later⟩
    · rintro ⟨⟨positive, spelled⟩, reads, later⟩
      obtain ⟨transition, read⟩ := Transition.exists_ofKey?_iff.2 spelled
      exact ⟨(transition, entry.2) :: reads, .cons ⟨read, rfl, positive⟩ later⟩

/-- Writing the keys of what was read gives the entries again. -/
theorem map_key_of_reads (all : List.Forall₂ Reads entries reads) :
    reads.map (fun read => (read.1.key, read.2)) = entries := by
  induction all with
  | nil => rfl
  | cons first _ ih => rw [List.map_cons, ih, Transition.key_of_ofKey? first.key, ← first.count]

/-- No two entries are read as the same transition, since their keys differ. -/
theorem distinct_of_reads (all : List.Forall₂ Reads entries reads)
    (distinct : (entries.map Prod.fst).Nodup) : (reads.map Prod.fst).Nodup := by
  rw [← map_key_of_reads all, List.map_map] at distinct
  refine List.Nodup.of_map Transition.key ?_
  rwa [List.map_map]

/-- Counting distinct transitions in an empty table leaves these counts and no others. -/
theorem counts_addCounts_perm (distinct : (reads.map Prod.fst).Nodup)
    (positive : ∀ read ∈ reads, 0 < read.2) (proper : ∀ read ∈ reads, read.1.Proper) :
    (empty.addCounts reads).counts.toList.Perm reads := by
  have listed := SortedMap.ofList_perm distinct
  have counts : (empty.addCounts reads).counts = SortedMap.ofList reads := by
    refine Tally.ext_count (consistent_empty.addCounts proper).counts_pos ?_ fun transition => ?_
    · exact fun entry member => positive entry (listed.mem_iff.1 member)
    · rw [count_addCounts, ← Tally.weigh_perm listed, Tally.weigh_eq_count]
      exact Nat.zero_add _
  rw [counts]
  exact listed

/-! ## Whole snapshots -/

theorem exists_ofSnapshot_iff :
    (∃ table, ofSnapshot snapshot = .ok table) ↔ snapshot.Acceptable := by
  constructor
  · rintro ⟨table, accepted⟩
    obtain ⟨backed, reads, all, -⟩ := ofSnapshot_eq_ok_iff.1 accepted
    have entries := exists_forall₂_reads_iff.1 ⟨reads, all⟩
    exact ⟨backed, fun entry member => (entries entry member).1,
      fun entry member => (entries entry member).2⟩
  · intro acceptable
    obtain ⟨reads, all⟩ := exists_forall₂_reads_iff.2 fun entry member =>
      ⟨acceptable.counts_pos entry member, acceptable.keys entry member⟩
    exact ⟨_, ofSnapshot_eq_ok_iff.2 ⟨acceptable.backed, reads, all, rfl⟩⟩

/-- A table has the snapshot that it was made of. -/
theorem snapshot_of_ofSnapshot (accepted : ofSnapshot snapshot = .ok table) :
    table.snapshot = snapshot := by
  obtain ⟨-, reads, all, rfl⟩ := ofSnapshot_eq_ok_iff.1 accepted
  have proper := proper_of_reads all
  have consistent := (consistent_empty.addCounts proper).withTotals snapshot.totalLength
    snapshot.totalSamples
  have distinct := distinct_of_reads all snapshot.table.ascending.distinct
  have positive : ∀ read ∈ reads, 0 < read.2 := by
    have entries := exists_forall₂_reads_iff.1 ⟨reads, all⟩
    intro read member
    have listed : (read.1.key, read.2) ∈ snapshot.table.toList := by
      rw [← map_key_of_reads all]
      exact List.mem_map.2 ⟨read, member, rfl⟩
    exact (entries _ listed).1
  -- Both maps are ascending, so it is enough that they have the same entries.
  have entries : ((empty.addCounts reads).withTotals snapshot.totalLength
      snapshot.totalSamples).snapshot.table = snapshot.table := by
    refine SortedMap.ext_toList (Ascending.eq_of_perm (SortedMap.ascending _)
      snapshot.table.ascending (consistent.snapshot_perm.trans ?_))
    have counted := counts_addCounts_perm distinct positive proper
    exact (counted.map _).trans (.of_eq (map_key_of_reads all))
  exact congrArg (Snapshot.mk · snapshot.totalLength snapshot.totalSamples) entries

/-- A snapshot is accepted exactly if it is acceptable, and nothing of it is lost or renamed.  The
    key of every transition that a sample can have is read as that transition. -/
theorem ofSnapshot_accepts (snapshot : Snapshot) :
    ((∃ table, ofSnapshot snapshot = .ok table) ↔ snapshot.Acceptable) ∧
      (∀ table, ofSnapshot snapshot = .ok table → table.snapshot = snapshot) ∧
      ∀ (sample : Text), ∀ transition ∈ sample.transitions,
        Transition.ofKey? transition.key = some transition := by
  refine ⟨exists_ofSnapshot_iff, fun table => snapshot_of_ofSnapshot, ?_⟩
  intro sample transition member
  exact Transition.ofKey?_key (Text.proper_of_mem_transitions member)

/-- The characters of the transitions are among the letters of the words for both ends. -/
theorem ofSnapshot_accepts_letters_of_ends :
    let snapshot : Snapshot := {
      table := ⟨[("FFINISH".toList, 1), ("ST".toList, 2), ("STARTFINISH".toList, 3),
        ("STARTS".toList, 4), ("♥F".toList, 5)], by unfold Ascending; decide⟩
      totalLength := 6
      totalSamples := 7 }
    let ending : Transition := ⟨.char 'F', .finish⟩
    (∃ table, ofSnapshot snapshot = .ok table ∧ table.snapshot = snapshot) ∧
      ending ∈ Text.transitions "STARTF".toList ∧ ending.key = "FFINISH".toList ∧
      Transition.ofKey? ending.key = some ending := by
  intro snapshot ending
  have keys : ∀ entry ∈ snapshot.table.toList, Transition.IsKey entry.1 :=
    List.forall_mem_cons.2 ⟨.last 'F', List.forall_mem_cons.2 ⟨.inner 'S' 'T',
      List.forall_mem_cons.2 ⟨.whole, List.forall_mem_cons.2 ⟨.first 'S',
        List.forall_mem_cons.2 ⟨.inner '♥' 'F', nofun⟩⟩⟩⟩⟩
  have acceptable : snapshot.Acceptable := ⟨.inr (by decide), by decide, keys⟩
  have has : ending ∈ Text.transitions "STARTF".toList := by decide
  obtain ⟨accepts, lossless, reads⟩ := ofSnapshot_accepts snapshot
  obtain ⟨table, accepted⟩ := accepts.2 acceptable
  exact ⟨⟨table, accepted, lossless table accepted⟩, has, rfl, reads _ ending has⟩

end TransitionTable

end MailSort
