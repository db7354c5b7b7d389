import MailSort.Proofs.Json.RoundTrip
import MailSort.Proofs.TransitionTable.Consistency
import Mathlib.Data.List.Perm.Basic

/-! # Exported tables

A snapshot is read back from its document (`Snapshot.parse_render`), and a consistent table from
its snapshot, if there are samples for its transitions (`Consistent.ofSnapshot_snapshot`).
Subtraction lowers the counts and the number of samples independently of each other, so a table
can be left with transitions and without samples: what such a table is rendered as is refused.
-/

namespace MailSort

namespace Snapshot

structure Bounded (snapshot : Snapshot) : Prop where
  counts : ∀ entry ∈ snapshot.table.toList, entry.2 ≤ Text.largestCount
  length : snapshot.totalLength ≤ Text.largestCount
  samples : snapshot.totalSamples ≤ Text.largestCount

variable {snapshot : Snapshot}

def tableJson (snapshot : Snapshot) : Json :=
  .object (snapshot.table.toList.map fun entry => (some entry.1, .count entry.2))

theorem plain_toJson (snapshot : Snapshot) : snapshot.toJson.Plain := by
  have table : snapshot.tableJson.Plain := by
    refine .object fun member listed => ?_
    obtain ⟨entry, -, rfl⟩ := List.mem_map.1 listed
    exact .count entry.2
  exact .object (List.forall_mem_cons.2 ⟨table, List.forall_mem_cons.2
    ⟨.count _, List.forall_mem_cons.2 ⟨.count _, nofun⟩⟩⟩)

theorem members?_tableJson (snapshot : Snapshot) : snapshot.tableJson.members? =
    some (snapshot.table.toList.map fun entry => (entry.1, .count entry.2)) := by
  rw [tableJson, ← Json.members?_object, List.map_map]
  rfl

theorem ofJson?_toJson (bounded : snapshot.Bounded) : ofJson? snapshot.toJson = some snapshot := by
  have fields : snapshot.toJson.fields? fieldNames = some [some snapshot.tableJson,
      some (.count snapshot.totalLength), some (.count snapshot.totalSamples)] := rfl
  have entries : (snapshot.table.toList.map fun entry => (entry.1, Json.count entry.2)).mapM
      (fun member => member.2.asCount?.map (member.1, ·)) = some snapshot.table.toList := by
    refine Json.mapM_map_eq_some fun entry member => ?_
    rw [Json.asCount?_count (bounded.counts entry member), Option.map_some]
  rw [ofJson?, fields]
  show (snapshot.tableJson.members?.bind fun members =>
    (members.mapM fun member : Text × Json =>
      member.2.asCount?.map (member.1, ·)).bind fun entries =>
      (Json.count snapshot.totalLength).asCount?.bind fun totalLength =>
        (Json.count snapshot.totalSamples).asCount?.bind fun totalSamples =>
          some (.mk (.ofList entries) totalLength totalSamples)) = some snapshot
  rw [members?_tableJson, Option.bind_some, entries, Option.bind_some,
    Json.asCount?_count bounded.length, Option.bind_some, Json.asCount?_count bounded.samples,
    Option.bind_some, SortedMap.ofList_toList]

theorem parse_render (bounded : snapshot.Bounded) : parse snapshot.render = .ok snapshot := by
  rw [parse, render, Json.parse?_render snapshot.plain_toJson, Option.bind_some,
    ofJson?_toJson bounded]

end Snapshot

namespace TransitionTable

open Tally (weigh)

variable {table other : TransitionTable}

structure Bounded (table : TransitionTable) : Prop where
  counts : ∀ entry ∈ table.counts.toList, entry.2 ≤ Text.largestCount
  length : table.totalLength ≤ Text.largestCount
  samples : table.totalSamples ≤ Text.largestCount

/-- Where there are transitions there are samples. -/
def Backed (table : TransitionTable) : Prop :=
  table.isEmpty ∨ 0 < table.totalSamples
deriving Decidable

theorem count_addCounts (table : TransitionTable) (reads : List (Transition × Nat))
    (transition : Transition) :
    (table.addCounts reads).counts.count transition =
      table.counts.count transition + weigh (· = transition) reads := by
  induction reads generalizing table with
  | nil => rfl
  | cons read reads ih =>
    rw [addCounts, List.foldl_cons, ← addCounts, ih, addTransition, Tally.count_add,
      weigh, Nat.add_assoc]
    simp

/-! ## Consistent tables -/

namespace Consistent

/-- Counts and totals determine a consistent table. -/
theorem ext (consistent : Consistent table) (consistent' : Consistent other)
    (counts : table.counts = other.counts) (length : table.totalLength = other.totalLength)
    (samples : table.totalSamples = other.totalSamples) : table = other := by
  have outgoing : table.outgoing = other.outgoing := by
    refine Tally.ext_count consistent.outgoing_pos consistent'.outgoing_pos fun token => ?_
    rw [consistent.outgoing_count, consistent'.outgoing_count, counts]
  cases table
  cases other
  cases counts
  cases outgoing
  cases length
  cases samples
  rfl

theorem snapshot_perm (consistent : Consistent table) :
    table.snapshot.table.toList.Perm
      (table.counts.toList.map fun entry => (entry.1.key, entry.2)) := by
  refine SortedMap.ofList_perm ?_
  have distinct := table.counts.ascending.distinct
  rw [List.Nodup, List.pairwise_map] at distinct
  rw [List.map_map, List.Nodup, List.pairwise_map]
  refine distinct.imp_of_mem fun {first second} member member' other same => other ?_
  exact Transition.key_injective (consistent.proper_of_mem member)
    (consistent.proper_of_mem member') same

theorem bounded_snapshot (consistent : Consistent table) (bounded : table.Bounded) :
    table.snapshot.Bounded := by
  refine ⟨fun entry member => ?_, bounded.length, bounded.samples⟩
  rw [consistent.snapshot_perm.mem_iff, List.mem_map] at member
  obtain ⟨counted, member, rfl⟩ := member
  exact bounded.counts counted member

theorem ofSnapshot_snapshot (consistent : Consistent table) (backed : table.Backed) :
    ofSnapshot table.snapshot = .ok table := by
  have written : List.Forall₂ Reads
      (table.counts.toList.map fun entry => (entry.1.key, entry.2)) table.counts.toList := by
    rw [List.forall₂_map_left_iff, List.forall₂_same]
    intro entry member
    exact ⟨Transition.ofKey?_key (consistent.proper_of_mem member), rfl,
      consistent.counts_pos entry member⟩
  -- The keys are in another order than the transitions.
  obtain ⟨reads, all, same⟩ := List.perm_comp_forall₂ consistent.snapshot_perm written
  refine ofSnapshot_eq_ok_iff.2 ⟨?_, reads, all, ?_⟩
  · refine backed.imp_left fun empty => ?_
    rw [isEmpty, SortedMap.isEmpty, List.isEmpty_iff] at empty
    rw [snapshot, empty]
    rfl
  · -- What was read is consistent too, so it is enough to compare the counts.
    have counted := consistent_empty.addCounts (proper_of_reads all)
    have counts : (TransitionTable.empty.addCounts reads).counts = table.counts := by
      refine Tally.ext_count counted.counts_pos consistent.counts_pos fun transition => ?_
      rw [count_addCounts, Tally.weigh_perm same, Tally.weigh_eq_count]
      exact Nat.zero_add _
    exact (counted.withTotals ..).ext consistent counts rfl rfl

theorem ofSnapshot_snapshot_of_not_backed (consistent : Consistent table)
    (unbacked : ¬table.Backed) : ofSnapshot table.snapshot = .error .missingSamples := by
  rw [Backed, not_or] at unbacked
  apply ofSnapshot_of_missing
  · intro none
    have same := consistent.snapshot_perm
    rw [none, List.nil_perm, List.map_eq_nil_iff] at same
    exact unbacked.1 (List.isEmpty_iff.2 same)
  · exact Nat.eq_zero_of_not_pos unbacked.2

theorem parse_render (consistent : Consistent table) (bounded : table.Bounded) :
    parse table.render = ofSnapshot table.snapshot := by
  rw [parse, render, Snapshot.parse_render (consistent.bounded_snapshot bounded)]
  rfl

end Consistent

/-! ## Tables in use -/

/-- A table comes back from what it is rendered as, and is rendered as the same again, if it is
    backed by samples.  If it is not, what it is rendered as is refused. -/
theorem Reachable.export_import (reachable : Reachable table) (bounded : table.Bounded) :
    parse table.render = (if table.Backed then .ok table else .error .missingSamples) ∧
      render <$> parse table.render =
        (if table.Backed then .ok table.render else .error .missingSamples) := by
  have consistent := reachable.consistent
  rw [consistent.parse_render bounded]
  by_cases backed : table.Backed
  · rw [consistent.ofSnapshot_snapshot backed, if_pos backed, if_pos backed]
    exact ⟨rfl, rfl⟩
  · rw [consistent.ofSnapshot_snapshot_of_not_backed backed, if_neg backed, if_neg backed]
    exact ⟨rfl, rfl⟩

/-- A sample that was never added is subtracted from two others, and one is left. -/
theorem export_import_with_samples_left :
    let table := ((empty.add "ab".toList).add "\"\n".toList).subtract "xyz".toList
    Reachable table ∧ table.Bounded ∧ parse table.render = .ok table ∧
      render <$> parse table.render = .ok table.render := by
  intro table
  have reachable : Reachable table := .subtract _ (.add _ (.add _ .empty))
  have bounded : table.Bounded := ⟨by decide, by decide, by decide⟩
  have backed : table.Backed := by decide
  have exported := reachable.export_import bounded
  rw [if_pos backed, if_pos backed] at exported
  exact ⟨reachable, bounded, exported⟩

/-- The same sample is subtracted from one other: all transitions are left, but no sample. -/
theorem export_refused_without_samples :
    let table := (empty.add "ab".toList).subtract "xyz".toList
    Reachable table ∧ table.Bounded ∧ parse table.render = .error .missingSamples := by
  intro table
  have reachable : Reachable table := .subtract _ (.add _ .empty)
  have bounded : table.Bounded := ⟨by decide, by decide, by decide⟩
  have unbacked : ¬table.Backed := by decide
  refine ⟨reachable, bounded, ?_⟩
  rw [reachable.consistent.parse_render bounded,
    reachable.consistent.ofSnapshot_snapshot_of_not_backed unbacked]

end TransitionTable

end MailSort
