import MailSort.Proofs.ClusterModel.Placement
import Mathlib.Data.List.Perm.Basic
import Mathlib.Data.List.Sort

/-! # Clusters partition the samples

Samples may occur more than once, so it is their places in the order of arrival that are dealt
out to groups (`Dealt`).  Every step of clustering deals out one more place.  So after any
updates the clusters of a bucket hold the present samples, each once, in the order of their
arrival, and an empty cluster is only there as long as there are no samples.
-/

namespace MailSort

/-- Samples are dealt out to groups; `places` says, group by group, which places among the
    samples are those of the group. -/
structure Dealt (samples : List Text) (places : List (List Nat)) (groups : List (List Text)) :
    Prop where
  /-- A group consists of the samples at its places. -/
  read : groups.map (·.map some) = places.map (·.map (samples[·]?))
  /-- No place is left out, and none is dealt out twice. -/
  once : places.flatten.Perm (List.range samples.length)
  /-- Samples that arrived earlier are earlier in their group. -/
  ascending : ∀ own ∈ places, own.Pairwise (· < ·)
  /-- Groups whose first sample arrived earlier come first. -/
  firsts : (places.filterMap List.head?).Pairwise (· < ·)
  some_group : places ≠ []
  /-- A group without samples is alone. -/
  sole : [] ∈ places → places = [[]]

namespace Dealt

variable {samples : List Text} {places : List (List Nat)} {groups before after : List (List Text)}
  {group : List Text}

theorem nothing : Dealt [] [[]] [[]] where
  read := rfl
  once := .refl _
  ascending := by simp
  firsts := .nil
  some_group := List.cons_ne_nil _ _
  sole _ := rfl

theorem first (sample : Text) : Dealt [sample] [[0]] [[sample]] where
  read := rfl
  once := .refl _
  ascending := by simp
  firsts := List.pairwise_singleton _ _
  some_group := List.cons_ne_nil _ _
  sole := by simp

theorem map_some_injective : Function.Injective (List.map (some : Text → Option Text)) :=
  List.map_injective_iff.2 (Option.some_injective _)

theorem lt_length (dealt : Dealt samples places groups) {own : List Nat} (member : own ∈ places)
    {place : Nat} (inside : place ∈ own) : place < samples.length := by
  have all : place ∈ places.flatten := List.mem_flatten.2 ⟨own, member, inside⟩
  exact List.mem_range.1 (dealt.once.mem_iff.1 all)

theorem nil_not_mem (dealt : Dealt samples places groups) (more : groups ≠ [[]]) :
    [] ∉ places := by
  intro empty
  have read := dealt.read
  rw [dealt.sole empty] at read
  obtain ⟨group, none, rfl, same, rest⟩ := List.map_eq_cons_iff.1 read
  obtain rfl := List.map_eq_nil_iff.1 rest
  obtain rfl := List.map_eq_nil_iff.1 same
  exact more rfl

/-! ## One more sample -/

theorem map_read_concat (dealt : Dealt samples places groups) (sample : Text)
    (chosen : List (List Nat)) (part : ∀ own ∈ chosen, own ∈ places) :
    chosen.map (·.map ((samples ++ [sample])[·]?)) = chosen.map (·.map (samples[·]?)) := by
  apply List.map_congr_left
  intro own member
  apply List.map_congr_left
  intro place inside
  exact List.getElem?_append_left (dealt.lt_length (part own member) inside)

theorem head_lt (dealt : Dealt samples places groups) {place : Nat}
    (head : place ∈ places.filterMap List.head?) : place < samples.length := by
  obtain ⟨own, member, first⟩ := List.mem_filterMap.1 head
  exact dealt.lt_length member (List.mem_of_mem_head? first)

/-- The sample begins a group behind the others. -/
theorem start (dealt : Dealt samples places groups) (more : groups ≠ [[]]) (sample : Text) :
    Dealt (samples ++ [sample]) (places ++ [[samples.length]]) (groups ++ [[sample]]) where
  read := by
    rw [List.map_append, List.map_append, dealt.map_read_concat sample places fun _ => id,
      dealt.read]
    simp
  once := by
    rw [List.flatten_append, List.length_append, List.length_singleton, List.range_succ]
    exact dealt.once.append_right _
  ascending := by
    intro own member
    obtain old | new := List.mem_append.1 member
    · exact dealt.ascending own old
    · obtain rfl := List.mem_singleton.1 new
      exact List.pairwise_singleton _ _
  firsts := by
    rw [List.filterMap_append]
    refine List.pairwise_append.2 ⟨dealt.firsts, List.pairwise_singleton _ _, ?_⟩
    intro earlier head later new
    obtain rfl : later = samples.length := by simpa using new
    exact dealt.head_lt head
  some_group := by simp
  sole empty := by
    have := dealt.nil_not_mem more
    simp_all

theorem join (dealt : Dealt samples places (before ++ group :: after))
    (more : before ++ group :: after ≠ [[]]) (sample : Text) :
    ∃ places, Dealt (samples ++ [sample]) places (before ++ (group ++ [sample]) :: after) := by
  have occupied := dealt.nil_not_mem more
  have read := dealt.read
  rw [List.map_append, List.map_cons] at read
  obtain ⟨front, rest, rfl, readFront, readRest⟩ := List.map_eq_append_iff.1 read.symm
  obtain ⟨own, back, rfl, readOwn, readBack⟩ := List.map_eq_cons_iff.1 readRest
  have inside : own ∈ front ++ own :: back := by simp
  -- Only a group without samples would get another first place.
  have sameHead : (own ++ [samples.length]).head? = own.head? := by
    cases own with
    | nil => exact absurd inside occupied
    | cons place own => rfl
  refine ⟨front ++ (own ++ [samples.length]) :: back, ?_⟩
  constructor
  case read =>
    have keptFront := dealt.map_read_concat sample front (by simp +contextual)
    have keptOwn : own.map ((samples ++ [sample])[·]?) = group.map some := by
      simpa [readOwn] using dealt.map_read_concat sample [own] (by simp)
    have keptBack := dealt.map_read_concat sample back (by simp +contextual)
    rw [readFront] at keptFront
    rw [readBack] at keptBack
    simp only [List.map_append, List.map_cons, keptFront, keptOwn, keptBack]
    simp
  case once =>
    have once := dealt.once
    simp only [List.flatten_append, List.flatten_cons] at once ⊢
    rw [List.length_append, List.length_singleton, List.range_succ]
    refine List.Perm.trans ?_ (once.append_right _)
    simp only [List.append_assoc]
    exact ((List.perm_append_comm).append_left own).append_left front.flatten
  case ascending =>
    intro other member
    rw [List.mem_append, List.mem_cons] at member
    obtain earlier | rfl | later := member
    · exact dealt.ascending other (by simp [earlier])
    · refine List.pairwise_append.2 ⟨dealt.ascending own inside, List.pairwise_singleton _ _, ?_⟩
      intro place old last new
      rw [List.mem_singleton.1 new]
      exact dealt.lt_length inside old
    · exact dealt.ascending other (by simp [later])
  case firsts =>
    have firsts := dealt.firsts
    rw [List.filterMap_append, List.filterMap_cons] at firsts ⊢
    rwa [sameHead]
  case some_group => simp
  case sole =>
    intro empty
    simp_all

/-! ## The groups -/

theorem map_range (samples : List Text) :
    (List.range samples.length).map (samples[·]?) = samples.map some := by
  apply List.ext_getElem
  · simp
  · intro place _ inside
    have bound : place < samples.length := by simpa using inside
    simp [bound]

theorem flatten_perm (dealt : Dealt samples places groups) : groups.flatten.Perm samples := by
  rw [← List.map_perm_map_iff (Option.some_injective Text), List.map_flatten, dealt.read,
    ← List.map_flatten, ← map_range]
  exact dealt.once.map _

theorem sublist (dealt : Dealt samples places groups) (member : group ∈ groups) :
    group.Sublist samples := by
  have mapped : group.map some ∈ places.map (·.map (samples[·]?)) := by
    rw [← dealt.read]
    exact List.mem_map_of_mem member
  obtain ⟨own, inside, same⟩ := List.mem_map.1 mapped
  have part : own.Subperm (List.range samples.length) :=
    (List.sublist_flatten_of_mem inside).subperm.trans dealt.once.subperm
  have chosen : own.Sublist (List.range samples.length) :=
    List.sublist_of_subperm_of_pairwise part (dealt.ascending own inside) List.pairwise_lt_range
  have read := chosen.map (samples[·]?)
  rw [same, map_range, List.sublist_map_iff] at read
  obtain ⟨others, fewer, equal⟩ := read
  rwa [map_some_injective equal]

theorem groups_ne_nil (dealt : Dealt samples places groups) : groups ≠ [] := by
  rintro rfl
  exact dealt.some_group (List.map_eq_nil_iff.1 dealt.read.symm)

theorem eq_nil_of_nil_mem (dealt : Dealt samples places groups) (empty : [] ∈ groups) :
    groups = [[]] ∧ samples = [] := by
  have alone : groups = [[]] := by
    by_contra more
    have mapped : [] ∈ places.map (·.map (samples[·]?)) := by
      rw [← dealt.read]
      exact List.mem_map.2 ⟨[], empty, rfl⟩
    obtain ⟨own, member, none⟩ := List.mem_map.1 mapped
    obtain rfl := List.map_eq_nil_iff.1 none
    exact dealt.nil_not_mem more member
  have whole := dealt.flatten_perm
  rw [alone] at whole
  exact ⟨alone, whole.nil_eq.symm⟩

end Dealt

/-! ## Buckets -/

namespace Bucket

def groups (bucket : Bucket) : List (List Text) :=
  bucket.clusters.map TemplateModel.samples

theorem isEmpty_iff {bucket : Bucket} : bucket.isEmpty ↔ bucket.groups = [[]] := by
  obtain ⟨least, clusters⟩ := bucket
  match clusters with
  | [] => simp [isEmpty, groups]
  | [only] => simp [isEmpty, groups, ArrivalLog.isEmpty, TemplateModel.samples]
  | first :: second :: rest => simp [isEmpty, groups]

variable [Compiler] {α : Type} {limits : ClusterLimits α} {bucket next : Bucket}
  {samples : List Text} {sample : Text}

/-- The clusters are models of groups of samples that are dealt out to them. -/
def Partitions (limits : ClusterLimits α) (samples : List Text) (bucket : Bucket) : Prop :=
  bucket.Built limits ∧ ∃ places, Dealt samples places bucket.groups

theorem partitions_of_empty {least : SegmentLength} (made : empty limits least = .ok bucket) :
    bucket.Partitions limits [] := by
  refine ⟨built_of_empty made, [[]], ?_⟩
  simp only [empty, Outcome.bind_eq_ok_iff, Outcome.pure_eq_ok_iff] at made
  obtain ⟨only, made, rfl⟩ := made
  rw [groups, List.map_singleton, TemplateModel.samples_of_build made]
  exact .nothing

theorem Partitions.takes [Score α] (partitions : bucket.Partitions limits samples)
    (taken : Takes limits bucket sample next) : next.Partitions limits (samples ++ [sample]) := by
  obtain ⟨built, places, dealt⟩ := partitions
  refine ⟨built.takes taken, ?_⟩
  cases taken with
  | founds vacant made =>
    -- A bucket with nothing but an empty cluster has no samples yet.
    have alone := isEmpty_iff.1 vacant
    obtain ⟨-, rfl⟩ := dealt.eq_nil_of_nil_mem (by simp [alone])
    refine ⟨[[0]], ?_⟩
    rw [groups, List.map_singleton, TemplateModel.samples_of_build made]
    exact .first sample
  | @joins before after home joined occupied place accepted added =>
    have more : bucket.groups ≠ [[]] := by
      rw [ne_eq, ← isEmpty_iff, occupied]
      exact Bool.false_ne_true
    have grown := built.samples_join (by simp [place]) added
    simp only [groups, place, List.map_append, List.map_cons, grown] at dealt more ⊢
    exact dealt.join more sample
  | starts occupied made =>
    have more : bucket.groups ≠ [[]] := by
      rw [ne_eq, ← isEmpty_iff, occupied]
      exact Bool.false_ne_true
    refine ⟨places ++ [[samples.length]], ?_⟩
    rw [groups, List.map_append, List.map_singleton, TemplateModel.samples_of_build made]
    exact dealt.start more sample

end Bucket

namespace ClusterModel

section Updates

variable [Compiler] {α : Type} [Score α] {limits : ClusterLimits α} {model : ClusterModel α}
  {samples : List Text}

/-- After any updates of a model there is a bucket for each segment length, and the clusters of
    each bucket partition the present samples: together they hold them, each cluster in the order
    of their arrival, and the clusters are in the order of their first samples.  An empty cluster
    is only there when there are no samples, and then there is no other. -/
theorem run_partitions (built : ofSamples limits samples = .ok model) (updates : List Update) :
    (model.run updates).buckets.map (·.segmentLength.chars) = limits.segmentLengths ∧
    ∀ bucket ∈ (model.run updates).buckets,
      bucket.groups.flatten.Perm (model.run updates).arrivals.samples ∧
      (∀ group ∈ bucket.groups, group.Sublist (model.run updates).arrivals.samples) ∧
      (∃ places, Dealt (model.run updates).arrivals.samples places bucket.groups) ∧
      bucket.clusters ≠ [] ∧
      ([] ∈ bucket.groups → bucket.groups = [[]] ∧ (model.run updates).arrivals.samples = []) := by
  have current := (build_eq_ok_iff.1 built).1.run updates
  refine ⟨current.segmentLengths_eq, fun bucket member => ?_⟩
  obtain ⟨-, places, dealt⟩ :=
    current.of_takes Bucket.partitions_of_empty Bucket.Partitions.takes member
  refine ⟨dealt.flatten_perm, fun _ => dealt.sublist, ⟨places, dealt⟩, ?_, dealt.eq_nil_of_nil_mem⟩
  have some := dealt.groups_ne_nil
  rwa [Bucket.groups, ne_eq, List.map_eq_nil_iff] at some

end Updates

/-- One of the samples occurs twice and one is empty.  Only the bucket for the shorter length
    keeps two of the others together. -/
theorem run_partitions_repeated :
    ∃ (model : ClusterModel Rat) (updates : List Update),
      ofSamples ⟨[2, 4], 1 / 10, 1 / 50, Template.standardBudget⟩ [] = .ok model ∧
      updates = [.addAll ["id=1;ok".toList, "hello".toList, "id=22;ok".toList, [], "hello".toList],
        .remove "id=1;ok".toList, .add "id=3;ok".toList] ∧
      (model.run updates).buckets.map Bucket.groups =
        [[["hello".toList, "hello".toList], ["id=22;ok".toList, "id=3;ok".toList], [[]]],
          [["hello".toList, "hello".toList], ["id=22;ok".toList], [[]], ["id=3;ok".toList]]] ∧
      ∀ bucket ∈ (model.run updates).buckets,
        bucket.groups.flatten.Perm (model.run updates).arrivals.samples ∧
        (∀ group ∈ bucket.groups, group.Sublist (model.run updates).arrivals.samples) ∧
        (∃ places, Dealt (model.run updates).arrivals.samples places bucket.groups) ∧
        bucket.clusters ≠ [] ∧
        ([] ∈ bucket.groups →
          bucket.groups = [[]] ∧ (model.run updates).arrivals.samples = []) := by
  have built : ofSamples (⟨[2, 4], 1 / 10, 1 / 50, Template.standardBudget⟩ : ClusterLimits Rat)
      [] = .ok ⟨⟨[2, 4], 1 / 10, 1 / 50, Template.standardBudget⟩,
        [⟨⟨2, by decide⟩,
            [⟨⟨2, by decide⟩, Template.standardBudget, .empty, [], .ofSamples [], 0⟩]⟩,
          ⟨⟨4, by decide⟩,
            [⟨⟨4, by decide⟩, Template.standardBudget, .empty, [], .ofSamples [], 0⟩]⟩],
        .ofSamples []⟩ := by
    decide +kernel
  exact ⟨_, _, built, rfl, by decide +kernel, (run_partitions built _).2⟩

end ClusterModel

end MailSort
