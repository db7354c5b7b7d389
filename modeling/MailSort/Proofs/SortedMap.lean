import MailSort.SortedMap
import Mathlib.Data.List.Nodup

/-! # Sorted maps and their entries

A sorted map is determined by what it has for each key.  The lemmas give what `insert`, `erase`
and `ofList` do to lookups; where entries are summed up, they give the list of entries up to
its order.
-/

namespace MailSort

variable {κ ν : Type} [Ord κ]

namespace Ascending

theorem tail {entry : κ × ν} {entries : List (κ × ν)} (ascending : Ascending (entry :: entries)) :
    Ascending entries :=
  (List.pairwise_cons.1 ascending).2

theorem distinct [Std.ReflOrd κ] {entries : List (κ × ν)} (ascending : Ascending entries) :
    (entries.map Prod.fst).Nodup := by
  rw [List.Nodup, List.pairwise_map]
  refine ascending.imp fun {first second} before same => ?_
  have level : compare first.1 second.1 = .eq := by rw [same]; exact Std.ReflCmp.compare_self
  rw [before] at level
  contradiction

theorem nodup [Std.ReflOrd κ] {entries : List (κ × ν)} (ascending : Ascending entries) :
    entries.Nodup :=
  List.Nodup.of_map _ ascending.distinct

/-- Two ascending lists of the same entries are the same list. -/
theorem eq_of_perm [Std.OrientedOrd κ] {first second : List (κ × ν)} (ascending : Ascending first)
    (ascending' : Ascending second) (same : first.Perm second) : first = second := by
  refine same.eq_of_pairwise (fun _ _ _ _ before after => ?_) ascending ascending'
  exact absurd after (Std.OrientedCmp.not_lt_of_lt before)

end Ascending

namespace SortedMap

theorem ext_toList {first second : SortedMap κ ν} (same : first.toList = second.toList) :
    first = second := by
  cases first
  cases second
  cases same
  rfl

/-! ## Lookups -/

variable [Std.LawfulEqOrd κ]

theorem get?_eq_some_iff {map : SortedMap κ ν} {key : κ} {value : ν} :
    map.get? key = some value ↔ (key, value) ∈ map.toList := by
  obtain ⟨entries, ascending⟩ := map
  simp only [get?]
  induction entries with
  | nil => simp
  | cons entry entries ih =>
    have rest := ih ascending.tail
    have distinct := List.nodup_cons.1 ascending.distinct
    obtain ⟨first, old⟩ := entry
    by_cases here : key = first
    · subst here
      have alone : (key, value) ∉ entries := fun member =>
        distinct.1 (List.mem_map.2 ⟨_, member, rfl⟩)
      simp [alone, eq_comm]
    · simpa [here] using rest

theorem get?_eq_none_iff {map : SortedMap κ ν} {key : κ} :
    map.get? key = none ↔ ∀ value, (key, value) ∉ map.toList := by
  simp [← get?_eq_some_iff, Option.eq_none_iff_forall_ne_some]

theorem isSome_get?_iff {map : SortedMap κ ν} {key : κ} :
    (map.get? key).isSome ↔ key ∈ map.toList.map Prod.fst := by
  rw [Option.isSome_iff_exists, List.mem_map]
  constructor
  · rintro ⟨value, found⟩
    exact ⟨(key, value), get?_eq_some_iff.1 found, rfl⟩
  · rintro ⟨entry, member, rfl⟩
    exact ⟨entry.2, get?_eq_some_iff.2 member⟩

theorem get?_mapValues {μ : Type} (map : SortedMap κ ν) (f : κ → ν → μ) (key : κ) :
    (map.mapValues f).get? key = (map.get? key).map (f key) := by
  ext found
  simp only [Option.map_eq_some_iff, get?_eq_some_iff, mapValues, List.mem_map]
  constructor
  · rintro ⟨⟨other, value⟩, member, same⟩
    obtain ⟨rfl, rfl⟩ := Prod.mk.inj same
    exact ⟨value, member, rfl⟩
  · rintro ⟨value, member, rfl⟩
    exact ⟨(key, value), member, rfl⟩

/-! ## Deletion -/

theorem mem_erase {map : SortedMap κ ν} {key : κ} {entry : κ × ν} :
    entry ∈ (map.erase key).toList ↔ entry ∈ map.toList ∧ key ≠ entry.1 := by
  simp [erase]

theorem get?_erase [DecidableEq κ] (map : SortedMap κ ν) (key other : κ) :
    (map.erase key).get? other = if key = other then none else map.get? other := by
  ext found
  rw [get?_eq_some_iff, mem_erase]
  by_cases same : key = other
  · simp [same]
  · simp [same, get?_eq_some_iff]

theorem erase_eq_self {map : SortedMap κ ν} {key : κ} (absent : map.get? key = none) :
    map.erase key = map := by
  refine ext_toList (List.filter_eq_self.2 fun entry member => ?_)
  have other : key ≠ entry.1 := by
    rintro rfl
    exact get?_eq_none_iff.1 absent _ member
  simpa using other

/-! ## Equality -/

variable [Std.TransOrd κ]

theorem ext_get? {first second : SortedMap κ ν} (same : ∀ key, first.get? key = second.get? key) :
    first = second := by
  refine ext_toList (first.ascending.eq_of_perm second.ascending ?_)
  rw [List.perm_ext_iff_of_nodup first.ascending.nodup second.ascending.nodup]
  rintro ⟨key, value⟩
  rw [← get?_eq_some_iff, ← get?_eq_some_iff, same]

/-! ## Insertion -/

/-- A new entry takes the place of the entry with its key. -/
theorem insertEntry_perm {key : κ} {value : ν} {entries : List (κ × ν)}
    (ascending : Ascending entries) :
    (insertEntry key value entries).Perm
      ((key, value) :: entries.filter fun entry => compare key entry.1 ≠ .eq) := by
  have kept {entries : List (κ × ν)} (before : ∀ entry ∈ entries, compare key entry.1 = .lt) :
      entries.filter (fun entry => compare key entry.1 ≠ .eq) = entries :=
    List.filter_eq_self.2 fun entry member => by simp [before entry member]
  fun_induction insertEntry key value entries with
  | case1 => simp
  | case2 other old rest before =>
    have above := (List.pairwise_cons.1 ascending).1
    rw [kept]
    intro entry member
    rcases List.mem_cons.1 member with rfl | member
    · exact before
    · exact Std.TransCmp.lt_trans before (above entry member)
  | case3 other old rest same =>
    obtain rfl := Std.LawfulEqCmp.eq_of_compare same
    rw [List.filter_cons_of_neg (by simp), kept (List.pairwise_cons.1 ascending).1]
  | case4 other old rest behind ih =>
    rw [List.filter_cons_of_pos (by simp [behind])]
    exact ((ih ascending.tail).cons _).trans (.swap ..)

theorem insert_perm (map : SortedMap κ ν) (key : κ) (value : ν) :
    (map.insert key value).toList.Perm ((key, value) :: (map.erase key).toList) :=
  insertEntry_perm map.ascending

theorem get?_insert [DecidableEq κ] (map : SortedMap κ ν) (key other : κ) (value : ν) :
    (map.insert key value).get? other = if key = other then some value else map.get? other := by
  ext found
  rw [get?_eq_some_iff, (map.insert_perm key value).mem_iff, List.mem_cons, mem_erase]
  by_cases same : key = other
  · simp [same, eq_comm]
  · simp [same, get?_eq_some_iff, Ne.symm same]

theorem insert_eq_self {map : SortedMap κ ν} {key : κ} {value : ν}
    (present : map.get? key = some value) : map.insert key value = map := by
  classical
  refine ext_get? fun other => ?_
  rw [get?_insert]
  split
  · next same => rw [← same, present]
  · rfl

theorem insert_insert (map : SortedMap κ ν) (key : κ) (first second : ν) :
    (map.insert key first).insert key second = map.insert key second := by
  classical
  refine ext_get? fun other => ?_
  simp only [get?_insert]
  by_cases same : key = other
  · rw [if_pos same, if_pos same]
  · rw [if_neg same, if_neg same, if_neg same]

/-- Putting a value in place of one that reads the same does not show. -/
theorem mapValues_insert_eq_self {μ : Type} {map : SortedMap κ ν} {key : κ} {value other : ν}
    {f : κ → ν → μ} (present : map.get? key = some value) (same : f key other = f key value) :
    (map.insert key other).mapValues f = map.mapValues f := by
  classical
  refine ext_get? fun found => ?_
  rw [get?_mapValues, get?_mapValues, get?_insert]
  split
  · next here =>
    subst here
    rw [present, Option.map_some, Option.map_some, same]
  · rfl

/-! ## Maps from lists -/

theorem foldl_insert_perm {entries : List (κ × ν)} {map : SortedMap κ ν}
    (distinct : (entries.map Prod.fst).Nodup)
    (absent : ∀ entry ∈ entries, map.get? entry.1 = none) :
    (entries.foldl (fun map entry => map.insert entry.1 entry.2) map).toList.Perm
      (map.toList ++ entries) := by
  induction entries generalizing map with
  | nil => simp
  | cons entry entries ih =>
    rw [List.map_cons, List.nodup_cons] at distinct
    have inserted := map.insert_perm entry.1 entry.2
    rw [erase_eq_self (absent entry List.mem_cons_self)] at inserted
    have later : ∀ other ∈ entries, (map.insert entry.1 entry.2).get? other.1 = none := by
      intro other member
      have missing := absent other (List.mem_cons_of_mem _ member)
      rw [get?_eq_none_iff] at missing ⊢
      intro value found
      rcases List.mem_cons.1 (inserted.mem_iff.1 found) with same | old
      · exact distinct.1 (List.mem_map.2 ⟨other, member, (Prod.mk.inj same).1⟩)
      · exact missing value old
    exact (ih distinct.2 later).trans
      ((inserted.append_right entries).trans List.perm_middle.symm)

theorem ofList_perm {entries : List (κ × ν)} (distinct : (entries.map Prod.fst).Nodup) :
    (ofList entries : SortedMap κ ν).toList.Perm entries :=
  foldl_insert_perm distinct fun _ _ => rfl

theorem ofList_toList (map : SortedMap κ ν) : ofList map.toList = map :=
  ext_toList ((ofList map.toList).ascending.eq_of_perm map.ascending
    (ofList_perm map.ascending.distinct))

end SortedMap

end MailSort
