/-! # Sorted maps

A finite map kept as the list of its entries in ascending order of their keys.  Since the
order is part of the type, two maps with the same entries are equal, and listing a map
needs no sorting.
-/

namespace MailSort

/-- Entries in ascending order of their keys, which are therefore distinct. -/
def Ascending {κ ν : Type} [Ord κ] (entries : List (κ × ν)) : Prop :=
  entries.Pairwise fun first second => compare first.1 second.1 = .lt

/-- A finite map from keys to values. -/
structure SortedMap (κ ν : Type) [Ord κ] where
  toList : List (κ × ν)
  ascending : Ascending toList
  deriving DecidableEq

namespace SortedMap

variable {κ ν : Type} [Ord κ]

/-- Puts an entry in its place, instead of an entry with the same key. -/
def insertEntry (key : κ) (value : ν) : List (κ × ν) → List (κ × ν)
  | [] => [(key, value)]
  | (other, old) :: rest =>
    match compare key other with
    | .lt => (key, value) :: (other, old) :: rest
    | .eq => (key, value) :: rest
    | .gt => (other, old) :: insertEntry key value rest

theorem mem_insertEntry {key : κ} {value : ν} {entries : List (κ × ν)} {entry : κ × ν}
    (h : entry ∈ insertEntry key value entries) : entry = (key, value) ∨ entry ∈ entries := by
  fun_induction insertEntry key value entries with
  | case1 => simp_all
  | case2 => simp_all
  | case3 =>
    rcases List.mem_cons.1 h with rfl | h
    · simp
    · simp [h]
  | case4 other old rest _ ih =>
    rcases List.mem_cons.1 h with rfl | h
    · simp
    · rcases ih h with rfl | h
      · simp
      · simp [h]

theorem ascending_insertEntry [Std.TransOrd κ] [Std.LawfulEqOrd κ] {key : κ} {value : ν}
    {entries : List (κ × ν)} (h : Ascending entries) :
    Ascending (insertEntry key value entries) := by
  fun_induction insertEntry key value entries with
  | case1 => simp [Ascending]
  | case2 other old rest before =>
    refine List.pairwise_cons.2 ⟨fun entry mem => ?_, h⟩
    rcases List.mem_cons.1 mem with rfl | mem
    · exact before
    · exact Std.TransCmp.lt_trans before ((List.pairwise_cons.1 h).1 entry mem)
  | case3 other old rest same =>
    obtain rfl := Std.LawfulEqCmp.eq_of_compare same
    exact List.pairwise_cons.2 (List.pairwise_cons.1 h)
  | case4 other old rest behind ih =>
    have split := List.pairwise_cons.1 h
    refine List.pairwise_cons.2 ⟨fun entry mem => ?_, ih split.2⟩
    rcases mem_insertEntry mem with rfl | mem
    · exact Std.OrientedCmp.lt_of_gt behind
    · exact split.1 entry mem

def empty : SortedMap κ ν := ⟨[], .nil⟩

instance : Inhabited (SortedMap κ ν) := ⟨empty⟩

def isEmpty (map : SortedMap κ ν) : Bool :=
  map.toList.isEmpty

def get? (map : SortedMap κ ν) (key : κ) : Option ν :=
  (map.toList.find? fun entry => compare key entry.1 = .eq).map Prod.snd

def contains (map : SortedMap κ ν) (key : κ) : Bool :=
  (map.get? key).isSome

/-- Gives a key a value, in place of the one it had. -/
def insert [Std.TransOrd κ] [Std.LawfulEqOrd κ] (map : SortedMap κ ν) (key : κ) (value : ν) :
    SortedMap κ ν where
  toList := insertEntry key value map.toList
  ascending := ascending_insertEntry map.ascending

def erase (map : SortedMap κ ν) (key : κ) : SortedMap κ ν where
  toList := map.toList.filter fun entry => compare key entry.1 ≠ .eq
  ascending := map.ascending.filter _

/-- The map with the given entries.  Of several entries with one key the last one counts. -/
def ofList [Std.TransOrd κ] [Std.LawfulEqOrd κ] (entries : List (κ × ν)) : SortedMap κ ν :=
  entries.foldl (fun map entry => map.insert entry.1 entry.2) empty

def mapValues {μ : Type} (f : κ → ν → μ) (map : SortedMap κ ν) : SortedMap κ μ where
  toList := map.toList.map fun entry => (entry.1, f entry.1 entry.2)
  ascending := by
    rw [Ascending, List.pairwise_map]
    exact map.ascending

end SortedMap

end MailSort
