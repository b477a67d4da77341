import Mathlib.Data.List.Basic
import Mathlib.Data.Set.Card
import Rekindle.Symbols

/-!
# The points of a routine

Debug symbols keep the points of a routine sorted by offset, and those of one offset in the order
in which they were added. So whatever was added, in whatever order, the point that is found at an
offset is the one that governs it: of those with the greatest offset that is not above, the latest.
-/

namespace Rekindle

/-! ### Lists of points -/

namespace SequencePoint

variable {points held : List SequencePoint} {offset : UInt32} {point other : SequencePoint}

/-- The points of one offset, in the order of the list. -/
def sharing (offset : UInt32) (points : List SequencePoint) : List SequencePoint :=
  points.filter fun point => point.offset = offset

/-- Points sorted by offset. -/
abbrev Ascending (points : List SequencePoint) : Prop :=
  points.Pairwise fun point later => point.offset ≤ later.offset

/-- Of points that are listed as they were added, the one that says where an offset comes from: its
offset is the greatest that is not above, and it is the latest of that offset. -/
structure Governs (held : List SequencePoint) (offset : UInt32) (point : SequencePoint) :
    Prop where
  notAbove : point.offset ≤ offset
  greatest : ∀ other ∈ held, other.offset ≤ offset → other.offset ≤ point.offset
  latest : (sharing point.offset held).getLast? = some point

@[simp]
theorem mem_sharing : point ∈ sharing offset points ↔ point ∈ points ∧ point.offset = offset := by
  simp [sharing]

theorem Governs.mem (governs : Governs held offset point) : point ∈ held :=
  (mem_sharing.mp (List.mem_of_getLast? governs.latest)).1

/-- Only one point governs an offset. -/
theorem Governs.unique (governs : Governs held offset point) (others : Governs held offset other) :
    point = other := by
  have same : point.offset = other.offset := UInt32.le_antisymm
    (others.greatest point governs.mem governs.notAbove)
    (governs.greatest other others.mem others.notAbove)
  have latest := governs.latest
  rw [same, others.latest] at latest
  exact (Option.some.inj latest).symm

/-- Lists that agree at every offset have the same points. -/
theorem perm_of_sharing (same : ∀ offset, sharing offset points = sharing offset held) :
    points.Perm held := by
  refine List.perm_iff_count.mpr fun point => ?_
  have counts : ∀ list, (sharing point.offset list).count point = list.count point :=
    fun list => List.count_filter (by simp)
  rw [← counts points, same, counts held]

/-- Ascending points are up to an offset exactly as long as they are not above it. -/
theorem takeWhile_eq_filter (ascending : Ascending points) :
    points.takeWhile (·.offset ≤ offset) = points.filter (·.offset ≤ offset) := by
  induction points with
  | nil => rfl
  | cons first rest ih =>
      rcases List.pairwise_cons.mp ascending with ⟨before, sorted⟩
      by_cases upTo : first.offset ≤ offset
      · rw [List.takeWhile_cons_of_pos (by simpa using upTo),
          List.filter_cons_of_pos (by simpa using upTo), ih sorted]
      · rw [List.takeWhile_cons_of_neg (by simpa using upTo),
          List.filter_cons_of_neg (by simpa using upTo)]
        -- No later point is up to the offset, for it is not below the first.
        refine (List.filter_eq_nil_iff.mpr fun later listed => ?_).symm
        have notUpTo : ¬ later.offset ≤ offset :=
          fun isUpTo => upTo (UInt32.le_trans (before later listed) isUpTo)
        simpa using notUpTo

/-- The last of ascending points up to an offset governs it. -/
theorem governs_of_getLast? (ascending : Ascending points)
    (last : (points.filter (·.offset ≤ offset)).getLast? = some point) :
    Governs points offset point := by
  have notAbove : point.offset ≤ offset := by
    simpa using (List.mem_filter.mp (List.mem_of_getLast? last)).2
  rcases List.getLast?_eq_some_iff.mp last with ⟨before, upTo⟩
  refine ⟨notAbove, ?_, ?_⟩
  · intro other listed below
    have sorted : Ascending (before ++ [point]) := upTo ▸ ascending.filter _
    have isUpTo : other ∈ before ++ [point] :=
      upTo ▸ List.mem_filter.mpr ⟨listed, by simpa using below⟩
    rcases List.mem_append.mp isUpTo with isBefore | isLast
    · exact (List.pairwise_append.mp sorted).2.2 other isBefore point List.mem_cons_self
    · exact List.mem_singleton.mp isLast ▸ UInt32.le_refl _
  · have sameSharing : sharing point.offset (points.filter (·.offset ≤ offset)) =
        sharing point.offset points := by
      rw [sharing, List.filter_filter]
      refine List.filter_congr fun other _ => ?_
      by_cases shared : other.offset = point.offset <;> simp [shared, notAbove]
    rw [← sameSharing, upTo]
    simp [sharing]

theorem getLast?_takeWhile_iff (ascending : Ascending points) :
    (points.takeWhile (·.offset ≤ offset)).getLast? = some point ↔
      Governs points offset point := by
  rw [takeWhile_eq_filter ascending]
  refine ⟨governs_of_getLast? ascending, fun governs => ?_⟩
  rcases found : (points.filter (·.offset ≤ offset)).getLast? with _ | other
  · rw [List.getLast?_eq_none_iff, List.filter_eq_nil_iff] at found
    exact absurd governs.notAbove (by simpa using found point governs.mem)
  · exact governs.unique (governs_of_getLast? ascending found) ▸ found

/-! ### Sorting -/

theorem mergeSort_ascending (points : List SequencePoint) :
    Ascending (points.mergeSort fun left right => left.offset ≤ right.offset) := by
  refine (List.pairwise_mergeSort ?_ ?_ points).imp ?_
  · simpa using fun _ _ _ => UInt32.le_trans
  · simpa using fun _ _ => UInt32.le_total _ _
  · simp

/-- Sorting keeps the order of the points of one offset. -/
theorem sharing_mergeSort (offset : UInt32) (points : List SequencePoint) :
    sharing offset (points.mergeSort fun left right => left.offset ≤ right.offset) =
      sharing offset points := by
  set sorted := points.mergeSort fun left right => left.offset ≤ right.offset
  have sameOffset : (sharing offset points).Pairwise fun left right =>
      decide (left.offset ≤ right.offset) = true := by
    refine List.Pairwise.imp_of_mem (R := fun _ _ => True) ?_ (List.pairwise_of_forall (by simp))
    intro left right isLeft isRight _
    simp [(mem_sharing.mp isLeft).2, (mem_sharing.mp isRight).2]
  have stable : (sharing offset points).Sublist sorted := List.sublist_mergeSort
    (by simpa using fun _ _ _ => UInt32.le_trans) (by simpa using fun _ _ => UInt32.le_total _ _)
    sameOffset List.filter_sublist
  have part : (sharing offset points).Sublist (sharing offset sorted) := by
    simpa [sharing, List.filter_filter] using stable.filter fun point => point.offset = offset
  exact (part.eq_of_length ((List.mergeSort_perm _ _).filter _).length_eq.symm).symm

end SequencePoint

/-! ### Tables -/

namespace Table

variable {α : Type} (table : Table α) {key : UInt32}

/-- The numbers that have entries. -/
def keys : List UInt32 := table.entries.map (·.1)

theorem keys_nodup : table.keys.Nodup :=
  List.pairwise_map.mpr (table.ascending.imp fun below => UInt32.ne_of_lt below)

theorem mem_keys : key ∈ table.keys ↔ table.find? key ≠ none := by
  simp [keys, find?, List.find?_eq_none]

/-- A table lists as many entries as there are numbers under which something is found. -/
theorem size_eq_ncard : table.size = {key | table.find? key ≠ none}.ncard := by
  have isKeys : {key | table.find? key ≠ none} = table.keys.toFinset := by
    ext key
    simp [← mem_keys]
  rw [isKeys, Set.ncard_coe_finset, List.toFinset_card_of_nodup table.keys_nodup]
  simp [size, keys]

end Table

/-! ### What symbols hold -/

namespace Symbols

variable (symbols : Symbols) (source target id : RoutineId)

theorem index_inj {id other : RoutineId} : id.index = other.index ↔ other = id := by
  cases id
  cases other
  simp [eq_comm]

theorem points_addPoint (point : SequencePoint) :
    (symbols.addPoint target point).points id =
      if id = target then
        (symbols.points target ++ [point]).mergeSort fun left right => left.offset ≤ right.offset
      else symbols.points id := by
  unfold addPoint points
  by_cases same : id = target <;> simp [same, index_inj]

@[simp]
theorem points_copyRoutine :
    (symbols.copyRoutine source target).points id =
      if id = target then symbols.points source else symbols.points id := by
  unfold copyRoutine points
  rcases symbols.routines.find? source.index with _ | points <;>
    by_cases same : id = target <;> simp [same, index_inj]

@[simp]
theorem points_clearRoutine :
    (symbols.clearRoutine target).points id =
      if id = target then [] else symbols.points id := by
  unfold clearRoutine points
  by_cases same : id = target <;> simp [same, index_inj]

@[simp]
theorem fields_copyRoutine : (symbols.copyRoutine source target).fields = symbols.fields := by
  unfold copyRoutine
  split <;> rfl

end Symbols

end Rekindle
