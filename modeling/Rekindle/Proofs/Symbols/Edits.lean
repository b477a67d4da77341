import Rekindle.Proofs.Image.RoundTrip
import Rekindle.Proofs.Symbols.Points

/-!
# Symbols under edits

Debug symbols are made by adding points, copying and clearing routines and placing fields, and may
be written to an image and read back at any time. Beside them stands what the edits say that each
routine holds, in the order in which it came to hold it. The symbols agree with that record
throughout, and so the place that is found at an offset is the one the record names.
-/

namespace Rekindle.Symbols

open SequencePoint Image

variable {symbols : Symbols} {holdings : RoutineId → List SequencePoint} {id : RoutineId}
  {offset : UInt32} {point : SequencePoint} {identity : Identity}

/-- What is done to debug symbols. -/
inductive Edit where
  | add (routine : RoutineId) (point : SequencePoint)
  | copy (source target : RoutineId)
  | clear (routine : RoutineId)
  | locate (field : FieldId) (location : Location)
  /-- The symbols are written to an image and read back from it. -/
  | reread
deriving DecidableEq, Repr

namespace Edit

/-- What an edit makes of symbols. -/
def apply (symbols : Symbols) : Edit → Except Fault Symbols
  | add routine point => .ok (symbols.addPoint routine point)
  | copy source target => .ok (symbols.copyRoutine source target)
  | clear routine => .ok (symbols.clearRoutine routine)
  | locate field location => .ok (symbols.setFieldLocation field location)
  | reread => toSymbols symbols.identity (ofSymbols symbols)

def applyAll (symbols : Symbols) (edits : List Edit) : Except Fault Symbols :=
  edits.foldlM apply symbols

/-- What routines hold after an edit: an addition comes after all else, a copy and a clearing
replace what was there. -/
def record (holdings : RoutineId → List SequencePoint) : Edit → RoutineId → List SequencePoint
  | add routine point => Function.update holdings routine (holdings routine ++ [point])
  | copy source target => Function.update holdings target (holdings source)
  | clear routine => Function.update holdings routine []
  | locate _ _ => holdings
  | reread => holdings

/-- What routines hold after edits of symbols that were empty, in the order in which it was
added. -/
def held (edits : List Edit) : RoutineId → List SequencePoint :=
  edits.foldl record fun _ => []

/-- Whenever symbols are written, their bytes fit in a byte array. -/
def Writable : Symbols → List Edit → Prop
  | _, [] => True
  | symbols, edit :: edits =>
    (edit = reread → (writeSymbols symbols).length < memoryLimit) ∧
      ∀ edited, edit.apply symbols = .ok edited → Writable edited edits

/-- What was written is read back as it was. -/
theorem apply_reread (fits : (writeSymbols symbols).length < memoryLimit) :
    reread.apply symbols = .ok symbols :=
  toSymbolsWith_written fits

/-- As long as symbols are not written, nothing has to fit. -/
theorem writable_of_unread {edits : List Edit} (unread : reread ∉ edits) :
    Writable symbols edits := by
  induction edits generalizing symbols with
  | nil => trivial
  | cons edit edits ih =>
      rw [List.mem_cons, not_or] at unread
      exact ⟨fun same => absurd same.symm unread.1, fun _ _ => ih unread.2⟩

end Edit

/-! ### The symbols agree with the record -/

/-- Symbols whose points are those that routines hold, sorted, those of one offset as they were
added. Nothing is stored for a routine without points. -/
structure Agrees (symbols : Symbols) (holdings : RoutineId → List SequencePoint) : Prop where
  ascending : ∀ id, Ascending (symbols.points id)
  sharing_eq : ∀ id offset, sharing offset (symbols.points id) = sharing offset (holdings id)
  stored : ∀ key, symbols.routines.find? key ≠ some []

theorem empty_agrees (identity : Identity) : Agrees (empty identity) fun _ => [] where
  ascending _ := .nil
  sharing_eq _ _ := rfl
  stored _ := by simp [empty]

namespace Agrees

variable (agrees : Agrees symbols holdings)
include agrees

theorem addPoint (routine : RoutineId) (point : SequencePoint) :
    Agrees (symbols.addPoint routine point) ((Edit.add routine point).record holdings) where
  ascending id := by
    rw [points_addPoint]
    split
    · exact mergeSort_ascending _
    · exact agrees.ascending id
  sharing_eq id offset := by
    rw [points_addPoint, Edit.record, Function.update_apply]
    split
    · rw [sharing_mergeSort, sharing, List.filter_append, ← sharing, agrees.sharing_eq, sharing,
        sharing, List.filter_append]
    · exact agrees.sharing_eq id offset
  stored key := by
    simp only [Symbols.addPoint, Table.find?_insert]
    split
    · intro none
      have counted := congrArg List.length (Option.some.inj none)
      simp at counted
    · exact agrees.stored key

theorem copyRoutine (source target : RoutineId) :
    Agrees (symbols.copyRoutine source target) ((Edit.copy source target).record holdings) where
  ascending id := by
    rw [points_copyRoutine]
    split
    · exact agrees.ascending source
    · exact agrees.ascending id
  sharing_eq id offset := by
    rw [points_copyRoutine, Edit.record, Function.update_apply]
    split
    · exact agrees.sharing_eq source offset
    · exact agrees.sharing_eq id offset
  stored key := by
    unfold Symbols.copyRoutine
    split
    · next points found =>
        simp only [Table.find?_insert]
        split
        · exact found ▸ agrees.stored source.index
        · exact agrees.stored key
    · simp only [Table.find?_erase]
      split
      · nofun
      · exact agrees.stored key

theorem clearRoutine (routine : RoutineId) :
    Agrees (symbols.clearRoutine routine) ((Edit.clear routine).record holdings) where
  ascending id := by
    rw [points_clearRoutine]
    split
    · exact .nil
    · exact agrees.ascending id
  sharing_eq id offset := by
    rw [points_clearRoutine, Edit.record, Function.update_apply]
    split
    · rfl
    · exact agrees.sharing_eq id offset
  stored key := by
    simp only [Symbols.clearRoutine, Table.find?_erase]
    split
    · nofun
    · exact agrees.stored key

theorem setFieldLocation (field : FieldId) (location : Location) :
    Agrees (symbols.setFieldLocation field location) holdings :=
  ⟨agrees.ascending, agrees.sharing_eq, agrees.stored⟩

/-- One edit keeps symbols and record in agreement. -/
theorem apply {edit : Edit}
    (fits : edit = .reread → (writeSymbols symbols).length < memoryLimit) :
    ∃ edited, edit.apply symbols = .ok edited ∧ Agrees edited (edit.record holdings) := by
  cases edit with
  | add routine point => exact ⟨_, rfl, agrees.addPoint routine point⟩
  | copy source target => exact ⟨_, rfl, agrees.copyRoutine source target⟩
  | clear routine => exact ⟨_, rfl, agrees.clearRoutine routine⟩
  | locate field location => exact ⟨_, rfl, agrees.setFieldLocation field location⟩
  | reread => exact ⟨_, Edit.apply_reread (fits rfl), agrees⟩

omit agrees in
theorem applyAll {edits : List Edit} (agrees : Agrees symbols holdings)
    (writable : Edit.Writable symbols edits) :
    ∃ edited, Edit.applyAll symbols edits = .ok edited ∧
      Agrees edited (edits.foldl Edit.record holdings) := by
  induction edits generalizing symbols holdings with
  | nil => exact ⟨symbols, rfl, agrees⟩
  | cons edit edits ih =>
      rcases writable with ⟨fits, others⟩
      rcases agrees.apply fits with ⟨middle, applied, agreesNext⟩
      rcases ih agreesNext (others middle applied) with ⟨edited, appliedAll, agreesLast⟩
      refine ⟨edited, ?_, agreesLast⟩
      rw [Edit.applyAll, List.foldlM_cons, applied]
      exact appliedAll

/-! ### What is found in symbols that agree -/

theorem perm (id : RoutineId) : (symbols.points id).Perm (holdings id) :=
  perm_of_sharing (agrees.sharing_eq id)

theorem governs_iff :
    Governs (symbols.points id) offset point ↔ Governs (holdings id) offset point := by
  refine ⟨fun governs => ⟨governs.notAbove, ?_, ?_⟩, fun governs => ⟨governs.notAbove, ?_, ?_⟩⟩
  · exact fun other listed => governs.greatest other ((agrees.perm id).mem_iff.mpr listed)
  · exact agrees.sharing_eq id _ ▸ governs.latest
  · exact fun other listed => governs.greatest other ((agrees.perm id).mem_iff.mp listed)
  · exact (agrees.sharing_eq id _).symm ▸ governs.latest

theorem locationAt_eq_some_iff {location : Location} :
    symbols.locationAt id offset = some location ↔
      ∃ point, Governs (holdings id) offset point ∧ point.location = location := by
  simp [locationAt, Option.map_eq_some_iff, getLast?_takeWhile_iff (agrees.ascending id),
    agrees.governs_iff]

theorem locationAt_eq_none_iff :
    symbols.locationAt id offset = none ↔ ∀ point ∈ holdings id, offset < point.offset := by
  rw [locationAt, Option.map_eq_none_iff, List.getLast?_eq_none_iff,
    takeWhile_eq_filter (agrees.ascending id), List.filter_eq_nil_iff]
  simp [(agrees.perm id).mem_iff]

/-- Exactly the routines that hold points are stored. -/
theorem find?_eq_none_iff : symbols.routines.find? id.index = none ↔ holdings id = [] := by
  have noPoints : symbols.points id = [] ↔ holdings id = [] :=
    ⟨fun none => List.nil_perm.mp (none ▸ agrees.perm id),
      fun none => List.perm_nil.mp (none ▸ agrees.perm id)⟩
  rw [← noPoints, points]
  rcases found : symbols.routines.find? id.index with _ | stored
  · simp
  · have notEmpty : stored ≠ [] := fun none => agrees.stored id.index (none ▸ found)
    simp [notEmpty]

theorem routineCount_eq : symbols.routineCount = {id | holdings id ≠ []}.ncard := by
  have isImage : {key | symbols.routines.find? key ≠ none} =
      RoutineId.index '' {id | holdings id ≠ []} := by
    ext key
    constructor
    · exact fun stored => ⟨⟨key⟩, fun none => stored (agrees.find?_eq_none_iff.mpr none), rfl⟩
    · rintro ⟨id, held, rfl⟩ none
      exact held (agrees.find?_eq_none_iff.mp none)
  rw [routineCount, Table.size_eq_ncard, isImage,
    Set.ncard_image_of_injective _ fun id other same => (index_inj.mp same).symm]

end Agrees

/-- After any additions, copies, clearings and placings of fields, with the symbols written to an
image and read back anywhere in between, every routine has its points sorted by offset, and they
are those that it holds according to the edits. The place that is found at an offset is that of the
point which governs it among these, none if all of them are above, and the routines that are counted
are those that hold a point. -/
theorem lookup_after_edits (identity : Identity) (edits : List Edit)
    (writable : Edit.Writable (empty identity) edits) :
    ∃ symbols, Edit.applyAll (empty identity) edits = .ok symbols ∧
      (∀ id, Ascending (symbols.points id) ∧ (symbols.points id).Perm (Edit.held edits id)) ∧
      (∀ id offset location, symbols.locationAt id offset = some location ↔
        ∃ point, Governs (Edit.held edits id) offset point ∧ point.location = location) ∧
      (∀ id offset, symbols.locationAt id offset = none ↔
        ∀ point ∈ Edit.held edits id, offset < point.offset) ∧
      symbols.routineCount = {id | Edit.held edits id ≠ []}.ncard := by
  rcases (empty_agrees identity).applyAll writable with ⟨symbols, applied, agrees⟩
  refine ⟨symbols, applied, ?_, ?_, ?_, agrees.routineCount_eq⟩
  · exact fun id => ⟨agrees.ascending id, agrees.perm id⟩
  · exact fun id offset location => agrees.locationAt_eq_some_iff
  · exact fun id offset => agrees.locationAt_eq_none_iff

end Rekindle.Symbols

/-! ## A routine that is copied, read back and added to -/

namespace Rekindle.Symbols.Recopied

open Image SequencePoint

def identity : Identity := Vector.replicate 16 3

def place (line : UInt32) : Location := ⟨"copied.src", line, 1⟩

/-- A routine is copied to another, which is copied to itself, and read back; both go on. -/
def edits : List Edit :=
  [.add ⟨1⟩ ⟨4, place 10⟩, .copy ⟨1⟩ ⟨2⟩, .reread, .copy ⟨2⟩ ⟨2⟩, .add ⟨2⟩ ⟨0, place 11⟩,
    .add ⟨2⟩ ⟨4, place 12⟩, .clear ⟨1⟩, .locate ⟨1⟩ (place 13), .add ⟨2⟩ ⟨6, place 14⟩]

theorem edits_writable : Edit.Writable (empty identity) edits := by
  refine ⟨nofun, ?_⟩
  rintro _ ⟨⟩
  refine ⟨nofun, ?_⟩
  rintro _ ⟨⟩
  exact ⟨fun _ => by decide +kernel, fun _ _ => Edit.writable_of_unread (by decide)⟩

theorem held_second :
    Edit.held edits ⟨2⟩ =
      [⟨4, place 10⟩, ⟨0, place 11⟩, ⟨4, place 12⟩, ⟨6, place 14⟩] := by
  decide

theorem lookup_after_edits_recopied :
    Edit.Writable (empty identity) edits ∧
    ∃ symbols, Edit.applyAll (empty identity) edits = .ok symbols ∧
      symbols.locationAt ⟨2⟩ 5 = some (place 12) ∧ symbols.locationAt ⟨2⟩ 3 = some (place 11) ∧
      symbols.locationAt ⟨1⟩ 5 = none := by
  rcases lookup_after_edits identity edits edits_writable with
    ⟨symbols, applied, _, found, missing, _⟩
  refine ⟨edits_writable, symbols, applied, ?_, ?_, ?_⟩
  · refine (found _ _ _).mpr ⟨⟨4, place 12⟩, ⟨by decide, ?_, ?_⟩, rfl⟩
    · rw [held_second]
      decide
    · decide
  · refine (found _ _ _).mpr ⟨⟨0, place 11⟩, ⟨by decide, ?_, ?_⟩, rfl⟩
    · rw [held_second]
      decide
    · decide
  · exact (missing _ _).mpr (by decide)

end Rekindle.Symbols.Recopied
