import Rekindle.Module.Basic
import Rekindle.Table

/-!
# Debug symbols

Symbols tie the instructions of routines and the declarations of fields to places in source files.
The points of a routine are kept in the order of their offsets; a point that is added goes behind
those of the same offset, so that looking up an offset finds the last point at or before it.
-/

namespace Rekindle

/-- A place in a source file. -/
structure Location where
  file : String
  line : UInt32
  column : UInt32
deriving DecidableEq, Repr, Inhabited

def Location.text (location : Location) : String :=
  location.file ++ "(" ++ toString location.line.toNat ++ "," ++
    toString location.column.toNat ++ ")"

/-- The place an instruction comes from. -/
structure SequencePoint where
  offset : UInt32
  location : Location
deriving DecidableEq, Repr, Inhabited

/-- The debug symbols of one module. -/
structure Symbols where
  identity : Identity
  routines : Table (List SequencePoint)
  fields : Table Location
deriving DecidableEq, Repr, Inhabited

namespace Symbols

def empty (identity : Identity) : Symbols where
  identity
  routines := .empty
  fields := .empty

def points (symbols : Symbols) (routine : RoutineId) : List SequencePoint :=
  (symbols.routines.find? routine.index).getD []

/-- Adds a point to a routine and sorts the routine's points by offset, keeping the order of equal
ones. -/
def addPoint (symbols : Symbols) (routine : RoutineId) (point : SequencePoint) : Symbols :=
  let points := (symbols.points routine ++ [point]).mergeSort
    fun left right => left.offset ≤ right.offset
  { symbols with routines := symbols.routines.insert routine.index points }

/-- Gives a routine the points of another, none if that one has none. -/
def copyRoutine (symbols : Symbols) (source target : RoutineId) : Symbols :=
  match symbols.routines.find? source.index with
  | some points => { symbols with routines := symbols.routines.insert target.index points }
  | none => { symbols with routines := symbols.routines.erase target.index }

def clearRoutine (symbols : Symbols) (routine : RoutineId) : Symbols :=
  { symbols with routines := symbols.routines.erase routine.index }

/-- The place of the last point at or before an offset, as far as the points ascend. -/
def locationAt (symbols : Symbols) (routine : RoutineId) (offset : UInt32) : Option Location :=
  ((symbols.points routine).takeWhile fun point => point.offset ≤ offset).getLast?.map (·.location)

def routineCount (symbols : Symbols) : Nat := symbols.routines.size

def fieldLocation (symbols : Symbols) (field : FieldId) : Option Location :=
  symbols.fields.find? field.index

def setFieldLocation (symbols : Symbols) (field : FieldId) (location : Location) : Symbols :=
  { symbols with fields := symbols.fields.insert field.index location }

end Symbols

end Rekindle
