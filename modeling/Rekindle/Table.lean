/-!
# Tables

A table gives entries to some numbers and lists them in ascending order, so two tables with the
same entries are equal. Entries are put in, looked up and taken out by number; a table can be read
off a list of pairs, of which the last counts for each number.
-/

namespace Rekindle

/-- Entries under numbers, each number at most once and in ascending order. -/
structure Table (α : Type) where
  entries : List (UInt32 × α)
  ascending : entries.Pairwise (fun left right => left.1 < right.1)

namespace Table

variable {α : Type}

instance [DecidableEq α] : DecidableEq (Table α) := fun left right =>
  if same : left.entries = right.entries then
    isTrue (by cases left; cases right; cases same; rfl)
  else isFalse fun equal => same (equal ▸ rfl)

instance [Repr α] : Repr (Table α) where
  reprPrec table precedence := reprPrec table.entries precedence

@[ext]
theorem ext {left right : Table α} (same : left.entries = right.entries) : left = right := by
  cases left; cases right; cases same; rfl

def empty : Table α := ⟨[], .nil⟩

instance : Inhabited (Table α) := ⟨empty⟩

def find? (table : Table α) (key : UInt32) : Option α :=
  (table.entries.find? fun entry => entry.1 = key).map (·.2)

def size (table : Table α) : Nat := table.entries.length

/-- Puts an entry into an ascending list, in place of one under the same number. -/
def insertInto (key : UInt32) (value : α) : List (UInt32 × α) → List (UInt32 × α)
  | [] => [(key, value)]
  | (other, kept) :: rest =>
    if key < other then (key, value) :: (other, kept) :: rest
    else if key = other then (key, value) :: rest
    else (other, kept) :: insertInto key value rest

theorem mem_insertInto {key : UInt32} {value : α} {entries : List (UInt32 × α)}
    {entry : UInt32 × α} (member : entry ∈ insertInto key value entries) :
    entry = (key, value) ∨ entry ∈ entries := by
  induction entries with
  | nil => simpa [insertInto] using member
  | cons head rest ih =>
    rw [insertInto] at member
    split at member
    · simpa using member
    · split at member
      · rcases List.mem_cons.mp member with rfl | inRest
        · exact .inl rfl
        · exact .inr (List.mem_cons_of_mem _ inRest)
      · rcases List.mem_cons.mp member with rfl | inRest
        · exact .inr List.mem_cons_self
        · exact (ih inRest).imp id (List.mem_cons_of_mem _)

theorem insertInto_ascending (key : UInt32) (value : α) {entries : List (UInt32 × α)}
    (ascending : entries.Pairwise (fun left right => left.1 < right.1)) :
    (insertInto key value entries).Pairwise (fun left right => left.1 < right.1) := by
  induction entries with
  | nil => simp [insertInto]
  | cons head rest ih =>
    obtain ⟨below, tail⟩ := List.pairwise_cons.mp ascending
    rw [insertInto]
    split
    · rename_i less
      refine List.pairwise_cons.mpr ⟨fun entry member => ?_, ascending⟩
      rcases List.mem_cons.mp member with rfl | inRest
      · exact less
      · exact UInt32.lt_trans less (below entry inRest)
    · split
      · rename_i equal
        exact List.pairwise_cons.mpr ⟨fun entry member => equal ▸ below entry member, tail⟩
      · rename_i notLess different
        refine List.pairwise_cons.mpr ⟨fun entry member => ?_, ih tail⟩
        rcases mem_insertInto member with rfl | inRest
        · exact UInt32.lt_of_le_of_ne (UInt32.not_lt.mp notLess) (Ne.symm different)
        · exact below entry inRest

/-- Puts an entry under a number, in place of the one that was there. -/
def insert (table : Table α) (key : UInt32) (value : α) : Table α :=
  ⟨insertInto key value table.entries, insertInto_ascending key value table.ascending⟩

def erase (table : Table α) (key : UInt32) : Table α :=
  ⟨table.entries.filter fun entry => entry.1 ≠ key, table.ascending.filter _⟩

/-- The table of a list of pairs, the last of each number counting. -/
def ofList (pairs : List (UInt32 × α)) : Table α :=
  pairs.foldl (fun table pair => table.insert pair.1 pair.2) empty

@[simp]
theorem find?_empty (key : UInt32) : (empty : Table α).find? key = none := rfl

theorem find?_insertInto (key other : UInt32) (value : α) {entries : List (UInt32 × α)}
    (ascending : entries.Pairwise (fun left right => left.1 < right.1)) :
    ((insertInto key value entries).find? fun entry => entry.1 = other).map (·.2) =
      if key = other then some value
      else (entries.find? fun entry => entry.1 = other).map (·.2) := by
  induction entries with
  | nil => by_cases equal : key = other <;> simp [insertInto, equal]
  | cons head rest ih =>
    obtain ⟨below, tail⟩ := List.pairwise_cons.mp ascending
    rw [insertInto]
    split
    · by_cases equal : key = other <;> simp [equal]
    · split
      · rename_i sameKey
        by_cases equal : key = other <;> simp [equal, ← sameKey]
      · rename_i different
        by_cases equal : head.1 = other
        · have apart : key ≠ other := fun same => different (same.trans equal.symm)
          simp [equal, apart]
        · have step := ih tail
          simp only [List.find?_cons, equal, decide_false] at step ⊢
          exact step

@[simp]
theorem find?_insert (table : Table α) (key other : UInt32) (value : α) :
    (table.insert key value).find? other = if key = other then some value else table.find? other :=
  find?_insertInto key other value table.ascending

@[simp]
theorem find?_erase (table : Table α) (key other : UInt32) :
    (table.erase key).find? other = if key = other then none else table.find? other := by
  simp only [find?, erase, List.find?_filter]
  by_cases equal : key = other
  · subst equal
    simp
  · rw [if_neg equal]
    congr 2
    funext entry
    by_cases same : entry.1 = other
    · have apart : other ≠ key := fun hit => equal hit.symm
      simp [same, apart]
    · simp [same]

end Table

end Rekindle
