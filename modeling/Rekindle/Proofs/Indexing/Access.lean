import Rekindle.Proofs.Module.Tables

/-!
# Access by position

The algorithms on modules read and write tables, bodies and work arrays by position. Some look
whether there is an entry and report a fault where there is none; others rely on what was checked
before and index without looking. Here an access of the second kind is spelled out: it goes astray
where its position lies outside the array, and then the algorithm is over. An algorithm written
with such accesses stays within its arrays if it does what a computation without them does.
-/

namespace Rekindle.Indexing

open Fallible

/-- How an algorithm ends without a result. -/
inductive Halt (ε : Type) where
  /-- It reports a fault. -/
  | reported (fault : ε)
  /-- It indexed an array of a size at a position outside. -/
  | stray (position size : Nat)
deriving DecidableEq, Repr

def Halt.map {ε δ : Type} (change : ε → δ) : Halt ε → Halt δ
  | .reported fault => .reported (change fault)
  | .stray position size => .stray position size

/-- A computation that may index without looking. -/
abbrev Run (ε α : Type) := Except (Halt ε) α

variable {ε δ α β : Type}

/-- A computation in which every access looks before. -/
def within (computation : Except ε α) : Run ε α := computation.mapError .reported

@[simp]
theorem within_ok (value : α) : within (.ok value : Except ε α) = .ok value := rfl

@[simp]
theorem within_error (fault : ε) :
    within (.error fault : Except ε α) = .error (.reported fault) := rfl

theorem within_ne_stray (computation : Except ε α) (position size : Nat) :
    within computation ≠ .error (.stray position size) := by
  cases computation with
  | error fault => simp
  | ok value => simp

theorem mapError_within (computation : Except ε α) (change : ε → δ) :
    (within computation).mapError (Halt.map change) = within (computation.mapError change) := by
  cases computation with
  | error fault => rfl
  | ok value => rfl

/-! ### Computations one after the other -/

theorem mapError_bind (first : Except ε α) (next : α → Except ε β) (change : ε → δ) :
    (first >>= next).mapError change =
      first.mapError change >>= fun value => (next value).mapError change := by
  cases first with
  | error fault => rfl
  | ok value => rfl

theorem bind_within {first : Except ε α} {next : α → Run ε β} {expected : α → Except ε β}
    (agrees : ∀ value, first = .ok value → next value = within (expected value)) :
    (within first >>= next) = within (first >>= expected) := by
  cases first with
  | error fault => rfl
  | ok value => exact agrees value rfl

theorem forM_within {items : List α} {run : α → Run ε Unit} {check : α → Except ε Unit}
    (agrees : ∀ item ∈ items, run item = within (check item)) :
    items.forM run = within (items.forM check) := by
  induction items with
  | nil => rfl
  | cons item items ih =>
      have first : run item = within (check item) := agrees item List.mem_cons_self
      have others := ih fun other listed => agrees other (List.mem_cons_of_mem item listed)
      simp only [List.forM_eq_forM, List.forM_cons] at others ⊢
      rw [first]
      exact bind_within fun _ _ => others

theorem mapM_within {items : List α} {run : α → Run ε β} {compute : α → Except ε β}
    (agrees : ∀ item ∈ items, run item = within (compute item)) :
    items.mapM run = within (items.mapM compute) := by
  induction items with
  | nil => rfl
  | cons item items ih =>
      have first : run item = within (compute item) := agrees item List.mem_cons_self
      have others := ih fun other listed => agrees other (List.mem_cons_of_mem item listed)
      rw [List.mapM_cons, List.mapM_cons, first]
      refine bind_within fun value _ => ?_
      rw [others]
      exact bind_within fun _ _ => rfl

/-- A computation that does what one without accesses of the second kind does, with results of a
kind. -/
structure Matches (run : Run ε α) (expected : Except ε α) (holds : α → Prop) : Prop where
  same : run = within expected
  holds : ∀ value, expected = .ok value → holds value

namespace Matches

variable {run : Run ε α} {expected : Except ε α} {holds : α → Prop}

theorem ok {value : α} (suits : holds value) : Matches (.ok value : Run ε α) (.ok value) holds where
  same := rfl
  holds _ same := by
    cases same
    exact suits

theorem error (fault : ε) : Matches (.error (.reported fault) : Run ε α) (.error fault) holds where
  same := rfl
  holds _ same := nomatch same

theorem of_within (expected : Except ε α) :
    Matches (within expected) expected fun value => expected = .ok value where
  same := rfl
  holds _ same := same

theorem bind {next : α → Run ε β} {expectedNext : α → Except ε β} {after : β → Prop}
    (first : Matches run expected holds)
    (follows : ∀ value, holds value → Matches (next value) (expectedNext value) after) :
    Matches (run >>= next) (expected >>= expectedNext) after where
  same := by
    rw [first.same]
    exact bind_within fun value computed => (follows value (first.holds value computed)).same
  holds result computed := by
    rcases bind_eq_ok_iff.mp computed with ⟨value, found, rest⟩
    exact (follows value (first.holds value found)).holds result rest

theorem mapError (agrees : Matches run expected holds) (change : ε → δ) :
    Matches (run.mapError (Halt.map change)) (expected.mapError change) holds where
  same := by rw [agrees.same, mapError_within]
  holds value computed := agrees.holds value (mapError_eq_ok_iff.mp computed)

theorem imp {weaker : α → Prop} (agrees : Matches run expected holds)
    (implies : ∀ value, holds value → weaker value) : Matches run expected weaker where
  same := agrees.same
  holds value computed := implies value (agrees.holds value computed)

end Matches

/-! ### Accesses -/

section Arrays

variable {items : Array α} {position : Nat} {item : α}

/-- The entry of an array at a position. -/
def entry (items : Array α) (position : Nat) : Run ε α :=
  match items[position]? with
  | some item => .ok item
  | none => .error (.stray position items.size)

/-- Puts an item in place of the entry of an array at a position. -/
def put (items : Array α) (position : Nat) (item : α) : Run ε (Array α) :=
  if position < items.size then .ok (items.setIfInBounds position item)
  else .error (.stray position items.size)

theorem entry_eq_ok_iff :
    (entry items position : Run ε α) = .ok item ↔ items[position]? = some item := by
  unfold entry
  rcases items[position]? with _ | found <;> simp

theorem entry_of_some (known : items[position]? = some item) :
    (entry items position : Run ε α) = .ok item :=
  entry_eq_ok_iff.mpr known

theorem put_of_lt (inside : position < items.size) :
    (put items position item : Run ε (Array α)) = .ok (items.setIfInBounds position item) :=
  if_pos inside

end Arrays

section Tables

variable {module : Module}

def typeAt (module : Module) (id : TypeId) : Run ε TypeDecl := entry module.types id.position

def fieldAt (module : Module) (id : FieldId) : Run ε FieldDecl := entry module.fields id.position

def routineAt (module : Module) (id : RoutineId) : Run ε RoutineDecl :=
  entry module.routines id.position

theorem typeAt_eq_ok_iff {id : TypeId} {type : TypeDecl} :
    (typeAt module id : Run ε TypeDecl) = .ok type ↔ module.type? id = some type :=
  entry_eq_ok_iff

theorem typeAt_of_some {id : TypeId} {type : TypeDecl} (declared : module.type? id = some type) :
    (typeAt module id : Run ε TypeDecl) = .ok type :=
  entry_of_some declared

theorem fieldAt_of_some {id : FieldId} {field : FieldDecl}
    (declared : module.field? id = some field) :
    (fieldAt module id : Run ε FieldDecl) = .ok field :=
  entry_of_some declared

theorem routineAt_of_some {id : RoutineId} {routine : RoutineDecl}
    (declared : module.routine? id = some routine) :
    (routineAt module id : Run ε RoutineDecl) = .ok routine :=
  entry_of_some declared

end Tables

end Rekindle.Indexing
