import Mathlib.Data.List.Nodup
import Rekindle.Proofs.Module.Forest
import Rekindle.Proofs.Module.InPlace

/-!
# Built modules

A module that was built from nothing, by any edits in any order, keeps its two records of everything
in agreement: its types form a forest, every member is listed once and by the type that declares it,
and the fields of a type have names of their own. What an edit has made stays what it is while more
is declared, apart from the lists of members, which grow at their ends.
-/

namespace Rekindle.Module

open Validity

variable {module after : Module}

/-! ### Listed members -/

section Listed

variable {Member : Type} [DecidableEq Member] {owner? : Member → Option TypeId}
  {listed : TypeDecl → List Member}

/-- Members, `owner?` of which says by which type they are declared, are listed once by that type
and by no other. -/
structure ListedOnce (module : Module) (owner? : Member → Option TypeId)
    (listed : TypeDecl → List Member) : Prop where
  own : ∀ member owner, owner? member = some owner →
    ∃ type, module.type? owner = some type ∧ (listed type).count member = 1
  others : ∀ id type, module.type? id = some type →
    ∀ member ∈ listed type, owner? member = some id

/-- Edits that neither add such members nor change the lists of them, except that a new type has an
empty one. -/
theorem ListedOnce.keep (once : ListedOnce module owner? listed)
    (kept : ∀ id type, module.type? id = some type →
      ∃ later, after.type? id = some later ∧ listed later = listed type)
    (nothingNew : ∀ id type, after.type? id = some type →
      listed type = [] ∨ ∃ before, module.type? id = some before ∧ listed type = listed before) :
    ListedOnce after owner? listed where
  own member owner declared := by
    rcases once.own member owner declared with ⟨type, found, count⟩
    rcases kept owner type found with ⟨later, foundLater, same⟩
    exact ⟨later, foundLater, same ▸ count⟩
  others id type declared member isListed := by
    rcases nothingNew id type declared with none | ⟨before, found, same⟩
    · rw [none] at isListed
      cases isListed
    · exact once.others id before found member (same ▸ isListed)

/-- A new member goes to the end of the list of the type that declares it. -/
theorem ListedOnce.add {member : Member} {owner : TypeId} {grow : TypeDecl → TypeDecl}
    (once : ListedOnce module owner? listed) (unknown : owner? member = none)
    (known : ∃ type, module.type? owner = some type)
    (grows : ∀ type, listed (grow type) = listed type ++ [member])
    (types : ∀ other, after.type? other =
      if other = owner then (module.type? owner).map grow else module.type? other) :
    ListedOnce after (fun other => if other = member then some owner else owner? other) listed := by
  have unlisted : ∀ id type, module.type? id = some type → member ∉ listed type := by
    intro id type declared isListed
    rw [once.others id type declared member isListed] at unknown
    cases unknown
  rcases known with ⟨type, known⟩
  constructor
  · intro other itsOwner declared
    by_cases new : other = member
    · subst new
      rw [if_pos rfl] at declared
      cases declared
      refine ⟨grow type, by rw [types, if_pos rfl, known, Option.map_some], ?_⟩
      rw [grows, List.count_append, List.count_eq_zero_of_not_mem (unlisted owner type known)]
      simp
    · rw [if_neg new] at declared
      rcases once.own other itsOwner declared with ⟨before, found, count⟩
      by_cases same : itsOwner = owner
      · subst same
        refine ⟨grow before, by rw [types, if_pos rfl, found, Option.map_some], ?_⟩
        rw [grows, List.count_append, count]
        simp [Ne.symm new]
      · exact ⟨before, by rw [types, if_neg same, found], count⟩
  · intro id later declared other isListed
    rw [types] at declared
    by_cases same : id = owner
    · subst same
      rw [if_pos rfl, known, Option.map_some] at declared
      cases declared
      rw [grows, List.mem_append, List.mem_singleton] at isListed
      rcases isListed with old | rfl
      · have apart : other ≠ member := fun equal => unlisted id type known (equal ▸ old)
        rw [if_neg apart]
        exact once.others id type known other old
      · exact if_pos rfl
    · rw [if_neg same] at declared
      have apart : other ≠ member := fun equal => unlisted id later declared (equal ▸ isListed)
      rw [if_neg apart]
      exact once.others id later declared other isListed

end Listed

/-! ### Names of fields -/

/-- The names of the fields that a type lists. -/
def fieldNames (module : Module) (type : TypeDecl) : List String :=
  type.fields.filterMap fun id => (module.field? id).map (·.name)

theorem fieldNames_eq {type later : TypeDecl} (same : later.fields = type.fields)
    (kept : ∀ id ∈ type.fields, after.field? id = module.field? id) :
    after.fieldNames later = module.fieldNames type := by
  rw [fieldNames, same]
  apply List.filterMap_congr
  intro id listed
  rw [kept id listed]

theorem firstField_eq_ok {accepts : FieldDecl → Bool} {ids : List FieldId} {found : Option FieldId}
    (searched : module.firstField accepts ids = .ok found) :
    found = none → ∀ id ∈ ids, ∃ field, module.field? id = some field ∧ accepts field = false := by
  induction ids with
  | nil => simp
  | cons first ids ih =>
      rw [firstField] at searched
      rcases declared : module.field? first with _ | field
      · simp [declared] at searched
      · rcases accepted : accepts field with _ | _
        · simp only [declared, accepted] at searched
          intro none id listed
          rcases List.mem_cons.mp listed with rfl | others
          · exact ⟨field, declared, accepted⟩
          · exact ih searched none id others
        · simp only [declared, accepted, if_true, Except.ok.injEq] at searched
          subst searched
          simp

theorem firstField_succeeds {accepts : FieldDecl → Bool} {ids : List FieldId}
    (known : ∀ id ∈ ids, ∃ field, module.field? id = some field) :
    ∃ found, module.firstField accepts ids = .ok found := by
  induction ids with
  | nil => exact ⟨none, rfl⟩
  | cons first ids ih =>
      rcases known first (List.mem_cons_self ..) with ⟨field, declared⟩
      simp only [firstField, declared]
      split
      · exact ⟨some first, rfl⟩
      · exact ih fun id listed => known id (List.mem_cons_of_mem _ listed)

/-! ### One edit -/

/-- Every entry of the tables has a handle of its own. -/
structure Addressable (module : Module) : Prop where
  types : module.types.size ≤ tableLimit
  fields : module.fields.size ≤ tableLimit
  routines : module.routines.size ≤ tableLimit

theorem Addressable.earlier (room : Addressable after) (growth : Extends module after) :
    Addressable module where
  types := Nat.le_trans growth.typeCount room.types
  fields := Nat.le_trans growth.fieldCount room.fields
  routines := Nat.le_trans growth.routineCount room.routines

/-- The two records of everything agree. -/
structure Consistent (module : Module) : Prop where
  forest : Forest module
  fields : ListedOnce module (fun id => (module.field? id).map (·.owner)) (·.fields)
  routines : ListedOnce module (fun id => (module.routine? id).map (·.owner)) (·.routines)
  names : ∀ id type, module.type? id = some type → (module.fieldNames type).Nodup

theorem empty_consistent (name : String) : Consistent (.empty name) := by
  have noType : ∀ id, (Module.empty name).type? id = none := fun _ => rfl
  have noField : ∀ id, (Module.empty name).field? id = none := fun _ => rfl
  have noRoutine : ∀ id, (Module.empty name).routine? id = none := fun _ => rfl
  have noTopLevel : (Module.empty name).topLevel = [] := rfl
  refine ⟨⟨?_, ?_, ?_⟩, ⟨?_, ?_⟩, ⟨?_, ?_⟩, ?_⟩ <;> simp [noType, noField, noRoutine, noTopLevel]

/-- An edit that adds no member, nor takes one out of a list, keeps the agreement if it keeps the
forest. -/
theorem Consistent.typesOnly (consistent : Consistent module) (forest : Forest after)
    (sameFields : after.fields = module.fields) (sameRoutines : after.routines = module.routines)
    (kept : ∀ id type, module.type? id = some type → ∃ later, after.type? id = some later ∧
      later.fields = type.fields ∧ later.routines = type.routines)
    (nothingNew : ∀ id later, after.type? id = some later →
      (later.fields = [] ∧ later.routines = []) ∨ ∃ type, module.type? id = some type ∧
        later.fields = type.fields ∧ later.routines = type.routines) : Consistent after := by
  have fieldsKept : after.field? = module.field? := by
    funext id
    rw [field?, sameFields, field?]
  have routinesKept : after.routine? = module.routine? := by
    funext id
    rw [routine?, sameRoutines, routine?]
  refine ⟨forest, ?_, ?_, ?_⟩
  · rw [fieldsKept]
    apply consistent.fields.keep
    · intro id type known
      rcases kept id type known with ⟨later, declared, same, _⟩
      exact ⟨later, declared, same⟩
    · intro id later declared
      rcases nothingNew id later declared with ⟨empty, _⟩ | ⟨type, known, same, _⟩
      · exact .inl empty
      · exact .inr ⟨type, known, same⟩
  · rw [routinesKept]
    apply consistent.routines.keep
    · intro id type known
      rcases kept id type known with ⟨later, declared, _, same⟩
      exact ⟨later, declared, same⟩
    · intro id later declared
      rcases nothingNew id later declared with ⟨_, empty⟩ | ⟨type, known, _, same⟩
      · exact .inl empty
      · exact .inr ⟨type, known, same⟩
  · intro id later declared
    rcases nothingNew id later declared with ⟨empty, _⟩ | ⟨type, known, same, _⟩
    · simp [fieldNames, empty]
    · rw [fieldNames_eq same fun _ _ => congrFun fieldsKept _]
      exact consistent.names id type known

theorem Consistent.addType {type : TypeDecl} {id : TypeId} (consistent : Consistent module)
    (added : TypeAdded module after type id) : Consistent after := by
  apply consistent.typesOnly (consistent.forest.addType added) added.fields_eq added.routines_eq
  · intro other before known
    exact ⟨before, added.type?_old known, rfl, rfl⟩
  · intro other later declared
    rcases added.type?_cases declared with ⟨_, rfl⟩ | known
    · exact .inl ⟨rfl, rfl⟩
    · exact .inr ⟨later, known, rfl, rfl⟩

theorem Consistent.addNestedType {outer id : TypeId} {type : TypeDecl}
    (consistent : Consistent module) (added : NestedTypeAdded module after outer type id) :
    Consistent after := by
  apply consistent.typesOnly (consistent.forest.addNestedType added) added.fields_eq
    added.routines_eq
  · intro other before known
    refine ⟨_, added.type?_old known, ?_, ?_⟩ <;> split <;> rfl
  · intro other later declared
    rcases added.type?_cases declared with ⟨_, rfl⟩ | ⟨before, known, rfl⟩
    · exact .inl ⟨rfl, rfl⟩
    · refine .inr ⟨before, known, ?_, ?_⟩ <;> split <;> rfl

section Owner

variable {owner : TypeId} {grow : TypeDecl → TypeDecl}
  (types : ∀ other, after.type? other =
    if other = owner then (module.type? owner).map grow else module.type? other)
include types

theorem type?_kept {other : TypeId} {before : TypeDecl} (known : module.type? other = some before) :
    after.type? other = some (if other = owner then grow before else before) := by
  rw [types]
  by_cases same : other = owner
  · subst same
    simp [known]
  · simp [same, known]

theorem type?_origin {other : TypeId} {later : TypeDecl}
    (declared : after.type? other = some later) :
    ∃ before, module.type? other = some before ∧
      later = if other = owner then grow before else before := by
  rw [types] at declared
  by_cases same : other = owner
  · subst same
    rw [if_pos rfl, Option.map_eq_some_iff] at declared
    rcases declared with ⟨before, known, rfl⟩
    exact ⟨before, known, by simp⟩
  · rw [if_neg same] at declared
    exact ⟨later, declared, by simp [same]⟩

theorem Forest.atOwner (forest : Forest module) (sameOuter : ∀ type, (grow type).outer = type.outer)
    (sameNested : ∀ type, (grow type).nested = type.nested)
    (topLevel : after.topLevel = module.topLevel) : Forest after := by
  apply forest.keep _ _ topLevel
  · intro other before known
    refine ⟨_, type?_kept types known, ?_, ?_⟩ <;> split <;> simp [sameOuter, sameNested]
  · intro other later declared
    rcases type?_origin types declared with ⟨before, known, _⟩
    exact ⟨before, known⟩

theorem ListedOnce.atOwner {Member : Type} [DecidableEq Member] {owner? : Member → Option TypeId}
    {listed : TypeDecl → List Member} (once : ListedOnce module owner? listed)
    (same : ∀ type, listed (grow type) = listed type) : ListedOnce after owner? listed := by
  apply once.keep
  · intro other before known
    refine ⟨_, type?_kept types known, ?_⟩
    split <;> simp [same]
  · intro other later declared
    rcases type?_origin types declared with ⟨before, known, rfl⟩
    refine .inr ⟨before, known, ?_⟩
    split <;> simp [same]

end Owner

/-- A field that is added has a name that no field of its type has. -/
theorem addField_newName {owner : TypeId} {field : FieldDecl} {id : FieldId}
    (added : module.addField owner field = .ok (after, id)) :
    ∃ type, module.type? owner = some type ∧ field.name ∉ module.fieldNames type := by
  rcases addField_ok added with ⟨type, declared, unnamed, _, _⟩
  refine ⟨type, declared, fun listed => ?_⟩
  rcases List.mem_filterMap.mp listed with ⟨other, isListed, named⟩
  rcases firstField_eq_ok unnamed rfl other isListed with ⟨its, known, differs⟩
  rw [known, Option.map_some, Option.some.injEq] at named
  simp [named] at differs

theorem Consistent.addField {owner : TypeId} {field : FieldDecl} {id : FieldId}
    (consistent : Consistent module) (succeeded : module.addField owner field = .ok (after, id))
    (added : FieldAdded module after owner field id) : Consistent after := by
  rcases addField_newName succeeded with ⟨type, known, newName⟩
  have unknown : module.field? id = none := by
    simp [field?, added.position_eq]
  have oldFields : ∀ other before, module.type? other = some before →
      ∀ listed ∈ before.fields, after.field? listed = module.field? listed := by
    intro other before declared listed isListed
    have its := consistent.fields.others other before declared listed isListed
    have apart : listed ≠ id := by
      rintro rfl
      simp [unknown] at its
    rw [added.field?_eq, if_neg apart]
  refine ⟨?_, ?_, ?_, ?_⟩
  · exact consistent.forest.atOwner added.type?_eq (fun _ => rfl) (fun _ => rfl) added.topLevel_eq
  · have owners : (fun other => (after.field? other).map (·.owner)) =
        fun other => if other = id then some owner else (module.field? other).map (·.owner) := by
      funext other
      rw [added.field?_eq]
      split <;> rfl
    rw [owners]
    exact consistent.fields.add (by rw [unknown, Option.map_none]) ⟨type, known⟩ (fun _ => rfl)
      added.type?_eq
  · have routinesKept : after.routine? = module.routine? := by
      funext other
      rw [routine?, added.routines_eq, routine?]
    rw [routinesKept]
    exact consistent.routines.atOwner added.type?_eq fun _ => rfl
  · intro other later declared
    rcases type?_origin added.type?_eq declared with ⟨before, beforeKnown, rfl⟩
    have old := oldFields other before beforeKnown
    split
    · next same =>
        subst same
        rw [known] at beforeKnown
        cases beforeKnown
        have names : after.fieldNames { type with fields := type.fields ++ [id] } =
            module.fieldNames type ++ [field.name] := by
          rw [fieldNames, List.filterMap_append, List.filterMap_congr fun listed isListed => by
            rw [old listed isListed]]
          simp [fieldNames, added.field?_eq]
        rw [names, List.nodup_append_comm, List.singleton_append, List.nodup_cons]
        exact ⟨newName, consistent.names other type known⟩
    · rw [fieldNames_eq rfl old]
      exact consistent.names other before beforeKnown

theorem Consistent.addRoutine {owner : TypeId} {routine : RoutineDecl} {id : RoutineId}
    (consistent : Consistent module) (known : ∃ type, module.type? owner = some type)
    (added : RoutineAdded module after owner routine id) : Consistent after := by
  have unknown : module.routine? id = none := by
    simp [routine?, added.position_eq]
  have fieldsKept : after.field? = module.field? := by
    funext other
    rw [field?, added.fields_eq, field?]
  refine ⟨?_, ?_, ?_, ?_⟩
  · exact consistent.forest.atOwner added.type?_eq (fun _ => rfl) (fun _ => rfl) added.topLevel_eq
  · rw [fieldsKept]
    exact consistent.fields.atOwner added.type?_eq fun _ => rfl
  · have owners : (fun other => (after.routine? other).map (·.owner)) =
        fun other => if other = id then some owner else (module.routine? other).map (·.owner) := by
      funext other
      rw [added.routine?_eq]
      split <;> rfl
    rw [owners]
    exact consistent.routines.add (by rw [unknown, Option.map_none]) known (fun _ => rfl)
      added.type?_eq
  · intro other later declared
    rcases type?_origin added.type?_eq declared with ⟨before, beforeKnown, rfl⟩
    have same : after.fieldNames (if other = owner then
        { before with routines := before.routines ++ [id] } else before) =
        module.fieldNames before := by
      apply fieldNames_eq
      · split <;> rfl
      · intro listed _
        rw [fieldsKept]
    rw [same]
    exact consistent.names other before beforeKnown

/-! ### Any number of edits -/

/-- How an edit that succeeds changes the module. -/
inductive Edited (module : Module) : Edit → Module → Entry → Prop where
  | type (type : TypeDecl) :
    Edited module (.addType type) (module.addType type).1 (.type (module.addType type).2)
  | nestedType {outer id : TypeId} {type : TypeDecl} {after : Module}
    (added : module.addNestedType outer type = .ok (after, id)) :
    Edited module (.addNestedType outer type) after (.type id)
  | field {owner : TypeId} {field : FieldDecl} {id : FieldId} {after : Module}
    (added : module.addField owner field = .ok (after, id)) :
    Edited module (.addField owner field) after (.field id)
  | routine {owner : TypeId} {routine : RoutineDecl} {id : RoutineId} {after : Module}
    (added : module.addRoutine owner routine = .ok (after, id)) :
    Edited module (.addRoutine owner routine) after (.routine id)

theorem edited_of_apply {edit : Edit} {entry : Entry}
    (succeeded : edit.apply module = .ok (after, entry)) : Edited module edit after entry := by
  cases edit with
  | addType type =>
      cases succeeded
      exact .type type
  | addNestedType outer type =>
      rcases added : module.addNestedType outer type with fault | ⟨changed, id⟩ <;>
        simp only [Edit.apply, added] at succeeded <;> cases succeeded
      exact .nestedType added
  | addField owner field =>
      rcases added : module.addField owner field with fault | ⟨changed, id⟩ <;>
        simp only [Edit.apply, added] at succeeded <;> cases succeeded
      exact .field added
  | addRoutine owner routine =>
      rcases added : module.addRoutine owner routine with fault | ⟨changed, id⟩ <;>
        simp only [Edit.apply, added] at succeeded <;> cases succeeded
      exact .routine added

theorem outcome_cases (edit : Edit) (module : Module) :
    (∃ fault, edit.perform.outcome module = (.error fault, module) ∧
      edit.apply module = .error fault) ∨
    ∃ entry, edit.perform.outcome module = (.ok entry, edit.leaves module) ∧
      Edited module edit (edit.leaves module) entry := by
  rcases made : edit.apply module with fault | ⟨after, entry⟩
  · exact .inl ⟨fault, by rw [edit.outcome_perform, made, Change.settled], rfl⟩
  · have outcome : edit.perform.outcome module = (.ok entry, after) := by
      rw [edit.outcome_perform, made, Change.settled]
    have same : edit.leaves module = after := by rw [Edit.leaves, outcome]
    rw [same]
    exact .inr ⟨entry, outcome, edited_of_apply made⟩

theorem Edited.extends {edit : Edit} {entry : Entry} (edited : Edited module edit after entry) :
    Extends module after := by
  cases edited with
  | type type => exact addType_extends type
  | nestedType added => exact addNestedType_extends added
  | field added => exact addField_extends added
  | routine added => exact addRoutine_extends added

theorem leaves_extends (edit : Edit) (module : Module) : Extends module (edit.leaves module) := by
  rcases outcome_cases edit module with ⟨fault, outcome, _⟩ | ⟨entry, _, edited⟩
  · rw [Edit.leaves, outcome]
    exact .refl module
  · exact edited.extends

theorem build_extends (module : Module) (edits : List Edit) :
    Extends module (module.build edits) := by
  induction edits generalizing module with
  | nil => exact .refl module
  | cons edit edits ih => exact (leaves_extends edit module).trans (ih (edit.leaves module))

theorem Edit.Denoted.extend {edit : Edit} {entry : Entry} (denoted : edit.Denoted module entry)
    (growth : Extends module after) : edit.Denoted after entry := by
  cases edit <;> cases entry <;> try exact denoted
  case addType.type | addNestedType.type =>
    rcases denoted with ⟨grown, known, since⟩
    rcases growth.types _ grown known with ⟨later, declared, more⟩
    exact ⟨later, declared, since.trans more⟩
  case addField.field => exact growth.fields _ _ denoted
  case addRoutine.routine => exact growth.routines _ _ denoted

/-- An edit of a consistent module never comes upon a field that is listed and does not exist. -/
theorem Consistent.not_dangling (consistent : Consistent module) {edit : Edit} {fault : ModuleFault}
    (failed : edit.apply module = .error fault) (handle : Dangling) : fault ≠ .dangling handle := by
  cases edit with
  | addType type => cases failed
  | addNestedType owner type | addRoutine owner routine =>
      rcases declared : module.type? owner with _ | around <;>
        simp only [Edit.apply, Module.addNestedType, Module.addRoutine, declared,
          Except.map] at failed
      · cases failed
        simp
      · cases failed
  | addField owner field =>
      rcases declared : module.type? owner with _ | type
      · simp only [Edit.apply, Module.addField, declared, Except.map] at failed
        cases failed
        simp
      · have known : ∀ id ∈ type.fields, ∃ field, module.field? id = some field := by
          intro id listed
          have its := consistent.fields.others owner type declared id listed
          exact (Option.map_eq_some_iff.mp its).imp fun _ found => found.1
        have search : ∃ found, module.firstField (·.name = field.name) type.fields = .ok found :=
          firstField_succeeds known
        rcases search with ⟨_ | id, found⟩ <;>
          simp only [Edit.apply, Module.addField, declared, found, Except.map] at failed
        · cases failed
        · cases failed
          simp

/-- What an edit that succeeds keeps and what it makes. -/
theorem Edited.keeps {edit : Edit} {entry : Entry} (edited : Edited module edit after entry)
    (consistent : Consistent module) (room : Addressable after) :
    Consistent after ∧ entry.New module ∧ edit.Denoted after entry := by
  cases edited with
  | type type =>
      have added : TypeAdded module _ type _ := addType_added type (by
        have := room.types
        simp only [Module.addType, Array.size_push] at this
        omega)
      refine ⟨consistent.addType added, ?_, _, by rw [added.type?_eq, if_pos rfl], .refl _⟩
      simp [Entry.New, type?, added.position_eq]
  | nestedType succeeded =>
      have added := addNestedType_added succeeded (by
        have := room.types
        rw [addNestedType_typeCount succeeded] at this
        omega)
      refine ⟨consistent.addNestedType added, ?_, _, by rw [added.type?_eq, if_pos rfl], .refl _⟩
      simp [Entry.New, type?, added.position_eq]
  | field succeeded =>
      have added := addField_added succeeded (by
        have := room.fields
        rw [addField_fieldCount succeeded] at this
        omega)
      refine ⟨consistent.addField succeeded added, ?_, by
        rw [Edit.Denoted, added.field?_eq, if_pos rfl]⟩
      simp [Entry.New, field?, added.position_eq]
  | routine succeeded =>
      have added := addRoutine_added succeeded (by
        have := room.routines
        rw [(addRoutine_counts succeeded).1] at this
        omega)
      refine ⟨consistent.addRoutine (addRoutine_counts succeeded).2 added, ?_, by
        rw [Edit.Denoted, added.routine?_eq, if_pos rfl]⟩
      simp [Entry.New, routine?, added.position_eq]

theorem Consistent.leaves (consistent : Consistent module) (edit : Edit)
    (room : Addressable (edit.leaves module)) : Consistent (edit.leaves module) := by
  rcases outcome_cases edit module with ⟨fault, outcome, _⟩ | ⟨entry, _, edited⟩
  · rw [Edit.leaves, outcome]
    exact consistent
  · exact (edited.keeps consistent room).1

theorem Consistent.build (consistent : Consistent module) (edits : List Edit)
    (room : Addressable (module.build edits)) : Consistent (module.build edits) := by
  induction edits generalizing module with
  | nil => exact consistent
  | cons edit edits ih =>
      apply ih _ room
      apply consistent.leaves edit
      exact room.earlier (build_extends (edit.leaves module) edits)

/-- A module that was built from nothing, whatever was declared and whichever edits failed, passes
the check of its nesting, lists every field and every routine once, with the type that declares it,
and has no two fields of one name on a type. An edit that failed had left the module as it was, and
what an edit has made was new and is still what the edit declared. -/
theorem build_consistent (name : String) (edits : List Edit)
    (room : Addressable ((Module.empty name).build edits)) :
    let module := (Module.empty name).build edits
    checkNesting module = .ok () ∧
    ListedOnce module (fun id => (module.field? id).map (·.owner)) (·.fields) ∧
    ListedOnce module (fun id => (module.routine? id).map (·.owner)) (·.routines) ∧
    (∀ id type, module.type? id = some type → (module.fieldNames type).Nodup) ∧
    ∀ before edit later, edits = before ++ edit :: later →
      let earlier := (Module.empty name).build before
      Extends earlier module ∧
      match edit.perform.outcome earlier with
      | (.error fault, left) => left = earlier ∧ ∀ handle, fault ≠ .dangling handle
      | (.ok entry, _) => entry.New earlier ∧ edit.Denoted module entry := by
  intro module
  have consistent : Consistent module := (empty_consistent name).build edits room
  refine ⟨checkNesting_eq_ok_iff.mpr consistent.forest.nested, consistent.fields,
    consistent.routines, consistent.names, ?_⟩
  intro before edit later split earlier
  have toEnd : Extends (edit.leaves earlier) module := by
    have same : module = (edit.leaves earlier).build later := by
      simp only [module, earlier, split, build_append]
      rfl
    rw [same]
    exact build_extends _ later
  have earlierExtends : Extends earlier module := (leaves_extends edit earlier).trans toEnd
  have earlierConsistent : Consistent earlier :=
    (empty_consistent name).build before (room.earlier earlierExtends)
  refine ⟨earlierExtends, ?_⟩
  rcases outcome_cases edit earlier with ⟨fault, outcome, failed⟩ | ⟨entry, outcome, edited⟩
  · rw [outcome]
    exact ⟨rfl, earlierConsistent.not_dangling failed⟩
  · rw [outcome]
    rcases edited.keeps earlierConsistent (room.earlier toEnd) with ⟨_, new, denoted⟩
    exact ⟨new, denoted.extend toEnd⟩

namespace Shelf

/-- Edits among which two fail: the second field of one name, and a routine on a type that does not
exist. The declarations claim to belong elsewhere. -/
def edits : List Edit :=
  [.addType { TypeDecl.named "Shelf" with outer := some ⟨9⟩, nested := [⟨7⟩], fields := [⟨3⟩] },
    .addNestedType ⟨0⟩ (.named "Board"),
    .addField ⟨1⟩ { FieldDecl.static "count" .int32 with owner := ⟨5⟩ },
    .addField ⟨1⟩ (.static "count" .int64),
    .addRoutine ⟨4⟩ (.static "Fill" .void .returning)]

theorem build_edits_consistent :
    let module := (Module.empty "shelf").build edits
    checkNesting module = .ok () ∧ module.types.size = 2 ∧ module.fields.size = 1 ∧
    ListedOnce module (fun id => (module.field? id).map (·.owner)) (·.fields) := by
  have room : Addressable ((Module.empty "shelf").build edits) :=
    ⟨by decide, by decide, by decide⟩
  have consistent := build_consistent "shelf" edits room
  exact ⟨consistent.1, by decide, by decide, consistent.2.1⟩

end Shelf

end Rekindle.Module
