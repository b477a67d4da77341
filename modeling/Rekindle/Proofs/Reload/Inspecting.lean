import Rekindle.Proofs.Fallible
import Rekindle.Proofs.Module.Tables
import Rekindle.Reload.Survey

/-!
# The verdict on a type

A type is a candidate exactly when it carries the attribute of reloading and has a field to reset or
a teardown routine. Only the order that a teardown routine asks for can be wrong, and the first such
order is reported, whatever else the type holds. A candidate is warned of exactly for its read-only
fields whose reset is not intended.
-/

namespace Rekindle.Reload.Survey

open Fallible

/-- Looks at a type while diagnostics are collected: the verdict on it, and the diagnostics with
those about it added. -/
def inspect (markers : Markers) (module : Module) (symbols : Option Symbols) (id : TypeId)
    (diagnostics : List Diagnostic) : Except Fault (Option Candidate) × List Diagnostic :=
  match inspectType markers module id with
  | .error fault => (.error fault, diagnostics)
  | .ok none => (.ok none, diagnostics)
  | .ok (some candidate) =>
    (.ok (some candidate), diagnostics ++ warnings markers symbols candidate)

theorem inspect_of_ok {markers : Markers} {module : Module} {id : TypeId}
    {verdict : Option Candidate} (inspected : inspectType markers module id = .ok verdict)
    (symbols : Option Symbols) (diagnostics : List Diagnostic) :
    inspect markers module symbols id diagnostics =
      (.ok verdict, diagnostics ++ verdict.toList.flatMap (warnings markers symbols)) := by
  rw [inspect, inspected]
  cases verdict with
  | none => simp
  | some candidate => simp

theorem inspect_of_error {markers : Markers} {module : Module} {id : TypeId} {fault : Fault}
    (refused : inspectType markers module id = .error fault) (symbols : Option Symbols)
    (diagnostics : List Diagnostic) :
    inspect markers module symbols id diagnostics = (.error fault, diagnostics) := by
  rw [inspect, refused]

theorem inspectType_of_inspect {markers : Markers} {module : Module} {symbols : Option Symbols}
    {id : TypeId} {verdict : Option Candidate} {diagnostics added : List Diagnostic}
    (looked : inspect markers module symbols id diagnostics = (.ok verdict, added)) :
    inspectType markers module id = .ok verdict := by
  rcases inspected : inspectType markers module id with fault | found
  · rw [inspect_of_error inspected] at looked
    cases looked
  · rw [inspect_of_ok inspected] at looked
    cases looked
    rfl

/-! ### What a verdict goes by -/

/-- The first item of a list that has a property. -/
def IsFirst {α : Type} (accepts : α → Prop) (items : List α) (item : α) : Prop :=
  ∃ before after, items = before ++ item :: after ∧ accepts item ∧
    ∀ other ∈ before, ¬accepts other

/-- A routine that can be run before its type is reset, by the first attribute that says it is. -/
structure Qualifies (markers : Markers) (routine : RoutineDecl) (marker : Attribute) : Prop where
  marked : IsFirst (fun attached : Attribute => attached.typeName = markers.runBeforeReload)
    routine.attributes marker
  static : routine.isStatic = true
  parameters : routine.parameters = []
  result : routine.result = .void
  monomorphic : routine.typeParameters = []
  ordinary : ¬(routine.isSpecialName = true ∧ routine.name = ".typeinit")
  body : ∃ body, routine.body = some body

/-- An attribute that asks for an order, by the first property that does, which is no number of 32
bits. -/
def Misorders (markers : Markers) (marker : Attribute) (value : Constant) : Prop :=
  (∃ property, IsFirst (fun named : Property => named.name = markers.orderProperty)
    marker.properties property ∧ property.value = value) ∧ ∀ number, value ≠ .int32 number

/-- A handle leads to a routine that can be run before its type is reset. -/
def TornDown (markers : Markers) (module : Module) (id : RoutineId) : Prop :=
  ∃ routine marker, module.routine? id = some routine ∧ Qualifies markers routine marker

/-- A handle leads to a routine that can be run before its type is reset, but in a wrong order. -/
def Misordered (markers : Markers) (module : Module) (id : RoutineId) (value : Constant) : Prop :=
  ∃ routine marker, module.routine? id = some routine ∧ Qualifies markers routine marker ∧
    Misorders markers marker value

def OptsIn (markers : Markers) (type : TypeDecl) : Prop :=
  ∃ attached ∈ type.attributes, attached.typeName = markers.reloadOnEnter

/-- Whether a handle leads to a static field that is not a literal. -/
def resets (module : Module) (id : FieldId) : Bool :=
  (module.field? id).any fun field => field.isStatic && !field.isLiteral

/-- Whether a handle leads to a field that is reset although it is read-only and carries no attribute
of intended resets. -/
def surprises (markers : Markers) (module : Module) (id : FieldId) : Bool :=
  (module.field? id).any fun field => field.isStatic && !field.isLiteral && field.isReadOnly &&
    field.attributes.all fun attached => attached.typeName ≠ markers.forceReload

/-- A warning of the reset of a field of a type. -/
structure Warns (module : Module) (symbols : Option Symbols) (id : TypeId) (field : FieldId)
    (diagnostic : Diagnostic) : Prop where
  severity : diagnostic.severity = .warning
  names : ∃ declared rest, module.field? field = some declared ∧
    diagnostic.message = "Static field '" ++ declared.name ++ "' of type '" ++ module.fullName id ++
      "' is read-only but will be reset on reload. " ++ rest
  location : diagnostic.location = symbols.bind fun symbols => symbols.fieldLocation field

section First

variable {α : Type} {accepts : α → Prop} {items : List α} {item : α}

theorem find?_eq_some_iff_isFirst [DecidablePred accepts] :
    items.find? (fun other => accepts other) = some item ↔ IsFirst accepts items item := by
  rw [List.find?_eq_some_iff_append]
  constructor
  · rintro ⟨holds, before, after, split, none_before⟩
    refine ⟨before, after, split, of_decide_eq_true holds, fun other listed => ?_⟩
    simpa using none_before other listed
  · rintro ⟨before, after, split, holds, none_before⟩
    refine ⟨decide_eq_true holds, before, after, split, fun other listed => ?_⟩
    simpa using none_before other listed

theorem IsFirst.mem (first : IsFirst accepts items item) : item ∈ items ∧ accepts item := by
  rcases first with ⟨before, after, rfl, holds, _⟩
  exact ⟨List.mem_append_right _ List.mem_cons_self, holds⟩

end First

/-! ### Teardown routines -/

section Verdicts

variable {markers : Markers} {module : Module}

theorem isTeardown_iff {routine : RoutineDecl} {marker : Attribute} :
    Attribute.find? routine.attributes markers.runBeforeReload = some marker ∧
        isTeardown routine = true ↔ Qualifies markers routine marker := by
  have marked : Attribute.find? routine.attributes markers.runBeforeReload = some marker ↔ _ :=
    find?_eq_some_iff_isFirst
  have result : routine.result.isVoid = true ↔ routine.result = .void := by
    cases routine.result <;> simp [ValueType.isVoid]
  rw [marked]
  simp only [isTeardown, RoutineDecl.isInitializer, RoutineDecl.isGeneric, initializerName,
    Bool.and_eq_true, Bool.not_eq_true', List.isEmpty_iff, result, Option.isSome_iff_exists,
    Bool.not_eq_false', Bool.and_eq_false_iff]
  constructor
  · rintro ⟨first, ⟨⟨⟨⟨static, parameters⟩, void⟩, monomorphic⟩, ordinary⟩, body⟩
    refine ⟨first, static, parameters, void, monomorphic, ?_, body⟩
    rintro ⟨special, named⟩
    simp [static, special, named] at ordinary
  · rintro ⟨first, static, parameters, void, monomorphic, ordinary, body⟩
    refine ⟨first, ⟨⟨⟨⟨static, parameters⟩, void⟩, monomorphic⟩, ?_⟩, body⟩
    by_cases special : routine.isSpecialName = true
    · exact .inr (decide_eq_false fun named => ordinary ⟨special, named⟩)
    · exact .inl (.inr (Bool.eq_false_iff.mpr special))

theorem Qualifies.unique {routine : RoutineDecl} {marker other : Attribute}
    (qualifies : Qualifies markers routine marker) (same : Qualifies markers routine other) :
    marker = other := by
  have found := (isTeardown_iff.mpr qualifies).1
  rw [(isTeardown_iff.mpr same).1] at found
  exact (Option.some.inj found).symm

theorem property?_eq_some_iff {marker : Attribute} {name : String} {value : Constant} :
    marker.property? name = some value ↔
      ∃ property, IsFirst (fun named : Property => named.name = name) marker.properties property ∧
        property.value = value := by
  unfold Attribute.property?
  rw [Option.map_eq_some_iff]
  exact exists_congr fun property => and_congr_left' find?_eq_some_iff_isFirst

theorem Misorders.unique {marker : Attribute} {value other : Constant}
    (wrong : Misorders markers marker value) (same : Misorders markers marker other) :
    value = other := by
  have found := property?_eq_some_iff.mpr wrong.1
  rw [property?_eq_some_iff.mpr same.1] at found
  exact (Option.some.inj found).symm

/-- An attribute gives an order, or asks for a wrong one. -/
theorem orderOf_cases (markers : Markers) (module : Module) (id : RoutineId) (marker : Attribute) :
    ((∀ value, ¬Misorders markers marker value) ∧
        ∃ order, orderOf markers module id marker = .ok order) ∨
      ∃ value, Misorders markers marker value ∧ orderOf markers module id marker =
        .error (.invalidOrderKey (module.routineName id) markers.orderProperty value.text) := by
  unfold orderOf
  rcases asked : marker.property? markers.orderProperty with _ | value
  · refine .inl ⟨fun value wrong => ?_, 0, rfl⟩
    have found := property?_eq_some_iff.mpr wrong.1
    rw [asked] at found
    cases found
  · have first := property?_eq_some_iff.mp asked
    cases value with
    | int32 order =>
        refine .inl ⟨fun value wrong => ?_, order, rfl⟩
        have found := property?_eq_some_iff.mpr wrong.1
        rw [asked] at found
        exact wrong.2 order (Option.some.inj found).symm
    | bool flag => exact .inr ⟨_, ⟨first, nofun⟩, rfl⟩
    | int64 number => exact .inr ⟨_, ⟨first, nofun⟩, rfl⟩
    | float64 number => exact .inr ⟨_, ⟨first, nofun⟩, rfl⟩
    | string text => exact .inr ⟨_, ⟨first, nofun⟩, rfl⟩

/-- What comes of looking at a routine that exists: a verdict, or the fault that it asks for a wrong
order. -/
theorem teardown_cases (markers : Markers) {id : RoutineId} {routine : RoutineDecl}
    (declared : module.routine? id = some routine) :
    (∃ verdict, teardown markers module id = .ok verdict ∧
        (verdict.isSome = true ↔ TornDown markers module id) ∧
        ∀ value, ¬Misordered markers module id value) ∨
      ∃ value, Misordered markers module id value ∧ teardown markers module id =
        .error (.invalidOrderKey (module.routineName id) markers.orderProperty value.text) := by
  rcases Classical.em (∃ marker, Qualifies markers routine marker) with ⟨marker, qualifies⟩ | unfit
  · rcases isTeardown_iff.mpr qualifies with ⟨marked, fit⟩
    have inspected : teardown markers module id = (do
        let order ← orderOf markers module id marker
        return some { routine := id, name := routine.name, order }) := by
      simp only [teardown, declared, marked, fit, if_true]
    rcases orderOf_cases markers module id marker with
      ⟨right, order, ordered⟩ | ⟨value, wrong, refused⟩
    · refine .inl ⟨some ⟨id, routine.name, order⟩, ?_, ?_, ?_⟩
      · rw [inspected, ordered]
        rfl
      · exact iff_of_true rfl ⟨routine, marker, declared, qualifies⟩
      · rintro value ⟨other, marker', same, qualifies', wrong⟩
        cases declared.symm.trans same
        cases qualifies.unique qualifies'
        exact right value wrong
    · refine .inr ⟨value, ⟨routine, marker, declared, qualifies, wrong⟩, ?_⟩
      rw [inspected, refused]
      rfl
  · have idle : ¬TornDown markers module id := by
      rintro ⟨other, marker, same, qualifies⟩
      cases declared.symm.trans same
      exact unfit ⟨marker, qualifies⟩
    refine .inl ⟨none, ?_, iff_of_false nofun idle, ?_⟩
    · unfold teardown
      rw [declared]
      rcases marked : Attribute.find? routine.attributes markers.runBeforeReload with _ | marker
      · simp only [marked]
      · have unsuitable : ¬isTeardown routine = true := fun fit =>
          unfit ⟨marker, isTeardown_iff.mp ⟨marked, fit⟩⟩
        simp only [marked, if_neg unsuitable]
    · rintro value ⟨other, marker, same, qualifies, _⟩
      exact idle ⟨other, marker, same, qualifies⟩

/-- Looking at routines one by one stops at the first that asks for a wrong order. -/
theorem teardowns_cases (markers : Markers) {ids : List RoutineId}
    (inside : ∀ id ∈ ids, id.position < module.routines.size) :
    (∃ verdicts, ids.mapM (teardown markers module) = .ok verdicts ∧
        ((verdicts.filterMap fun found => found) ≠ [] ↔ ∃ id ∈ ids, TornDown markers module id) ∧
        ∀ id ∈ ids, ∀ value, ¬Misordered markers module id value) ∨
      ∃ id value, IsFirst (fun other => ∃ wrong, Misordered markers module other wrong) ids id ∧
        Misordered markers module id value ∧ ids.mapM (teardown markers module) =
          .error (.invalidOrderKey (module.routineName id) markers.orderProperty value.text) := by
  induction ids with
  | nil => exact .inl ⟨[], rfl, by simp, nofun⟩
  | cons id ids ih =>
      rcases List.forall_mem_cons.mp inside with ⟨here, others⟩
      obtain ⟨routine, declared⟩ : ∃ routine, module.routine? id = some routine :=
        ⟨_, Array.getElem?_eq_getElem here⟩
      rcases teardown_cases markers declared with
        ⟨verdict, inspected, tornDown, right⟩ | ⟨value, wrong, refused⟩
      · rcases ih others with ⟨verdicts, inspectedAll, someTornDown, allRight⟩ |
          ⟨other, value, ⟨before, after, split, holds, noneBefore⟩, wrong, refused⟩
        · refine .inl ⟨verdict :: verdicts, ?_, ?_, List.forall_mem_cons.mpr ⟨right, allRight⟩⟩
          · rw [List.mapM_cons, inspected, ok_bind, inspectedAll]
            rfl
          · rw [List.exists_mem_cons_iff, ← tornDown, ← someTornDown]
            cases verdict <;> simp
        · refine .inr ⟨other, value, ⟨id :: before, after, by rw [split, List.cons_append], holds,
            List.forall_mem_cons.mpr ⟨fun ⟨order, wrongHere⟩ => right order wrongHere,
              noneBefore⟩⟩, wrong, ?_⟩
          rw [List.mapM_cons, inspected, ok_bind, refused]
          rfl
      · refine .inr ⟨id, value, ⟨[], ids, rfl, ⟨value, wrong⟩, nofun⟩, wrong, ?_⟩
        rw [List.mapM_cons, refused]
        rfl

/-! ### Fields -/

/-- What is recorded of a field that is reset. -/
structure Describes (markers : Markers) (module : Module) (id : FieldId)
    (candidate : FieldCandidate) : Prop where
  field : candidate.field = id
  declared : ∃ field, module.field? id = some field ∧ candidate.name = field.name ∧
    candidate.isReadOnly = field.isReadOnly ∧
    (candidate.isForced = true ↔ ∃ attached ∈ field.attributes,
      attached.typeName = markers.forceReload)

/-- Looking at fields one by one finds those that are reset, in their order. -/
theorem fields_described (markers : Markers) {ids : List FieldId}
    (inside : ∀ id ∈ ids, id.position < module.fields.size) :
    ∃ verdicts, ids.mapM (fieldCandidate markers module) = .ok verdicts ∧
      List.Forall₂ (Describes markers module) (ids.filter (resets module))
        (verdicts.filterMap fun found => found) := by
  induction ids with
  | nil => exact ⟨[], rfl, .nil⟩
  | cons id ids ih =>
      rcases List.forall_mem_cons.mp inside with ⟨here, others⟩
      obtain ⟨field, declared⟩ : ∃ field, module.field? id = some field :=
        ⟨_, Array.getElem?_eq_getElem here⟩
      rcases ih others with ⟨verdicts, inspected, described⟩
      have known : resets module id = field.hasStorage := by
        rw [resets, declared]
        rfl
      by_cases storage : field.hasStorage = true
      · let found : FieldCandidate := {
          field := id
          name := field.name
          isReadOnly := field.isReadOnly
          isForced := Attribute.has field.attributes markers.forceReload }
        have here : fieldCandidate markers module id = .ok (some found) := by
          simp only [fieldCandidate, declared, storage, if_true, found]
        refine ⟨some found :: verdicts, ?_, ?_⟩
        · rw [List.mapM_cons, here, ok_bind, inspected]
          rfl
        · rw [List.filter_cons_of_pos (known.trans storage)]
          exact .cons ⟨rfl, field, declared, rfl, rfl, Attribute.has_eq_true_iff⟩ described
      · have here : fieldCandidate markers module id = .ok none := by
          simp only [fieldCandidate, declared, storage, Bool.false_eq_true, if_false]
        refine ⟨none :: verdicts, ?_, ?_⟩
        · rw [List.mapM_cons, here, ok_bind, inspected]
          rfl
        · rw [List.filter_cons_of_neg (known ▸ storage)]
          exact described

theorem fields_of_described {ids : List FieldId} {fields : List FieldCandidate}
    (described : List.Forall₂ (Describes markers module) ids fields) :
    fields.map (·.field) = ids := by
  induction described with
  | nil => rfl
  | cons describes _ ih => rw [List.map_cons, ih, describes.field]

theorem Describes.surprises_eq {id : FieldId} {candidate : FieldCandidate}
    (describes : Describes markers module id candidate) (reset : resets module id = true) :
    surprises markers module id = (candidate.isReadOnly && !candidate.isForced) := by
  rcases describes.declared with ⟨field, declared, _, readOnly, forced⟩
  have intended : candidate.isForced = !field.attributes.all fun attached =>
      attached.typeName ≠ markers.forceReload := by
    rw [Bool.eq_iff_iff, forced]
    simp
  rw [resets, declared] at reset
  simp only [Option.any_some] at reset
  rw [surprises, declared, readOnly, intended]
  simp only [Option.any_some, reset, Bool.true_and, Bool.not_not]

theorem resets_of_surprises {id : FieldId} (surprising : surprises markers module id = true) :
    resets module id = true := by
  rcases declared : module.field? id with _ | field
  · simp [surprises, declared] at surprising
  · simp only [surprises, declared, Option.any_some, Bool.and_eq_true] at surprising
    simp [resets, declared, surprising.1.1]

theorem surprising_described {ids : List FieldId} {fields : List FieldCandidate}
    (reset : ∀ id ∈ ids, resets module id = true)
    (described : List.Forall₂ (Describes markers module) ids fields) :
    List.Forall₂ (Describes markers module) (ids.filter (surprises markers module))
      (fields.filter fun field => field.isReadOnly && !field.isForced) := by
  induction described with
  | nil => exact .nil
  | cons describes described ih =>
      rename_i id candidate ids fields
      rcases List.forall_mem_cons.mp reset with ⟨here, others⟩
      rw [List.filter_cons, List.filter_cons, describes.surprises_eq here]
      split
      · exact .cons describes (ih others)
      · exact ih others

theorem readOnlyWarning_names (markers : Markers) (field type : String) :
    ∃ rest, readOnlyWarning markers field type = "Static field '" ++ field ++ "' of type '" ++ type ++
      "' is read-only but will be reset on reload. " ++ rest := by
  -- Regrouping is left to variables, since texts are compared letter by letter.
  have regrouped : ∀ start second third fourth fifth : String,
      start ++ second ++ third ++ fourth ++ fifth =
        start ++ (second ++ (third ++ (fourth ++ fifth))) := by
    simp only [String.append_assoc, implies_true]
  exact ⟨_, regrouped _ _ _ _ _⟩

/-- The warnings about a candidate are those about its surprising fields, in their order. -/
theorem warnings_of_described {symbols : Option Symbols} {ids : List FieldId}
    {candidate : Candidate} (named : candidate.fullName = module.fullName candidate.type)
    (described : List.Forall₂ (Describes markers module) (ids.filter (resets module))
      candidate.fields) :
    List.Forall₂ (Warns module symbols candidate.type) (ids.filter (surprises markers module))
      (warnings markers symbols candidate) := by
  have same : ids.filter (surprises markers module) =
      (ids.filter (resets module)).filter (surprises markers module) := by
    rw [List.filter_filter]
    refine List.filter_congr fun id _ => ?_
    by_cases surprising : surprises markers module id = true
    · rw [surprising, resets_of_surprises surprising]
      rfl
    · rw [Bool.eq_false_iff.mpr surprising]
      rfl
  have surprising := surprising_described (fun id listed => (List.mem_filter.mp listed).2) described
  rw [same, warnings, List.forall₂_map_right_iff]
  refine surprising.imp fun id field describes => ?_
  rcases describes.declared with ⟨declared, found, name, _⟩
  rcases readOnlyWarning_names markers declared.name (module.fullName candidate.type) with
    ⟨rest, message⟩
  refine ⟨rfl, ⟨declared, rest, found, ?_⟩, ?_⟩
  · rw [← message, ← name, ← named]
  · rw [describes.field]

/-! ### The verdict -/

theorem optsIn_iff {type : TypeDecl} :
    Attribute.has type.attributes markers.reloadOnEnter = true ↔ OptsIn markers type :=
  Attribute.has_eq_true_iff

/-- A type has something to reload: a field to reset or a teardown routine. -/
def Reloadable (markers : Markers) (module : Module) (type : TypeDecl) : Prop :=
  (∃ field ∈ type.fields, resets module field = true) ∨
    ∃ routine ∈ type.routines, TornDown markers module routine

/-- A candidate that stands for a type, with its fields. -/
structure Represents (markers : Markers) (module : Module) (id : TypeId) (type : TypeDecl)
    (candidate : Candidate) : Prop where
  about : candidate.type = id
  fullName : candidate.fullName = module.fullName id
  fields : List.Forall₂ (Describes markers module) (type.fields.filter (resets module))
    candidate.fields

/-- What comes of looking at a type that wants to be reloaded and whose members exist: a verdict, or
the fault that a teardown routine asks for a wrong order. -/
theorem inspectType_cases {id : TypeId} {type : TypeDecl} (declared : module.type? id = some type)
    (fields : ∀ field ∈ type.fields, field.position < module.fields.size)
    (routines : ∀ routine ∈ type.routines, routine.position < module.routines.size)
    (optsIn : OptsIn markers type) :
    (∃ verdict, inspectType markers module id = .ok verdict ∧
        ((∃ candidate, verdict = some candidate) ↔ Reloadable markers module type) ∧
        (∀ candidate, verdict = some candidate →
          Represents markers module id type candidate) ∧
        ∀ routine ∈ type.routines, ∀ value, ¬Misordered markers module routine value) ∨
      ∃ routine value, IsFirst (fun other => ∃ wrong, Misordered markers module other wrong)
          type.routines routine ∧
        Misordered markers module routine value ∧ inspectType markers module id =
          .error (.invalidOrderKey (module.routineName routine) markers.orderProperty
            value.text) := by
  rcases fields_described markers fields with ⟨fieldVerdicts, inspected, described⟩
  have reset : (fieldVerdicts.filterMap fun found => found) ≠ [] ↔
      ∃ field ∈ type.fields, resets module field = true := by
    rw [← List.length_pos_iff, ← described.length_eq, List.length_pos_iff, ne_eq,
      List.filter_eq_nil_iff]
    simp
  unfold inspectType
  rw [declared]
  dsimp only
  rw [if_pos (optsIn_iff.mpr optsIn), inspected, ok_bind]
  rcases teardowns_cases markers routines with
    ⟨verdicts, inspectedAll, tornDown, right⟩ | ⟨routine, value, first, wrong, refused⟩
  · rw [inspectedAll, ok_bind]
    have sorted : ((verdicts.filterMap fun found => found).mergeSort fun left right =>
        left.order ≤ right.order) ≠ [] ↔ ∃ routine ∈ type.routines,
          TornDown markers module routine := by
      rw [← tornDown, ← List.length_pos_iff, List.length_mergeSort, List.length_pos_iff]
    have nothing : ((fieldVerdicts.filterMap fun found => found).isEmpty &&
        ((verdicts.filterMap fun found => found).mergeSort fun left right =>
          left.order ≤ right.order).isEmpty) = true ↔ ¬Reloadable markers module type := by
      rw [Bool.and_eq_true, List.isEmpty_iff, List.isEmpty_iff, Reloadable, ← reset, ← sorted]
      simp
    refine .inl ⟨_, rfl, ?_, ?_, right⟩
    · split
      · rename_i empty
        exact iff_of_false nofun (nothing.mp empty)
      · rename_i some_member
        exact iff_of_true ⟨_, rfl⟩ (Classical.not_not.mp fun none_there =>
          some_member (nothing.mpr none_there))
    · intro candidate found
      split at found
      · cases found
      · cases found
        exact ⟨rfl, rfl, described⟩
  · refine .inr ⟨routine, value, first, wrong, ?_⟩
    rw [refused]
    rfl

theorem inspectType_of_not_optsIn {id : TypeId} {type : TypeDecl}
    (declared : module.type? id = some type) (optsIn : ¬OptsIn markers type) :
    inspectType markers module id = .ok none := by
  have unmarked : ¬Attribute.has type.attributes markers.reloadOnEnter = true := fun marked =>
    optsIn (optsIn_iff.mp marked)
  simp only [inspectType, declared, if_neg unmarked]

/-- What comes of looking at a type whose members exist while diagnostics are collected. -/
theorem inspect_cases (markers : Markers) {id : TypeId} {type : TypeDecl}
    (declared : module.type? id = some type)
    (fields : ∀ field ∈ type.fields, field.position < module.fields.size)
    (routines : ∀ routine ∈ type.routines, routine.position < module.routines.size)
    (symbols : Option Symbols) (diagnostics : List Diagnostic) :
    (∃ verdict, inspect markers module symbols id diagnostics =
          (.ok verdict, diagnostics ++ verdict.toList.flatMap (warnings markers symbols)) ∧
        ((∃ candidate, verdict = some candidate) ↔
          OptsIn markers type ∧ Reloadable markers module type) ∧
        (∀ candidate, verdict = some candidate → Represents markers module id type candidate) ∧
        ¬(OptsIn markers type ∧
          ∃ routine ∈ type.routines, ∃ value, Misordered markers module routine value)) ∨
      ∃ routine value, OptsIn markers type ∧
        IsFirst (fun other => ∃ wrong, Misordered markers module other wrong) type.routines
          routine ∧
        Misordered markers module routine value ∧
        inspect markers module symbols id diagnostics = (.error (.invalidOrderKey
          (module.routineName routine) markers.orderProperty value.text), diagnostics) := by
  by_cases optsIn : OptsIn markers type
  · rcases inspectType_cases declared fields routines optsIn with
      ⟨verdict, inspected, candid, represents, right⟩ | ⟨routine, value, first, wrong, refused⟩
    · refine .inl ⟨verdict, inspect_of_ok inspected symbols diagnostics, ?_, represents, ?_⟩
      · rw [candid, and_iff_right optsIn]
      · rintro ⟨_, routine, listed, value, wrong⟩
        exact right routine listed value wrong
    · exact .inr ⟨routine, value, optsIn, first, wrong,
        inspect_of_error refused symbols diagnostics⟩
  · have inspected := inspectType_of_not_optsIn declared optsIn
    refine .inl ⟨none, inspect_of_ok inspected symbols diagnostics, ?_, nofun, fun wrong =>
      optsIn wrong.1⟩
    exact iff_of_false nofun fun reloadable => optsIn reloadable.1

/-- Looking at a type whose members exist fails exactly if the type wants to be reloaded and a
teardown routine of it asks for an order that is no number, and then tells the first that does.
Otherwise the type is a candidate exactly if it wants to be reloaded and has something to reload. The
fields of a candidate are the static ones that are no literals, and the diagnostics grow by one
warning for each of them that is read-only without an attribute of intended resets, all in the order
in which the type lists its fields. Without a candidate they do not grow. -/
theorem verdict_exact {symbols : Option Symbols} {id : TypeId} {type : TypeDecl}
    (declared : module.type? id = some type)
    (fields : ∀ field ∈ type.fields, field.position < module.fields.size)
    (routines : ∀ routine ∈ type.routines, routine.position < module.routines.size)
    (diagnostics : List Diagnostic) :
    ((∃ routine property text, (inspect markers module symbols id diagnostics).1 =
          .error (.invalidOrderKey routine property text)) ↔
        OptsIn markers type ∧
          ∃ routine ∈ type.routines, ∃ value, Misordered markers module routine value) ∧
      (∀ fault, (inspect markers module symbols id diagnostics).1 = .error fault →
        ∃ routine value,
          IsFirst (fun other => ∃ wrong, Misordered markers module other wrong) type.routines
            routine ∧
          Misordered markers module routine value ∧
          fault = .invalidOrderKey (module.routineName routine) markers.orderProperty value.text) ∧
      (∀ verdict, (inspect markers module symbols id diagnostics).1 = .ok verdict →
        ((∃ candidate, verdict = some candidate) ↔
          OptsIn markers type ∧ ((∃ field ∈ type.fields, resets module field = true) ∨
            ∃ routine ∈ type.routines, TornDown markers module routine))) ∧
      (∀ candidate, (inspect markers module symbols id diagnostics).1 = .ok (some candidate) →
        candidate.type = id ∧ candidate.fullName = module.fullName id ∧
          candidate.fields.map (·.field) = type.fields.filter (resets module) ∧
          ∃ added, (inspect markers module symbols id diagnostics).2 = diagnostics ++ added ∧
            List.Forall₂ (Warns module symbols id) (type.fields.filter (surprises markers module))
              added) ∧
      ((∀ candidate, (inspect markers module symbols id diagnostics).1 ≠ .ok (some candidate)) →
        (inspect markers module symbols id diagnostics).2 = diagnostics) := by
  rcases inspect_cases markers declared fields routines symbols diagnostics with
    ⟨verdict, outcome, candid, represents, right⟩ |
    ⟨routine, value, optsIn, first, wrong, outcome⟩
  · rw [outcome]
    refine ⟨iff_of_false nofun right, nofun, ?_, ?_, ?_⟩
    · rintro _ ⟨⟩
      exact candid
    · rintro candidate ⟨⟩
      rcases represents candidate rfl with ⟨rfl, fullName, described⟩
      refine ⟨rfl, fullName, fields_of_described described, warnings markers symbols candidate, ?_,
        warnings_of_described fullName described⟩
      simp
    · intro none_there
      cases verdict with
      | none => simp
      | some candidate => exact absurd rfl (none_there candidate)
  · rw [outcome]
    refine ⟨iff_of_true ⟨_, _, _, rfl⟩ ⟨optsIn, routine, first.mem.1, first.mem.2⟩, ?_, nofun,
      nofun, fun _ => rfl⟩
    rintro _ ⟨⟩
    exact ⟨routine, value, first, wrong, rfl⟩

end Verdicts

/-! ### Members of every kind -/

namespace Mixer

/-- A mixer with a read-only field and one whose reset is intended, a constant and a field of its
instances. Its one teardown routine asks for a number; another routine asks for a text, but takes a
parameter. -/
def type : TypeDecl :=
  { TypeDecl.named "Mixer" with
    attributes := [.bare "DotReload.ReloadOnEnterAttribute"]
    fields := [⟨2⟩, ⟨0⟩, ⟨1⟩, ⟨3⟩]
    routines := [⟨0⟩, ⟨1⟩] }

def teardown (name : String) (order : Constant) : RoutineDecl :=
  { RoutineDecl.static name .void .returning with
    attributes := [⟨"DotReload.RunBeforeReloadAttribute", [⟨"OrderInType", order⟩]⟩] }

def module : Module where
  name := "app"
  identity := Vector.replicate 16 0
  references := []
  types := #[type]
  fields := #[
    { FieldDecl.static "device" .string with isReadOnly := true },
    { FieldDecl.static "VOICES" .int32 with
      isLiteral := true, isReadOnly := true, constant := some (.int32 8) },
    { FieldDecl.static "seed" .int32 with
      isReadOnly := true, attributes := [.bare "DotReload.ForceReloadAttribute"] },
    { FieldDecl.static "gain" .int32 with isStatic := false }]
  routines := #[
    { teardown "fade" (.string "first") with parameters := [⟨"seconds", .int32⟩] },
    teardown "stop" (.int32 5)]
  topLevel := [⟨0⟩]

def symbols : Symbols :=
  (Symbols.empty (Vector.replicate 16 0)).setFieldLocation ⟨0⟩ ⟨"Mixer.src", 4, 9⟩

def candidate : Candidate where
  type := ⟨0⟩
  fullName := "Mixer"
  fields := [
    { field := ⟨2⟩, name := "seed", isReadOnly := true, isForced := true },
    { field := ⟨0⟩, name := "device", isReadOnly := true, isForced := false }]
  teardowns := [{ routine := ⟨1⟩, name := "stop", order := 5 }]

theorem inspected : (inspect {} module (some symbols) ⟨0⟩ []).1 = .ok (some candidate) := by
  have verdict : inspectType {} module ⟨0⟩ = .ok (some candidate) := by cbv
  rw [inspect_of_ok verdict]

end Mixer

/-- The mixer is a candidate with two fields, of which one is warned of, where it is declared. -/
theorem verdict_exact_mixer :
    (∀ field ∈ Mixer.type.fields, field.position < Mixer.module.fields.size) ∧
      (∀ routine ∈ Mixer.type.routines, routine.position < Mixer.module.routines.size) ∧
      Mixer.candidate.fields.map (·.field) = Mixer.type.fields.filter (resets Mixer.module) ∧
      ∃ warning, (inspect {} Mixer.module (some Mixer.symbols) ⟨0⟩ []).2 = [warning] ∧
        Warns Mixer.module (some Mixer.symbols) ⟨0⟩ ⟨0⟩ warning := by
  have fields : ∀ field ∈ Mixer.type.fields, field.position < Mixer.module.fields.size := by decide
  have routines : ∀ routine ∈ Mixer.type.routines,
      routine.position < Mixer.module.routines.size := by decide
  have declared : Mixer.module.type? ⟨0⟩ = some Mixer.type := rfl
  rcases (@verdict_exact {} Mixer.module (some Mixer.symbols) ⟨0⟩ Mixer.type declared fields
    routines []).2.2.2.1 Mixer.candidate Mixer.inspected with ⟨_, _, reset, added, grown, warned⟩
  have surprising : Mixer.type.fields.filter (surprises {} Mixer.module) = [⟨0⟩] := by decide
  rw [surprising] at warned
  rcases warned with _ | ⟨warns, others⟩
  cases others
  exact ⟨fields, routines, reset, _, grown, warns⟩

end Rekindle.Reload.Survey
