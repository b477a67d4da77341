import Rekindle.Proofs.Validity.Valid

/-!
# Substitution

A value type mentions the parameters that are among its parts. If it mentions none beyond the given
arguments, then substituting twice is substituting once by arguments that were substituted before,
and closed arguments close it. That no parameter beyond a bound is mentioned can be read off the
greatest of them, and is what the validator asks of a value type besides that the types it names
exist and have as many parameters as it gives them arguments.
-/

namespace Rekindle.ValueType

open Fallible Validity

variable {module : Module} {context : String} {id : TypeId} {type target part : ValueType}
  {arguments others : List ValueType} {index other : UInt16} {bound : Nat}

/-! ### Parts -/

/-- A value type that is neither a parameter nor made from others. -/
def IsPlain : ValueType → Prop
  | .parameter _ | .pointer _ | .defined _ _ => False
  | .void | .bool | .int32 | .int64 | .float64 | .string | .object | .callback | .foreign _ => True

/-- Value types are made from plain ones and parameters, as pointers and as instantiations. -/
@[elab_as_elim]
theorem induct {motive : ValueType → Prop} (plain : ∀ type, IsPlain type → motive type)
    (parameter : ∀ index, motive (.parameter index))
    (pointer : ∀ target, motive target → motive (.pointer target))
    (defined : ∀ id arguments, (∀ argument ∈ arguments, motive argument) →
      motive (.defined id arguments)) : (type : ValueType) → motive type
  | .void => plain _ trivial
  | .bool => plain _ trivial
  | .int32 => plain _ trivial
  | .int64 => plain _ trivial
  | .float64 => plain _ trivial
  | .string => plain _ trivial
  | .object => plain _ trivial
  | .callback => plain _ trivial
  | .foreign _ => plain _ trivial
  | .parameter index => parameter index
  | .pointer target => pointer target (induct plain parameter pointer defined target)
  | .defined id arguments =>
    defined id arguments fun argument _ => induct plain parameter pointer defined argument

/-- A value type is a part of itself and of what is made from something it is a part of. -/
inductive Part (part : ValueType) : ValueType → Prop where
  | whole : Part part part
  | pointer {target : ValueType} (inside : Part part target) : Part part (.pointer target)
  | argument {id : TypeId} {arguments : List ValueType} {argument : ValueType}
    (listed : argument ∈ arguments) (inside : Part part argument) :
    Part part (.defined id arguments)

theorem part_parameter_iff : Part part (.parameter index) ↔ part = .parameter index :=
  ⟨fun inside => by cases inside; rfl, fun same => same ▸ .whole⟩

theorem part_pointer_iff :
    Part part (.pointer target) ↔ part = .pointer target ∨ Part part target := by
  constructor
  · rintro (_ | inside)
    · exact .inl rfl
    · exact .inr inside
  · rintro (rfl | inside)
    · exact .whole
    · exact .pointer inside

theorem part_defined_iff : Part part (.defined id arguments) ↔
    part = .defined id arguments ∨ ∃ argument ∈ arguments, Part part argument := by
  constructor
  · rintro (_ | _ | ⟨listed, inside⟩)
    · exact .inl rfl
    · exact .inr ⟨_, listed, inside⟩
  · rintro (rfl | ⟨argument, listed, inside⟩)
    · exact .whole
    · exact .argument listed inside

theorem IsPlain.part_iff (plain : IsPlain type) : Part part type ↔ part = type := by
  constructor
  · rintro (_ | _ | _)
    · rfl
    · exact plain.elim
    · exact plain.elim
  · rintro rfl
    exact .whole

/-! ### Mentioned parameters -/

/-- A parameter is a part of a value type. -/
def Mentions (type : ValueType) (index : UInt16) : Prop := Part (.parameter index) type

/-- All parameters that a value type mentions are below a bound. -/
def MentionsBelow (type : ValueType) (bound : Nat) : Prop :=
  ∀ index, type.Mentions index → index.toNat < bound

@[simp]
theorem mentions_parameter : (parameter index).Mentions other ↔ other = index := by
  simp [Mentions, part_parameter_iff]

@[simp]
theorem mentions_pointer : (pointer target).Mentions index ↔ target.Mentions index := by
  simp [Mentions, part_pointer_iff]

@[simp]
theorem mentions_defined :
    (defined id arguments).Mentions index ↔ ∃ argument ∈ arguments, argument.Mentions index := by
  simp [Mentions, part_defined_iff]

theorem IsPlain.not_mentions (plain : IsPlain type) : ¬type.Mentions index := by
  rw [Mentions, plain.part_iff]
  rintro rfl
  exact plain

@[simp]
theorem mentionsBelow_parameter : (parameter index).MentionsBelow bound ↔ index.toNat < bound := by
  simp [MentionsBelow]

@[simp]
theorem mentionsBelow_pointer :
    (pointer target).MentionsBelow bound ↔ target.MentionsBelow bound := by
  simp [MentionsBelow]

@[simp]
theorem mentionsBelow_defined : (defined id arguments).MentionsBelow bound ↔
    ∀ argument ∈ arguments, argument.MentionsBelow bound := by
  simp only [MentionsBelow, mentions_defined, forall_exists_index, and_imp]
  exact ⟨fun below argument listed index => below index argument listed,
    fun below index argument listed => below argument listed index⟩

theorem IsPlain.mentionsBelow (plain : IsPlain type) : type.MentionsBelow bound :=
  fun _ mentions => absurd mentions plain.not_mentions

/-! ### Closed value types -/

theorem IsPlain.isClosed (plain : IsPlain type) : type.isClosed = true := by
  cases type <;> first | exact plain.elim | rfl

/-- A closed value type mentions nothing. -/
theorem isClosed_iff : type.isClosed = true ↔ type.MentionsBelow 0 := by
  induction type using induct with
  | plain type plain => simp [plain.isClosed, plain.mentionsBelow]
  | parameter index => simp [isClosed]
  | pointer target ih => rw [isClosed, ih, mentionsBelow_pointer]
  | defined id arguments ih =>
      rw [isClosed, allClosed_eq_all, List.all_eq_true, mentionsBelow_defined]
      exact forall₂_congr ih

/-! ### Substituting -/

theorem IsPlain.substitute (plain : IsPlain type) : type.substitute arguments = type := by
  cases type <;> first | exact plain.elim | simp only [ValueType.substitute]

/-- What is substituted second can be substituted into the arguments first. -/
theorem substitute_substitute (below : type.MentionsBelow arguments.length) :
    (type.substitute arguments).substitute others =
      type.substitute (arguments.map (substitute others)) := by
  induction type using induct with
  | plain type plain => simp only [plain.substitute]
  | parameter index =>
      have inside : index.toNat < arguments.length := mentionsBelow_parameter.mp below
      simp only [substitute, List.getElem?_map, List.getElem?_eq_getElem inside, Option.map_some,
        Option.getD_some]
  | pointer target ih => simp only [substitute, ih (mentionsBelow_pointer.mp below)]
  | defined id inner ih =>
      simp only [substitute, substituteAll_eq_map, List.map_map, defined.injEq, true_and]
      refine List.map_congr_left fun argument listed => ?_
      exact ih argument listed (mentionsBelow_defined.mp below argument listed)

/-- Closed arguments close a value type unless it mentions a parameter that has none of them. -/
theorem isClosed_substitute_iff (closed : ∀ argument ∈ arguments, argument.isClosed = true) :
    (type.substitute arguments).isClosed = true ↔ type.MentionsBelow arguments.length := by
  induction type using induct with
  | plain type plain => simp [plain.substitute, plain.isClosed, plain.mentionsBelow]
  | parameter index =>
      rw [substitute, mentionsBelow_parameter]
      by_cases inside : index.toNat < arguments.length
      · rw [List.getElem?_eq_getElem inside, Option.getD_some]
        exact ⟨fun _ => inside, fun _ => closed _ (List.getElem_mem inside)⟩
      · rw [List.getElem?_eq_none (Nat.le_of_not_lt inside), Option.getD_none]
        simp [isClosed, inside]
  | pointer target ih => rw [substitute, isClosed, ih, mentionsBelow_pointer]
  | defined id inner ih =>
      rw [substitute, isClosed, allClosed_eq_all, substituteAll_eq_map, List.all_map,
        List.all_eq_true, mentionsBelow_defined]
      exact forall₂_congr ih

theorem substitute_of_closed (closed : type.isClosed = true) :
    type.substitute arguments = type := by
  rw [isClosed_iff] at closed
  induction type using induct with
  | plain type plain => exact plain.substitute
  | parameter index => simp at closed
  | pointer target ih => rw [substitute, ih (mentionsBelow_pointer.mp closed)]
  | defined id inner ih =>
      have same : ∀ argument ∈ inner, argument.substitute arguments = argument :=
        fun argument listed => ih argument listed (mentionsBelow_defined.mp closed argument listed)
      rw [substitute, substituteAll_eq_map, (List.map_congr_left same).trans (List.map_id' inner)]

/-- A member that is bound inside a routine whose type is itself bound in a frame: closing one
binding after the other is closing the first by the second and then both. -/
theorem close_close {inner outer : Binding}
    (below : ∀ type ∈ inner.arguments, type.MentionsBelow outer.arguments.length) :
    inner.close (outer.close others) = (inner.close outer.arguments).map (substitute others) := by
  simp only [Binding.close, List.map_map]
  exact List.map_congr_left fun type listed => (substitute_substitute (below type listed)).symm

/-! ### The greatest parameter -/

theorem greatest_below_iff {left right : Option UInt16} :
    (∀ index ∈ greatest left right, index.toNat < bound) ↔
      (∀ index ∈ left, index.toNat < bound) ∧ ∀ index ∈ right, index.toNat < bound := by
  rcases left with _ | left
  · simp [greatest]
  · rcases right with _ | right
    · simp [greatest]
    · simp only [greatest, Option.mem_def, Option.some.injEq, forall_eq']
      split
      · next le =>
          have : left.toNat ≤ right.toNat := UInt16.le_iff_toNat_le.mp le
          omega
      · next gt =>
          have : ¬left.toNat ≤ right.toNat := fun le => gt (UInt16.le_iff_toNat_le.mpr le)
          omega

theorem maxParameterOfAll_below_iff :
    (∀ index ∈ maxParameterOfAll arguments, index.toNat < bound) ↔
      ∀ argument ∈ arguments, ∀ index ∈ argument.maxParameter, index.toNat < bound := by
  induction arguments with
  | nil => simp [maxParameterOfAll]
  | cons argument arguments ih =>
      rw [maxParameterOfAll, greatest_below_iff, ih, List.forall_mem_cons]

theorem IsPlain.maxParameter (plain : IsPlain type) : type.maxParameter = none := by
  cases type <;> first | exact plain.elim | rfl

/-- What is mentioned is below a bound if the greatest of it is. -/
theorem maxParameter_below_iff :
    (∀ index ∈ type.maxParameter, index.toNat < bound) ↔ type.MentionsBelow bound := by
  induction type using induct with
  | plain type plain => simp [plain.maxParameter, plain.mentionsBelow]
  | parameter index => simp [ValueType.maxParameter]
  | pointer target ih => rw [ValueType.maxParameter, ih, mentionsBelow_pointer]
  | defined id arguments ih =>
      rw [ValueType.maxParameter, maxParameterOfAll_below_iff, mentionsBelow_defined]
      exact forall₂_congr ih

theorem maxParameter_of_closed (closed : type.isClosed = true) : type.maxParameter = none := by
  have none_below := maxParameter_below_iff.mpr (isClosed_iff.mp closed)
  rcases found : type.maxParameter with _ | index
  · rfl
  · exact absurd (none_below index found) (Nat.not_lt_zero _)

/-! ### The validator -/

/-- The types that a value type names exist and have as many parameters as they get arguments. -/
def NamesTypes (module : Module) (type : ValueType) : Prop :=
  ∀ id arguments, Part (.defined id arguments) type →
    ∃ declared, module.type? id = some declared ∧ arguments.length = declared.arity

theorem IsPlain.namesTypes (plain : IsPlain type) : type.NamesTypes module := by
  intro id arguments inside
  cases plain.part_iff.mp inside
  exact plain.elim

theorem namesTypes_parameter : (parameter index).NamesTypes module := by
  intro id arguments inside
  cases part_parameter_iff.mp inside

theorem namesTypes_pointer : (pointer target).NamesTypes module ↔ target.NamesTypes module := by
  simp [NamesTypes, part_pointer_iff]

theorem namesTypes_defined : (defined id arguments).NamesTypes module ↔
    (∃ declared, module.type? id = some declared ∧ arguments.length = declared.arity) ∧
      ∀ argument ∈ arguments, argument.NamesTypes module := by
  constructor
  · intro names
    exact ⟨names id arguments .whole, fun argument listed id arguments inside =>
      names id arguments (.argument listed inside)⟩
  · rintro ⟨here, inner⟩ id arguments inside
    rcases part_defined_iff.mp inside with same | ⟨argument, listed, within⟩
    · cases same
      exact here
    · exact inner argument listed id arguments within

theorem IsPlain.fits (plain : IsPlain type) : TypeFits module bound type := by
  cases type <;> first | exact plain.elim | trivial

theorem typeFits_iff :
    TypeFits module bound type ↔ type.MentionsBelow bound ∧ type.NamesTypes module := by
  induction type using induct with
  | plain type plain => simp [plain.fits, plain.mentionsBelow, plain.namesTypes]
  | parameter index => simp [TypeFits, namesTypes_parameter]
  | pointer target ih => rw [TypeFits, ih, mentionsBelow_pointer, namesTypes_pointer]
  | defined id arguments ih =>
      rw [TypeFits, typesFit_iff, forall₂_congr ih, mentionsBelow_defined, namesTypes_defined]
      simp only [forall_and]
      exact and_left_comm

theorem IsPlain.checkValueType (plain : IsPlain type) :
    checkValueType module context bound type = .ok () := by
  cases type <;> first | exact plain.elim | rfl

theorem exists_of_checkValueTypes_error {defect : Defect}
    (refused : checkValueTypes module context bound arguments = .error defect) :
    ∃ argument ∈ arguments, checkValueType module context bound argument = .error defect := by
  induction arguments with
  | nil => cases refused
  | cons argument arguments ih =>
      rw [checkValueTypes, bind_eq_error_iff] at refused
      rcases refused with here | ⟨_, _, later⟩
      · exact ⟨argument, List.mem_cons_self, here⟩
      · rcases ih later with ⟨found, listed, there⟩
        exact ⟨found, List.mem_cons_of_mem argument listed, there⟩

/-- Why a value type is refused: it mentions a parameter that is not below the bound, and the defect
names it, or it does not name types as it should, and the defect is of another kind. -/
inductive Refused (module : Module) (context : String) (bound : Nat) (type : ValueType) :
    Defect → Prop where
  | beyond {index : UInt16} (mentions : type.Mentions index) (reaches : bound ≤ index.toNat) :
    Refused module context bound type (.parameterOutOfRange context index bound)
  | astray {defect : Defect} (misnames : ¬type.NamesTypes module)
      (unlike : ∀ context index arity, defect ≠ .parameterOutOfRange context index arity) :
    Refused module context bound type defect

theorem Refused.pointer {defect : Defect} (refused : Refused module context bound target defect) :
    Refused module context bound (.pointer target) defect := by
  cases refused with
  | beyond mentions reaches => exact .beyond (mentions_pointer.mpr mentions) reaches
  | astray misnames unlike =>
      exact .astray (fun names => misnames (namesTypes_pointer.mp names)) unlike

theorem Refused.argument {defect : Defect} (listed : type ∈ arguments)
    (refused : Refused module context bound type defect) :
    Refused module context bound (.defined id arguments) defect := by
  cases refused with
  | beyond mentions reaches =>
      exact .beyond (mentions_defined.mpr ⟨type, listed, mentions⟩) reaches
  | astray misnames unlike =>
      exact .astray (fun names => misnames ((namesTypes_defined.mp names).2 type listed)) unlike

theorem checkValueType_refused {defect : Defect}
    (refused : checkValueType module context bound type = .error defect) :
    Refused module context bound type defect := by
  induction type using induct with
  | plain type plain =>
      rw [plain.checkValueType] at refused
      cases refused
  | parameter index =>
      rw [checkValueType] at refused
      split at refused
      · cases refused
      · next reaches =>
          cases refused
          exact .beyond (mentions_parameter.mpr rfl) (Nat.le_of_not_lt reaches)
  | pointer target ih =>
      rw [checkValueType] at refused
      exact (ih refused).pointer
  | defined id arguments ih =>
      rw [checkValueType] at refused
      rcases found : module.type? id with _ | declared
      · simp only [arityOf, found] at refused
        cases refused
        refine .astray (fun names => ?_) nofun
        rcases (namesTypes_defined.mp names).1 with ⟨declared, known, _⟩
        rw [found] at known
        cases known
      · simp only [arityOf, found] at refused
        split at refused
        · rcases exists_of_checkValueTypes_error refused with ⟨argument, listed, there⟩
          exact (ih argument listed there).argument listed
        · next uneven =>
            cases refused
            refine .astray (fun names => ?_) nofun
            rcases (namesTypes_defined.mp names).1 with ⟨known, sameType, even⟩
            rw [found] at sameType
            cases sameType
            exact uneven even

/-- Substituting twice is substituting once by arguments that were substituted before, as long as no
parameter is mentioned that has no argument; so bindings can be closed one frame after the other.
Closed arguments close just the value types of that kind. A closed value type stays what it is and
has no greatest parameter. Parameters are below a bound if the greatest is, and the validator asks
just this of them. -/
theorem substitution_composes (module : Module) (context : String) (type : ValueType)
    (arguments others : List ValueType) (bound : Nat) :
    (type.MentionsBelow arguments.length →
      (type.substitute arguments).substitute others =
        type.substitute (arguments.map (substitute others))) ∧
    (∀ inner outer : Binding,
      (∀ type ∈ inner.arguments, type.MentionsBelow outer.arguments.length) →
      inner.close (outer.close others) = (inner.close outer.arguments).map (substitute others)) ∧
    ((∀ argument ∈ arguments, argument.isClosed = true) →
      ((type.substitute arguments).isClosed = true ↔ type.MentionsBelow arguments.length)) ∧
    (type.isClosed = true → type.substitute arguments = type ∧ type.maxParameter = none) ∧
    (type.MentionsBelow bound ↔ ∀ index ∈ type.maxParameter, index.toNat < bound) ∧
    (checkValueType module context bound type = .ok () ↔
      type.MentionsBelow bound ∧ type.NamesTypes module) ∧
    ∀ defect, checkValueType module context bound type = .error defect →
      Refused module context bound type defect := by
  refine ⟨substitute_substitute, fun _ _ => close_close, isClosed_substitute_iff, fun closed => ?_,
    maxParameter_below_iff.symm, ?_, fun _ => checkValueType_refused⟩
  · exact ⟨substitute_of_closed closed, maxParameter_of_closed closed⟩
  · rw [checkValueType_eq_ok_iff, typeFits_iff]

end Rekindle.ValueType

/-! ### Maps of lists -/

namespace Rekindle.ValueType.Maps

open Validity

/-- A module with maps and lists. -/
def module : Module where
  name := "app"
  identity := Vector.replicate 16 0
  references := []
  types := #[{ TypeDecl.named "Map" with parameters := ["K", "V"] },
    { TypeDecl.named "List" with parameters := ["T"] }]
  fields := #[]
  routines := #[]
  topLevel := [⟨0⟩, ⟨1⟩]

def mapOf (key value : ValueType) : ValueType := .defined ⟨0⟩ [key, value]

def listOf (item : ValueType) : ValueType := .defined ⟨1⟩ [item]

/-- A place for maps from the second parameter to lists of the first. -/
def index : ValueType := .pointer (mapOf (.parameter 1) (listOf (.parameter 0)))

theorem index_below : index.MentionsBelow 2 := by
  simp [index, mapOf, listOf]

/-- What a routine of a type of one parameter binds the place to: lists of its parameter, and
texts. -/
def binding : Binding := .instantiated [listOf (.parameter 0), .string]

/-- Such a routine is run for numbers. -/
theorem substitution_composes_maps :
    (index.substitute binding.arguments).substitute [.int32] =
      .pointer (mapOf .string (listOf (listOf .int32))) ∧
    (Binding.instantiated [index]).close (binding.close [.int32]) =
      [.pointer (mapOf .string (listOf (listOf .int32)))] ∧
    (index.substitute [.int64, .string]).isClosed = true ∧
    (listOf .int32).substitute binding.arguments = listOf .int32 ∧
    checkValueType module "Maps" 2 index = .ok () ∧
    ∃ defect, checkValueType module "Maps" 1 index = .error defect ∧
      Refused module "Maps" 1 index defect := by
  rcases substitution_composes module "Maps" index binding.arguments [.int32] 1 with
    ⟨composes, closes, _, _, _, _, refuses⟩
  have refused : checkValueType module "Maps" 1 index =
      .error (.parameterOutOfRange "Maps" 1 1) := rfl
  refine ⟨composes index_below, ?_, ?_, ?_, rfl, _, refused, refuses _ refused⟩
  · refine closes (.instantiated [index]) binding fun type listed => ?_
    rw [List.mem_singleton.mp listed]
    exact index_below
  · exact ((substitution_composes module "Maps" index [.int64, .string] [] 2).2.2.1
      (by decide)).mpr index_below
  · exact ((substitution_composes module "Maps" (listOf .int32) binding.arguments [] 0).2.2.2.1
      (by decide)).1

end Rekindle.ValueType.Maps
