import Rekindle.Image.Declaration
import Rekindle.Proofs.Image.Reading

/-!
# Declarations read back

The reader of every declaration undoes its writer. Value types nest, so their reader is given a
depth. The bytes of a value type are at least as many as its levels, which makes the depth
sufficient for the whole of them. On a part of the bytes the depth may be too small, but then a
reader with more of it would also have run out of bytes.
-/

namespace Rekindle

namespace Table

variable {α : Type}

theorem insertInto_last {key : UInt32} {value : α} {entries : List (UInt32 × α)}
    (largest : ∀ entry ∈ entries, entry.1 < key) :
    insertInto key value entries = entries ++ [(key, value)] := by
  induction entries with
  | nil => rfl
  | cons head rest ih =>
      have less := largest head List.mem_cons_self
      have apart : key ≠ head.1 := fun same => UInt32.lt_irrefl _ (same ▸ less)
      rw [insertInto, if_neg (UInt32.not_lt.mpr (UInt32.le_of_lt less)), if_neg apart,
        ih fun entry member => largest entry (List.mem_cons_of_mem head member)]
      rfl

theorem foldl_insert {entries : List (UInt32 × α)} (table : Table α)
    (ascending : (table.entries ++ entries).Pairwise fun left right => left.1 < right.1) :
    (entries.foldl (fun table pair => table.insert pair.1 pair.2) table).entries =
      table.entries ++ entries := by
  induction entries generalizing table with
  | nil => simp
  | cons head rest ih =>
      have largest : ∀ entry ∈ table.entries, entry.1 < head.1 := fun entry member =>
        (List.pairwise_append.mp ascending).2.2 entry member head List.mem_cons_self
      have put : (table.insert head.1 head.2).entries = table.entries ++ [head] :=
        insertInto_last largest
      have later := ih (table.insert head.1 head.2) (by simpa [put] using ascending)
      simpa [put] using later

theorem ofList_entries (table : Table α) : ofList table.entries = table := by
  apply ext
  exact foldl_insert empty (by simpa [empty] using table.ascending)

end Table

namespace Image

theorem readTypeId_undoes : Undoes readTypeId writeTypeId where
  used id := readUInt32_undoes.used id.index
  reads _ fits := readUInt32_undoes.last fits rfl

theorem readFieldId_undoes : Undoes readFieldId writeFieldId where
  used id := readUInt32_undoes.used id.index
  reads _ fits := readUInt32_undoes.last fits rfl

theorem readRoutineId_undoes : Undoes readRoutineId writeRoutineId where
  used id := readUInt32_undoes.used id.index
  reads _ fits := readUInt32_undoes.last fits rfl

/-! ## Value types -/

section Depth

variable {α β : Type}

/-- One reader answers as another does, or finds the bytes malformed. -/
def Within (read deeper : Reader α) : Prop :=
  ∀ bytes, read bytes = .error .malformed ∨ read bytes = deeper bytes

theorem Within.refl (read : Reader α) : Within read read := fun _ => .inr rfl

theorem Within.bind {read deeper : Reader α} {next after : α → Reader β}
    (within : Within read deeper) (goesOn : ∀ value, Within (next value) (after value)) :
    Within (read >>= next) (deeper >>= after) := by
  intro bytes
  rw [bind_eq, bind_eq]
  rcases within bytes with broken | same
  · rw [broken]
    exact .inl rfl
  · rw [same]
    cases deeper bytes with
    | ok result => exact goesOn result.1 result.2
    | error fault => exact .inr rfl

theorem Within.readMany {read deeper : Reader α} (within : Within read deeper) (count : Nat) :
    Within (readMany read count) (Image.readMany deeper count) := by
  induction count with
  | zero => exact .refl _
  | succ count ih =>
      exact within.bind fun item => ih.bind fun items => .refl _

theorem readValueTypeWithin_within {depth more : Nat} (less : depth ≤ more) :
    Within (readValueTypeWithin depth) (readValueTypeWithin more) := by
  induction depth generalizing more with
  | zero => exact fun _ => .inl rfl
  | succ depth ih =>
      obtain ⟨more, rfl⟩ := Nat.exists_eq_succ_of_ne_zero (Nat.ne_of_gt (Nat.zero_lt_of_lt less))
      have below := ih (Nat.le_of_succ_le_succ less)
      unfold readValueTypeWithin
      refine (Within.refl _).bind ?_
      intro number
      split
      case h_9 => exact below.bind fun target => .refl _
      case h_10 =>
          refine (Within.refl _).bind fun type => ?_
          refine Within.bind ?_ fun arguments => .refl _
          exact (Within.refl _).bind fun count => below.readMany count
      all_goals exact .refl _

end Depth

theorem writeValueType_ne_nil (type : ValueType) : writeValueType type ≠ [] := by
  cases type <;> simp [writeValueType]

theorem writeValueTypes_eq (types : List ValueType) :
    writeValueTypes types = types.flatMap writeValueType := by
  induction types with
  | nil => rfl
  | cons type types ih => rw [writeValueTypes, ih, List.flatMap_cons]

/-- Where a value type lies in another, its bytes are less. -/
theorem readValueTypeWithin_reads (type : ValueType) (depth : Nat)
    (enough : (writeValueType type).length ≤ depth)
    (fits : (writeValueType type).length < memoryLimit) :
    Reads (readValueTypeWithin depth) (writeValueType type) type := by
  induction depth generalizing type with
  | zero =>
      have := List.length_pos_iff.mpr (writeValueType_ne_nil type)
      omega
  | succ depth ih =>
      unfold readValueTypeWithin
      cases type with
      | void | bool | int32 | int64 | float64 | string | object | callback =>
          exact bare_reads (by decide) rfl
      | pointer target =>
          simp only [writeValueType, List.length_append, length_writeNat (n := 8) (by decide)]
            at enough fits
          exact choice_reads (by decide) ((ih target (by omega) (by omega)).last rfl)
      | defined id arguments =>
          simp only [writeValueType, writeValueTypes_eq, List.length_append,
            length_writeNat (n := 9) (by decide)] at enough fits ⊢
          rw [List.append_assoc]
          refine choice_reads (by decide) ?_
          refine (readTypeId_undoes.reads id (by omega)).bind ?_
          have count := length_le_flatMap writeValueType_ne_nil arguments
          have read : Reads (readList (readValueTypeWithin depth))
              (writeList writeValueType arguments) arguments := by
            refine readList_reads arguments (by omega) ?_
            intro argument member
            have part := item_le_flatMap writeValueType member
            exact ih argument (by omega) (by omega)
          exact read.last rfl
      | parameter index =>
          exact readUInt16_undoes.choice (by decide) fits rfl rfl
      | foreign name =>
          exact readText_undoes.choice (by decide) fits rfl rfl

theorem readValueType_undoes : Undoes readValueType writeValueType where
  used := writeValueType_ne_nil
  reads type fits := by
    constructor
    · intro rest
      have enough : (writeValueType type).length ≤ (writeValueType type ++ rest).length := by
        rw [List.length_append]
        omega
      exact (readValueTypeWithin_reads type _ enough fits).whole rest
    · intro front back split missing
      have less : front.length ≤ (writeValueType type).length := by
        rw [split, List.length_append]
        omega
      have broken := (readValueTypeWithin_reads type _ (Nat.le_refl _) fits).cut front back split
        missing
      rcases readValueTypeWithin_within less front with same | same
      · exact same
      · exact same.trans broken

/-! ## Instructions and bodies -/

theorem readBinding_undoes : Undoes readBinding writeBinding where
  used binding := by cases binding <;> simp [writeBinding]
  reads binding fits := by
    cases binding with
    | direct => exact bare_reads (by decide) rfl
    | instantiated arguments =>
        exact (readList_undoes readValueType_undoes).choice (by decide) fits rfl rfl

theorem readFieldRef_undoes : Undoes readFieldRef writeFieldRef where
  used reference := by simp [writeFieldRef, readFieldId_undoes.used]
  reads reference fits := by
    refine readFieldId_undoes.bind fits fun fits => ?_
    exact readBinding_undoes.last fits rfl

theorem readRoutineRef_undoes : Undoes readRoutineRef writeRoutineRef where
  used reference := by simp [writeRoutineRef, readRoutineId_undoes.used]
  reads reference fits := by
    refine readRoutineId_undoes.bind fits fun fits => ?_
    exact readBinding_undoes.last fits rfl

theorem readInstruction_undoes : Undoes readInstruction writeInstruction where
  used instruction := by cases instruction <;> simp [writeInstruction]
  reads instruction fits := by
    cases instruction with
    | nop | ret | pop | dup | loadNull | add | subtract | multiply | compareEqual | newCallback
    | combineCallbacks | invokeCallback | compareExchange | throw | endFinally =>
        exact bare_reads (by decide) rfl
    | loadInt32 => exact readInt32_undoes.choice (by decide) fits rfl rfl
    | loadInt64 => exact readInt64_undoes.choice (by decide) fits rfl rfl
    | loadFloat64 => exact readBinary64_undoes.choice (by decide) fits rfl rfl
    | loadString => exact readText_undoes.choice (by decide) fits rfl rfl
    | loadLocal | storeLocal | loadArgument =>
        exact readUInt16_undoes.choice (by decide) fits rfl rfl
    | loadField | storeField | loadFieldAddress =>
        exact readFieldRef_undoes.choice (by decide) fits rfl rfl
    | storeDefault => exact readValueType_undoes.choice (by decide) fits rfl rfl
    | branch | branchTrue | branchFalse | branchUnequal | leave =>
        exact readUInt32_undoes.choice (by decide) fits rfl rfl
    | call | loadRoutine => exact readRoutineRef_undoes.choice (by decide) fits rfl rfl

theorem readHandlerKind_undoes : Undoes readHandlerKind writeHandlerKind where
  used kind := by cases kind <;> simp [writeHandlerKind]
  reads kind _ := by cases kind <;> exact bare_reads (by decide) rfl

theorem readHandler_undoes : Undoes readHandler writeHandler where
  used handler := by simp [writeHandler, readHandlerKind_undoes.used]
  reads handler fits := by
    simp only [writeHandler, List.append_assoc] at fits ⊢
    refine readHandlerKind_undoes.bind fits fun fits => ?_
    refine readUInt32_undoes.bind fits fun fits => ?_
    refine readUInt32_undoes.bind fits fun fits => ?_
    refine readUInt32_undoes.bind fits fun fits => ?_
    exact readUInt32_undoes.last fits rfl

theorem readBody_undoes : Undoes readBody writeBody where
  used body := by simp [writeBody, readBool_undoes.used]
  reads body fits := by
    simp only [writeBody, List.append_assoc] at fits ⊢
    refine readBool_undoes.bind fits fun fits => ?_
    refine (readList_undoes readValueType_undoes).bind fits fun fits => ?_
    refine (readList_undoes readInstruction_undoes).bind fits fun fits => ?_
    refine (readList_undoes readHandler_undoes).last fits ?_
    rw [Array.toArray_toList]

/-! ## Types, fields and routines -/

theorem readConstant_undoes : Undoes readConstant writeConstant where
  used value := by cases value <;> simp [writeConstant]
  reads value fits := by
    cases value with
    | bool => exact readBool_undoes.choice (by decide) fits rfl rfl
    | int32 => exact readInt32_undoes.choice (by decide) fits rfl rfl
    | int64 => exact readInt64_undoes.choice (by decide) fits rfl rfl
    | float64 => exact readBinary64_undoes.choice (by decide) fits rfl rfl
    | string => exact readText_undoes.choice (by decide) fits rfl rfl

theorem readProperty_undoes : Undoes readProperty writeProperty where
  used property := by simp [writeProperty, readText_undoes.used]
  reads property fits := by
    refine readText_undoes.bind fits fun fits => ?_
    exact readConstant_undoes.last fits rfl

theorem readAttribute_undoes : Undoes readAttribute writeAttribute where
  used attached := by simp [writeAttribute, readText_undoes.used]
  reads attached fits := by
    refine readText_undoes.bind fits fun fits => ?_
    exact (readList_undoes readProperty_undoes).last fits rfl

theorem readVisibility_undoes : Undoes readVisibility writeVisibility where
  used visibility := by cases visibility <;> simp [writeVisibility]
  reads visibility _ := by cases visibility <;> exact bare_reads (by decide) rfl

theorem readTypeDecl_undoes : Undoes readTypeDecl writeTypeDecl where
  used type := by simp [writeTypeDecl, readText_undoes.used]
  reads type fits := by
    simp only [writeTypeDecl, List.append_assoc] at fits ⊢
    refine readText_undoes.bind fits fun fits => ?_
    refine readText_undoes.bind fits fun fits => ?_
    refine readVisibility_undoes.bind fits fun fits => ?_
    refine readBool_undoes.bind fits fun fits => ?_
    refine readBool_undoes.bind fits fun fits => ?_
    refine (readList_undoes readText_undoes).bind fits fun fits => ?_
    refine (readList_undoes readAttribute_undoes).bind fits fun fits => ?_
    refine (readOption_undoes readTypeId_undoes).bind fits fun fits => ?_
    refine (readList_undoes readTypeId_undoes).bind fits fun fits => ?_
    refine (readList_undoes readFieldId_undoes).bind fits fun fits => ?_
    exact (readList_undoes readRoutineId_undoes).last fits rfl

theorem readFieldDecl_undoes : Undoes readFieldDecl writeFieldDecl where
  used field := by simp [writeFieldDecl, readText_undoes.used]
  reads field fits := by
    simp only [writeFieldDecl, List.append_assoc] at fits ⊢
    refine readText_undoes.bind fits fun fits => ?_
    refine readTypeId_undoes.bind fits fun fits => ?_
    refine readValueType_undoes.bind fits fun fits => ?_
    refine readVisibility_undoes.bind fits fun fits => ?_
    refine readBool_undoes.bind fits fun fits => ?_
    refine readBool_undoes.bind fits fun fits => ?_
    refine readBool_undoes.bind fits fun fits => ?_
    refine (readOption_undoes readConstant_undoes).bind fits fun fits => ?_
    exact (readList_undoes readAttribute_undoes).last fits rfl

theorem readParameter_undoes : Undoes readParameter writeParameter where
  used parameter := by simp [writeParameter, readText_undoes.used]
  reads parameter fits := by
    refine readText_undoes.bind fits fun fits => ?_
    exact readValueType_undoes.last fits rfl

theorem readRoutineDecl_undoes : Undoes readRoutineDecl writeRoutineDecl where
  used routine := by simp [writeRoutineDecl, readText_undoes.used]
  reads routine fits := by
    simp only [writeRoutineDecl, List.append_assoc] at fits ⊢
    refine readText_undoes.bind fits fun fits => ?_
    refine readTypeId_undoes.bind fits fun fits => ?_
    refine readVisibility_undoes.bind fits fun fits => ?_
    refine readBool_undoes.bind fits fun fits => ?_
    refine readBool_undoes.bind fits fun fits => ?_
    refine (readList_undoes readParameter_undoes).bind fits fun fits => ?_
    refine readValueType_undoes.bind fits fun fits => ?_
    refine (readList_undoes readText_undoes).bind fits fun fits => ?_
    refine (readList_undoes readAttribute_undoes).bind fits fun fits => ?_
    exact (readOption_undoes readBody_undoes).last fits rfl

/-! ## Modules -/

theorem readIdentity_undoes : Undoes readIdentity writeIdentity where
  used identity := by
    refine List.ne_nil_of_length_pos ?_
    simp [writeIdentity]
  reads identity _ := by
    have sized : identity.toList.length = 16 := Vector.length_toList
    refine (takeBytes_reads sized).last ?_
    rw [dif_pos sized]
    congr 1

theorem readModule_undoes : Undoes readModule writeModule where
  used module := by simp [writeModule, readText_undoes.used]
  reads module fits := by
    simp only [writeModule, List.append_assoc] at fits ⊢
    refine readText_undoes.bind fits fun fits => ?_
    refine readIdentity_undoes.bind fits fun fits => ?_
    refine (readList_undoes readText_undoes).bind fits fun fits => ?_
    refine (readList_undoes readTypeDecl_undoes).bind fits fun fits => ?_
    refine (readList_undoes readFieldDecl_undoes).bind fits fun fits => ?_
    refine (readList_undoes readRoutineDecl_undoes).bind fits fun fits => ?_
    refine (readList_undoes readTypeId_undoes).last fits ?_
    simp only [Array.toArray_toList]

/-! ## Debug symbols -/

theorem readLocation_undoes : Undoes readLocation writeLocation where
  used location := by simp [writeLocation, readText_undoes.used]
  reads location fits := by
    simp only [writeLocation, List.append_assoc] at fits ⊢
    refine readText_undoes.bind fits fun fits => ?_
    refine readUInt32_undoes.bind fits fun fits => ?_
    exact readUInt32_undoes.last fits rfl

theorem readPoint_undoes : Undoes readPoint writePoint where
  used point := by simp [writePoint, readUInt32_undoes.used]
  reads point fits := by
    refine readUInt32_undoes.bind fits fun fits => ?_
    exact readLocation_undoes.last fits rfl

section Tables

variable {α : Type} {read : Reader α} {write : α → List UInt8}

theorem readEntry_undoes (undoes : Undoes read write) :
    Undoes (readEntry read) (writeEntry write) where
  used entry := by simp [writeEntry, readUInt32_undoes.used]
  reads entry fits := by
    refine readUInt32_undoes.bind fits fun fits => ?_
    exact undoes.last fits rfl

theorem readTable_undoes (undoes : Undoes read write) :
    Undoes (readTable read) (writeTable write) where
  used table := (readList_undoes (readEntry_undoes undoes)).used table.entries
  reads table fits := by
    refine (readList_undoes (readEntry_undoes undoes)).last fits ?_
    rw [Table.ofList_entries]

end Tables

theorem readSymbols_undoes : Undoes readSymbols writeSymbols where
  used symbols := by simp [writeSymbols, readIdentity_undoes.used]
  reads symbols fits := by
    simp only [writeSymbols, List.append_assoc] at fits ⊢
    refine readIdentity_undoes.bind fits fun fits => ?_
    refine (readTable_undoes (readList_undoes readPoint_undoes)).bind fits fun fits => ?_
    exact (readTable_undoes readLocation_undoes).last fits rfl

end Image

end Rekindle
