import Mathlib.Algebra.Group.Nat.Defs
import Rekindle.Image.Primitive

/-!
# Readers that undo writers

The bytes of a value delimit themselves: the reader takes the value off them whatever follows, and
finds them malformed when any of the last ones are missing. Both are carried from the parts to the
whole, so it is enough to look at one part at a time. A value is taken to be small enough that its
bytes fit in a memory; a text or a list of more bytes than that is never written.
-/

namespace Rekindle.Image

variable {α β : Type}

/-- A byte array has less bytes than this. -/
def memoryLimit : Nat := 0x8000000000000000

/-- A reader takes a value off its bytes, and finds them malformed when the end is missing. -/
structure Reads (read : Reader α) (bytes : List UInt8) (value : α) : Prop where
  whole : ∀ rest, read (bytes ++ rest) = .ok (value, rest)
  cut : ∀ front back, bytes = front ++ back → back ≠ [] → read front = .error .malformed

theorem bind_eq (read : Reader α) (next : α → Reader β) (bytes : List UInt8) :
    (read >>= next) bytes =
      match read bytes with
      | .ok (value, rest) => next value rest
      | .error fault => .error fault := by
  change (read bytes >>= fun result => next result.1 result.2) = _
  cases read bytes <;> rfl

namespace Reads

variable {read : Reader α} {next : α → Reader β} {first second : List UInt8} {value : α}
  {result : β}

theorem bind (reads : Reads read first value) (after : Reads (next value) second result) :
    Reads (read >>= next) (first ++ second) result := by
  constructor
  · intro rest
    rw [bind_eq, List.append_assoc, reads.whole]
    exact after.whole rest
  · intro front back split missing
    rw [bind_eq]
    rcases List.append_eq_append_iff.mp split with
      ⟨more, rfl, secondSplit⟩ | ⟨lost, firstSplit, rfl⟩
    · rw [reads.whole]
      exact after.cut more back secondSplit missing
    · cases lost with
      | nil =>
          rw [List.append_nil] at firstSplit
          subst first
          have all := reads.whole []
          rw [List.append_nil] at all
          rw [all]
          exact after.cut [] second rfl missing
      | cons byte lost =>
          rw [reads.cut front (byte :: lost) firstSplit (List.cons_ne_nil byte lost)]

theorem last (reads : Reads read first value) (done : next value = pure result) :
    Reads (read >>= next) first result := by
  constructor
  · intro rest
    rw [bind_eq, reads.whole]
    exact congrFun done rest
  · intro front back split missing
    rw [bind_eq, reads.cut front back split missing]

end Reads

theorem takeByte_reads (byte : UInt8) : Reads takeByte [byte] byte := by
  constructor
  · intro rest
    rfl
  · intro front back split missing
    cases front with
    | nil => rfl
    | cons head tail => simp_all

theorem splitExactly_append (bytes rest : List UInt8) :
    splitExactly bytes.length (bytes ++ rest) = some (bytes, rest) := by
  induction bytes with
  | nil => rfl
  | cons byte bytes ih => simp [splitExactly, ih]

theorem splitExactly_short {count : Nat} {bytes : List UInt8} (short : bytes.length < count) :
    splitExactly count bytes = none := by
  induction bytes generalizing count with
  | nil =>
      obtain ⟨count, rfl⟩ := Nat.exists_eq_succ_of_ne_zero (Nat.ne_of_gt short)
      rfl
  | cons byte bytes ih =>
      obtain ⟨count, rfl⟩ := Nat.exists_eq_succ_of_ne_zero (Nat.ne_of_gt (Nat.zero_lt_of_lt short))
      rw [splitExactly, ih (by simpa using short)]
      rfl

theorem takeBytes_reads {count : Nat} {bytes : List UInt8} (sized : bytes.length = count) :
    Reads (takeBytes count) bytes bytes := by
  subst count
  constructor
  · intro rest
    simp only [takeBytes, splitExactly_append]
  · intro front back split missing
    have short : front.length < bytes.length := by
      have := List.length_pos_iff.mpr missing
      simp only [split, List.length_append]
      omega
    simp only [takeBytes, splitExactly_short short]

/-! ## Numbers -/

@[simp]
theorem length_littleEndian (count n : Nat) : (littleEndian count n).length = count := by
  induction count generalizing n with
  | zero => rfl
  | succ count ih => simp [littleEndian, ih]

theorem ofLittleEndian_littleEndian (count n : Nat) (fits : n < 256 ^ count) :
    ofLittleEndian (littleEndian count n) = n := by
  induction count generalizing n with
  | zero =>
      simp only [Nat.pow_zero] at fits
      simp only [littleEndian, ofLittleEndian]
      omega
  | succ count ih =>
      have rest := ih (n / 256) (by rw [Nat.pow_succ] at fits; omega)
      simp only [littleEndian, ofLittleEndian, UInt8.toNat_ofNat', rest]
      omega

theorem littleEndian_reads {count n : Nat} (fits : n < 256 ^ count) :
    Reads (takeBytes count >>= fun bytes => pure (ofLittleEndian bytes)) (littleEndian count n)
      n := by
  refine (takeBytes_reads (length_littleEndian count n)).last ?_
  rw [ofLittleEndian_littleEndian count n fits]

@[simp]
theorem writeNat_ne_nil (n : Nat) : writeNat n ≠ [] := by
  unfold writeNat
  split
  · exact List.cons_ne_nil _ _
  · split
    · exact List.cons_ne_nil _ _
    · split <;> exact List.cons_ne_nil _ _

theorem length_writeNat {n : Nat} (small : n < 251) : (writeNat n).length = 1 := by
  rw [writeNat, if_pos small]
  rfl

theorem readNat_reads {width n : Nat} (sized : width ∈ [2, 4, 8]) (fits : n < 256 ^ width) :
    Reads (readNat width) (writeNat n) n := by
  have wide : 2 ≤ width ∧ (n < 0x10000 ∨ 4 ≤ width) ∧ (n < 0x100000000 ∨ 8 ≤ width) ∧
      n < 256 ^ 8 := by
    simp only [List.mem_cons, List.not_mem_nil, or_false] at sized
    rcases sized with rfl | rfl | rfl <;> omega
  rcases wide with ⟨two, four, eight, small⟩
  unfold readNat writeNat
  split
  · rename_i tiny
    refine (takeByte_reads _).last ?_
    have same : (UInt8.ofNat n).toNat = n := by
      rw [UInt8.toNat_ofNat']
      omega
    rw [same, if_pos tiny]
  · split
    · rename_i below
      refine (takeByte_reads 251).bind ?_
      rw [if_neg (by decide), if_pos ⟨rfl, two⟩]
      exact littleEndian_reads below
    · split
      · rename_i below
        refine (takeByte_reads 252).bind ?_
        rw [if_neg (by decide), if_neg (by simp), if_pos ⟨rfl, by omega⟩]
        exact littleEndian_reads below
      · refine (takeByte_reads 253).bind ?_
        rw [if_neg (by decide), if_neg (by simp), if_neg (by simp), if_pos ⟨rfl, by omega⟩]
        exact littleEndian_reads small

/-! ## Alternatives

A choice is the number of the alternative and then its parts. -/

section Alternatives

variable {next : Nat → Reader α} {more : List UInt8} {number : Nat} {value : α}

theorem choice_reads (small : number < 251) (parts : Reads (next number) more value) :
    Reads (readNat 4 >>= next) (writeNat number ++ more) value :=
  (readNat_reads (by decide) (by omega)).bind parts

theorem bare_reads (small : number < 251) (done : next number = pure value) :
    Reads (readNat 4 >>= next) (writeNat number) value :=
  (readNat_reads (by decide) (by omega)).last done

end Alternatives

/-! ## Readers and writers -/

/-- A reader takes off the bytes of a writer what was written. -/
structure Undoes (read : Reader α) (write : α → List UInt8) : Prop where
  used : ∀ value, write value ≠ []
  reads : ∀ value, (write value).length < memoryLimit → Reads read (write value) value

namespace Undoes

variable {read : Reader α} {write : α → List UInt8} {next : α → Reader β} {value : α}
  {more : List UInt8} {result : β}

theorem bind (undoes : Undoes read write) (fits : (write value ++ more).length < memoryLimit)
    (after : more.length < memoryLimit → Reads (next value) more result) :
    Reads (read >>= next) (write value ++ more) result := by
  rw [List.length_append] at fits
  exact (undoes.reads value (by omega)).bind (after (by omega))

theorem last (undoes : Undoes read write) (fits : (write value).length < memoryLimit)
    (done : next value = pure result) : Reads (read >>= next) (write value) result :=
  (undoes.reads value fits).last done

theorem choice {choose : Nat → Reader β} {number : Nat} (undoes : Undoes read write)
    (small : number < 251) (fits : (writeNat number ++ write value).length < memoryLimit)
    (part : choose number = read >>= next) (done : next value = pure result) :
    Reads (readNat 4 >>= choose) (writeNat number ++ write value) result := by
  rw [List.length_append] at fits
  refine choice_reads small ?_
  rw [part]
  exact undoes.last (by omega) done

end Undoes

theorem readUInt16_undoes : Undoes readUInt16 writeUInt16 where
  used n := writeNat_ne_nil n.toNat
  reads n _ := (readNat_reads (by decide) n.toNat_lt).last (by rw [UInt16.ofNat_toNat])

theorem readUInt32_undoes : Undoes readUInt32 writeUInt32 where
  used n := writeNat_ne_nil n.toNat
  reads n _ := (readNat_reads (by decide) n.toNat_lt).last (by rw [UInt32.ofNat_toNat])

theorem readInt32_undoes : Undoes readInt32 writeInt32 where
  used n := writeNat_ne_nil (fold n.toInt)
  reads n _ := by
    have below := n.toInt_lt
    have above := n.le_toInt
    refine (readNat_reads (by decide) ?_).last ?_
    · simp only [fold]
      split <;> omega
    · rw [unfold_fold, Int32.ofInt_toInt]

theorem readInt64_undoes : Undoes readInt64 writeInt64 where
  used n := writeNat_ne_nil (fold n.toInt)
  reads n _ := by
    have below := n.toInt_lt
    have above := n.le_toInt
    refine (readNat_reads (by decide) ?_).last ?_
    · simp only [fold]
      split <;> omega
    · rw [unfold_fold, Int64.ofInt_toInt]

theorem readBinary64_undoes : Undoes readBinary64 writeBinary64 where
  used x := List.cons_ne_nil _ _
  reads x _ := by
    refine (takeBytes_reads (length_littleEndian 8 x.bits.toNat)).last ?_
    rw [ofLittleEndian_littleEndian 8 _ x.bits.toNat_lt, UInt64.ofNat_toNat]

theorem readBool_undoes : Undoes readBool writeBool where
  used b := List.cons_ne_nil _ _
  reads b _ := by
    refine (takeByte_reads _).last ?_
    cases b <;> rfl

theorem readOption_undoes {read : Reader α} {write : α → List UInt8} (undoes : Undoes read write) :
    Undoes (readOption read) (writeOption write) where
  used value := by cases value <;> exact List.cons_ne_nil _ _
  reads value fits := by
    cases value with
    | none =>
        exact (readBool_undoes.reads false (by decide)).last rfl
    | some value =>
        have parts : (write value).length < memoryLimit := Nat.lt_of_succ_lt fits
        exact (readBool_undoes.reads true (by decide)).bind (undoes.last parts rfl)

theorem readText_undoes : Undoes readText writeText where
  used text := by simp [writeText]
  reads text fits := by
    have size : text.toByteArray.data.toList.length = text.toByteArray.size := rfl
    have small : text.toByteArray.size < memoryLimit := by
      simp only [writeText, List.length_append, size] at fits
      omega
    unfold memoryLimit at small
    refine (readNat_reads (by decide) (by omega)).bind ?_
    rw [if_neg (by omega)]
    refine (takeBytes_reads size).last ?_
    have same : String.fromUTF8? ⟨text.toByteArray.data.toList.toArray⟩ = some text := by
      rw [Array.toArray_toList, String.fromUTF8?, dif_pos text.isValidUTF8]
      rfl
    rw [same]

/-! ## Lists -/

theorem readMany_reads {read : Reader α} {write : α → List UInt8} (items : List α)
    (each : ∀ item ∈ items, Reads read (write item) item) :
    Reads (readMany read items.length) (items.flatMap write) items := by
  induction items with
  | nil =>
      constructor
      · intro rest
        rfl
      · intro front back split missing
        simp_all
  | cons item items ih =>
      refine (each item List.mem_cons_self).bind ?_
      exact (ih fun other member => each other (List.mem_cons_of_mem item member)).last rfl

theorem readList_reads {read : Reader α} {write : α → List UInt8} (items : List α)
    (count : items.length < memoryLimit)
    (each : ∀ item ∈ items, Reads read (write item) item) :
    Reads (readList read) (writeList write items) items := by
  unfold memoryLimit at count
  exact (readNat_reads (by decide) (by omega)).bind (readMany_reads items each)

theorem length_le_flatMap {write : α → List UInt8} (used : ∀ item, write item ≠ [])
    (items : List α) : items.length ≤ (items.flatMap write).length := by
  induction items with
  | nil => exact Nat.le_refl 0
  | cons item items ih =>
      have := List.length_pos_iff.mpr (used item)
      simp only [List.flatMap_cons, List.length_append, List.length_cons]
      omega

theorem item_le_flatMap (write : α → List UInt8) {items : List α} {item : α}
    (member : item ∈ items) : (write item).length ≤ (items.flatMap write).length := by
  obtain ⟨before, after, rfl⟩ := List.append_of_mem member
  simp only [List.flatMap_append, List.flatMap_cons, List.length_append]
  omega

theorem readList_undoes {read : Reader α} {write : α → List UInt8} (undoes : Undoes read write) :
    Undoes (readList read) (writeList write) where
  used items := by simp [writeList]
  reads items fits := by
    simp only [writeList, List.length_append] at fits
    have count := length_le_flatMap undoes.used items
    refine readList_reads items (by omega) ?_
    intro item member
    have part := item_le_flatMap write member
    exact undoes.reads item (by omega)

end Rekindle.Image
