import Rekindle.Body.Assembler
import Mathlib.Data.List.Induction

/-!
# Calls of an assembler

A body is put together by calls in any order, some of which fail: a label can be bound once, and
there are so many locals. What a sequence of calls asks for is read off the calls alone here: the
instructions, the clauses and the locals in their order, and where each label was marked first. The
assembler that the calls leave has recorded just that.
-/

namespace Rekindle.Assembler

/-- Something that is asked of an assembler. -/
inductive Call where
  | emit (instruction : Instruction)
  | emitBranch (kind : BranchKind) (label : Label)
  | declareLocal (type : ValueType)
  | newLabel
  | mark (label : Label)
  | addHandler (handler : DraftHandler)
deriving DecidableEq, Repr

/-- What an assembler answers. -/
inductive Answer where
  | done
  | slot (slot : UInt16)
  | label (label : Label)
deriving DecidableEq, Repr

namespace Call

def apply (assembler : Assembler) : Call → Except AssemblyFault (Assembler × Answer)
  | .emit instruction => .ok (assembler.emit instruction, .done)
  | .emitBranch kind label => .ok (assembler.emitBranch kind label, .done)
  | .declareLocal type => (assembler.declareLocal type).map fun (after, slot) => (after, .slot slot)
  | .newLabel => .ok (assembler.newLabel.1, .label assembler.newLabel.2)
  | .mark label => (assembler.mark label).map fun after => (after, .done)
  | .addHandler handler => .ok (assembler.addHandler handler, .done)

/-- What a call answers and the assembler that stands after it. -/
def outcome (call : Call) (assembler : Assembler) : Except AssemblyFault Answer × Assembler :=
  match call.apply assembler with
  | .ok (after, answer) => (.ok answer, after)
  | .error fault => (.error fault, assembler)

/-- A call that fails changes nothing. -/
theorem outcome_error {call : Call} {assembler : Assembler} {fault : AssemblyFault}
    (fails : (call.outcome assembler).1 = .error fault) :
    (call.outcome assembler).2 = assembler := by
  rw [outcome] at fails ⊢
  rcases applied : call.apply assembler with _ | ⟨after, answer⟩
  · rfl
  · simp [applied] at fails

end Call

/-- The assembler that stands after some calls. -/
def run (zeroes : Bool) (calls : List Call) : Assembler :=
  calls.foldl (fun assembler call => (call.outcome assembler).2) { zeroesLocals := zeroes }

theorem run_concat (zeroes : Bool) (calls : List Call) (call : Call) :
    run zeroes (calls ++ [call]) = (call.outcome (run zeroes calls)).2 := by
  simp [run]

/-! ## What calls ask for -/

def Draft.labels : Draft → List Label
  | .plain _ => []
  | .branch _ label => [label]

def DraftHandler.labels (handler : DraftHandler) : List Label :=
  [handler.tryStart, handler.tryEnd, handler.handlerStart, handler.handlerEnd]

namespace Call

def draft? : Call → Option Draft
  | .emit instruction => some (.plain instruction)
  | .emitBranch kind label => some (.branch kind label)
  | _ => none

def local? : Call → Option ValueType
  | .declareLocal type => some type
  | _ => none

def clause? : Call → Option DraftHandler
  | .addHandler handler => some handler
  | _ => none

/-- The labels that a call names. -/
def labels : Call → List Label
  | .emitBranch _ label => [label]
  | .mark label => [label]
  | .addHandler handler => DraftHandler.labels handler
  | _ => []

end Call

/-- The instructions that calls emit. -/
def draftsOf (calls : List Call) : List Draft :=
  calls.filterMap Call.draft?

/-- The locals that calls ask for, those included that there is no room for. -/
def localsOf (calls : List Call) : List ValueType :=
  calls.filterMap Call.local?

def clausesOf (calls : List Call) : List DraftHandler :=
  calls.filterMap Call.clause?

def labelCount (calls : List Call) : Nat :=
  calls.count .newLabel

/-- The labels that have to be known in the end: those of the branches in their order, then those of
the clauses. -/
def usedLabels (calls : List Call) : List Label :=
  (draftsOf calls).flatMap Draft.labels ++ (clausesOf calls).flatMap DraftHandler.labels

/-- Every label that a call names was made by a call before it. -/
def Owned (calls : List Call) : Prop :=
  ∀ before call later, calls = before ++ call :: later →
    ∀ label ∈ call.labels, label.number < labelCount before

/-- A label was marked for the first time after so many instructions. -/
def MarkedAt (calls : List Call) (label : Label) (position : Nat) : Prop :=
  ∃ before later, calls = before ++ .mark label :: later ∧ .mark label ∉ before ∧
    position = (draftsOf before).length

/-- What a call answers after those before it. -/
def Call.answer (before : List Call) : Call → Except AssemblyFault Answer
  | .declareLocal _ =>
    if room : (localsOf before).length < 65536 then
      .ok (.slot (UInt16.ofNatLT (localsOf before).length room))
    else .error .tooManyLocals
  | .newLabel => .ok (.label ⟨labelCount before⟩)
  | .mark label => if .mark label ∈ before then .error (.labelMarkedTwice label) else .ok .done
  | _ => .ok .done

theorem draftsOf_concat (calls : List Call) (call : Call) :
    draftsOf (calls ++ [call]) = draftsOf calls ++ call.draft?.toList := by
  cases call <;> simp [draftsOf, Call.draft?]

theorem localsOf_concat (calls : List Call) (call : Call) :
    localsOf (calls ++ [call]) = localsOf calls ++ call.local?.toList := by
  cases call <;> simp [localsOf, Call.local?]

theorem clausesOf_concat (calls : List Call) (call : Call) :
    clausesOf (calls ++ [call]) = clausesOf calls ++ call.clause?.toList := by
  cases call <;> simp [clausesOf, Call.clause?]

theorem owned_iff {calls : List Call} :
    Owned calls ↔ ∀ position : Fin calls.length, ∀ label ∈ calls[position].labels,
      label.number < labelCount (calls.take position) := by
  constructor
  · rintro owned ⟨position, inside⟩
    refine owned (calls.take position) calls[position] (calls.drop (position + 1)) ?_
    rw [← List.drop_eq_getElem_cons inside, List.take_append_drop]
  · rintro owned before call later rfl
    simpa using owned ⟨before.length, by simp⟩

instance (calls : List Call) : Decidable (Owned calls) :=
  decidable_of_iff _ owned_iff.symm

theorem Owned.init {calls : List Call} {call : Call} (owned : Owned (calls ++ [call])) :
    Owned calls := by
  rintro before earlier later rfl
  exact owned before earlier (later ++ [call]) (by simp)

theorem Owned.last {calls : List Call} {call : Call} (owned : Owned (calls ++ [call])) :
    ∀ label ∈ call.labels, label.number < labelCount calls :=
  owned calls call [] rfl

theorem MarkedAt.concat {calls : List Call} {label : Label} {position : Nat}
    (marked : MarkedAt calls label position) (call : Call) :
    MarkedAt (calls ++ [call]) label position := by
  rcases marked with ⟨before, later, rfl, fresh, rfl⟩
  exact ⟨before, later ++ [call], by simp, fresh, rfl⟩

theorem MarkedAt.le {calls : List Call} {label : Label} {position : Nat}
    (marked : MarkedAt calls label position) : position ≤ (draftsOf calls).length := by
  rcases marked with ⟨before, later, rfl, -, rfl⟩
  simp [draftsOf]

/-! ## What is recorded -/

/-- The positions of the labels that some calls made are known where they marked them. -/
structure Knows (calls : List Call) (labels : Array (Option UInt32)) : Prop where
  size : labels.size = labelCount calls
  unmarked : ∀ label : Label, label.number < labelCount calls → .mark label ∉ calls →
    labels[label.number]? = some none
  marked : ∀ label : Label, .mark label ∈ calls →
    ∃ position, MarkedAt calls label position ∧
      labels[label.number]? = some (some (UInt32.ofNat position))

/-- An assembler has recorded what some calls ask for. -/
structure Records (zeroes : Bool) (calls : List Call) (assembler : Assembler) : Prop where
  zeroesLocals : assembler.zeroesLocals = zeroes
  drafts : assembler.drafts.toList = draftsOf calls
  locals : assembler.locals.toList = (localsOf calls).take 65536
  handlers : assembler.handlers = clausesOf calls
  labels : Knows calls assembler.labels

namespace Knows

variable {calls : List Call} {labels : Array (Option UInt32)}

/-- A call that makes no label and marks none for the first time leaves what is known. -/
theorem keep (knows : Knows calls labels) {call : Call} (makes : call ≠ .newLabel)
    (marks : ∀ label, call = .mark label → .mark label ∈ calls) :
    Knows (calls ++ [call]) labels := by
  have count : labelCount (calls ++ [call]) = labelCount calls := by
    simp [labelCount, makes]
  refine ⟨count ▸ knows.size, ?_, ?_⟩
  · intro label made fresh
    exact knows.unmarked label (count ▸ made) fun there => fresh (List.mem_append_left _ there)
  · intro label there
    have earlier : .mark label ∈ calls := by
      rcases List.mem_append.mp there with there | there
      · exact there
      · exact marks label (List.mem_singleton.mp there).symm
    rcases knows.marked label earlier with ⟨position, first, known⟩
    exact ⟨position, first.concat call, known⟩

theorem make (knows : Knows calls labels) :
    Knows (calls ++ [.newLabel]) (labels.push none) := by
  have count : labelCount (calls ++ [.newLabel]) = labelCount calls + 1 := by simp [labelCount]
  refine ⟨by simp [knows.size, count], ?_, ?_⟩
  · intro label made fresh
    have fresh : .mark label ∉ calls := fun there => fresh (List.mem_append_left _ there)
    rcases Nat.lt_succ_iff_lt_or_eq.mp (count ▸ made) with older | newest
    · rw [Array.getElem?_push_lt (knows.size ▸ older)]
      exact (Array.getElem?_eq_getElem (knows.size ▸ older)).symm.trans
        (knows.unmarked label older fresh)
    · simp [newest, ← knows.size]
  · intro label there
    have there : .mark label ∈ calls := by simpa using there
    rcases knows.marked label there with ⟨position, first, known⟩
    have older : label.number < labels.size := (Array.getElem?_eq_some_iff.mp known).1
    refine ⟨position, first.concat _, ?_⟩
    rw [Array.getElem?_push_lt older]
    exact (Array.getElem?_eq_getElem older).symm.trans known

theorem mark (knows : Knows calls labels) {label : Label}
    (made : label.number < labelCount calls) (fresh : .mark label ∉ calls) :
    Knows (calls ++ [.mark label])
      (labels.setIfInBounds label.number (some (UInt32.ofNat (draftsOf calls).length))) := by
  have count : labelCount (calls ++ [.mark label]) = labelCount calls := by simp [labelCount]
  refine ⟨by simp [knows.size, count], ?_, ?_⟩
  · intro other otherMade otherFresh
    have apart : label.number ≠ other.number := by
      rintro same
      apply otherFresh
      rw [show label = other by cases label; cases other; simpa using same]
      simp
    rw [Array.getElem?_setIfInBounds_ne apart]
    exact knows.unmarked other (count ▸ otherMade) fun there =>
      otherFresh (List.mem_append_left _ there)
  · intro other there
    by_cases same : label = other
    · subst same
      exact ⟨(draftsOf calls).length, ⟨calls, [], rfl, fresh, rfl⟩,
        Array.getElem?_setIfInBounds_self_of_lt (knows.size ▸ made)⟩
    · have there : .mark other ∈ calls := by
        rcases List.mem_append.mp there with there | there
        · exact there
        · exact absurd (Call.mark.inj (List.mem_singleton.mp there)).symm same
      have apart : label.number ≠ other.number := fun equal =>
        same (by cases label; cases other; simpa using equal)
      rcases knows.marked other there with ⟨position, first, known⟩
      refine ⟨position, first.concat _, ?_⟩
      rwa [Array.getElem?_setIfInBounds_ne apart]

end Knows

namespace Records

variable {zeroes : Bool} {calls : List Call} {assembler after : Assembler} {call : Call}

theorem nil (zeroes : Bool) : Records zeroes [] { zeroesLocals := zeroes } where
  zeroesLocals := rfl
  drafts := rfl
  locals := rfl
  handlers := rfl
  labels := ⟨rfl, by simp [labelCount], by simp⟩

/-- What a call adds to the lists of an assembler is what it asks for. -/
theorem concat (records : Records zeroes calls assembler)
    (same : after.zeroesLocals = assembler.zeroesLocals)
    (drafts : after.drafts.toList = assembler.drafts.toList ++ call.draft?.toList)
    (locals : after.locals.toList = (assembler.locals.toList ++ call.local?.toList).take 65536)
    (handlers : after.handlers = assembler.handlers ++ call.clause?.toList)
    (labels : Knows (calls ++ [call]) after.labels) :
    Records zeroes (calls ++ [call]) after where
  zeroesLocals := same.trans records.zeroesLocals
  drafts := by rw [drafts, records.drafts, draftsOf_concat]
  locals := by
    rw [locals, records.locals, localsOf_concat, List.take_append, List.take_append, List.take_take,
      List.length_take, Nat.min_self]
    congr 2
    omega
  handlers := by rw [handlers, records.handlers, clausesOf_concat]
  labels := labels

theorem locals_fit (records : Records zeroes calls assembler) :
    assembler.locals.toList = (assembler.locals.toList ++ []).take 65536 := by
  rw [List.append_nil, records.locals, List.take_take, Nat.min_self]

theorem position_eq (records : Records zeroes calls assembler) :
    assembler.position = UInt32.ofNat (draftsOf calls).length := by
  rw [position, ← records.drafts, Array.length_toList]

/-- A call answers as the calls before it have it, and is recorded itself. -/
theorem step (records : Records zeroes calls assembler)
    (owned : ∀ label ∈ call.labels, label.number < labelCount calls) :
    (call.outcome assembler).1 = call.answer calls ∧
      Records zeroes (calls ++ [call]) (call.outcome assembler).2 := by
  cases call with
  | emit instruction =>
      refine ⟨rfl, records.concat rfl ?_ ?_ ?_ (records.labels.keep (by simp) (by simp))⟩
      · exact Array.toList_push
      · exact records.locals_fit
      · exact (List.append_nil _).symm
  | emitBranch kind label =>
      refine ⟨rfl, records.concat rfl ?_ ?_ ?_ (records.labels.keep (by simp) (by simp))⟩
      · exact Array.toList_push
      · exact records.locals_fit
      · exact (List.append_nil _).symm
  | declareLocal type =>
      have count : assembler.locals.size = min 65536 (localsOf calls).length := by
        rw [← Array.length_toList, records.locals, List.length_take]
      by_cases room : (localsOf calls).length < 65536
      · have slot : assembler.locals.size = (localsOf calls).length := by omega
        have accepted : Assembler.declareLocal assembler type =
            .ok ({ assembler with locals := assembler.locals.push type },
              UInt16.ofNatLT (localsOf calls).length room) := by
          have accepts : (localsOf calls).length ≤ lastLocalSlot := Nat.le_of_lt_succ room
          rw [Assembler.declareLocal, slot, if_pos accepts, UInt16.ofNatLT_eq_ofNat]
        simp only [Call.outcome, Call.apply, accepted, Except.map]
        refine ⟨by simp [Call.answer, room],
          records.concat rfl ?_ ?_ ?_ (records.labels.keep (by simp) (by simp))⟩
        · exact (List.append_nil _).symm
        · rw [List.take_of_length_le (by simp [Call.local?, slot]; omega)]
          exact Array.toList_push
        · exact (List.append_nil _).symm
      · have refused : Assembler.declareLocal assembler type = .error .tooManyLocals :=
          if_neg (by simp only [lastLocalSlot]; omega)
        simp only [Call.outcome, Call.apply, refused, Except.map]
        refine ⟨by simp [Call.answer, room],
          records.concat rfl ?_ ?_ ?_ (records.labels.keep (by simp) (by simp))⟩
        · exact (List.append_nil _).symm
        · rw [List.take_append_of_le_length (by simp; omega)]
          exact records.locals_fit.trans (by rw [List.append_nil])
        · exact (List.append_nil _).symm
  | newLabel =>
      refine ⟨?_, records.concat rfl ?_ ?_ ?_ records.labels.make⟩
      · simp [Call.outcome, Call.apply, Assembler.newLabel, Call.answer, records.labels.size]
      · exact (List.append_nil _).symm
      · exact records.locals_fit
      · exact (List.append_nil _).symm
  | mark label =>
      have made := owned label (by simp [Call.labels])
      by_cases repeated : .mark label ∈ calls
      · rcases records.labels.marked label repeated with ⟨position, -, known⟩
        have refused : Assembler.mark assembler label = .error (.labelMarkedTwice label) := by
          simp [Assembler.mark, known]
        simp only [Call.outcome, Call.apply, refused, Except.map]
        refine ⟨by simp [Call.answer, repeated], records.concat rfl ?_ records.locals_fit ?_
          (records.labels.keep (by simp) ?_)⟩
        · exact (List.append_nil _).symm
        · exact (List.append_nil _).symm
        · rintro _ ⟨⟩
          exact repeated
      · have placed : Assembler.mark assembler label = .ok { assembler with
            labels := assembler.labels.setIfInBounds label.number (some assembler.position) } := by
          simp [Assembler.mark, records.labels.unmarked label made repeated]
        simp only [Call.outcome, Call.apply, placed, Except.map]
        refine ⟨by simp [Call.answer, repeated], records.concat rfl ?_ records.locals_fit ?_ ?_⟩
        · exact (List.append_nil _).symm
        · exact (List.append_nil _).symm
        · rw [records.position_eq]
          exact records.labels.mark made repeated
  | addHandler handler =>
      refine ⟨rfl, records.concat rfl ?_ ?_ rfl (records.labels.keep (by simp) (by simp))⟩
      · exact (List.append_nil _).symm
      · exact records.locals_fit

end Records

/-- What is recorded after all calls, whatever some of them failed. -/
theorem records_run (zeroes : Bool) {calls : List Call} (owned : Owned calls) :
    Records zeroes calls (run zeroes calls) := by
  induction calls using List.reverseRecOn with
  | nil => exact Records.nil zeroes
  | append_singleton calls call ih =>
      rw [run_concat]
      exact ((ih owned.init).step owned.last).2

theorem answer_run (zeroes : Bool) {before later : List Call} {call : Call}
    (owned : Owned (before ++ call :: later)) :
    (call.outcome (run zeroes before)).1 = call.answer before := by
  rw [List.append_cons] at owned
  have upTo : Owned (before ++ [call]) := by
    rintro earlier other rest split
    exact owned earlier other (rest ++ later) (by rw [split]; simp)
  exact ((records_run zeroes upTo.init).step upTo.last).1

end Rekindle.Assembler
