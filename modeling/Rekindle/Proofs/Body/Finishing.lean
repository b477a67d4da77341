import Rekindle.Proofs.Body.Patching

/-!
# Finishing a body

A body can be finished when every label that a branch or a clause names was marked. Its branches and
clauses then carry the numbers of instructions that were there when the labels were marked, whether
a branch came before or after. If a label is missing, the first one is named, those of the branches
before those of the clauses.
-/

namespace Rekindle.Assembler

/-- A position stands for the place where a label was marked. -/
def Leads (calls : List Call) (label : Label) (target : UInt32) : Prop :=
  ∃ position, MarkedAt calls label position ∧ target = UInt32.ofNat position

/-- What becomes of an instruction. -/
def Becomes (calls : List Call) : Draft → Instruction → Prop
  | .plain emitted, instruction => instruction = emitted
  | .branch kind label, instruction =>
    ∃ target, Leads calls label target ∧ instruction = kind.to target

/-- What becomes of a clause. -/
structure Protects (calls : List Call) (clause : DraftHandler) (handler : Handler) : Prop where
  kind : handler.kind = clause.kind
  tryStart : Leads calls clause.tryStart handler.tryStart
  tryEnd : Leads calls clause.tryEnd handler.tryEnd
  handlerStart : Leads calls clause.handlerStart handler.handlerStart
  handlerEnd : Leads calls clause.handlerEnd handler.handlerEnd

/-- A body is what some calls ask for. -/
structure Realizes (zeroes : Bool) (calls : List Call) (body : Body) : Prop where
  zeroesLocals : body.zeroesLocals = zeroes
  locals : body.locals = (localsOf calls).take 65536
  instructions : List.Forall₂ (Becomes calls) (draftsOf calls) body.instructions.toList
  handlers : List.Forall₂ (Protects calls) (clausesOf calls) body.handlers

/-- The first label that has to be known and was never marked. -/
def firstUnmarked (calls : List Call) : Option Label :=
  (usedLabels calls).find? fun label => .mark label ∉ calls

/-! ## Failing -/

/-- A computation fails on the first label of a list that is missing, and only there. -/
def FailsOn {α : Type} (missing : Label → Bool) (labels : List Label)
    (computation : Except AssemblyFault α) : Prop :=
  ∀ fault, computation = .error fault ↔
    ∃ label, labels.find? missing = some label ∧ fault = .unmarkedLabel label

namespace FailsOn

variable {α β : Type} {missing : Label → Bool} {labels others : List Label}

theorem ok (value : α) : FailsOn missing [] (.ok value : Except AssemblyFault α) := by
  simp [FailsOn]

theorem bind {first : Except AssemblyFault α} {next : α → Except AssemblyFault β}
    (fails : FailsOn missing labels first) (nextFails : ∀ value, FailsOn missing others (next value)) :
    FailsOn missing (labels ++ others) (first >>= next) := by
  intro fault
  rw [List.find?_append]
  cases first with
  | error earlier =>
      rcases (fails earlier).mp rfl with ⟨label, found, rfl⟩
      simp [found, eq_comm]
  | ok value =>
      have all : labels.find? missing = none := by
        by_contra some
        rcases Option.ne_none_iff_exists'.mp some with ⟨label, found⟩
        exact absurd ((fails _).mpr ⟨label, found, rfl⟩) (by simp)
      rw [all, Option.none_or]
      exact nextFails value fault

theorem map {computation : Except AssemblyFault α} (fails : FailsOn missing labels computation)
    (change : α → β) : FailsOn missing labels (computation.map change) := by
  intro fault
  rw [← fails fault]
  cases computation <;> simp [Except.map]

theorem mapM {compute : α → Except AssemblyFault β} {labelsIn : α → List Label} {items : List α}
    (fails : ∀ item ∈ items, FailsOn missing (labelsIn item) (compute item)) :
    FailsOn missing (items.flatMap labelsIn) (items.mapM compute) := by
  induction items with
  | nil => exact ok []
  | cons item items ih =>
      rw [List.mapM_cons, List.flatMap_cons]
      refine (fails item (by simp)).bind fun value => ?_
      rw [← List.append_nil (items.flatMap labelsIn)]
      exact (ih fun other listed => fails other (by simp [listed])).bind fun rest => ok _

end FailsOn

/-- Every label that has to be known in the end was made. -/
theorem Owned.made {calls : List Call} (owned : Owned calls) :
    ∀ label ∈ usedLabels calls, label.number < labelCount calls := by
  intro label used
  have named : ∃ call ∈ calls, label ∈ call.labels := by
    simp only [usedLabels, draftsOf, clausesOf, List.mem_append, List.mem_flatMap,
      List.mem_filterMap] at used
    rcases used with ⟨draft, ⟨call, made, asked⟩, named⟩ | ⟨clause, ⟨call, made, asked⟩, named⟩
    · refine ⟨call, made, ?_⟩
      cases call <;> cases asked
      · cases named
      · exact named
    · refine ⟨call, made, ?_⟩
      cases call <;> cases asked
      exact named
  rcases named with ⟨call, made, named⟩
  rcases List.append_of_mem made with ⟨before, later, rfl⟩
  have earlier := owned before call later rfl label named
  rw [labelCount, List.count_append]
  exact Nat.lt_add_right _ earlier

namespace Records

variable {zeroes : Bool} {calls : List Call} {assembler : Assembler}

theorem resolve_fails (records : Records zeroes calls assembler) {label : Label}
    (made : label.number < labelCount calls) :
    FailsOn (fun label => .mark label ∉ calls) [label] (assembler.resolve label) := by
  intro fault
  by_cases there : .mark label ∈ calls
  · rcases records.labels.marked label there with ⟨position, -, known⟩
    simp [resolve, known, there]
  · simp [resolve, records.labels.unmarked label made there, there, eq_comm]

theorem leads_of_resolve (records : Records zeroes calls assembler) {label : Label}
    {target : UInt32} (resolved : assembler.resolve label = .ok target) :
    Leads calls label target := by
  rcases place : assembler.labels[label.number]? with _ | _ | position
  · simp [resolve, place] at resolved
  · simp [resolve, place] at resolved
  · have made : label.number < labelCount calls :=
      records.labels.size ▸ (Array.getElem?_eq_some_iff.mp place).1
    have there : .mark label ∈ calls := by
      by_contra absent
      exact absurd (place.symm.trans (records.labels.unmarked label made absent)) (by simp)
    rcases records.labels.marked label there with ⟨count, first, known⟩
    refine ⟨count, first, ?_⟩
    simp_all [resolve]

theorem finish_fails (records : Records zeroes calls assembler) (owned : Owned calls) :
    FailsOn (fun label => .mark label ∉ calls) (usedLabels calls) assembler.finish := by
  have made := owned.made
  simp only [usedLabels, List.mem_append, List.mem_flatMap] at made
  have draftsFail : FailsOn (fun label => .mark label ∉ calls)
      ((draftsOf calls).flatMap Draft.labels)
      (assembler.drafts.toList.mapM assembler.resolveDraft) := by
    rw [records.drafts]
    refine FailsOn.mapM fun draft listed => ?_
    cases draft with
    | plain instruction => exact FailsOn.ok instruction
    | branch kind label =>
        exact (records.resolve_fails (made label (.inl ⟨_, listed, by simp [Draft.labels]⟩))).map _
  have handlersFail : FailsOn (fun label => .mark label ∉ calls)
      ((clausesOf calls).flatMap DraftHandler.labels)
      (assembler.handlers.mapM assembler.resolveHandler) := by
    rw [records.handlers]
    refine FailsOn.mapM fun clause listed => ?_
    have known {label : Label} (named : label ∈ DraftHandler.labels clause) :=
      records.resolve_fails (made label (.inr ⟨clause, listed, named⟩))
    refine (known (by simp [DraftHandler.labels])).bind fun tryStart => ?_
    refine (known (by simp [DraftHandler.labels])).bind fun tryEnd => ?_
    refine (known (by simp [DraftHandler.labels])).bind fun handlerStart => ?_
    exact (known (by simp [DraftHandler.labels])).bind fun handlerEnd => FailsOn.ok _
  rw [usedLabels, ← List.append_nil ((clausesOf calls).flatMap DraftHandler.labels)]
  exact draftsFail.bind fun _ => handlersFail.bind fun _ => FailsOn.ok _

theorem realizes (records : Records zeroes calls assembler) {body : Body}
    (finished : assembler.finish = .ok body) : Realizes zeroes calls body := by
  rcases Fallible.bind_eq_ok_iff.mp finished with ⟨instructions, resolved, finished⟩
  rcases Fallible.bind_eq_ok_iff.mp finished with ⟨handlers, protecting, finished⟩
  cases finished
  rw [records.drafts, Fallible.mapM_eq_ok_iff] at resolved
  rw [records.handlers, Fallible.mapM_eq_ok_iff] at protecting
  refine ⟨records.zeroesLocals, records.locals, resolved.imp fun draft instruction becomes => ?_,
    protecting.imp fun clause handler becomes => ?_⟩
  · cases draft with
    | plain emitted =>
        cases becomes
        rfl
    | branch kind label =>
        rcases target : assembler.resolve label with fault | position
        · simp [resolveDraft, target, Except.map] at becomes
        · refine ⟨position, records.leads_of_resolve target, ?_⟩
          simpa [resolveDraft, target, Except.map, eq_comm] using becomes
  · rcases Fallible.bind_eq_ok_iff.mp becomes with ⟨tryStart, tryStarts, becomes⟩
    rcases Fallible.bind_eq_ok_iff.mp becomes with ⟨tryEnd, tryEnds, becomes⟩
    rcases Fallible.bind_eq_ok_iff.mp becomes with ⟨handlerStart, handlerStarts, becomes⟩
    rcases Fallible.bind_eq_ok_iff.mp becomes with ⟨handlerEnd, handlerEnds, becomes⟩
    cases becomes
    exact ⟨rfl, records.leads_of_resolve tryStarts, records.leads_of_resolve tryEnds,
      records.leads_of_resolve handlerStarts, records.leads_of_resolve handlerEnds⟩

end Records

/-! ## Assembly is exact -/

/-- What comes of calls in any order that name only labels made before, in place or not. Each call
answers what the calls before it make of it: a local gets the next slot while there is one, and a
label can be marked once. A call that fails changes nothing. The body can be finished exactly if every
label in use was marked, and is then what the calls ask for; otherwise the first label in use that was
not marked is reported. Positions have 32 bits, so they are exact while there are no more
instructions than that. -/
theorem assembly_exact (zeroes : Bool) (calls : List Call) (owned : Owned calls) :
    (∀ before call later, calls = before ++ call :: later →
      (call.outcome (run zeroes before)).1 = call.answer before ∧
      (call.performed (.after zeroes before)).1 = call.answer before ∧
      ∀ fault, call.answer before = .error fault →
        run zeroes (before ++ [call]) = run zeroes before ∧
        (call.performed (.after zeroes before)).2 = .after zeroes before) ∧
    (Bench.after zeroes calls).finish = Indexing.within (run zeroes calls).finish ∧
    ((∃ body, (run zeroes calls).finish = .ok body) ↔
      ∀ label ∈ usedLabels calls, .mark label ∈ calls) ∧
    (∀ body, (run zeroes calls).finish = .ok body → Realizes zeroes calls body) ∧
    (∀ fault, (run zeroes calls).finish = .error fault ↔
      ∃ label, firstUnmarked calls = some label ∧ fault = .unmarkedLabel label) ∧
    ((draftsOf calls).length < UInt32.size → ∀ label position, MarkedAt calls label position →
      (UInt32.ofNat position).toNat = position) := by
  have records := records_run zeroes owned
  have fails := records.finish_fails owned
  refine ⟨?_, ?_, ?_, fun body => records.realizes, fails, ?_⟩
  · rintro before call later rfl
    have answers := answer_run zeroes owned
    rw [bench_after_eq, Call.performed_laidOut, run_concat]
    refine ⟨answers, answers, fun fault failed => ?_⟩
    rw [Call.outcome_error (answers.trans failed)]
    exact ⟨rfl, rfl⟩
  · rw [bench_after_eq, finish_laidOut]
  · constructor
    · rintro ⟨body, finished⟩ label used
      by_contra absent
      have missing : (firstUnmarked calls).isSome :=
        List.find?_isSome.mpr ⟨label, used, by simpa using absent⟩
      rcases Option.isSome_iff_exists.mp missing with ⟨first, found⟩
      exact absurd (finished.symm.trans ((fails _).mpr ⟨first, found, rfl⟩)) (by simp)
    · intro all
      rcases finished : (run zeroes calls).finish with fault | body
      · rcases (fails fault).mp finished with ⟨label, found, -⟩
        have absent := List.find?_some found
        exact absurd (all label (List.mem_of_find?_eq_some found)) (by simpa using absent)
      · exact ⟨body, rfl⟩
  · intro few label position marked
    exact UInt32.toNat_ofNat_of_lt' (Nat.lt_of_le_of_lt marked.le few)

namespace Guarded

/-- A loop in a protected range. Its head is marked before the branch to it and marked again in vain,
its end is marked at the very end, and the branch and the clause share that label. -/
def calls : List Call :=
  [.declareLocal .int32, .newLabel, .newLabel, .newLabel, .mark ⟨0⟩, .emit (.loadInt32 1),
    .emitBranch .whenFalse ⟨2⟩, .mark ⟨0⟩, .emitBranch .leaving ⟨0⟩, .mark ⟨1⟩,
    .addHandler ⟨.catching, ⟨0⟩, ⟨1⟩, ⟨1⟩, ⟨2⟩⟩, .emit .pop, .mark ⟨2⟩]

def body : Body where
  zeroesLocals := true
  locals := [.int32]
  instructions := #[.loadInt32 1, .branchFalse 4, .leave 0, .pop]
  handlers := [⟨.catching, 0, 3, 3, 4⟩]

theorem realized : Owned calls ∧ (run true calls).finish = .ok body ∧ Realizes true calls body := by
  have owned : Owned calls := by decide
  have finished : (run true calls).finish = .ok body := by decide +kernel
  exact ⟨owned, finished, (assembly_exact true calls owned).2.2.2.1 body finished⟩

end Guarded

end Rekindle.Assembler
