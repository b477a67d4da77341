import Mathlib.Data.Multiset.DershowitzManna
import Mathlib.Data.Prod.Lex
import Rekindle.Proofs.Termination.Stacks

/-!
# What steps use up

Each part of a stack weighs the more, the more bodies there may still be above it; of parts at the
same depth bodies weigh most, and a body weighs the more, the more of it is left. What is on top of
the stack weighs a little more while it can still put something above itself: initializers and
calls go on top of what stays where it is. A step puts in the place of a part any number of parts
that weigh less, so stacks become lighter in the order on finite multisets of weights, which is
well-founded.
-/

namespace Rekindle.Machine

/-- The bodies that there may still be above a part of a stack, its rank among the parts at the same
depth, and what is left of it. -/
abbrev Weight := ℕ ×ₗ ℕ ×ₗ ℕ

/-- What replaces some weights by lighter ones. -/
abbrev Lighter (first second : Multiset Weight) : Prop := first.IsDershowitzMannaLT second

/-- What is lighter or the same. -/
abbrev NoHeavier (first second : Multiset Weight) : Prop := first = second ∨ Lighter first second

def Activation.rank : Activation → ℕ
  | .body _ => 3
  | .targets _ => 2
  | .call _ _ | .access _ => 1
  | .initializer _ => 0

/-- What is left of a part of a stack, with something for what it may still put above itself. -/
def Activation.left (more : ℕ) : Activation → ℕ
  | .body frame => 2 * frame.remaining + more
  | .targets listed => listed.length
  | .call _ _ | .access _ => more
  | .initializer _ => 0

def weight (limit more : ℕ) (activation : Activation) (below : List Activation) : Weight :=
  toLex (limit - depth (activation :: below), toLex (activation.rank, activation.left more))

/-- The weights of a stack that has nothing to put above itself. -/
def waitingWeights (limit : ℕ) : List Activation → Multiset Weight
  | [] => 0
  | activation :: below => weight limit 0 activation below ::ₘ waitingWeights limit below

open Classical in
/-- Whether what is on top of a stack may still put something above itself: not if it asks for what
has started. -/
noncomputable def mayPut (store : Store) (activations : List Activation) : ℕ :=
  if ∃ instantiation, Asks store activations instantiation ∧ store.HasStarted instantiation then 0
  else 1

/-- The weights of the stack of a thread. -/
noncomputable def weights (limit : ℕ) (store : Store) : List Activation → Multiset Weight
  | [] => 0
  | activation :: below =>
    weight limit (mayPut store (activation :: below)) activation below ::ₘ
      waitingWeights limit below

variable {limit more fewer : ℕ} {thread : ThreadId} {store after : Store}
  {frame next : Frame} {activation above : Activation} {activations below : List Activation}
  {instantiation other : Instantiation} {light heavy : Weight}
  {first second third : Multiset Weight}

/-! ### Multisets of weights -/

theorem wellFounded_lighter : WellFounded Lighter :=
  Multiset.wellFounded_isDershowitzMannaLT

theorem lighter_replace (lights : Multiset Weight) (all : ∀ light ∈ lights, light < heavy)
    (rest : Multiset Weight) : Lighter (lights + rest) (heavy ::ₘ rest) := by
  refine ⟨rest, lights, {heavy}, Multiset.singleton_ne_zero heavy, add_comm lights rest, ?_, ?_⟩
  · rw [add_comm, Multiset.singleton_add]
  · simpa using all

theorem lighter_one (less : light < heavy) (rest : Multiset Weight) :
    Lighter (light ::ₘ rest) (heavy ::ₘ rest) := by
  have replaced := lighter_replace {light} (by simpa using less) rest
  rwa [Multiset.singleton_add] at replaced

theorem lighter_two {another : Weight} (less : light < heavy) (lessToo : another < heavy)
    (rest : Multiset Weight) : Lighter (light ::ₘ another ::ₘ rest) (heavy ::ₘ rest) := by
  have all : ∀ lesser ∈ ({light, another} : Multiset Weight), lesser < heavy := by
    simp [less, lessToo]
  have replaced := lighter_replace {light, another} all rest
  simpa [Multiset.insert_eq_cons, Multiset.cons_add] using replaced

theorem lighter_cons (heavy : Weight) (rest : Multiset Weight) : Lighter rest (heavy ::ₘ rest) := by
  have replaced : Lighter (0 + rest) (heavy ::ₘ rest) := lighter_replace 0 (by simp) rest
  rwa [zero_add] at replaced

theorem Lighter.trans_noHeavier (lighter : Lighter first second)
    (noHeavier : NoHeavier second third) : Lighter first third := by
  rcases noHeavier with rfl | further
  · exact lighter
  · exact Multiset.IsDershowitzMannaLT.trans lighter further

theorem NoHeavier.trans (noHeavier : NoHeavier first second) (further : NoHeavier second third) :
    NoHeavier first third := by
  rcases noHeavier with rfl | lighter
  · exact further
  · exact .inr (lighter.trans_noHeavier further)

/-! ### Single weights -/

theorem weight_lt_iff {upper lower : Activation} {stack rest : List Activation} :
    weight limit more upper stack < weight limit fewer lower rest ↔
      limit - depth (upper :: stack) < limit - depth (lower :: rest) ∨
        limit - depth (upper :: stack) = limit - depth (lower :: rest) ∧
          (upper.rank < lower.rank ∨
            upper.rank = lower.rank ∧ upper.left more < lower.left fewer) := by
  simp only [weight, Prod.Lex.toLex_lt_toLex]

theorem mayPut_le_one (store : Store) (activations : List Activation) :
    mayPut store activations ≤ 1 := by
  unfold mayPut
  split <;> omega

/-- A body that is nearer to its end weighs less, whatever it may still put above itself. -/
theorem weight_frame_lt (nearer : next.remaining < frame.remaining) (few : more ≤ 1) :
    weight limit more (.body next) below < weight limit fewer (.body frame) below := by
  rw [weight_lt_iff, depth_body, depth_body]
  refine .inr ⟨rfl, .inr ⟨rfl, ?_⟩⟩
  simp only [Activation.left]
  omega

/-- A body above a part of a stack weighs less than the part. -/
theorem weight_body_lt (inside : depth (activation :: below) + 1 ≤ limit) :
    weight limit more (.body frame) (activation :: below) <
      weight limit fewer activation below := by
  rw [weight_lt_iff, depth_body]
  omega

theorem weight_lt_of_rank (depths : depth (above :: below) = depth (activation :: activations))
    (ranks : above.rank < activation.rank) :
    weight limit more above below < weight limit fewer activation activations := by
  rw [weight_lt_iff, depths]
  exact .inr ⟨rfl, .inl ranks⟩

/-! ### Stacks -/

/-- What a thread asks for is one instantiation. -/
theorem Asks.eq (asks : Asks store activations instantiation)
    (asksToo : Asks store activations other) : instantiation = other := by
  cases asks with
  | call owned =>
      cases asksToo with
      | call ownedToo => exact Except.ok.inj (owned.symm.trans ownedToo)
  | access => cases asksToo; rfl
  | field uses =>
      cases asksToo with
      | field usesToo =>
          cases uses <;> cases usesToo <;> simp_all

theorem mayPut_eq_zero (asks : Asks store activations instantiation)
    (started : store.HasStarted instantiation) : mayPut store activations = 0 :=
  if_pos ⟨instantiation, asks, started⟩

theorem mayPut_eq_one (asks : Asks store activations instantiation)
    (unstarted : ¬store.HasStarted instantiation) : mayPut store activations = 1 := by
  refine if_neg ?_
  rintro ⟨other, asksToo, started⟩
  exact unstarted (asks.eq asksToo ▸ started)

/-- What is on top of a stack may put less above itself as more is initialized. -/
theorem mayPut_le (follows : store.Follows thread after) (activations : List Activation) :
    mayPut after activations ≤ mayPut store activations := by
  by_cases settled : ∃ instantiation, Asks store activations instantiation ∧
      store.HasStarted instantiation
  · rcases settled with ⟨instantiation, asks, started⟩
    rw [mayPut_eq_zero (asks.of_loaded follows.loaded) (follows.started _ started)]
    exact Nat.zero_le _
  · have one : mayPut store activations = 1 := if_neg settled
    rw [one]
    exact mayPut_le_one after activations

theorem weight_noHeavier (less : fewer ≤ more) (activation : Activation)
    (below : List Activation) (rest : Multiset Weight) :
    NoHeavier (weight limit fewer activation below ::ₘ rest)
      (weight limit more activation below ::ₘ rest) := by
  by_cases same : activation.left fewer = activation.left more
  · exact .inl (by simp only [weight, same])
  · refine .inr (lighter_one (weight_lt_iff.mpr (.inr ⟨rfl, .inr ⟨rfl, ?_⟩⟩)) rest)
    cases activation <;> simp [Activation.left] at same ⊢ <;> omega

theorem waitingWeights_noHeavier (limit : ℕ) (store : Store) (activations : List Activation) :
    NoHeavier (waitingWeights limit activations) (weights limit store activations) := by
  cases activations with
  | nil => exact .inl rfl
  | cons activation below => exact weight_noHeavier (Nat.zero_le _) activation below _

/-- What others do makes no stack heavier. -/
theorem weights_noHeavier (limit : ℕ) (follows : store.Follows thread after)
    (activations : List Activation) :
    NoHeavier (weights limit after activations) (weights limit store activations) := by
  cases activations with
  | nil => exact .inl rfl
  | cons activation below => exact weight_noHeavier (mayPut_le follows _) activation below _

/-- Where what is on top asks for nothing that has not started, the stack weighs what it weighs when
it has nothing to put above itself. -/
theorem weights_of_asks (asks : Asks store activations instantiation)
    (started : store.HasStarted instantiation) :
    weights limit store activations = waitingWeights limit activations := by
  cases activations with
  | nil => rfl
  | cons activation below => simp only [weights, waitingWeights, mayPut_eq_zero asks started]

/-- A thread that begins to initialize what it asks for has become lighter with the initializer on
top, and with what weighs less than the initializer. -/
theorem Begins.lighter (begins : Begins thread store activations instantiation after)
    (lights : Multiset Weight)
    (all : ∀ light ∈ lights, light < weight limit 0 (.initializer instantiation) activations) :
    Lighter (lights + waitingWeights limit (.initializer instantiation :: activations))
      (weights limit store activations) := by
  have puts := mayPut_eq_one begins.asks begins.unstarted
  cases activations with
  | nil => cases begins.asks
  | cons activation below =>
      have ranks : 0 < activation.rank ∧ activation.left 0 < activation.left 1 := by
        cases begins.asks <;> simp [Activation.rank, Activation.left]
      have initializer : weight limit 0 (.initializer instantiation) (activation :: below) <
          weight limit 1 activation below := weight_lt_of_rank rfl ranks.1
      have still : weight limit 0 activation below < weight limit 1 activation below :=
        weight_lt_iff.mpr (.inr ⟨rfl, .inr ⟨rfl, ranks.2⟩⟩)
      have less : ∀ light ∈ lights +
          {weight limit 0 (.initializer instantiation) (activation :: below),
            weight limit 0 activation below}, light < weight limit 1 activation below := by
        intro light listed
        simp only [Multiset.insert_eq_cons, Multiset.mem_add, Multiset.mem_cons,
          Multiset.mem_singleton] at listed
        rcases listed with listed | rfl | rfl
        · exact (all light listed).trans initializer
        · exact initializer
        · exact still
      have replaced := lighter_replace _ less (waitingWeights limit below)
      simp only [weights, waitingWeights, puts]
      simpa [add_assoc, Multiset.insert_eq_cons, Multiset.cons_add] using replaced

/-- A thread that begins to initialize what it asks for has become lighter. -/
theorem Begins.lighter_initializer (begins : Begins thread store activations instantiation after) :
    Lighter (waitingWeights limit (.initializer instantiation :: activations))
      (weights limit store activations) := by
  have lighter : Lighter (0 + waitingWeights limit (.initializer instantiation :: activations))
      (weights limit store activations) := begins.lighter 0 (by simp)
  rwa [zero_add] at lighter

/-- It has also become lighter with the body of the initializer on top. -/
theorem Begins.lighter_body (begins : Begins thread store activations instantiation after)
    (inside : depth (.initializer instantiation :: activations) + 1 ≤ limit) (frame : Frame) :
    Lighter (weights limit after (.body frame :: .initializer instantiation :: activations))
      (weights limit store activations) := by
  have less : weight limit
      (mayPut after (.body frame :: .initializer instantiation :: activations)) (.body frame)
        (.initializer instantiation :: activations) <
      weight limit 0 (.initializer instantiation) activations := weight_body_lt inside
  have lighter := begins.lighter {_} (by simpa using less)
  rwa [Multiset.singleton_add] at lighter

/-! ### Steps -/

/-- What comes of an attempt is lighter than a multiset of weights. Where a trap is raised, that is
so of what has nothing to put above itself any more. -/
def Attempt.Lightens (limit : ℕ) (heavy : Multiset Weight) : Attempt → Prop
  | .running store activations => Lighter (weights limit store activations) heavy
  | .raised _ _ activations => NoHeavier (waitingWeights limit activations) heavy
  | .blocked _ _ | .returned _ _ => True

/-- What a step that goes on leads to is lighter than a multiset of weights. -/
def Progress.Lightens (limit : ℕ) (heavy : Multiset Weight) : Progress → Prop
  | .running store activations => Lighter (weights limit store activations) heavy
  | .blocked _ _ | .finished _ _ => True

theorem Progress.Lightens.trans {progress : Progress} (lightens : progress.Lightens limit first)
    (noHeavier : NoHeavier first second) : progress.Lightens limit second := by
  cases progress with
  | blocked | finished => trivial
  | running store activations => exact Lighter.trans_noHeavier lightens noHeavier

/-- Unwinding makes a stack lighter: what is taken away is gone, a handler is nearer to the end of
its body, and what asked for an instantiation whose initializer fails will not start it again. -/
theorem unwind_lightens (stacked : Stacked store activations)
    (onward : ∀ frame, .body frame ∈ activations → frame.Onward) (trap : Trap) :
    (unwind store trap activations).Lightens limit (waitingWeights limit activations) := by
  induction activations generalizing trap with
  | nil => trivial
  | cons activation below ih =>
      have others : ∀ frame, .body frame ∈ below → frame.Onward :=
        fun frame listed => onward frame (List.mem_cons_of_mem _ listed)
      have passes (notInitializer : ∀ instantiation, activation ≠ .initializer instantiation)
          (passed : Trap) : (unwind store passed below).Lightens limit
            (waitingWeights limit (activation :: below)) := by
        exact (ih (stacked.drop notInitializer) others passed).trans (.inr (lighter_cons _ _))
      cases activation with
      | targets | call | access => exact passes (by simp) trap
      | body frame =>
          rcases received : frame.receive trap with passed | next
          · simp only [unwind, received]
            exact passes (by simp) passed
          · have nearer := (onward frame List.mem_cons_self).receives received
            simp only [unwind, received]
            exact lighter_one (weight_frame_lt nearer (mayPut_le_one _ _)) _
      | initializer instantiation =>
          cases stacked with
          | ordinary notInitializer => exact absurd rfl (notInitializer instantiation)
          | initializer asks started =>
              have follows : store.Follows hostThread
                (store.publish instantiation (.error trap)) := .publish _ _ _ _
              simp only [unwind, Progress.Lightens]
              rw [weights_of_asks (asks.of_loaded follows.loaded) (follows.started _ started)]
              exact lighter_cons _ _

theorem Attempt.Lightens.settle {attempt : Attempt} {heavy : Multiset Weight}
    (lightens : attempt.Lightens limit heavy) (stacked : attempt.Satisfies Stacked)
    (onward : attempt.Satisfies fun store activations =>
      store.Forward → ∀ frame, .body frame ∈ activations → frame.Onward)
    (forward : attempt.store.Forward) :
    attempt.settle.Lightens limit heavy := by
  cases attempt with
  | running => exact lightens
  | blocked | returned => trivial
  | raised store trap activations =>
      have unwinds : (unwind store trap activations).Lightens limit
          (waitingWeights limit activations) := unwind_lightens stacked (onward forward) trap
      exact unwinds.trans lightens

theorem complete_lightens (ready : Ready below)
    (onward : ∀ frame, .body frame ∈ below → frame.Onward) (heavy : Weight)
    (result : Option Value) :
    (complete store result below).Lightens limit (heavy ::ₘ waitingWeights limit below) := by
  cases below with
  | nil => trivial
  | cons activation lower =>
      cases activation with
      | body frame =>
          rcases resumed : frame.resume store result with trap | next
          · simp only [complete, resumed]
            exact .inr (lighter_cons _ _)
          · have proceeds := Frame.resume_proceeds _ _ _ _ resumed
            have nearer := proceeds.remaining_lt (onward frame List.mem_cons_self) ready
            simp only [complete, resumed]
            exact (lighter_one (weight_frame_lt nearer (mayPut_le_one _ _)) _).trans
              (lighter_cons _ _)
      | targets | initializer => exact lighter_cons _ _
      | call | access => cases ready

/-- A frame that has made a call puts nothing else above itself until the call is over, so that it
counts less although it stands where it was. -/
theorem lighter_calls {frame rest : Frame} {above : Activation}
    (asksNothing : ∀ place, ¬frame.Uses store place) (stands : frame.Stands rest)
    (called : above.isWaiting = true) :
    Lighter (weights limit store (above :: .body rest :: below))
      (weights limit store (.body frame :: below)) := by
  have puts : mayPut store (.body frame :: below) = 1 := by
    refine if_neg ?_
    rintro ⟨instantiation, asks, _⟩
    cases asks with
    | field uses => exact asksNothing _ uses
  simp only [weights, waitingWeights, puts]
  refine lighter_two ?_ ?_ _
  · refine weight_lt_of_rank (depth_waiting called _) ?_
    cases above <;> simp_all [Activation.rank, Activation.isWaiting]
  · refine weight_lt_iff.mpr (.inr ⟨rfl, .inr ⟨rfl, ?_⟩⟩)
    simp only [Activation.left, stands.remaining_eq]
    omega

/-- Entering a routine either raises a trap or takes place within the limit. -/
theorem entering_lightens {waiting : List Activation} {heavy : Multiset Weight}
    {target : BoundRoutine} {parameters : List Value}
    (refused : NoHeavier (waitingWeights limit waiting) heavy)
    (entered : ∀ frame, depth waiting + 1 ≤ limit →
      Lighter (weights limit after (.body frame :: waiting)) heavy) :
    (entering limit after target parameters waiting).Lightens limit heavy := by
  rcases enters : Frame.enter limit (depth waiting + 1) after target parameters with trap | frame
  · simp only [entering, enters]
    exact refused
  · simp only [entering, enters]
    exact entered frame (depth_le_of_enter enters)

/-- Every turn of a thread makes its stack lighter, unless it waits or is over. -/
theorem Turn.lightens {attempt : Attempt} (turn : Turn limit thread store activations attempt)
    (stacked : Stacked store activations)
    (onward : ∀ frame, .body frame ∈ activations → frame.Onward) :
    attempt.Lightens limit (weights limit store activations) := by
  cases turn with
  | idle | waits => trivial
  | ends instantiation below =>
      cases stacked with
      | ordinary notInitializer => exact absurd rfl (notInitializer instantiation)
      | initializer asks started =>
          have follows := Store.Follows.publish thread store instantiation (.ok ())
          rw [Attempt.Lightens,
            weights_of_asks (asks.of_loaded follows.loaded) (follows.started _ started)]
          exact lighter_cons _ _
  | completes same notInitializer result =>
      cases stacked with
      | initializer => exact absurd rfl (notInitializer _)
      | ordinary _ ready =>
          exact complete_lightens ready
            (fun frame listed => onward frame (List.mem_cons_of_mem _ listed)) _ result
  | proceeds same current proceeds =>
      have nearer := proceeds.remaining_lt (onward _ List.mem_cons_self) current
      exact lighter_one (weight_frame_lt nearer (mayPut_le_one _ _)) _
  | calls _ asksNothing stands called => exact lighter_calls asksNothing stands called
  | next target others below =>
      refine lighter_two ?_ ?_ _
      · exact weight_lt_of_rank rfl (by simp [Activation.rank])
      · refine weight_lt_iff.mpr (.inr ⟨rfl, .inr ⟨rfl, ?_⟩⟩)
        simp [Activation.left]
  | @enters target parameters below after same =>
      refine entering_lightens (.inr (lighter_cons _ _)) fun frame inside => ?_
      have level : depth (.call target parameters :: below) = depth below := rfl
      refine lighter_one (weight_lt_iff.mpr (.inl ?_)) _
      rw [depth_body, level]
      omega
  | begins begins => exact begins.lighter_initializer
  | runs begins target =>
      exact entering_lightens (.inr begins.lighter_initializer) fun frame inside =>
        begins.lighter_body inside frame
  | raises same trap => exact waitingWeights_noHeavier limit store activations
  | refuses trap => exact .inr (lighter_cons _ _)

/-- Every step of a thread makes its stack lighter, unless the thread waits or comes to its end. -/
theorem step_lightens (stacked : Stacked store activations) (forward : store.Forward)
    (onward : ∀ frame, .body frame ∈ activations → frame.Onward) :
    (step limit thread store activations).Lightens limit (weights limit store activations) := by
  have turn := attempt_turn limit thread store activations
  have changes := attempt_changes limit thread store activations
  exact (turn.lightens stacked onward).settle ((kept_stacked limit thread).turn turn stacked)
    ((kept_onward limit thread).turn turn fun _ => onward)
    (forward.of_modules changes.modules_eq.symm)

end Rekindle.Machine
