import Mathlib.Data.Finset.Card
import Rekindle.Proofs.Indexing.Access
import Rekindle.Proofs.Indexing.Routes
import Rekindle.Proofs.Validity.Valid

/-!
# Checking the nesting by position

The check of the nesting indexes the types of a module and an array of marks. The links are followed
only after their ends were compared with the number of types, so that the second half of the check
walks outwards over links that were all looked at by the first. That half marks the types whose way
outwards is known to end, stops at a marked type, and fails when it comes back to a type of the same
way; it finds a way that does not end exactly where the limited walk finds one.
-/

namespace Rekindle.Indexing

open Fallible Validity Rekindle.Module

variable {module : Module}

/-! ### The links -/

def checkOuter (module : Module) (id : TypeId) (type : TypeDecl) : Run Defect Unit :=
  match type.outer with
  | some outer =>
    if outer.position < module.types.size then do
      let around ← typeAt module outer
      if id ∈ around.nested then return ()
      else throw (.reported
        (.nesting id.text ("not listed among the nested types of " ++ outer.text)))
    else throw (.reported (.danglingHandle id.text outer.text))
  | none =>
    if id ∈ module.topLevel then return ()
    else throw (.reported (.nesting id.text "neither nested nor top-level"))

def checkNestedEntry (module : Module) (id nested : TypeId) : Run Defect Unit :=
  if nested.position < module.types.size then do
    let type ← typeAt module nested
    if type.outer = some id then return ()
    else throw (.reported
      (.nesting id.text (nested.text ++ " does not name it as declaring type")))
  else throw (.reported (.danglingHandle id.text nested.text))

def checkLinks (module : Module) (id : TypeId) : Run Defect Unit := do
  let type ← typeAt module id
  checkOuter module id type
  type.nested.forM (checkNestedEntry module id)

theorem type?_eq_none {id : TypeId} (outside : ¬id.position < module.types.size) :
    module.type? id = none :=
  Array.getElem?_eq_none (Nat.le_of_not_lt outside)

theorem exists_type {id : TypeId} (inside : id.position < module.types.size) :
    ∃ type, module.type? id = some type :=
  exists_type_iff.mpr (mem_typeIds.mpr inside)

theorem checkOuter_within (id : TypeId) (type : TypeDecl) :
    checkOuter module id type = within (Validity.checkOuter module id type) := by
  unfold checkOuter Validity.checkOuter
  rcases type.outer with _ | outer
  · by_cases listed : id ∈ module.topLevel <;> simp [listed]
  · by_cases inside : outer.position < module.types.size
    · rcases exists_type inside with ⟨around, declared⟩
      by_cases listed : id ∈ around.nested <;>
        simp [inside, declared, typeAt_of_some declared, listed]
    · simp [inside, type?_eq_none inside]

theorem checkNestedEntry_within (id nested : TypeId) :
    checkNestedEntry module id nested = within (Validity.checkNestedEntry module id nested) := by
  unfold checkNestedEntry Validity.checkNestedEntry
  by_cases inside : nested.position < module.types.size
  · rcases exists_type inside with ⟨type, declared⟩
    by_cases back : type.outer = some id <;>
      simp [inside, declared, typeAt_of_some declared, back]
  · simp [inside, type?_eq_none inside]

theorem checkLinks_within {id : TypeId} (listed : id ∈ module.typeIds) :
    checkLinks module id = within (Validity.checkLinks module id) := by
  rcases exists_type_iff.mpr listed with ⟨type, declared⟩
  unfold checkLinks Validity.checkLinks
  rw [typeAt_of_some declared, declared, ok_bind, checkOuter_within]
  exact bind_within fun _ _ => forM_within fun nested _ => checkNestedEntry_within id nested

/-! ### The ways outwards -/

/-- The number of types that are not on a way. -/
def unvisited (module : Module) (way : List TypeId) : Nat :=
  (module.typeIds.toFinset \ way.toFinset).card

theorem unvisited_cons_lt {way : List TypeId} {id : TypeId} {type : TypeDecl}
    (fresh : id ∉ way) (declared : module.type? id = some type) :
    unvisited module (id :: way) < unvisited module way := by
  have listed : id ∈ module.typeIds.toFinset :=
    List.mem_toFinset.mpr (exists_type_iff.mp ⟨type, declared⟩)
  have counted : id ∈ module.typeIds.toFinset \ way.toFinset :=
    Finset.mem_sdiff.mpr ⟨listed, fun visited => fresh (List.mem_toFinset.mp visited)⟩
  unfold unvisited
  rw [List.toFinset_cons, Finset.sdiff_insert]
  exact Finset.card_erase_lt_of_mem counted

/-- Goes on outwards from a type, if there is one, until a type that is marked; `way` is where it
came by since the start, the last first. -/
def climb (module : Module) (marks : Array Bool) (start : TypeId) (way : List TypeId)
    (cursor : Option TypeId) : Run Defect (List TypeId) :=
  match cursor with
  | none => .ok way
  | some id =>
    match entry marks id.position with
    | .error halt => .error halt
    | .ok true => .ok way
    | .ok false =>
      if visited : id ∈ way then
        .error (.reported (.nesting start.text "declaring types form a cycle"))
      else
        match declared : (typeAt module id : Run Defect TypeDecl) with
        | .error halt => .error halt
        | .ok type =>
          have := unvisited_cons_lt visited (typeAt_eq_ok_iff.mp declared)
          climb module marks start (id :: way) type.outer
termination_by unvisited module way

/-- Marks types. -/
def settle (marks : Array Bool) : List TypeId → Run Defect (Array Bool)
  | [] => .ok marks
  | id :: others => do
    let marks ← put marks id.position true
    settle marks others

/-- Follows the ways outwards from types, one after the other. -/
def checkWays (module : Module) (marks : Array Bool) : List TypeId → Run Defect Unit
  | [] => .ok ()
  | start :: others => do
    let way ← climb module marks start [] (some start)
    let marks ← settle marks way
    checkWays module marks others

def checkNesting (module : Module) : Run Defect Unit := do
  within (module.topLevel.forM (checkTopLevel module))
  module.typeIds.forM (checkLinks module)
  checkWays module (Array.replicate module.types.size false) module.typeIds

/-! ### A step outwards -/

/-- A type from which the way outwards ends. -/
def Ends (module : Module) (id : TypeId) : Prop := (module.route id).isSome = true

/-- What a way that was taken since its start tells about where it stands. -/
structure Climbed (module : Module) (start : TypeId) (way : List TypeId) (cursor : Option TypeId) :
    Prop where
  /-- The types of the way have an end if the rest of the way has. -/
  ends : (∀ id, cursor = some id → Ends module id) → ∀ visited ∈ way, Ends module visited
  /-- The rest of the way is shorter. -/
  shorter : ∀ visited ∈ way, ∀ chain, module.route visited = some chain →
    ∀ id, cursor = some id → ∃ rest, module.route id = some rest ∧ rest.length < chain.length
  started : cursor = some start ∨ start ∈ way
  inside : ∀ visited ∈ way, visited.position < module.types.size

theorem climbed_start (start : TypeId) : Climbed module start [] (some start) where
  ends _ _ visited := nomatch visited
  shorter _ visited := nomatch visited
  started := .inl rfl
  inside _ visited := nomatch visited

theorem ends_of_outer {id : TypeId} {type : TypeDecl} (declared : module.type? id = some type)
    (around : ∀ outer, type.outer = some outer → Ends module outer) : Ends module id := by
  unfold Ends
  rcases link : type.outer with _ | outer
  · rw [route_of_outermost declared link]
    rfl
  · rw [route_of_nested declared link, Option.isSome_map]
    exact around outer link

theorem route_of_outer {id outer : TypeId} {type : TypeDecl} {chain : List TypeDecl}
    (declared : module.type? id = some type) (link : type.outer = some outer)
    (found : module.route id = some chain) :
    ∃ rest, module.route outer = some rest ∧ rest.length < chain.length := by
  rw [route_of_nested declared link, Option.map_eq_some_iff] at found
  rcases found with ⟨rest, foundRest, rfl⟩
  exact ⟨rest, foundRest, by simp⟩

theorem Climbed.step {start id : TypeId} {way : List TypeId} {type : TypeDecl}
    (climbed : Climbed module start way (some id)) (declared : module.type? id = some type) :
    Climbed module start (id :: way) type.outer where
  ends rest visited listed := by
    have here : Ends module id := ends_of_outer declared rest
    rcases List.mem_cons.mp listed with rfl | before
    · exact here
    · refine climbed.ends ?_ visited before
      intro other same
      cases same
      exact here
  shorter visited listed chain found outer link := by
    rcases List.mem_cons.mp listed with rfl | before
    · exact route_of_outer declared link found
    · rcases climbed.shorter visited before chain found id rfl with ⟨middle, foundMiddle, less⟩
      rcases route_of_outer declared link foundMiddle with ⟨rest, foundRest, lessStill⟩
      exact ⟨rest, foundRest, by omega⟩
  started := by
    rcases climbed.started with here | before
    · cases here
      exact .inr List.mem_cons_self
    · exact .inr (List.mem_cons_of_mem id before)
  inside visited listed := by
    rcases List.mem_cons.mp listed with rfl | before
    · exact position_lt_of_type? declared
    · exact climbed.inside visited before

/-- A way that comes back to one of its types has no end. -/
theorem Climbed.not_ends {start id : TypeId} {way : List TypeId}
    (climbed : Climbed module start way (some id)) (again : id ∈ way) : ¬Ends module start := by
  have loops : ¬Ends module id := by
    intro ends
    rcases Option.isSome_iff_exists.mp ends with ⟨chain, found⟩
    rcases climbed.shorter id again chain found id rfl with ⟨rest, foundRest, less⟩
    rw [found] at foundRest
    cases foundRest
    omega
  rcases climbed.started with here | before
  · cases here
    exact loops
  · intro ends
    rcases Option.isSome_iff_exists.mp ends with ⟨chain, found⟩
    rcases climbed.shorter start before chain found id rfl with ⟨rest, foundRest, _⟩
    exact loops (Option.isSome_iff_exists.mpr ⟨rest, foundRest⟩)

/-! ### The marks -/

/-- The links that are followed outwards lead to types. -/
def LinksInside (module : Module) : Prop :=
  ∀ id type outer, module.type? id = some type → type.outer = some outer →
    outer.position < module.types.size

/-- An array of marks on the types of a module, on no type but those whose way ends. -/
structure Marked (module : Module) (marks : Array Bool) : Prop where
  size : marks.size = module.types.size
  ends : ∀ id : TypeId, marks[id.position]? = some true → Ends module id

theorem marked_replicate : Marked module (Array.replicate module.types.size false) where
  size := Array.size_replicate
  ends id marked := by simp [Array.getElem?_replicate] at marked

theorem Marked.put {marks : Array Bool} (marked : Marked module marks) {id : TypeId}
    (ends : Ends module id) : Marked module (marks.setIfInBounds id.position true) where
  size := Array.size_setIfInBounds.trans marked.size
  ends other found := by
    by_cases same : id.position = other.position
    · rwa [← TypeId.position_inj.mp same]
    · rw [Array.getElem?_setIfInBounds_ne same] at found
      exact marked.ends other found

theorem settle_marked {marks : Array Bool} {way : List TypeId} (marked : Marked module marks)
    (inside : ∀ id ∈ way, id.position < module.types.size) (ends : ∀ id ∈ way, Ends module id) :
    ∃ after, settle marks way = .ok after ∧ Marked module after := by
  induction way generalizing marks with
  | nil => exact ⟨marks, rfl, marked⟩
  | cons id others ih =>
      have here : id.position < marks.size := by
        rw [marked.size]
        exact inside id List.mem_cons_self
      rcases ih (marked.put (ends id List.mem_cons_self))
          (fun other listed => inside other (List.mem_cons_of_mem id listed))
          (fun other listed => ends other (List.mem_cons_of_mem id listed)) with
        ⟨after, settled, keeps⟩
      refine ⟨after, ?_, keeps⟩
      rw [settle, put_of_lt here, ok_bind, settled]

theorem Climbed.finished {start : TypeId} {way : List TypeId} {cursor : Option TypeId}
    (climbed : Climbed module start way cursor)
    (ends : ∀ id, cursor = some id → Ends module id) : Ends module start := by
  rcases climbed.started with here | before
  · exact ends start here
  · exact climbed.ends ends start before

/-- Going outwards finds an end or comes back, and comes back only where there is no end. -/
theorem climb_marked {marks : Array Bool} {start : TypeId} (links : LinksInside module)
    (marked : Marked module marks) (way : List TypeId) (cursor : Option TypeId)
    (climbed : Climbed module start way cursor)
    (inside : ∀ id, cursor = some id → id.position < module.types.size) :
    (∃ whole, climb module marks start way cursor = .ok whole ∧ Ends module start ∧
      (∀ id ∈ whole, id.position < module.types.size) ∧ ∀ id ∈ whole, Ends module id) ∨
    climb module marks start way cursor =
        .error (.reported (.nesting start.text "declaring types form a cycle")) ∧
      ¬Ends module start := by
  -- The cases are those of the walk itself; the two in which an access goes astray cannot occur.
  induction way, cursor using climb.induct module marks with
  | case1 way =>
      have arrived : ∀ id, (none : Option TypeId) = some id → Ends module id := nofun
      refine .inl ⟨way, ?_, climbed.finished arrived, climbed.inside, climbed.ends arrived⟩
      rw [climb]
  | case2 way id halt astray =>
      have here : id.position < marks.size := marked.size ▸ inside id rfl
      rw [entry_of_some (Array.getElem?_eq_getElem here)] at astray
      cases astray
  | case3 way id mark =>
      have arrived : ∀ other, some id = some other → Ends module other := by
        rintro _ ⟨⟩
        exact marked.ends id (entry_eq_ok_iff.mp mark)
      refine .inl ⟨way, ?_, climbed.finished arrived, climbed.inside, climbed.ends arrived⟩
      rw [climb, mark]
  | case4 way id mark again =>
      refine .inr ⟨?_, climbed.not_ends again⟩
      rw [climb, mark]
      simp [again]
  | case5 way id mark fresh halt astray =>
      rcases exists_type (inside id rfl) with ⟨type, declared⟩
      rw [typeAt_of_some declared] at astray
      cases astray
  | case6 way id mark fresh type found _ ih =>
      have declared := typeAt_eq_ok_iff.mp found
      have unfolded : climb module marks start way (some id) =
          climb module marks start (id :: way) type.outer := by
        rw [climb, mark]
        simp only [fresh, dif_neg, not_false_eq_true]
        rw [found]
      rw [unfolded]
      exact ih (climbed.step declared) fun outer link => links id type outer declared link

theorem checkWays_within {marks : Array Bool} {ids : List TypeId} (links : LinksInside module)
    (marked : Marked module marks) (inside : ∀ id ∈ ids, id.position < module.types.size) :
    checkWays module marks ids = within (ids.forM (checkChain module)) := by
  induction ids generalizing marks with
  | nil => rfl
  | cons start others ih =>
      have here : ∀ id, some start = some id → id.position < module.types.size := by
        rintro _ ⟨⟩
        exact inside start List.mem_cons_self
      have rest : ∀ id ∈ others, id.position < module.types.size := fun id listed =>
        inside id (List.mem_cons_of_mem start listed)
      rw [checkWays, List.forM_eq_forM, List.forM_cons]
      rcases climb_marked links marked [] (some start) (climbed_start start) here with
        ⟨way, climbs, ends, wayInside, wayEnds⟩ | ⟨loops, endless⟩
      · rcases settle_marked marked wayInside wayEnds with ⟨after, settles, afterMarked⟩
        have passes : checkChain module start = .ok () := checkChain_eq_ok_iff.mpr ends
        rw [climbs, ok_bind, settles, ok_bind, passes, ok_bind, ← List.forM_eq_forM]
        exact ih afterMarked rest
      · have fails : checkChain module start =
            .error (.nesting start.text "declaring types form a cycle") := if_neg endless
        rw [loops, fails]
        rfl

theorem linksInside_of_checks (passes : module.typeIds.forM (Validity.checkLinks module) = .ok ()) :
    LinksInside module := by
  intro id type outer declared link
  have fits : LinksFit module id type := checkLinks_eq_ok_iff.mp
    (forM_eq_ok_iff.mp passes id (exists_type_iff.mp ⟨type, declared⟩)) type declared
  rcases fits.nested_in outer link with ⟨around, outerDeclared, _⟩
  exact position_lt_of_type? outerDeclared

/-- The check of the nesting stays within the types of any module and within its marks. -/
theorem checkNesting_within (module : Module) :
    checkNesting module = within (Validity.checkNesting module) := by
  unfold checkNesting Validity.checkNesting
  refine bind_within fun _ _ => ?_
  rw [forM_within fun id listed => checkLinks_within listed]
  refine bind_within fun _ passes => ?_
  exact checkWays_within (linksInside_of_checks passes) marked_replicate
    fun id listed => mem_typeIds.mp listed

end Rekindle.Indexing
