import Mathlib.Data.List.TakeWhile
import Rekindle.Text.Path

/-!
# Paths to files

The name of the file a path leads to is its last segment that names something, and the stem of the
name is what stands before an extension. A file in a folder keeps its folder when it gets another
extension, and its stem as well. The path of a file with the same extension as before leads to the
same place.
-/

namespace Rekindle.Text.Path

/-! ### Segments -/

variable {folder name front extension path segment : List Char} {pieces before : List (List Char)}

theorem segments_ne_nil (path : List Char) : segments path ≠ [] := by
  cases path with
  | nil => simp [segments]
  | cons c rest =>
      rw [segments]
      split
      · simp
      · split <;> simp

theorem segments_plain (plain : '/' ∉ name) : segments name = [name] := by
  induction name with
  | nil => rfl
  | cons c rest ih =>
      rw [List.mem_cons, not_or] at plain
      rw [segments, if_neg (Ne.symm plain.1), ih plain.2]

theorem segments_append (folder name : List Char) :
    segments (folder ++ '/' :: name) = segments folder ++ segments name := by
  induction folder with
  | nil => simp [segments]
  | cons c rest ih =>
      rw [List.cons_append, segments, segments, ih]
      split
      · rfl
      · rcases first : segments rest with _ | ⟨segment, others⟩
        · exact absurd first (segments_ne_nil rest)
        · rfl

theorem plain_of_mem_segments (listed : segment ∈ segments path) : '/' ∉ segment := by
  induction path generalizing segment with
  | nil =>
      rw [segments, List.mem_singleton] at listed
      simp [listed]
  | cons c rest ih =>
      rw [segments] at listed
      split at listed
      · rcases List.mem_cons.mp listed with rfl | later
        · exact List.not_mem_nil
        · exact ih later
      · next other =>
          rcases first : segments rest with _ | ⟨piece, others⟩
          · exact absurd first (segments_ne_nil rest)
          · rw [first] at listed ih
            rcases List.mem_cons.mp listed with rfl | later
            · have plain := ih List.mem_cons_self
              exact fun slash => (List.mem_cons.mp slash).elim (fun same => other same.symm) plain
            · exact ih (List.mem_cons_of_mem piece later)

/-- A path is its segments, each followed by a slash but the last. -/
theorem flatMap_segments (path : List Char) :
    (segments path).flatMap (· ++ ['/']) = path ++ ['/'] := by
  induction path with
  | nil => rfl
  | cons c rest ih =>
      rw [segments]
      split
      · next slash => simp [slash, ih]
      · rcases first : segments rest with _ | ⟨piece, others⟩
        · exact absurd first (segments_ne_nil rest)
        · rw [first] at ih
          simpa using ih

theorem segments_joined (plain : ∀ piece ∈ pieces, '/' ∉ piece) (plainName : '/' ∉ name) :
    segments (pieces.flatMap (· ++ ['/']) ++ name) = pieces ++ [name] := by
  induction pieces with
  | nil => exact segments_plain plainName
  | cons piece pieces ih =>
      have split : (piece :: pieces).flatMap (· ++ ['/']) ++ name =
          piece ++ '/' :: (pieces.flatMap (· ++ ['/']) ++ name) := by
        simp
      rw [split, segments_append, segments_plain (plain piece List.mem_cons_self),
        ih fun other listed => plain other (List.mem_cons_of_mem piece listed)]
      rfl

/-- A path starts at a root if there is a segment behind a first one that is empty. -/
theorem head_eq_slash_iff : path.head? = some '/' ↔
    (segments path).head? = some [] ∧ (segments path).tail ≠ [] := by
  cases path with
  | nil => simp [segments]
  | cons c rest =>
      rw [segments]
      split
      · next slash => simp [slash, segments_ne_nil]
      · next other =>
          rcases first : segments rest with _ | ⟨piece, others⟩ <;> simp [other]

theorem lastNamed_of_segments (ends : segments path = pieces ++ [name]) (notEmpty : name ≠ [])
    (notSelf : name ≠ ['.']) : lastNamed path = name :: pieces.reverse := by
  rw [lastNamed, ends, List.reverse_append, List.reverse_singleton, List.singleton_append,
    List.dropWhile_cons_of_neg (by simp [notEmpty, notSelf])]

/-- Behind the last segment that names something come only segments that name nothing. -/
theorem lastNamed_eq_cons (found : lastNamed path = segment :: before) :
    (segment ≠ [] ∧ segment ≠ ['.']) ∧ ∃ skipped,
      (∀ other ∈ skipped, other = [] ∨ other = ['.']) ∧
      segments path = before.reverse ++ segment :: skipped := by
  let isSkipped (segment : List Char) : Bool := decide (segment = [] ∨ segment = ['.'])
  have dropped : (segments path).reverse.dropWhile isSkipped = segment :: before := found
  refine ⟨?_, ((segments path).reverse.takeWhile isSkipped).reverse, ?_, ?_⟩
  · have stops := List.head?_dropWhile_not isSkipped (segments path).reverse
    rw [dropped] at stops
    simpa [isSkipped] using stops
  · intro other listed
    simpa [isSkipped] using List.mem_takeWhile_imp (List.mem_reverse.mp listed)
  · have whole := List.takeWhile_append_dropWhile (p := isSkipped) (l := (segments path).reverse)
    rw [dropped] at whole
    simpa using (congrArg List.reverse whole).symm

/-- The file of a name is reached by the name itself and by any path of which it is the last
segment. -/
def LeadsTo (path name : String) : Prop :=
  path = name ∨ ∃ folder, path = folder ++ "/" ++ name

/-- A text that can name a file. -/
structure IsFileName (name : String) : Prop where
  plain : '/' ∉ name.toList
  notEmpty : name ≠ ""
  notSelf : name ≠ "."
  notParent : name ≠ ".."

/-- A file name is a segment that names something, and not the parent of a folder. -/
theorem IsFileName.toList_ne {name : String} (isName : IsFileName name) :
    name.toList ≠ [] ∧ name.toList ≠ ['.'] ∧ name.toList ≠ ['.', '.'] :=
  ⟨fun same => isName.notEmpty (String.toList_eq_nil_iff.mp same),
    fun same => isName.notSelf (String.toList_inj.mp same),
    fun same => isName.notParent (String.toList_inj.mp same)⟩

theorem IsFileName.withExtension {name extension : String} (isName : IsFileName name)
    (plain : '/' ∉ extension.toList) : IsFileName (name ++ "." ++ extension) := by
  rcases text : name.toList with _ | ⟨first, rest⟩
  · exact absurd (String.toList_eq_nil_iff.mp text) isName.notEmpty
  · refine ⟨?_, ?_, ?_, ?_⟩
    · simp [isName.plain, plain]
    · intro empty
      simpa using congrArg String.toList empty
    · intro self
      have sameText : first :: (rest ++ '.' :: extension.toList) = ['.'] := by
        simpa [text] using congrArg String.toList self
      simp at sameText
    · intro parent
      have sameText : first :: (rest ++ '.' :: extension.toList) = ['.', '.'] := by
        simpa [text] using congrArg String.toList parent
      rcases rest with _ | ⟨second, rest⟩
      · -- Only a dot can stand before the dot of the extension.
        rw [(List.cons_eq_cons.mp sameText).1] at text
        exact isName.notSelf (String.toList_inj.mp text)
      · simp at sameText

theorem LeadsTo.fileName {path name : String} (leads : LeadsTo path name)
    (isName : IsFileName name) : fileName path = some name := by
  have ends : ∃ pieces, segments path.toList = pieces ++ [name.toList] := by
    rcases leads with rfl | ⟨folder, rfl⟩
    · exact ⟨[], segments_plain isName.plain⟩
    · refine ⟨segments folder.toList, ?_⟩
      have split : (folder ++ "/" ++ name).toList = folder.toList ++ '/' :: name.toList := by simp
      rw [split, segments_append, segments_plain isName.plain]
  rcases ends with ⟨pieces, ends⟩
  rcases isName.toList_ne with ⟨notEmpty, notSelf, notParent⟩
  rw [Path.fileName, lastNamed_of_segments ends notEmpty notSelf]
  simp [notParent]

/-! ### Stems -/

theorem splitAtDot_plain (plain : '.' ∉ name) : splitAtDot name = (name, none) := by
  have noDot : name.reverse.dropWhile (· ≠ '.') = [] := by
    refine List.dropWhile_eq_nil_iff.mpr ?_
    simpa using fun c listed => ne_of_mem_of_not_mem listed plain
  simp only [splitAtDot, noDot]

theorem splitAtDot_append (plain : '.' ∉ extension) :
    splitAtDot (front ++ '.' :: extension) =
      if front = [] then (front ++ '.' :: extension, none) else (front, some extension) := by
  have passed : ∀ c ∈ extension.reverse, decide (c ≠ '.') = true := by
    simpa using fun c listed => ne_of_mem_of_not_mem listed plain
  have turned :
      (front ++ '.' :: extension).reverse = extension.reverse ++ '.' :: front.reverse := by
    simp
  simp only [splitAtDot, turned, List.takeWhile_append_of_pos passed,
    List.dropWhile_append_of_pos passed]
  simp

/-- A text without a dot has none to split at; any other has a last one. -/
theorem lastDot (name : List Char) :
    '.' ∉ name ∨ ∃ front extension, '.' ∉ extension ∧ name = front ++ '.' :: extension := by
  by_cases dotted : '.' ∈ name
  · rcases List.eq_append_cons_of_mem (List.mem_reverse.mpr dotted) with
      ⟨extension, front, turned, plain⟩
    refine .inr ⟨front.reverse, extension.reverse, by simpa using plain, ?_⟩
    simpa using congrArg List.reverse turned
  · exact .inl dotted

/-- A stem is what stands before an extension, or the whole name where no dot but a leading one is
in it. -/
theorem stem_eq_iff {stem : List Char} (notEmpty : stem ≠ []) :
    (splitAtDot name).1 = stem ↔
      (name = stem ∧ '.' ∉ stem.tail) ∨
      ∃ extension, '.' ∉ extension ∧ name = stem ++ '.' :: extension := by
  constructor
  · rintro rfl
    rcases lastDot name with plain | ⟨front, extension, plain, rfl⟩
    · rw [splitAtDot_plain plain]
      exact .inl ⟨rfl, fun inTail => plain (List.mem_of_mem_tail inTail)⟩
    · rw [splitAtDot_append plain]
      split
      · next atFront => exact .inl ⟨rfl, by simpa [atFront] using plain⟩
      · exact .inr ⟨extension, plain, rfl⟩
  · rintro (⟨rfl, plain⟩ | ⟨extension, plain, rfl⟩)
    · rcases lastDot name with noDot | ⟨front, extension, extensionPlain, rfl⟩
      · rw [splitAtDot_plain noDot]
      · -- The dot would be in the tail if anything stood before it.
        rcases front with _ | ⟨c, front⟩
        · rw [splitAtDot_append extensionPlain, if_pos rfl]
        · simp at plain
    · rw [splitAtDot_append plain, if_neg notEmpty]

/-- The files whose stem is a name: the name with one extension, and the bare name if no dot but a
leading one is in it. -/
theorem fileStem_eq_some_iff {path stem : String} (notEmpty : stem ≠ "") :
    fileStem path = some stem ↔ ∃ name, fileName path = some name ∧
      ((name = stem ∧ '.' ∉ stem.toList.tail) ∨
        ∃ extension : String, '.' ∉ extension.toList ∧ name = stem ++ "." ++ extension) := by
  have someText : stem.toList ≠ [] := by simpa using notEmpty
  have sameText : ∀ name : String,
      String.ofList (splitAtDot name.toList).1 = stem ↔ (splitAtDot name.toList).1 = stem.toList :=
    fun name => ⟨fun same => by simp [← same], fun same => by simp [same]⟩
  simp only [fileStem, Option.map_eq_some_iff, sameText, stem_eq_iff someText, String.toList_inj]
  refine exists_congr fun name => and_congr_right fun _ => or_congr_right ?_
  constructor
  · rintro ⟨extension, plain, same⟩
    exact ⟨String.ofList extension, by simpa using plain, String.toList_inj.mp (by simp [same])⟩
  · rintro ⟨extension, plain, rfl⟩
    exact ⟨extension.toList, plain, by simp⟩

/-- What stands before the extension of a file name. -/
def stemOf (name : String) : String := String.ofList (splitAtDot name.toList).1

theorem fileStem_eq (path : String) : fileStem path = (fileName path).map stemOf := rfl

theorem splitAtDot_fst_ne_nil (notEmpty : name ≠ []) : (splitAtDot name).1 ≠ [] := by
  rcases lastDot name with plain | ⟨front, extension, plain, rfl⟩
  · rwa [splitAtDot_plain plain]
  · rw [splitAtDot_append plain]
    split
    · exact notEmpty
    · next front_ne => exact front_ne

theorem mem_of_mem_stem {c : Char} (listed : c ∈ (splitAtDot name).1) : c ∈ name := by
  rcases lastDot name with plain | ⟨front, extension, plain, rfl⟩
  · rwa [splitAtDot_plain plain] at listed
  · rw [splitAtDot_append plain] at listed
    split at listed
    · exact listed
    · exact List.mem_append_left _ listed

theorem stemOf_ne_empty {name : String} (notEmpty : name ≠ "") : stemOf name ≠ "" := by
  have someText : name.toList ≠ [] := by simpa using notEmpty
  simpa [stemOf] using splitAtDot_fst_ne_nil someText

/-- A text with one extension behind it is the stem of the whole. -/
theorem stemOf_append {stem extension : String} (notEmpty : stem ≠ "")
    (undotted : '.' ∉ extension.toList) : stemOf (stem ++ "." ++ extension) = stem := by
  have someText : stem.toList ≠ [] := by simpa using notEmpty
  have split : (stem ++ "." ++ extension).toList = stem.toList ++ '.' :: extension.toList := by
    simp
  rw [stemOf, split, splitAtDot_append undotted, if_neg someText, String.ofList_toList]

/-- A file name with another extension is a file name. -/
theorem IsFileName.replaceExtension {name extension : String} (isName : IsFileName name)
    (unslashed : '/' ∉ extension.toList) (notEmpty : extension ≠ "") :
    IsFileName (stemOf name ++ "." ++ extension) := by
  have text : (stemOf name ++ "." ++ extension).toList =
      (splitAtDot name.toList).1 ++ '.' :: extension.toList := by
    simp [stemOf]
  have long : 3 ≤ (stemOf name ++ "." ++ extension).toList.length := by
    have stem : 0 < (splitAtDot name.toList).1.length :=
      List.length_pos_iff.mpr (splitAtDot_fst_ne_nil isName.toList_ne.1)
    have more : 0 < extension.toList.length := List.length_pos_iff.mpr (by simpa using notEmpty)
    rw [text, List.length_append, List.length_cons]
    omega
  refine ⟨?_, ?_, ?_, ?_⟩
  · rw [text, List.mem_append, List.mem_cons, not_or, not_or]
    exact ⟨fun listed => isName.plain (mem_of_mem_stem listed), by decide, unslashed⟩
  all_goals
    intro short
    rw [short] at long
    exact absurd long (by decide)

/-! ### Files in folders -/

/-- What the names of files in a folder follow are segments with a slash behind each. -/
theorem joint_segments (folder : String) : ∃ pieces : List (List Char),
    (joint folder).toList = pieces.flatMap (· ++ ['/']) ∧ (∀ piece ∈ pieces, '/' ∉ piece) ∧
    (pieces.filter fun piece => piece ≠ [] ∧ piece ≠ ['.']) = names folder := by
  unfold joint
  rcases ends : folder.toList.getLast? with _ | last
  · rw [List.getLast?_eq_none_iff] at ends
    exact ⟨[], by simp [ends], by simp, by simp [names, ends, segments]⟩
  · by_cases slash : last = '/'
    · rcases List.getLast?_eq_some_iff.mp ends with ⟨front, whole⟩
      rw [slash] at whole
      refine ⟨segments front, ?_, fun piece => plain_of_mem_segments, ?_⟩
      · simp only [slash, if_true, whole, flatMap_segments]
      · rw [names, whole, segments_append]
        simp [segments]
    · refine ⟨segments folder.toList, ?_, fun piece => plain_of_mem_segments, rfl⟩
      simp only [slash, if_false, flatMap_segments]
      simp

/-- A file in a folder is one segment further than the folder. -/
theorem names_inside {folder name : String} (isName : IsFileName name) :
    names (inside folder name) = names folder ++ [name.toList] := by
  rcases joint_segments folder with ⟨pieces, text, plain, same⟩
  rcases isName.toList_ne with ⟨notEmpty, notSelf, _⟩
  rw [names, inside, String.toList_append, text, segments_joined plain isName.plain,
    List.filter_append, same]
  simp [notEmpty, notSelf]

/-- A file in a folder stays there when its extension is replaced. -/
theorem withExtension_inside {folder name : String} (isName : IsFileName name)
    (extension : String) : withExtension (inside folder name) extension =
      inside folder (stemOf name ++ "." ++ extension) := by
  rcases joint_segments folder with ⟨pieces, text, plain, _⟩
  rcases isName.toList_ne with ⟨notEmpty, notSelf, notParent⟩
  have found : lastNamed (inside folder name).toList = name.toList :: pieces.reverse := by
    refine lastNamed_of_segments ?_ notEmpty notSelf
    rw [inside, String.toList_append, text, segments_joined plain isName.plain]
  rw [withExtension, found]
  simp only [notParent, if_false, List.reverse_reverse, ← text]
  rw [← String.toList_inj]
  simp [inside, stemOf]

/-! ### Spellings -/

/-- Two paths that lead to the same place: they have the same segments that name something, from a
root or not. -/
structure SamePlace (path other : String) : Prop where
  names : names path = names other
  rooted : path.toList.head? = some '/' ↔ other.toList.head? = some '/'

theorem lastNamed_of_fileName {path name : String} (leads : fileName path = some name) :
    (∃ before, lastNamed path.toList = name.toList :: before) ∧ name.toList ≠ ['.', '.'] := by
  unfold fileName at leads
  rcases found : lastNamed path.toList with _ | ⟨segment, before⟩
  · simp [found] at leads
  · simp only [found] at leads
    split at leads
    · cases leads
    · next notParent =>
        cases leads
        simpa using notParent

theorem isFileName_of_fileName {path name : String} (leads : fileName path = some name) :
    IsFileName name := by
  rcases lastNamed_of_fileName leads with ⟨⟨before, found⟩, notParent⟩
  rcases lastNamed_eq_cons found with ⟨⟨notEmpty, notSelf⟩, skipped, _, whole⟩
  have listed : name.toList ∈ segments path.toList := by simp [whole]
  refine ⟨plain_of_mem_segments listed, by simpa using notEmpty, ?_, ?_⟩
  · rintro rfl
    exact notSelf rfl
  · rintro rfl
    exact notParent rfl

/-- With the extension that a file has already, nothing is left out of its path but what follows its
name. -/
theorem toList_withExtension {path name extension : String} {before : List (List Char)}
    (found : lastNamed path.toList = name.toList :: before) (notParent : name.toList ≠ ['.', '.'])
    (same : name = stemOf name ++ "." ++ extension) :
    (withExtension path extension).toList =
      before.reverse.flatMap (· ++ ['/']) ++ name.toList := by
  have text : (splitAtDot name.toList).1 ++ ".".toList ++ extension.toList = name.toList := by
    simpa [stemOf] using (congrArg String.toList same).symm
  rw [withExtension, found]
  simp only [notParent, if_false, String.toList_append, String.toList_ofList]
  rw [List.append_assoc, List.append_assoc, ← List.append_assoc _ ".".toList, text]

/-- Putting the extension that a file has already leads to the same place. -/
theorem samePlace_withExtension {path name extension : String} (leads : fileName path = some name)
    (same : name = stemOf name ++ "." ++ extension) :
    SamePlace (withExtension path extension) path := by
  rcases lastNamed_of_fileName leads with ⟨⟨before, found⟩, notParent⟩
  rcases lastNamed_eq_cons found with ⟨named, skipped, unnamed, whole⟩
  have plain : ∀ piece ∈ before.reverse, '/' ∉ piece := by
    intro piece listed
    have isSegment : piece ∈ segments path.toList := by
      rw [whole]
      exact List.mem_append_left _ listed
    exact plain_of_mem_segments isSegment
  have pieces : segments (withExtension path extension).toList =
      before.reverse ++ [name.toList] := by
    rw [toList_withExtension found notParent same]
    exact segments_joined plain (isFileName_of_fileName leads).plain
  refine ⟨?_, ?_⟩
  · have nothing : (skipped.filter fun piece => piece ≠ [] ∧ piece ≠ ['.']) = [] := by
      simpa [List.filter_eq_nil_iff, or_iff_not_imp_left] using unnamed
    rw [names, names, pieces, whole, List.filter_append, List.filter_append, List.filter_cons,
      List.filter_cons, nothing, List.filter_nil]
  · rw [head_eq_slash_iff, head_eq_slash_iff, pieces, whole]
    rcases before.reverse with _ | ⟨first, others⟩
    · simp [named.1]
    · simp

end Rekindle.Text.Path
