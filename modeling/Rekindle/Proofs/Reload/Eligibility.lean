import Rekindle.Proofs.Text.Path
import Rekindle.Reload.Process

/-!
# Which references make a module eligible

A module refers to others by their names or by paths to their files. A reference counts if the stem
of the file it leads to is the name of the module of the attributes. So a path to a file with one
extension always counts, and the bare name counts unless it has a dot that is not its first letter:
what follows the last such dot is then taken for an extension.
-/

namespace Rekindle.Reload

open Text.Path

variable {settings : Settings} {compiled : CompiledModule}

/-- A module that would be processed if it referred to the module of the attributes. -/
structure Admitted (settings : Settings) (compiled : CompiledModule) : Prop where
  built : settings.hostDefine ∈ compiled.defines
  notExcluded : compiled.name ∉ settings.excludedModules
  allowed : ∀ names, settings.allowedModules = some names → compiled.name ∈ names

theorem Admitted.isEligible_iff (admitted : Admitted settings compiled) :
    isEligible settings compiled = true ↔
      ∃ reference ∈ compiled.references, fileStem reference = some settings.markerModule := by
  rcases given : settings.allowedModules with _ | names
  · simp [isEligible, admitted.built, admitted.notExcluded, given]
  · simp [isEligible, admitted.built, admitted.notExcluded, given, admitted.allowed names given]

theorem markerModule_ne_empty (usable : settings.fault? = none) : settings.markerModule ≠ "" := by
  intro empty
  unfold Settings.fault? at usable
  split at usable
  · cases usable
  · rw [if_pos (by simp [empty])] at usable
    cases usable

/-- A module that is otherwise admitted is eligible as soon as some reference leads to the module of
the attributes by its name and one extension, or by its bare name if this has no dot but a leading
one. References by a bare name with another dot do not make it eligible. -/
theorem eligible_by_reference (usable : settings.fault? = none)
    (admitted : Admitted settings compiled) (plain : '/' ∉ settings.markerModule.toList)
    (notSelf : settings.markerModule ≠ ".") (notParent : settings.markerModule ≠ "..") :
    (∀ reference ∈ compiled.references, ∀ extension : String,
      '/' ∉ extension.toList → '.' ∉ extension.toList →
      LeadsTo reference (settings.markerModule ++ "." ++ extension) →
      isEligible settings compiled = true) ∧
    ('.' ∉ settings.markerModule.toList.tail →
      ∀ reference ∈ compiled.references, LeadsTo reference settings.markerModule →
        isEligible settings compiled = true) ∧
    ('.' ∈ settings.markerModule.toList.tail →
      (∀ reference ∈ compiled.references, LeadsTo reference settings.markerModule) →
      isEligible settings compiled = false) := by
  have notEmpty := markerModule_ne_empty usable
  have bare : IsFileName settings.markerModule := ⟨plain, notEmpty, notSelf, notParent⟩
  refine ⟨?_, ?_, ?_⟩
  · intro reference listed extension unslashed undotted leads
    have isName := bare.withExtension unslashed
    exact admitted.isEligible_iff.mpr ⟨reference, listed, (fileStem_eq_some_iff notEmpty).mpr
      ⟨_, leads.fileName isName, .inr ⟨extension, undotted, rfl⟩⟩⟩
  · intro undotted reference listed leads
    exact admitted.isEligible_iff.mpr ⟨reference, listed, (fileStem_eq_some_iff notEmpty).mpr
      ⟨_, leads.fileName bare, .inl ⟨rfl, undotted⟩⟩⟩
  · intro dotted leads
    rw [← Bool.not_eq_true, admitted.isEligible_iff]
    rintro ⟨reference, listed, stem⟩
    rcases (fileStem_eq_some_iff notEmpty).mp stem with ⟨name, isFile, isStem⟩
    rw [(leads reference listed).fileName bare] at isFile
    cases isFile
    rcases isStem with ⟨_, undotted⟩ | ⟨extension, _, longer⟩
    · exact undotted dotted
    · have sizes := congrArg (·.toList.length) longer
      simp only [String.toList_append, List.length_append] at sizes
      have dot : ".".toList.length = 1 := rfl
      omega

end Rekindle.Reload

/-! ## A module of attributes with a dotted name -/

namespace Rekindle.Reload.Dotted

open Text.Path

def settings : Settings := { markerModule := "Acme.Markers" }

/-- A module that refers to the module of the attributes in some way. -/
def compiled (reference : String) : CompiledModule where
  name := "Game"
  references := ["System.Core", reference]
  defines := ["DEBUG", "DOTRELOAD_HOST"]
  image := []
  symbols := none

theorem admitted (reference : String) : Admitted settings (compiled reference) where
  built := by simp [settings, compiled]
  notExcluded := by simp [settings, compiled]
  allowed := by simp [settings]

theorem eligible_by_file :
    settings.fault? = none ∧ isEligible settings (compiled "lib/Acme.Markers.drm") = true := by
  refine ⟨by decide, ?_⟩
  refine (eligible_by_reference (by decide) (admitted _) (by decide) (by decide) (by decide)).1
    "lib/Acme.Markers.drm" (by decide) "drm" (by decide) (by decide) (.inr ⟨"lib", by decide⟩)

/-- The bare name does not make the module eligible. -/
theorem bare_name_is_passed_over :
    settings.fault? = none ∧ Admitted settings (compiled "Acme.Markers") ∧
    '/' ∉ settings.markerModule.toList ∧ settings.markerModule ≠ "." ∧
    settings.markerModule ≠ ".." ∧
    settings.markerModule ∈ (compiled "Acme.Markers").references ∧
    isEligible settings (compiled "Acme.Markers") = false := by
  refine ⟨by decide, admitted _, ?_⟩
  decide

end Rekindle.Reload.Dotted
