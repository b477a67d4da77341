import Rekindle.Image.File
import Rekindle.Proofs.Image.Declarations

/-!
# Images round-trip and delimit themselves

What is written to an image is read back from it. A payload that is too long is found to have
trailing bytes, as many as it has too many, and one that is too short is found malformed, even under
the right checksum. Nothing is asked of the function that computes checksums.
-/

namespace Rekindle.Image

section

variable {α : Type} {checksum : List UInt8 → Checksum.Digest}

theorem read_header (kind : Kind) (body : List UInt8) :
    Header.read kind ((Header.new kind).bytes ++ body) = .ok (Header.new kind) := by
  cases kind <;> rfl

/-- With its header and checksum in order, an image is as good as its payload. -/
theorem openWith_sealWith (kind : Kind) (reader : Reader α) (payload : List UInt8) :
    openWith checksum kind reader (sealWith checksum kind payload) =
      match reader payload with
      | .error .malformed => .error .malformed
      | .error .capacityExceeded => .error .capacityExceeded
      | .ok (value, []) => .ok value
      | .ok (_, rest) => .error (.trailingBytes rest.length) := by
  have body : (sealWith checksum kind payload).drop Header.size =
      (checksum payload).toList ++ payload := by
    cases kind <;> rfl
  have sized : (checksum payload).toList.length = checksumSize := Vector.length_toList
  have parts : splitExactly checksumSize ((checksum payload).toList ++ payload) =
      some ((checksum payload).toList, payload) := by
    rw [← sized]
    exact splitExactly_append _ _
  simp only [openWith, body, parts]
  rw [sealWith, read_header]
  simp only [bind, Except.bind, ne_eq, not_true_eq_false, ↓reduceIte, pure, Except.pure]
  cases reader payload with
  | error fault => cases fault <;> rfl
  | ok result => rcases result with ⟨value, _ | _⟩ <;> rfl

variable {read : Reader α} {write : α → List UInt8} {value : α}

theorem openWith_written (undoes : Undoes read write) (kind : Kind)
    (fits : (write value).length < memoryLimit) :
    openWith checksum kind read (sealWith checksum kind (write value)) = .ok value := by
  have all := (undoes.reads value fits).whole []
  rw [List.append_nil] at all
  rw [openWith_sealWith, all]

theorem openWith_trailing (undoes : Undoes read write) (kind : Kind)
    (fits : (write value).length < memoryLimit) {extra : List UInt8} (more : extra ≠ []) :
    openWith checksum kind read (sealWith checksum kind (write value ++ extra)) =
      .error (.trailingBytes extra.length) := by
  rw [openWith_sealWith, (undoes.reads value fits).whole extra]
  cases extra with
  | nil => exact absurd rfl more
  | cons byte extra => rfl

theorem openWith_cut (undoes : Undoes read write) (kind : Kind)
    (fits : (write value).length < memoryLimit) {front : List UInt8}
    (part : front <+: write value) (strict : front ≠ write value) :
    openWith checksum kind read (sealWith checksum kind front) = .error .malformed := by
  obtain ⟨back, split⟩ := part
  have missing : back ≠ [] := by
    rintro rfl
    exact strict (by rw [← split, List.append_nil])
  rw [openWith_sealWith, (undoes.reads value fits).cut front back split.symm missing]

end

section

variable {checksum : List UInt8 → Checksum.Digest}

theorem toModuleWith_written {module : Module} (fits : (writeModule module).length < memoryLimit) :
    toModuleWith checksum (ofModuleWith checksum module) = .ok module :=
  openWith_written readModule_undoes .module fits

theorem toSymbolsWith_written {symbols : Symbols}
    (fits : (writeSymbols symbols).length < memoryLimit) :
    toSymbolsWith checksum symbols.identity (ofSymbolsWith checksum symbols) = .ok symbols := by
  have opened : openWith checksum .symbols readSymbols (ofSymbolsWith checksum symbols) =
      .ok symbols := openWith_written readSymbols_undoes .symbols fits
  simp [toSymbolsWith, opened, bind, Except.bind, pure, Except.pure]

theorem length_sealWith (kind : Kind) (payload : List UInt8) :
    (sealWith checksum kind payload).length = 40 + payload.length := by
  have sized : (checksum payload).toList.length = 32 := Vector.length_toList
  cases kind <;>
    simp only [sealWith, Header.new, Header.bytes, Kind.magic, List.length_append,
      List.length_cons, List.length_nil, sized] <;> omega

end

/-- Modules and debug symbols whose bytes fit in a byte array come back from their images as they
were, whatever computes the checksums; a payload with bytes after its end is rejected with their
number, and a payload with bytes missing at its end is rejected as malformed. -/
theorem images_round_trip (checksum : List UInt8 → Checksum.Digest) (module : Module)
    (symbols : Symbols) (moduleFits : (writeModule module).length < memoryLimit)
    (symbolsFit : (writeSymbols symbols).length < memoryLimit) :
    toModuleWith checksum (ofModuleWith checksum module) = .ok module ∧
    toSymbolsWith checksum symbols.identity (ofSymbolsWith checksum symbols) = .ok symbols ∧
    (∀ extra ≠ [],
      toModuleWith checksum (sealWith checksum .module (writeModule module ++ extra)) =
        .error (.trailingBytes extra.length) ∧
      ∀ identity, toSymbolsWith checksum identity
          (sealWith checksum .symbols (writeSymbols symbols ++ extra)) =
        .error (.trailingBytes extra.length)) ∧
    (∀ front, front <+: writeModule module → front ≠ writeModule module →
      toModuleWith checksum (sealWith checksum .module front) = .error .malformed) ∧
    (∀ front, front <+: writeSymbols symbols → front ≠ writeSymbols symbols →
      ∀ identity, toSymbolsWith checksum identity (sealWith checksum .symbols front) =
        .error .malformed) := by
  refine ⟨?_, ?_, ?_, ?_, ?_⟩
  · exact toModuleWith_written moduleFits
  · exact toSymbolsWith_written symbolsFit
  · intro extra more
    refine ⟨openWith_trailing readModule_undoes .module moduleFits more, ?_⟩
    intro identity
    rw [toSymbolsWith, openWith_trailing readSymbols_undoes .symbols symbolsFit more]
    rfl
  · intro front part strict
    exact openWith_cut readModule_undoes .module moduleFits part strict
  · intro front part strict identity
    rw [toSymbolsWith, openWith_cut readSymbols_undoes .symbols symbolsFit part strict]
    rfl

end Rekindle.Image

/-! ### A module with handles that lead nowhere -/

namespace Rekindle.Image.Stray

/-- The type lists itself as its outer type, and a field that is not there. -/
def type : TypeDecl :=
  { TypeDecl.named "Ω" with outer := some ⟨0⟩, fields := [⟨300⟩] }

def field : FieldDecl :=
  .static "count" (.pointer (.defined ⟨70000⟩ [.parameter 251, .foreign ""]))

def module : Module where
  name := "stray"
  identity := Vector.replicate 16 7
  references := [""]
  types := #[type]
  fields := #[field]
  routines := #[.static "run" .void
    { Body.returning with instructions := #[.loadInt64 (-1), .ret] }]
  topLevel := []

def symbols : Symbols :=
  (Symbols.empty (Vector.replicate 16 9)).addPoint ⟨900⟩ ⟨4, ⟨"stray.src", 1, 2⟩⟩

def checksum (_ : List UInt8) : Checksum.Digest := Vector.replicate 32 0

theorem images_round_trip_stray :
    toModuleWith checksum (ofModuleWith checksum module) = .ok module ∧
    toSymbolsWith checksum symbols.identity (ofSymbolsWith checksum symbols) = .ok symbols ∧
    toModuleWith checksum (sealWith checksum .module (writeModule module ++ [0, 0])) =
      .error (.trailingBytes 2) ∧
    toModuleWith checksum (sealWith checksum .module []) = .error .malformed := by
  have trips := images_round_trip checksum module symbols (by decide +kernel) (by decide +kernel)
  rcases trips with ⟨same, sameSymbols, trailing, cut, _⟩
  refine ⟨same, sameSymbols, (trailing [0, 0] (by decide)).1, ?_⟩
  exact cut [] List.nil_prefix (readModule_undoes.used module).symm

end Rekindle.Image.Stray
