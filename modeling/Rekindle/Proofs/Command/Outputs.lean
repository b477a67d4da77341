import Mathlib.Data.List.Nodup
import Rekindle.Command.Instrument
import Rekindle.Proofs.Reload.Processing
import Rekindle.Proofs.Text.Path

/-!
# Results that stay apart

The results for the inputs of one request are written next to each other: an image under the name of
its input, and symbols under that name with another extension. Both names have the stem of the
input, and inputs with one stem are refused, so the results for different inputs have different
names. The two results for one input have one name only if the input has the extension of symbols;
then it would be read as its own symbols too, and nothing is an image of a module and of symbols at
once. Nothing is written unless all inputs were read and have different stems.
-/

namespace Rekindle.Image

theorem magic_of_read {kind : Kind} {image : List UInt8} {header : Header}
    (read : Header.read kind image = .ok header) : image.take 5 = kind.magic := by
  unfold Header.read at read
  split at read
  · split at read
    · cases read
    · next same => simpa using same
  · cases read

theorem magic_of_open {α : Type} {checksum : List UInt8 → Checksum.Digest} {kind : Kind}
    {reader : Reader α} {image : List UInt8} {value : α}
    (opened : openWith checksum kind reader image = .ok value) : image.take 5 = kind.magic := by
  rcases Fallible.bind_eq_ok_iff.mp opened with ⟨header, read, _⟩
  exact magic_of_read read

/-- What is read as a module is not read as symbols. -/
theorem toSymbols_of_toModule {image : List UInt8} {module : Module} {identity : Identity}
    {symbols : Symbols} (read : toModule image = .ok module) :
    toSymbols identity image ≠ .ok symbols := by
  intro again
  rcases Fallible.bind_eq_ok_iff.mp again with ⟨_, opened, _⟩
  have same : Kind.module.magic = Kind.symbols.magic :=
    (magic_of_open read).symm.trans (magic_of_open opened)
  exact absurd same (by decide)

end Rekindle.Image

namespace Rekindle.Reload

open Image

/-- Symbols are handed back only where there were some, of another image than that of the module. -/
theorem process_symbols {settings : Settings} {compiled : CompiledModule} {output : Output}
    (made : (process settings compiled).output = some output)
    (given : output.symbols.isSome = true) :
    ∃ bytes, compiled.symbols = some bytes ∧ bytes ≠ compiled.image := by
  rcases process_output made with ⟨input, symbols, _, reloadable, read, instruments, rfl, _⟩
  rcases toModule_of_readCompiled read with ⟨readable, rfl, _⟩
  have kept : (symbolsFor input.identity compiled.symbols).isSome = true := by
    have identities := congrArg Option.isSome (instrument_keeps instruments).2.2.1
    simp only [Option.isSome_map] at identities given
    rw [← identities]
    split at given
    · exact given
    · cases given
  rcases symbolsFor_isSome.mp kept with ⟨bytes, symbols, present, readSymbols⟩
  refine ⟨bytes, present, ?_⟩
  rintro rfl
  exact toSymbols_of_toModule readable readSymbols

end Rekindle.Reload

namespace Rekindle.Command

open Fallible Text.Path
open Reload (CompiledModule Output Settings)

variable {files : Files} {request : InstrumentRequest} {settings : Settings}
  {folder path input name stem other : String} {compiled : CompiledModule} {output : Output}
  {file another : WrittenFile} {written : List WrittenFile} {report : ModuleReport}
  {reports : List ModuleReport} {entry : String × CompiledModule}
  {inputs : List (String × CompiledModule)}

/-! ### Reading -/

/-- The bytes of a file do not depend on how its path is spelled: empty segments and single dots of
a path name nothing. -/
def Files.Coherent (files : Files) : Prop :=
  ∀ path other, SamePlace path other → ∀ bytes more,
    files.bytes path = .ok bytes → files.bytes other = .ok more → bytes = more

theorem bytes_ofContents {contents : List (String × Except String (List UInt8))}
    {answer : Except String (List UInt8)} (plain : path.endsWith "/" = false)
    (found : (contents.find? fun entry => names entry.1 = names path) = some (other, answer)) :
    (Files.ofContents contents).bytes path = answer := by
  simp only [Files.ofContents, found, plain, Bool.false_eq_true, if_false]

theorem coherent_ofContents (contents : List (String × Except String (List UInt8))) :
    (Files.ofContents contents).Coherent := by
  intro path other same bytes more first second
  simp only [Files.ofContents, same.names] at first second
  split at first
  · next entry found =>
      rw [found] at second
      rcases Bool.eq_false_or_eq_true (path.endsWith "/") with ends | ends
      · simp [ends] at first
      · rcases Bool.eq_false_or_eq_true (other.endsWith "/") with ends' | ends'
        · simp [ends'] at second
        · simp only [ends, ends', Bool.false_eq_true, if_false] at first second
          rw [first] at second
          exact Except.ok.inj second
  · cases first

/-- An input cannot be read if its file cannot be, or the file of symbols that is beside it. -/
def Files.CannotRead (files : Files) (input : String) : Prop :=
  (∃ reason, files.bytes input = .error reason) ∨
    files.isFile (symbolsPath input) = true ∧
      ∃ reason, files.bytes (symbolsPath input) = .error reason

/-- A module with the bytes of its file, those of the symbols beside it, and the stem of the file as
its name. -/
structure ReadFrom (files : Files) (input : String) (compiled : CompiledModule) : Prop where
  image : files.bytes input = .ok compiled.image
  symbols : ∀ bytes, compiled.symbols = some bytes → files.bytes (symbolsPath input) = .ok bytes
  present : files.isFile (symbolsPath input) = true → compiled.symbols.isSome = true
  name : compiled.name = (fileStem input).getD ""

theorem read_eq_ok_iff {bytes : List UInt8} :
    files.read path = .ok bytes ↔ files.bytes path = .ok bytes :=
  mapError_eq_ok_iff

theorem readInput_ok (read : readInput files request input = .ok compiled) :
    ReadFrom files input compiled := by
  rcases bind_eq_ok_iff.mp read with ⟨image, imageRead, rest⟩
  split at rest
  · next present =>
      rcases found : files.read (symbolsPath input) with fault | bytes
      · rw [found] at rest
        cases rest
      · rw [found] at rest
        cases rest
        refine ⟨read_eq_ok_iff.mp imageRead, ?_, fun _ => rfl, rfl⟩
        rintro _ ⟨⟩
        exact read_eq_ok_iff.mp found
  · next absent =>
      cases rest
      exact ⟨read_eq_ok_iff.mp imageRead, nofun, fun present => absurd present absent, rfl⟩

theorem ReadFrom.not_cannotRead (read : ReadFrom files input compiled) :
    ¬files.CannotRead input := by
  rintro (⟨reason, lost⟩ | ⟨present, reason, lost⟩)
  · rw [read.image] at lost
    cases lost
  · rcases Option.isSome_iff_exists.mp (read.present present) with ⟨bytes, given⟩
    rw [read.symbols bytes given] at lost
    cases lost

/-- No duplicate is found if all names are different, also from those seen before. -/
theorem firstDuplicate_eq_none_iff {seen : List (String × String)} :
    firstDuplicate seen inputs = none ↔
      (inputs.map (·.2.name)).Nodup ∧
        ∀ entry ∈ inputs, ∀ earlier ∈ seen, earlier.1 ≠ entry.2.name := by
  induction inputs generalizing seen with
  | nil => simp [firstDuplicate]
  | cons entry inputs ih =>
      rcases entry with ⟨path, compiled⟩
      rcases found : seen.find? fun earlier => earlier.1 = compiled.name with _ | earlier
      · have fresh : ∀ earlier ∈ seen, earlier.1 ≠ compiled.name := by
          simpa using List.find?_eq_none.mp found
        simp only [firstDuplicate, found, ih, List.map_cons, List.nodup_cons, List.forall_mem_cons,
          List.mem_map, not_exists, not_and]
        constructor
        · rintro ⟨apart, unseen⟩
          exact ⟨⟨fun entry listed same => (unseen entry listed).1 same.symm, apart⟩, fresh,
            fun entry listed => (unseen entry listed).2⟩
        · rintro ⟨⟨differ, apart⟩, _, unseen⟩
          exact ⟨apart, fun entry listed =>
            ⟨fun same => differ entry listed same.symm, unseen entry listed⟩⟩
      · have same : earlier.1 = compiled.name := by simpa using List.find?_some found
        simp only [firstDuplicate, found, reduceCtorEq, false_iff, not_and]
        intro _ unseen
        have listed := List.mem_of_find?_eq_some found
        exact unseen (path, compiled) List.mem_cons_self earlier listed same

theorem readAll_ok {paths : List String}
    (read : paths.mapM (fun path =>
      (readInput files request path).map fun compiled => (path, compiled)) = .ok inputs) :
    inputs.map (·.1) = paths ∧ ∀ entry ∈ inputs, readInput files request entry.1 = .ok entry.2 := by
  have pairs := mapM_eq_ok_iff.mp read
  clear read
  induction pairs with
  | nil => simp
  | cons first _ ih =>
      rcases map_eq_ok_iff.mp first with ⟨compiled, readable, rfl⟩
      refine ⟨by rw [List.map_cons, ih.1], ?_⟩
      rw [List.forall_mem_cons]
      exact ⟨readable, ih.2⟩

/-- What it takes for the inputs to be read: they can be, and they have different names. -/
theorem readInputs_ok (done : readInputs files request = .ok (settings, inputs)) :
    loadSettings files request.settings = .ok settings ∧ inputs.map (·.1) = request.inputs ∧
      (∀ entry ∈ inputs, readInput files request entry.1 = .ok entry.2) ∧
      (inputs.map (·.2.name)).Nodup := by
  rcases bind_eq_ok_iff.mp done with ⟨loaded, loads, rest⟩
  rcases bind_eq_ok_iff.mp rest with ⟨entries, reads, judged⟩
  rcases found : firstDuplicate [] entries with _ | fault
  · rw [found] at judged
    cases judged
    rcases readAll_ok reads with ⟨paths, read⟩
    exact ⟨loads, paths, read, (firstDuplicate_eq_none_iff.mp found).1⟩
  · rw [found] at judged
    cases judged

theorem readInputs_fails
    (unfit : ¬(request.inputs.map fileStem).Nodup ∨
      ∃ input ∈ request.inputs, files.CannotRead input) :
    ∃ fault, readInputs files request = .error fault := by
  rcases done : readInputs files request with fault | ⟨settings, inputs⟩
  · exact ⟨fault, rfl⟩
  · rcases readInputs_ok done with ⟨_, paths, read, distinct⟩
    exfalso
    rcases unfit with repeated | ⟨input, listed, lost⟩
    · refine repeated (List.Nodup.of_map (·.getD "") ?_)
      have same : inputs.map (·.2.name) = (request.inputs.map fileStem).map (·.getD "") := by
        rw [← paths, List.map_map, List.map_map]
        exact List.map_congr_left fun entry isInput => (readInput_ok (read entry isInput)).name
      rwa [← same]
    · rw [← paths] at listed
      rcases List.mem_map.mp listed with ⟨entry, isInput, rfl⟩
      exact (readInput_ok (read entry isInput)).not_cannotRead lost

/-! ### Writing -/

theorem processInput_ok
    (done : processInput settings folder input compiled = .ok (report, written)) :
    (Reload.process settings compiled).output = none ∧ written = [] ∨
    ∃ output name, (Reload.process settings compiled).output = some output ∧
      fileName input = some name ∧ written = resultFiles (inside folder name) output := by
  unfold processInput outputFiles at done
  rcases made : (Reload.process settings compiled).output with _ | output
  · simp only [made] at done
    cases done
    exact .inl ⟨rfl, rfl⟩
  · rcases named : fileName input with _ | name
    · simp only [made, named] at done
      cases done
    · simp only [made, named] at done
      cases done
      exact .inr ⟨output, name, rfl, rfl, rfl⟩

theorem processInput_made (folder : String)
    (made : (Reload.process settings compiled).output = some output)
    (named : fileName input = some name) : ∃ report,
      processInput settings folder input compiled =
        .ok (report, resultFiles (inside folder name) output) := by
  simp [processInput, outputFiles, made, named]

/-- What was written for the inputs before others, and what is written for those. -/
theorem writeResults_cons
    (done : writeResults settings folder (entry :: inputs) = (written, .ok reports)) :
    ∃ report own later others, processInput settings folder entry.1 entry.2 = .ok (report, own) ∧
      writeResults settings folder inputs = (later, .ok others) ∧ written = own ++ later := by
  rw [writeResults] at done
  rcases processed : processInput settings folder entry.1 entry.2 with fault | ⟨report, own⟩
  · rw [processed] at done
    cases done
  · rcases rest : writeResults settings folder inputs with ⟨later, fault | others⟩
    · simp only [processed, rest] at done
      cases done
    · simp only [processed, rest] at done
      cases done
      exact ⟨report, own, later, others, rfl, rfl, rfl⟩

theorem writeResults_made {own later : List WrittenFile}
    (first : processInput settings folder path compiled = .ok (report, own))
    (rest : writeResults settings folder inputs = (later, .ok reports)) :
    writeResults settings folder ((path, compiled) :: inputs) =
      (own ++ later, .ok (report :: reports)) := by
  simp only [writeResults, first, rest, Except.map]

/-- A file of the result for an input. -/
def ResultOf (settings : Settings) (folder : String) (entry : String × CompiledModule)
    (file : WrittenFile) : Prop :=
  ∃ output name, (Reload.process settings entry.2).output = some output ∧
    fileName entry.1 = some name ∧ file ∈ resultFiles (inside folder name) output

theorem mem_writeResults_iff
    (done : writeResults settings folder inputs = (written, .ok reports)) :
    file ∈ written ↔ ∃ entry ∈ inputs, ResultOf settings folder entry file := by
  induction inputs generalizing written reports with
  | nil =>
      cases done
      simp
  | cons entry inputs ih =>
      rcases writeResults_cons done with ⟨report, own, later, others, processed, rest, rfl⟩
      have here : file ∈ own ↔ ResultOf settings folder entry file := by
        unfold ResultOf
        rcases processInput_ok processed with ⟨unmade, rfl⟩ | ⟨output, name, made, named, rfl⟩
        · simp [unmade]
        · simp [made, named]
      rw [List.mem_append, here, ih rest, List.exists_mem_cons_iff]

/-- An input with a result has a file name. -/
theorem exists_fileName_of_writeResults
    (done : writeResults settings folder inputs = (written, .ok reports)) (listed : entry ∈ inputs)
    (made : (Reload.process settings entry.2).output = some output) :
    ∃ name, fileName entry.1 = some name := by
  induction inputs generalizing written reports with
  | nil => cases listed
  | cons first inputs ih =>
      rcases writeResults_cons done with ⟨report, own, later, others, processed, rest, rfl⟩
      rcases List.mem_cons.mp listed with rfl | later
      · rcases processInput_ok processed with ⟨unmade, _⟩ | ⟨_, name, _, named, _⟩
        · rw [unmade] at made
          cases made
        · exact ⟨name, named⟩
      · exact ih rest later

/-! ### Names -/

/-- A file of a folder under a name with a stem. -/
def StandsIn (folder stem : String) (file : WrittenFile) : Prop :=
  ∃ name, IsFileName name ∧ stemOf name = stem ∧ file.path = inside folder name

theorem StandsIn.apart (first : StandsIn folder stem file) (second : StandsIn folder other another)
    (differ : stem ≠ other) : names file.path ≠ names another.path := by
  rcases first with ⟨name, isName, rfl, place⟩
  rcases second with ⟨name', isName', rfl, place'⟩
  rw [place, place', names_inside isName, names_inside isName']
  intro same
  have sameName : name = name' := String.toList_inj.mp (by simpa using same)
  exact differ (congrArg stemOf sameName)

theorem symbolsPath_inside (isName : IsFileName name) : symbolsPath (inside folder name) =
    inside folder (stemOf name ++ "." ++ Reload.Names.symbolsExtension) :=
  withExtension_inside isName _

theorem isFileName_symbols (isName : IsFileName name) :
    IsFileName (stemOf name ++ "." ++ Reload.Names.symbolsExtension) :=
  isName.replaceExtension (by decide) (by decide)

/-- Both files of a result have the stem of the input. -/
theorem resultFiles_stand (isName : IsFileName name)
    (listed : file ∈ resultFiles (inside folder name) output) :
    StandsIn folder (stemOf name) file := by
  rcases List.mem_cons.mp listed with rfl | symbols
  · exact ⟨name, isName, rfl, rfl⟩
  · rcases List.mem_map.mp symbols with ⟨bytes, _, rfl⟩
    refine ⟨_, isFileName_symbols isName, ?_, symbolsPath_inside isName⟩
    exact stemOf_append (stemOf_ne_empty isName.notEmpty) (by decide)

theorem ResultOf.standsIn (result : ResultOf settings folder entry file)
    (read : ReadFrom files entry.1 entry.2) : StandsIn folder entry.2.name file := by
  rcases result with ⟨output, name, _, named, listed⟩
  have stem : entry.2.name = stemOf name := by
    rw [read.name, fileStem_eq, named]
    rfl
  rw [stem]
  exact resultFiles_stand (isFileName_of_fileName named) listed

/-- The files of one result are apart unless the image has the extension of symbols. -/
theorem resultFiles_apart (isName : IsFileName name)
    (differ : output.symbols.isSome = true →
      name ≠ stemOf name ++ "." ++ Reload.Names.symbolsExtension) :
    ((resultFiles (inside folder name) output).map fun file => names file.path).Nodup := by
  unfold resultFiles
  rcases given : output.symbols with _ | bytes
  · simp
  · have apart : names (inside folder name) ≠ names (symbolsPath (inside folder name)) := by
      rw [symbolsPath_inside isName, names_inside isName, names_inside (isFileName_symbols isName)]
      intro same
      exact differ (by rw [given]; rfl) (String.toList_inj.mp (by simpa using same))
    simpa using apart

/-- An input with the extension of symbols has a result without symbols: its file would be that of
its symbols. -/
theorem not_symbols_of_read (coherent : files.Coherent) (read : ReadFrom files input compiled)
    (made : (Reload.process settings compiled).output = some output)
    (named : fileName input = some name) (given : output.symbols.isSome = true) :
    name ≠ stemOf name ++ "." ++ Reload.Names.symbolsExtension := by
  intro same
  rcases Reload.process_symbols made given with ⟨bytes, present, differ⟩
  exact differ (coherent (symbolsPath input) input (samePlace_withExtension named same) bytes
    compiled.image (read.symbols bytes present) read.image)

theorem writeResults_apart (coherent : files.Coherent)
    (read : ∀ entry ∈ inputs, ReadFrom files entry.1 entry.2)
    (distinct : (inputs.map (·.2.name)).Nodup)
    (done : writeResults settings folder inputs = (written, .ok reports)) :
    (written.map fun file => names file.path).Nodup := by
  induction inputs generalizing written reports with
  | nil =>
      cases done
      exact List.nodup_nil
  | cons entry inputs ih =>
      rcases writeResults_cons done with ⟨report, own, later, others, processed, rest, rfl⟩
      rw [List.map_cons, List.nodup_cons] at distinct
      rw [List.forall_mem_cons] at read
      rw [List.map_append, List.nodup_append]
      rcases processInput_ok processed with ⟨_, rfl⟩ | ⟨output, name, made, named, rfl⟩
      · exact ⟨List.nodup_nil, ih read.2 distinct.2 rest, by simp⟩
      · refine ⟨?_, ih read.2 distinct.2 rest, ?_⟩
        · exact resultFiles_apart (isFileName_of_fileName named)
            (not_symbols_of_read coherent read.1 made named)
        · intro place here other there
          rcases List.mem_map.mp here with ⟨file, listed, rfl⟩
          rcases List.mem_map.mp there with ⟨another, written, rfl⟩
          rcases (mem_writeResults_iff rest).mp written with ⟨input, isInput, result⟩
          have own : ResultOf settings folder entry file := ⟨output, name, made, named, listed⟩
          refine (own.standsIn read.1).apart (result.standsIn (read.2 input isInput)) fun same => ?_
          exact distinct.1 (same ▸ List.mem_map_of_mem isInput)

/-! ### Requests -/

/-- Files are written for each input whose result is handed back, and no others: its image under its
name in the folder, and the symbols beside it. -/
structure Delivers (files : Files) (request : InstrumentRequest) (settings : Settings)
    (written : List WrittenFile) : Prop where
  complete : ∀ input ∈ request.inputs, ∀ compiled output,
    readInput files request input = .ok compiled →
    (Reload.process settings compiled).output = some output →
    ∃ name, fileName input = some name ∧
      ∀ file ∈ resultFiles (inside request.folder name) output, file ∈ written
  sound : ∀ file ∈ written, ∃ input ∈ request.inputs, ∃ compiled output name,
    readInput files request input = .ok compiled ∧
    (Reload.process settings compiled).output = some output ∧ fileName input = some name ∧
    file ∈ resultFiles (inside request.folder name) output

theorem delivers_of_writeResults (paths : inputs.map (·.1) = request.inputs)
    (read : ∀ entry ∈ inputs, readInput files request entry.1 = .ok entry.2)
    (done : writeResults settings request.folder inputs = (written, .ok reports)) :
    Delivers files request settings written where
  complete input listed compiled output readable made := by
    rw [← paths] at listed
    rcases List.mem_map.mp listed with ⟨entry, isInput, rfl⟩
    have same : entry.2 = compiled := Except.ok.inj ((read entry isInput).symm.trans readable)
    rw [← same] at made
    rcases exists_fileName_of_writeResults done isInput made with ⟨name, named⟩
    exact ⟨name, named, fun file own =>
      (mem_writeResults_iff done).mpr ⟨entry, isInput, output, name, made, named, own⟩⟩
  sound file listed := by
    rcases (mem_writeResults_iff done).mp listed with
      ⟨entry, isInput, output, name, made, named, own⟩
    exact ⟨entry.1, paths ▸ List.mem_map_of_mem isInput, entry.2, output, name, read entry isInput,
      made, named, own⟩

theorem makeReloadable_ok {summary : InstrumentSummary}
    (done : makeReloadable files request = (written, .ok summary)) :
    ∃ settings inputs, readInputs files request = .ok (settings, inputs) ∧
      writeResults settings request.folder inputs = (written, .ok summary.reports) := by
  unfold makeReloadable at done
  rcases read : readInputs files request with fault | ⟨settings, inputs⟩
  · rw [read] at done
    cases done
  · rw [read] at done
    rcases results : writeResults settings request.folder inputs with ⟨files, fault | reports⟩
    · simp only [results] at done
      cases done
    · simp only [results] at done
      cases done
      exact ⟨settings, inputs, rfl, results⟩

theorem makeReloadable_made (read : readInputs files request = .ok (settings, inputs))
    (results : writeResults settings request.folder inputs = (written, .ok reports)) :
    makeReloadable files request = (written, .ok { reports }) := by
  simp only [makeReloadable, read, results, Except.map]

/-- What is written when all goes well is what comes of the inputs, in the folder and no two files
of it in the same place. If two inputs have one stem or an input cannot be read, this fails with
nothing written. -/
theorem results_stay_apart (request : InstrumentRequest) (coherent : files.Coherent) :
    (∀ written summary, makeReloadable files request = (written, .ok summary) →
      (written.map fun file => names file.path).Nodup ∧
      (∀ file ∈ written, ∃ name, IsFileName name ∧ file.path = inside request.folder name) ∧
      ∃ settings, loadSettings files request.settings = .ok settings ∧
        Delivers files request settings written) ∧
    (¬(request.inputs.map fileStem).Nodup ∨ (∃ input ∈ request.inputs, files.CannotRead input) →
      ∃ fault, makeReloadable files request = ([], .error fault)) := by
  constructor
  · intro written summary done
    rcases makeReloadable_ok done with ⟨settings, inputs, ready, results⟩
    rcases readInputs_ok ready with ⟨loads, paths, read, distinct⟩
    have readFrom : ∀ entry ∈ inputs, ReadFrom files entry.1 entry.2 :=
      fun entry listed => readInput_ok (read entry listed)
    refine ⟨writeResults_apart coherent readFrom distinct results, fun file listed => ?_,
      settings, loads, delivers_of_writeResults paths read results⟩
    rcases (mem_writeResults_iff results).mp listed with ⟨entry, isInput, result⟩
    rcases result.standsIn (readFrom entry isInput) with ⟨name, isName, _, place⟩
    exact ⟨name, isName, place⟩
  · intro unfit
    rcases readInputs_fails unfit with ⟨fault, fails⟩
    exact ⟨fault, by rw [makeReloadable, fails]⟩

end Rekindle.Command

/-! ### Two modules with one beginning of their names -/

namespace Rekindle.Command.Library

open Fallible Image Text.Path
open Reload (CompiledModule Instrumented Settings process)
open Reload.Cache (module candidate)

def symbols : Symbols := Symbols.empty module.identity

/-- A library with a module that has symbols beside it and one that has not, under names of which
one begins like the other. -/
def contents : List (String × Except String (List UInt8)) :=
  [("lib/app.drm", .ok (ofModule module)), ("lib/app.drs", .ok (ofSymbols symbols)),
    ("lib/app.pack.drm", .ok (ofModule module))]

def files : Files := .ofContents contents

def request : InstrumentRequest where
  inputs := ["lib/app.drm", "lib/app.pack.drm"]
  folder := "out"

def app : CompiledModule where
  name := "app"
  references := ["DotReload"]
  defines := ["DOTRELOAD_HOST"]
  image := ofModule module
  symbols := some (ofSymbols symbols)

def pack : CompiledModule := { app with name := "app.pack", symbols := none }

theorem app_image : files.bytes "lib/app.drm" = .ok (ofModule module) :=
  bytes_ofContents (by decide +kernel) rfl

theorem app_symbols : files.bytes "lib/app.drs" = .ok (ofSymbols symbols) :=
  bytes_ofContents (by decide +kernel) rfl

theorem pack_image : files.bytes "lib/app.pack.drm" = .ok (ofModule module) :=
  bytes_ofContents (by decide +kernel) rfl

theorem app_read : readInput files request "lib/app.drm" = .ok app := by
  have beside : symbolsPath "lib/app.drm" = "lib/app.drs" := by decide
  have present : files.isFile "lib/app.drs" = true := by
    show (files.bytes "lib/app.drs").isOk = true
    rw [app_symbols]
    rfl
  simp only [readInput, Files.read, app_image, beside, present, app_symbols, Except.mapError,
    ok_bind, if_true, Except.map]
  rfl

theorem pack_read : readInput files request "lib/app.pack.drm" = .ok pack := by
  have beside : symbolsPath "lib/app.pack.drm" = "lib/app.pack.drs" := by decide
  have absent : files.isFile "lib/app.pack.drs" = false := rfl
  simp only [readInput, Files.read, pack_image, beside, absent, Except.mapError, ok_bind,
    Bool.false_eq_true, if_false]
  rfl

theorem read : readInputs files request =
    .ok (Settings.standard, [("lib/app.drm", app), ("lib/app.pack.drm", pack)]) := by
  have loads : loadSettings files request.settings = .ok Settings.standard := rfl
  have inputs : request.inputs.mapM (fun path =>
      (readInput files request path).map fun compiled => (path, compiled)) =
        .ok [("lib/app.drm", app), ("lib/app.pack.drm", pack)] := by
    simp only [request, List.mapM_cons, List.mapM_nil]
    rw [← request, app_read, pack_read]
    rfl
  rw [readInputs, loads, ok_bind, inputs]
  rfl

/-- The module is made reloadable, with and without symbols. -/
theorem instruments {given : Option Symbols}
    (surveyed : Reload.Survey.ofModule Settings.standard.markers module given =
      .ok { candidates := [candidate], diagnostics := [], visited := 1 }) :
    ∃ reloadable, Reload.instrument Settings.standard module given = .ok (some reloadable) := by
  have valid := Validity.checkModule_eq_ok_iff.mp (by cbv : Validity.checkModule module = .ok ())
  rcases Reload.exists_passed (by decide) valid surveyed (by simp) (by cbv)
    (by simpa using Reload.Cache.hookable) (by simpa using Reload.Cache.runs)
    (by constructor <;> decide) with ⟨reloadable, _, passed, _⟩
  exact ⟨reloadable, passed.makes⟩

theorem app_made : ∃ image symbols, (process Settings.standard app).output =
    some ⟨image, some symbols⟩ := by
  have readable : toModule app.image = .ok module := Reload.toModule_written (by decide +kernel)
  have symbolsRead : toSymbols module.identity (ofSymbols symbols) = .ok symbols :=
    toSymbolsWith_written (by decide)
  have done : Reload.readCompiled app = .ok (module, some symbols, []) := by
    rw [Reload.readCompiled_eq readable]
    simp only [app, symbolsRead]
  have symbolsSurveyed : Reload.Survey.ofModule Settings.standard.markers module (some symbols) =
      .ok { candidates := [candidate], diagnostics := [], visited := 1 } := by cbv
  rcases instruments symbolsSurveyed with ⟨reloadable, made⟩
  have identities := (Reload.instrument_keeps made).2.2.1
  rcases kept : reloadable.symbols with _ | symbols
  · rw [kept] at identities
    cases identities
  · have handed := Reload.process_succeeds (by decide) done made rfl
    rw [kept] at handed
    exact ⟨_, _, handed⟩

theorem pack_made : ∃ image, (process Settings.standard pack).output = some ⟨image, none⟩ := by
  have readable : toModule pack.image = .ok module := Reload.toModule_written (by decide +kernel)
  have done := Reload.readCompiled_alone readable rfl
  rcases instruments Reload.Cache.surveyed with ⟨reloadable, made⟩
  have identities := (Reload.instrument_keeps made).2.2.1
  rcases kept : reloadable.symbols with _ | symbols
  · have handed := Reload.process_succeeds (by decide) done made rfl
    rw [kept] at handed
    exact ⟨_, handed⟩
  · rw [kept] at identities
    cases identities

/-- The results for both modules are written, and for one of them symbols. -/
theorem makes : ∃ written summary, makeReloadable files request = (written, .ok summary) ∧
    written.map (·.path) = ["out/app.drm", "out/app.drs", "out/app.pack.drm"] := by
  rcases app_made with ⟨image, symbols, appMade⟩
  rcases pack_made with ⟨packImage, packMade⟩
  have appNamed : fileName "lib/app.drm" = some "app.drm" := by decide
  have packNamed : fileName "lib/app.pack.drm" = some "app.pack.drm" := by decide
  have appPlace : inside "out" "app.drm" = "out/app.drm" := by decide
  have packPlace : inside "out" "app.pack.drm" = "out/app.pack.drm" := by decide
  have beside : symbolsPath "out/app.drm" = "out/app.drs" := by decide
  rcases processInput_made "out" appMade appNamed with ⟨appReport, appWritten⟩
  rcases processInput_made "out" packMade packNamed with ⟨packReport, packWritten⟩
  rw [appPlace] at appWritten
  rw [packPlace] at packWritten
  have nothing : writeResults Settings.standard "out" [] = ([], .ok []) := rfl
  have results := writeResults_made appWritten (writeResults_made packWritten nothing)
  refine ⟨_, _, makeReloadable_made read results, ?_⟩
  simp [resultFiles, beside]

/-- The files of the results are apart. A module of another folder under the name of one of these
makes the request fail. -/
theorem results_stay_apart_library :
    (∃ written summary, makeReloadable files request = (written, .ok summary) ∧
      written.map (·.path) = ["out/app.drm", "out/app.drs", "out/app.pack.drm"] ∧
      (written.map fun file => names file.path).Nodup) ∧
    ∃ fault, makeReloadable files { request with inputs := ["lib/app.drm", "old/app.drm"] } =
      ([], .error fault) := by
  have coherent : files.Coherent := coherent_ofContents contents
  constructor
  · rcases makes with ⟨written, summary, done, places⟩
    exact ⟨written, summary, done, places, ((results_stay_apart request coherent).1 _ _ done).1⟩
  · exact (results_stay_apart _ coherent).2 (.inl (by decide))

end Rekindle.Command.Library
