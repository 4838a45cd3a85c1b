import ScenarioLang.Compilation
import ScenarioLang.Proofs.Path
import ScenarioLang.Proofs.Pipeline

namespace ScenarioLang

def FileStore.hasText (store : FileStore) (path : Path) : Bool :=
  match store.read path with
  | .text _ => true
  | _ => false

def FileStore.answers (store : FileStore) (path : Path) : Bool :=
  match store.read path with
  | .crashing => false
  | _ => true

-- Where the problems of a file go. Of one that cannot be read they go where no
-- file is.
def FileStore.place (store : FileStore) (path : Path) : Path :=
  match store.read path with
  | .unreadable _ => ProblemMap.generic
  | _ => path

namespace Compiler

def outcome (compiler : Compiler Unit) (path : Path) : Option Document × ProblemMap :=
  match compiler.store.read path with
  | .unreadable reason => (none,ProblemMap.empty.addGenericError (Run.readFailure path reason))
  | .crashing => (none,.empty)
  | .text content =>
    match LexerSetup.start compiler.options.language compiler.source compiler.options.stopOnError with
    | .failed error => (none,ProblemMap.empty.addError path (.ofDictionaryError error))
    | .crashed => (none,.empty)
    | .ready setup =>
      let (doc,_,problems,_) := (Pipeline.ofSetup setup).process compiler.recognizer path
        (Run.withoutMark content) compiler.options.lineBreak .empty ()
      (some doc,problems)

def imports (compiler : Compiler Unit) (path : Path) : List Path :=
  match (compiler.outcome path).1 with
  | some doc => Run.importsOf path doc
  | none => []

-- The inputs and all that needed files import.
inductive Needed (compiler : Compiler Unit) (inputs : List Path) : Path → Prop where
  | input {path : Path} (member : path ∈ inputs) : Needed compiler inputs path
  | imported {importer path : Path} (needed : Needed compiler inputs importer)
      (member : path ∈ compiler.imports importer) : Needed compiler inputs path

def told (compiler : Compiler Unit) (path : Path) : ProblemMap :=
  match compiler.store.read path with
  | .crashing => ProblemMap.empty.addError path Run.crash
  | _ => (compiler.outcome path).2

def stops (compiler : Compiler Unit) (path : Path) : Bool :=
  compiler.options.stopOnError && (compiler.told path).hasErrors

-- What a run may come to: the inputs, and what files import that do not stop it.
inductive Sought (compiler : Compiler Unit) (inputs : List Path) : Path → Prop where
  | input {path : Path} (member : path ∈ inputs) : Sought compiler inputs path
  | imported {importer path : Path} (sought : Sought compiler inputs importer)
      (goesOn : compiler.stops importer = false) (member : path ∈ compiler.imports importer) :
      Sought compiler inputs path

-- Recognition leaves a document its file and its imports, and the language has a
-- dictionary.
structure Regular (compiler : Compiler Unit) : Prop where
  keeps : ∀ language doc state,
    (compiler.recognizer.recognize language doc state).1.fileInfo = doc.fileInfo ∧
      (compiler.recognizer.recognize language doc state).1.imports = doc.imports
  provided : Dictionary.Provided compiler.source
  checked : ∃ base, Compilation.check compiler = .found base

-- Errors do not stop, sentences are left as they are, the language has a
-- dictionary, and reading ends for each path in a text or an error.
structure Standard (compiler : Compiler Unit) : Prop where
  recognizer : compiler.recognizer = .none
  goesOn : compiler.options.stopOnError = false
  provided : Dictionary.Provided compiler.source
  checked : ∃ base, Compilation.check compiler = .found base
  steady : ∀ path, compiler.store.read path ≠ .crashing

variable {compiler : Compiler Unit} {inputs : List Path} {path query : Path}

theorem Standard.regular (standard : compiler.Standard) : compiler.Regular where
  keeps language doc state := by
    rw [standard.recognizer]
    exact ⟨rfl,rfl⟩
  provided := standard.provided
  checked := standard.checked

instance : Coe compiler.Standard compiler.Regular := ⟨Standard.regular⟩

theorem Regular.ready (regular : compiler.Regular) : ∃ base : Dictionary, ∀ stopOnError,
    LexerSetup.start compiler.options.language compiler.source stopOnError =
      .ready ⟨compiler.source,base,stopOnError⟩ := by
  obtain ⟨base,checked⟩ := regular.checked
  refine ⟨base,fun stopOnError => ?_⟩
  rw [Compilation.check] at checked
  simp only [LexerSetup.start,checked]

theorem Standard.ready (standard : compiler.Standard) : ∃ setup : LexerSetup,
    LexerSetup.start compiler.options.language compiler.source compiler.options.stopOnError = .ready setup ∧
      setup.stopOnError = false := by
  obtain ⟨base,ready⟩ := standard.regular.ready
  exact ⟨_,ready _,standard.goesOn⟩

theorem Sought.needed (sought : Sought compiler inputs path) : Needed compiler inputs path := by
  induction sought with
  | input member => exact .input member
  | imported sought goesOn member ih => exact .imported ih member

theorem Needed.sought (goesOn : compiler.options.stopOnError = false) (needed : Needed compiler inputs path) :
    Sought compiler inputs path := by
  induction needed with
  | input member => exact .input member
  | imported needed member ih => exact .imported ih (by rw [stops,goesOn]; rfl) member

theorem outcome_text {setup : LexerSetup} {content : Text}
    (ready : LexerSetup.start compiler.options.language compiler.source compiler.options.stopOnError = .ready setup)
    (stored : compiler.store.read path = .text content) :
    compiler.outcome path =
      (some ((Pipeline.ofSetup setup).process compiler.recognizer path (Run.withoutMark content)
          compiler.options.lineBreak .empty ()).1,
        ((Pipeline.ofSetup setup).process compiler.recognizer path (Run.withoutMark content)
          compiler.options.lineBreak .empty ()).2.2.1) := by
  simp only [outcome,stored,ready]

theorem outcome_unreadable {reason : String} (stored : compiler.store.read path = .unreadable reason) :
    compiler.outcome path = (none,ProblemMap.empty.addGenericError (Run.readFailure path reason)) := by
  simp only [outcome,stored]

theorem outcome_crashing (stored : compiler.store.read path = .crashing) :
    compiler.outcome path = (none,.empty) := by
  simp only [outcome,stored]

theorem told_crashing (stored : compiler.store.read path = .crashing) :
    compiler.told path = ProblemMap.empty.addError path Run.crash := by
  simp only [told,stored]

theorem told_outcome (steady : compiler.store.read path ≠ .crashing) :
    compiler.told path = (compiler.outcome path).2 := by
  unfold told
  split
  · rename_i stored
    exact absurd stored steady
  · rfl

theorem outcome_isSome (regular : compiler.Regular) (path : Path) :
    (compiler.outcome path).1.isSome = compiler.store.hasText path := by
  obtain ⟨base,ready⟩ := regular.ready
  cases stored : compiler.store.read path with
  | text content => simp [outcome_text (ready _) stored,FileStore.hasText,stored]
  | unreadable reason => simp [outcome_unreadable stored,FileStore.hasText,stored]
  | crashing => simp [outcome_crashing stored,FileStore.hasText,stored]

theorem Needed.normal (normal : ∀ path ∈ inputs, path.Normal) (needed : Needed compiler inputs path) :
    path.Normal := by
  cases needed with
  | input member => exact normal path member
  | imported needed member =>
    unfold imports at member
    split at member
    · obtain ⟨value,_,rfl⟩ := List.mem_map.mp member
      exact Path.resolveImport_normal _ value
    · cases member

theorem outcome_key (regular : compiler.Regular) {doc : Document} (made : (compiler.outcome path).1 = some doc) :
    Specification.key doc = path := by
  obtain ⟨base,ready⟩ := regular.ready
  cases stored : compiler.store.read path with
  | text content =>
    rw [outcome_text (ready _) stored] at made
    cases made
    rw [Specification.key,Pipeline.process_origin fun language doc state => (regular.keeps language doc state).1]
  | unreadable reason => rw [outcome_unreadable stored] at made; cases made
  | crashing => rw [outcome_crashing stored] at made; cases made

theorem told_place (regular : compiler.Regular) (path : Path) :
    ∃ found, compiler.told path = ProblemMap.empty.add (compiler.store.place path) found := by
  obtain ⟨base,ready⟩ := regular.ready
  unfold told FileStore.place
  cases stored : compiler.store.read path with
  | text content =>
    obtain ⟨doc,next,found,after,made⟩ := Pipeline.process_adds (Pipeline.ofSetup _) compiler.recognizer path
      (Run.withoutMark content) compiler.options.lineBreak ()
    exact ⟨found,by rw [outcome_text (ready _) stored,made]⟩
  | unreadable reason => exact ⟨_,by rw [outcome_unreadable stored]; rfl⟩
  | crashing => exact ⟨_,rfl⟩

theorem told_ordered (regular : compiler.Regular) (path : Path) : (compiler.told path).Ordered := by
  obtain ⟨found,made⟩ := told_place regular path
  rw [made]
  exact ProblemMap.ordered_add ProblemMap.ordered_empty

theorem told_other (regular : compiler.Regular) (other : (compiler.store.place path).same query = false) :
    (compiler.told path).said query = .none := by
  obtain ⟨found,made⟩ := told_place regular path
  rw [made,ProblemMap.said_add_other other]
  rfl

end Compiler
end ScenarioLang
