import ScenarioLang.Compilation.FileStore
import ScenarioLang.ImportGraph
import ScenarioLang.Options
import ScenarioLang.Pipeline
import ScenarioLang.Status

namespace ScenarioLang

structure Compiler (σ : Type) where
  options : Options
  store : FileStore
  source : DictionarySource
  recognizer : Recognizer σ

-- Where the task of one file stands. From admission to its report it holds one
-- of the permits that bound how many files are read and compiled at a time;
-- waiting for imports needs none.
inductive Stage where
  | queued
  | claimed
  | admitted
  | loaded (content : Text)
  | equipped (pipeline : Pipeline) (content : Text)
  | reporting (doc : Option Document) (problems : ProblemMap)
  | reported (doc : Option Document)
  | published (imports : List Path)
  | awaiting
  | crashed
  | ended

-- Tasks are named by their position. The parent is the task of a file that
-- imports this one; input files have none.
structure FileTask where
  path : Path
  parent : Option Nat
  stage : Stage

structure Run (σ : Type) where
  statuses : StatusTable
  spec : Specification
  problems : ProblemMap
  stopped : Bool
  idle : List Pipeline
  recognition : σ
  reads : List Path
  inputs : List Path
  tasks : List FileTask

def Stage.holdsPermit : Stage → Bool
  | admitted | loaded _ | equipped _ _ | reporting _ _ => true
  | _ => false

def Stage.hasEnded : Stage → Bool
  | ended => true
  | _ => false

inductive Turn where
  | input
  | task (index : Nat)
  deriving DecidableEq, Repr

namespace Run

def start (inputs : List Path) (recognition : σ) : Run σ :=
  ⟨[],.empty,.empty,false,[],recognition,[],inputs,[]⟩

def hasRoom (limit : Option Nat) (count : Nat) : Bool :=
  match limit with
  | some limit => count < limit
  | none => true

def permits (run : Run σ) : Nat := run.tasks.countP fun task => task.stage.holdsPermit

def openInputs (run : Run σ) : Nat :=
  run.tasks.countP fun task => task.parent.isNone && !task.stage.hasEnded

def setStage (run : Run σ) (index : Nat) (stage : Stage) : Run σ :=
  { run with tasks := run.tasks.modify index fun task => { task with stage := stage } }

def setStatus (run : Run σ) (path : Path) (status : FileStatus) : Run σ :=
  { run with statuses := (run.statuses.advance path status).2 }

def report (compiler : Compiler σ) (run : Run σ) (problems : ProblemMap) : Run σ :=
  { run with
    problems := run.problems.merge problems,
    stopped := run.stopped || (compiler.options.stopOnError && problems.hasErrors) }

def spawn (run : Run σ) (parent : Option Nat) (paths : List Path) : Run σ :=
  { run with tasks := run.tasks ++ paths.map fun path => ⟨path,parent,.queued⟩ }

def readFailure (path : Path) (reason : String) : Problem :=
  .unlocated .io s!"Could not read {String.ofList path.text}: {reason}"

def crash : Problem := .unlocated .internal "Compilation panicked"

def withoutMark : Text → Text
  | '\uFEFF' :: rest => rest
  | text => text

def importsOf (path : Path) (doc : Document) : List Path :=
  doc.importValues.map path.resolveImport

def claim (run : Run σ) (index : Nat) (path : Path) : Run σ :=
  match run.statuses.claim path with
  | (true,statuses) => { run with statuses := statuses }.setStage index .claimed
  | (false,_) => run.setStage index .ended

def load (compiler : Compiler σ) (run : Run σ) (index : Nat) (path : Path) : Run σ :=
  match compiler.store.read path with
  | .text content => { run with reads := path :: run.reads }.setStage index (.loaded (withoutMark content))
  | .unreadable reason =>
    { run with reads := path :: run.reads }.setStage index
      (.reporting none (ProblemMap.empty.addGenericError (readFailure path reason)))
  | .crashing => run.setStage index .crashed

def equip (compiler : Compiler σ) (run : Run σ) (index : Nat) (path : Path) (content : Text) : Run σ :=
  match run.idle with
  | pipeline :: idle => { run with idle := idle }.setStage index (.equipped pipeline content)
  | [] =>
    match LexerSetup.start compiler.options.language compiler.source compiler.options.stopOnError with
    | .ready setup => run.setStage index (.equipped (.ofSetup setup) content)
    | .failed error =>
      run.setStage index (.reporting none (ProblemMap.empty.addError path (.ofDictionaryError error)))
    | .crashed => run.setStage index .crashed

def compile (compiler : Compiler σ) (run : Run σ) (index : Nat) (path : Path) (pipeline : Pipeline)
    (content : Text) : Run σ :=
  let (doc,pipeline,problems,recognition) :=
    pipeline.process compiler.recognizer path content compiler.options.lineBreak .empty run.recognition
  { run with idle := pipeline :: run.idle, recognition := recognition }.setStage index
    (.reporting (some doc) problems)

-- One action of one task. A task that waits, for a permit or for its imports,
-- has none, nor has a task that has ended.
def act (compiler : Compiler σ) (run : Run σ) (index : Nat) (task : FileTask) : Option (Run σ) :=
  match task.stage with
  | .queued => some (run.claim index task.path)
  | .claimed =>
    if hasRoom compiler.options.limit? run.permits then some (run.setStage index .admitted) else none
  | .admitted => some (run.load compiler index task.path)
  | .loaded content => some (run.equip compiler index task.path content)
  | .equipped pipeline content => some (run.compile compiler index task.path pipeline content)
  | .reporting doc problems => some ((run.report compiler problems).setStage index (.reported doc))
  | .reported none => some ((run.setStatus task.path .failed).setStage index .ended)
  | .reported (some doc) =>
    some ({ run.setStatus task.path .compiled with spec := run.spec.insert doc }.setStage index
      (.published (importsOf task.path doc)))
  | .published imports =>
    some ((if run.stopped then run else run.spawn (some index) imports).setStage index .awaiting)
  | .awaiting =>
    if run.tasks.all fun child => child.parent ≠ some index || child.stage.hasEnded then
      some ((run.setStatus task.path .done).setStage index .ended)
    else none
  | .crashed =>
    some (((run.setStatus task.path .failed).report compiler
      (ProblemMap.empty.addError task.path crash)).setStage index .ended)
  | .ended => none

def startInput (compiler : Compiler σ) (run : Run σ) : Option (Run σ) :=
  match run.inputs with
  | [] => none
  | path :: rest =>
    if !run.stopped && hasRoom compiler.options.limit? run.openInputs then
      some ({ run with inputs := rest }.spawn none [path])
    else none

def take (compiler : Compiler σ) (run : Run σ) : Turn → Option (Run σ)
  | .input => run.startInput compiler
  | .task index => (run.tasks[index]?).bind (run.act compiler index)

inductive Step (compiler : Compiler σ) : Run σ → Run σ → Prop where
  | take {before after : Run σ} (turn : Turn) (taken : before.take compiler turn = some after) :
      Step compiler before after

def turns (run : Run σ) : List Turn := .input :: (List.range run.tasks.length).map .task

-- One order among the possible ones: always the first turn that can be taken.
def drive (compiler : Compiler σ) : Nat → Run σ → Run σ
  | 0,run => run
  | fuel + 1,run =>
    match run.turns.findSome? (run.take compiler) with
    | some next => drive compiler fuel next
    | none => run

-- Every input and every line of a stored text makes at most one task, and a
-- task acts at most nine times after the turn that starts it.
def turnBound (compiler : Compiler σ) (inputs : List Path) : Nat :=
  let lines := compiler.store.files.map fun entry =>
    match entry.2 with
    | .text content => content.length + 1
    | _ => 0
  10*(inputs.length + lines.foldr (· + ·) 0)

end Run
end ScenarioLang
