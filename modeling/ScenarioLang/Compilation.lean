import ScenarioLang.Compilation.Run
import ScenarioLang.ImportGraph

namespace ScenarioLang

-- Looks at all documents together. Problems added before a crash stay.
structure Analysis where
  problems : ProblemMap
  crashed : Bool

abbrev Analyzer := ProblemMap → Specification → ImportGraph → Analysis

def Analyzer.none : Analyzer := fun problems _ _ => ⟨problems,false⟩

structure Compilation where
  problems : ProblemMap
  spec : Specification
  graph : ImportGraph
  statuses : StatusTable
  reads : List Path

namespace Compilation

def crash : Problem := .unlocated .internal "Semantic analysis panicked"

def reportCycles (graph : ImportGraph) (problems : ProblemMap) : ProblemMap :=
  graph.cycles.foldl (fun problems cycle =>
    match cycle.head? with
    | some first => problems.addError first (.unlocated .importing (ImportCycle.message cycle))
    | none => problems) problems

def ofRun (analyzer : Analyzer) (run : Run σ) : Compilation :=
  let graph := ImportGraph.ofSpecification run.spec
  let analysis := analyzer (reportCycles graph run.problems) run.spec graph
  let problems := if analysis.crashed then analysis.problems.addGenericError crash else analysis.problems
  ⟨problems,run.spec,graph,run.statuses,run.reads⟩

def check (compiler : Compiler σ) : Lookup := compiler.source compiler.options.language

end Compilation

def Compiler.compile (compiler : Compiler σ) (analyzer : Analyzer) (files : List Path) (base : Path)
    (recognition : σ) : Compilation × σ :=
  let inputs := files.map base.resolve
  let run := (Run.start inputs recognition).drive compiler (Run.turnBound compiler inputs)
  (.ofRun analyzer run,run.recognition)

end ScenarioLang
