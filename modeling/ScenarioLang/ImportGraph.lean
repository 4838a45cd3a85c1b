import ScenarioLang.PathMap
import ScenarioLang.Specification

namespace ScenarioLang

structure ImportGraph where
  edges : PathMap PathSet

namespace ImportGraph

def empty : ImportGraph := ⟨[]⟩

def addVertex (graph : ImportGraph) (path : Path) : ImportGraph :=
  ⟨graph.edges.update path fun old => old.getD []⟩

def addEdge (graph : ImportGraph) (importer imported : Path) : ImportGraph :=
  ⟨(graph.addVertex imported).edges.update importer fun old => (old.getD []).insert imported⟩

def vertices (graph : ImportGraph) : List Path := graph.edges.keys

def dependencies (graph : ImportGraph) (path : Path) : List Path :=
  PathSet.toList ((graph.edges.get? path).getD [])

def dependents (graph : ImportGraph) (path : Path) : List Path :=
  PathMap.keys (graph.edges.filter fun entry => PathMap.holds path entry.2)

def ofSpecification (spec : Specification) : ImportGraph :=
  spec.documents.foldl (fun graph doc =>
    match doc.fileInfo with
    | none => graph
    | some info =>
      doc.importValues.foldl (fun graph value => graph.addEdge info.path (info.path.resolveImport value))
        (graph.addVertex info.path)) empty

end ImportGraph

abbrev ImportCycle := List Path

def ImportCycle.message (cycle : ImportCycle) : String :=
  "Import cycle: " ++ " -> ".intercalate (cycle.map fun path => String.ofList path.text)

structure CycleSearch where
  visited : List Path
  cycles : List ImportCycle

namespace ImportGraph

def among (path : Path) (paths : List Path) : Bool := paths.any fun other => other.same path

-- Goes on from a file below a trail of files, the outermost first. An import of
-- a file on the trail closes a cycle. Fuel bounds the length of the trail.
def visit (graph : ImportGraph) : Nat → Path → List Path → CycleSearch → CycleSearch
  | 0,_,_,search => search
  | fuel + 1,path,above,search =>
    let trail := above ++ [path]
    (graph.dependencies path).foldl (fun search next =>
      if among next trail then
        { search with
          cycles := search.cycles ++ [(trail.dropWhile fun other => !other.same next) ++ [next]] }
      else if among next search.visited then search
      else visit graph fuel next trail search)
      { search with visited := path :: search.visited }

-- The cycles met from each file not yet seen, in path order. A trail never
-- repeats a file, so it is no longer than the graph.
def cycles (graph : ImportGraph) : List ImportCycle :=
  (graph.vertices.foldl (fun search start =>
    if among start search.visited then search
    else visit graph (graph.vertices.length + 1) start [] search) ⟨[],[]⟩).cycles

end ImportGraph

structure OrderState where
  remaining : PathMap Int
  ready : List Path
  order : List Path

namespace ImportGraph

def orderStart (graph : ImportGraph) : OrderState :=
  let remaining := graph.edges.map fun (path,imports) => (path,(imports.length : Int))
  ⟨remaining,PathMap.keys (remaining.filter fun entry => entry.2 = 0),[]⟩

def release (state : OrderState) (dependent : Path) : OrderState :=
  match state.remaining.get? dependent with
  | none => state
  | some count =>
    { state with
      remaining := state.remaining.put dependent (count - 1),
      ready := if count - 1 = 0 then state.ready ++ [dependent] else state.ready }

def orderStep (graph : ImportGraph) (state : OrderState) : Option OrderState :=
  match state.ready with
  | [] => none
  | path :: rest =>
    some ((graph.dependents path).foldl release { state with ready := rest, order := state.order ++ [path] })

def orderRun (graph : ImportGraph) : Nat → OrderState → OrderState
  | 0,state => state
  | fuel + 1,state =>
    match graph.orderStep state with
    | some next => orderRun graph fuel next
    | none => state

-- Every file behind the files it imports, or a cycle that forbids this. No file
-- becomes ready twice.
def order (graph : ImportGraph) : Except ImportCycle (List Path) :=
  let ordered := (graph.orderRun graph.vertices.length graph.orderStart).order
  if ordered.length = graph.vertices.length then .ok ordered
  else .error (graph.cycles.head?.getD [])

end ImportGraph
end ScenarioLang
