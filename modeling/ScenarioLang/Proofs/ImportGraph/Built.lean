import Mathlib.Data.List.Chain
import Mathlib.Logic.Relation
import ScenarioLang.ImportGraph
import ScenarioLang.Proofs.PathMap

namespace ScenarioLang

def Path.Apart (paths : List Path) : Prop := (paths.map Path.components).Nodup

namespace PathMap

theorem keys_apart {entries : PathMap α} (ordered : Ordered entries) : Path.Apart entries.keys := by
  rw [Path.Apart,keys,List.map_map,List.Nodup,List.pairwise_map]
  refine ordered.imp fun {first second} before equal => ?_
  rw [Path.before,Function.comp_apply,Function.comp_apply] at *
  rw [equal,Path.componentsBefore_irrefl] at before
  cases before

theorem holds_iff_key {entries : PathMap α} {path : Path} :
    holds path entries = true ↔ path.components ∈ entries.keys.map Path.components := by
  induction entries with
  | nil => simp [holds,get?,keys]
  | cons entry rest ih =>
    obtain ⟨key,value⟩ := entry
    by_cases same : key.same path = true
    · simp [holds,get?,keys,same,(Path.same_iff.mp same).symm]
    · have apart : path.components ≠ key.components := fun equal => same (Path.same_iff.mpr equal.symm)
      simp only [holds,get?,same,keys,List.map_cons,List.mem_cons,apart,false_or] at ih ⊢
      exact ih

theorem holds_update {entries : PathMap α} {path query : Path} {change : Option α → α} (ordered : Ordered entries) :
    holds query (update path change entries) = (path.same query || holds query entries) := by
  by_cases same : path.same query = true
  · simp [holds,get?_update_own ordered same,same]
  · rw [Bool.not_eq_true] at same
    simp [holds,get?_update_other same,same]

end PathMap

namespace ImportGraph

variable {graph : ImportGraph} {a b c : Path}

theorem among_iff {path : Path} {paths : List Path} :
    among path paths = true ↔ path.components ∈ paths.map Path.components := by
  simp [among,Path.same]

theorem among_of_mem {path : Path} {paths : List Path} (member : path ∈ paths) : among path paths = true :=
  among_iff.mpr (List.mem_map_of_mem member)

theorem among_same {paths : List Path} (same : a.same b = true) : among a paths = among b paths := by
  rw [Bool.eq_iff_iff,among_iff,among_iff,Path.same_iff.mp same]

@[simp] theorem among_append {path : Path} {front back : List Path} :
    among path (front ++ back) = (among path front || among path back) := by simp [among]

@[simp] theorem among_cons {path other : Path} {rest : List Path} :
    among path (other :: rest) = (other.same path || among path rest) := by simp [among]

@[simp] theorem among_nil {path : Path} : among path [] = false := rfl

-- The graphs that files and imports, added in any order, lead to.
inductive Built : ImportGraph → Prop where
  | empty : Built .empty
  | addVertex {graph : ImportGraph} (built : Built graph) (path : Path) : Built (graph.addVertex path)
  | addEdge {graph : ImportGraph} (built : Built graph) (importer imported : Path) :
      Built (graph.addEdge importer imported)

theorem ofSpecification_built (spec : Specification) : Built (ofSpecification spec) := by
  refine List.foldlRecOn (motive := Built) spec.documents _ .empty fun graph built doc _ => ?_
  split
  · exact built
  · exact List.foldlRecOn (motive := Built) doc.importValues _ (built.addVertex _)
      fun graph built value _ => built.addEdge _ _

-- Files and the imports of each file stand in path order, and every import is a
-- file of the graph.
structure Regular (graph : ImportGraph) : Prop where
  ordered : PathMap.Ordered graph.edges
  sets : ∀ path imports, graph.edges.get? path = some imports → PathMap.Ordered imports
  closed : ∀ path imports, graph.edges.get? path = some imports →
    ∀ next ∈ PathSet.toList imports, graph.edges.holds next = true

theorem empty_regular : Regular empty :=
  ⟨List.Pairwise.nil,fun _ _ found => (nomatch found),fun _ _ found => (nomatch found)⟩

theorem Regular.update {path : Path} {change : Option PathSet → PathSet} (regular : Regular graph)
    (ordered : PathMap.Ordered (change (graph.edges.get? path)))
    (closed : ∀ next ∈ PathSet.toList (change (graph.edges.get? path)),
      graph.edges.holds next = true ∨ path.same next = true) :
    Regular ⟨graph.edges.update path change⟩ := by
  have imports : ∀ query found, (graph.edges.update path change).get? query = some found →
      found = change (graph.edges.get? path) ∨ graph.edges.get? query = some found := by
    intro query found held
    by_cases same : path.same query = true
    · rw [PathMap.get?_update_own regular.ordered same,← PathMap.get?_same same] at held
      exact .inl (Option.some.inj held).symm
    · rw [PathMap.get?_update_other (Bool.eq_false_iff.mpr same)] at held
      exact .inr held
  refine ⟨PathMap.ordered_update regular.ordered,fun query found held => ?_,fun query found held next member => ?_⟩
  · rcases imports query found held with rfl | old
    · exact ordered
    · exact regular.sets query found old
  · rw [PathMap.holds_update regular.ordered,Bool.or_eq_true]
    rcases imports query found held with rfl | old
    · exact (closed next member).symm
    · exact .inr (regular.closed query found old next member)

theorem Regular.addVertex (regular : Regular graph) (path : Path) : Regular (graph.addVertex path) := by
  cases old : graph.edges.get? path with
  | none =>
    refine regular.update ?_ ?_
    · rw [old]; exact List.Pairwise.nil
    · rw [old]; exact fun next member => nomatch member
  | some imports =>
    refine regular.update ?_ ?_
    · rw [old]; exact regular.sets path imports old
    · rw [old]; exact fun next member => .inl (regular.closed path imports old next member)

theorem Regular.addEdge (regular : Regular graph) (importer imported : Path) :
    Regular (graph.addEdge importer imported) := by
  have known := regular.addVertex imported
  have held : (graph.addVertex imported).edges.holds imported = true := by
    rw [ImportGraph.addVertex,PathMap.holds_update regular.ordered,Path.same_refl,Bool.true_or]
  have added : ∀ imports : PathSet, ∀ next ∈ PathSet.toList (imports.insert imported),
      next = imported ∨ next ∈ PathSet.toList imports := by
    intro imports next member
    obtain ⟨entry,inside,rfl⟩ := List.mem_map.mp member
    rcases PathMap.update_key inside with own | ⟨old,before,same⟩
    · exact .inl own
    · exact .inr (same ▸ List.mem_map_of_mem before)
  refine known.update ?_ fun next member => .inl ?_
  · cases old : (graph.addVertex imported).edges.get? importer with
    | none => exact PathMap.ordered_update List.Pairwise.nil
    | some imports => exact PathMap.ordered_update (known.sets importer imports old)
  · rcases added _ next member with rfl | before
    · exact held
    · cases old : (graph.addVertex imported).edges.get? importer with
      | none => rw [old] at before; cases before
      | some imports => rw [old] at before; exact known.closed importer imports old next before

theorem Built.regular (built : Built graph) : Regular graph := by
  induction built with
  | empty => exact empty_regular
  | addVertex built path ih => exact ih.addVertex path
  | addEdge built importer imported ih => exact ih.addEdge importer imported

theorem dependencies_same (same : a.same b = true) : graph.dependencies a = graph.dependencies b := by
  rw [dependencies,dependencies,PathMap.get?_same same]

theorem Regular.vertices_apart (regular : Regular graph) : Path.Apart graph.vertices :=
  PathMap.keys_apart regular.ordered

theorem Regular.dependencies_apart (regular : Regular graph) (path : Path) : Path.Apart (graph.dependencies path) := by
  rw [dependencies]
  cases found : graph.edges.get? path with
  | none => exact List.nodup_nil
  | some imports => exact PathMap.keys_apart (regular.sets path imports found)

theorem Regular.dependencies_listed (regular : Regular graph) {path next : Path}
    (imported : next ∈ graph.dependencies path) : among next graph.vertices = true := by
  rw [dependencies] at imported
  rw [among_iff,vertices,← PathMap.holds_iff_key]
  cases found : graph.edges.get? path with
  | none => rw [found] at imported; cases imported
  | some imports => rw [found] at imported; exact regular.closed path imports found next imported

def Imports (graph : ImportGraph) (a b : Path) : Prop := among b (graph.dependencies a) = true

theorem imports_of_mem (member : b ∈ graph.dependencies a) : graph.Imports a b := among_of_mem member

theorem Imports.same_left (imports : graph.Imports a b) (same : a.same c = true) : graph.Imports c b := by
  rwa [Imports,← dependencies_same same]

theorem Imports.same_right (imports : graph.Imports a b) (same : b.same c = true) : graph.Imports a c := by
  rwa [Imports,← among_same same]

theorem Imports.listed (imports : graph.Imports a b) : among a graph.vertices = true := by
  rw [among_iff,vertices,← PathMap.holds_iff_key,PathMap.holds]
  rw [Imports,dependencies] at imports
  cases found : graph.edges.get? a with
  | none => rw [found] at imports; cases imports
  | some => rfl

structure IsCycle (graph : ImportGraph) (cycle : ImportCycle) : Prop where
  steps : cycle.IsChain graph.Imports
  long : 2 ≤ cycle.length
  closed : (cycle.map Path.components).head? = (cycle.map Path.components).getLast?

structure IsSimpleCycle (graph : ImportGraph) (cycle : ImportCycle) : Prop extends graph.IsCycle cycle where
  once : Path.Apart cycle.dropLast

def Acyclic (graph : ImportGraph) : Prop := ∀ cycle, ¬ graph.IsCycle cycle

end ImportGraph
end ScenarioLang
