import ScenarioLang.Proofs.ImportGraph.Drawn

namespace ScenarioLang

namespace PathMap

def bare (entries : PathMap α) : PathSet := entries.map fun entry => (entry.1,())

theorem get?_bare (entries : PathMap α) (path : Path) :
    get? path entries.bare = bif holds path entries then some () else none := by
  induction entries with
  | nil => rfl
  | cons entry rest ih =>
    cases own : entry.1.same path with
    | true => simp [bare,holds,get?,own]
    | false => simpa [bare,holds,get?,own] using ih

theorem outline_bare (entries : PathMap α) :
    entries.bare.outline.map Prod.fst = entries.keys.map Path.components := by
  simp [bare,outline,keys]

theorem Ordered.keys_ext {entries : PathMap α} {others : PathMap β} (ordered : Ordered entries)
    (also : Ordered others) (same : ∀ path, holds path entries = true ↔ holds path others = true) :
    entries.keys.map Path.components = others.keys.map Path.components := by
  have bare : ∀ {γ : Type} {entries : PathMap γ}, Ordered entries → Ordered entries.bare :=
    fun ordered => List.pairwise_map.mpr ordered
  rw [← outline_bare,← outline_bare,(bare ordered).outline_ext (bare also)]
  intro path
  rw [get?_bare,get?_bare,Bool.eq_iff_iff.mpr (same path)]

end PathMap

namespace ImportGraph

variable {graph other : ImportGraph} {spec also : Specification} {a b : Path}

def outline (graph : ImportGraph) : List (List Component × List (List Component)) :=
  graph.vertices.map fun path => (path.components,(graph.dependencies path).map Path.components)

theorem Regular.ordered_imports (regular : Regular graph) (path : Path) :
    PathMap.Ordered ((graph.edges.get? path).getD []) := by
  cases found : graph.edges.get? path with
  | none => exact List.Pairwise.nil
  | some imports => exact regular.sets path imports found

theorem Regular.dependencies_ext (regular : Regular graph) (also : Regular other)
    (imports : ∀ a b, graph.Imports a b ↔ other.Imports a b) (path : Path) :
    (graph.dependencies path).map Path.components = (other.dependencies path).map Path.components := by
  apply (regular.ordered_imports path).keys_ext (also.ordered_imports path)
  intro next
  rw [← imports_iff_holds,← imports_iff_holds]
  exact imports path next

theorem Regular.outline_ext (regular : Regular graph) (also : Regular other)
    (files : ∀ a, graph.edges.holds a = true ↔ other.edges.holds a = true)
    (imports : ∀ a b, graph.Imports a b ↔ other.Imports a b) : graph.outline = other.outline := by
  have vertices : graph.vertices.map Path.components = other.vertices.map Path.components :=
    regular.ordered.keys_ext also.ordered files
  have alike : ∀ a b : Path, a.components = b.components →
      (graph.dependencies a).map Path.components = (other.dependencies b).map Path.components := by
    intro a b same
    rw [regular.dependencies_ext also imports,dependencies_same (Path.same_iff.mpr same)]
  unfold outline
  generalize graph.vertices = files,other.vertices = listed at vertices
  induction files generalizing listed with
  | nil =>
    rw [List.map_eq_nil_iff.mp vertices.symm]
    rfl
  | cons a rest ih =>
    obtain ⟨b,others,rfl,own,later⟩ := List.map_eq_cons_iff.mp vertices.symm
    rw [List.map_cons,List.map_cons,ih others later.symm,own,alike a b own.symm]

theorem ofSpecification_outline (same : ∀ doc, doc ∈ spec.documents ↔ doc ∈ also.documents) :
    (ofSpecification spec).outline = (ofSpecification also).outline := by
  apply (ofSpecification_built spec).regular.outline_ext (ofSpecification_built also).regular
  · intro a
    simp only [ofSpecification_holds,same]
  · intro a b
    simp only [ofSpecification_imports,same]

end ImportGraph
end ScenarioLang
