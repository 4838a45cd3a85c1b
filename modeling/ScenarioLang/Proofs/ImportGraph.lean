import ScenarioLang.ImportGraph
import ScenarioLang.Proofs.PathMap

namespace ScenarioLang
namespace ImportGraph

variable {graph : ImportGraph}

def Entered (graph : ImportGraph) (cycle : ImportCycle) : Prop :=
  ∃ first rest, cycle = first :: rest ∧ graph.dependencies first ≠ []

theorem closed_entered {trail : List Path} {next : Path} (imports : ∀ other ∈ trail, graph.dependencies other ≠ [])
    (met : among next trail = true) :
    Entered graph ((trail.dropWhile fun other => !other.same next) ++ [next]) := by
  cases left : trail.dropWhile fun other => !other.same next with
  | nil =>
    have whole : trail.takeWhile (fun other => !other.same next) = trail := by
      have parts := List.takeWhile_append_dropWhile (p := fun other => !other.same next) (l := trail)
      rwa [left,List.append_nil] at parts
    obtain ⟨other,inside,same⟩ := List.any_eq_true.mp met
    have apart := List.all_eq_true.mp List.all_takeWhile other (whole.symm ▸ inside)
    rw [same] at apart
    cases apart
  | cons first rest =>
    have inside : first ∈ trail := (List.dropWhile_sublist _).subset (left ▸ List.mem_cons_self)
    exact ⟨first,rest ++ [next],rfl,imports first inside⟩

theorem visit_entered (fuel : Nat) (path : Path) (above : List Path) (search : CycleSearch)
    (imports : ∀ other ∈ above, graph.dependencies other ≠ [])
    (entered : ∀ cycle ∈ search.cycles, graph.Entered cycle) :
    ∀ cycle ∈ (graph.visit fuel path above search).cycles, graph.Entered cycle := by
  induction fuel generalizing path above search with
  | zero => exact entered
  | succ fuel ih =>
    refine List.foldlRecOn (motive := fun search : CycleSearch => ∀ cycle ∈ search.cycles, graph.Entered cycle)
      (graph.dependencies path) _ entered fun search entered next inside => ?_
    -- The path has an import, so its trail may be entered anywhere.
    have trail : ∀ other ∈ above ++ [path], graph.dependencies other ≠ [] := by
      intro other member
      rcases List.mem_append.mp member with old | own
      · exact imports other old
      · rw [List.mem_singleton.mp own]
        exact List.ne_nil_of_mem inside
    split
    · rename_i met
      intro cycle member
      rcases List.mem_append.mp member with old | new
      · exact entered cycle old
      · rw [List.mem_singleton.mp new]
        exact closed_entered trail met
    · split
      · exact entered
      · exact ih next (above ++ [path]) search trail entered

theorem cycles_entered (graph : ImportGraph) : ∀ cycle ∈ graph.cycles, graph.Entered cycle := by
  refine List.foldlRecOn (motive := fun search : CycleSearch => ∀ cycle ∈ search.cycles, graph.Entered cycle)
    graph.vertices _ (by simp) fun search entered start inside => ?_
  split
  · exact entered
  · exact visit_entered _ start [] search (by simp) entered

structure ImportedBy (importers : Path → Prop) (graph : ImportGraph) : Prop where
  ordered : PathMap.Ordered graph.edges
  importers : ∀ path, graph.dependencies path ≠ [] → importers path

theorem ImportedBy.addVertex {importers : Path → Prop} (known : ImportedBy importers graph) (path : Path) :
    ImportedBy importers (graph.addVertex path) := by
  refine ⟨PathMap.ordered_update known.ordered,fun query imports => known.importers query ?_⟩
  by_cases same : path.same query = true
  · simpa [dependencies,ImportGraph.addVertex,PathMap.get?_update_own known.ordered same] using imports
  · simpa [dependencies,ImportGraph.addVertex,PathMap.get?_update_other (Bool.eq_false_iff.mpr same)] using imports

theorem ImportedBy.addEdge {importers : Path → Prop} (known : ImportedBy importers graph) {importer : Path}
    (own : ∀ query, importer.same query = true → importers query) (imported : Path) :
    ImportedBy importers (graph.addEdge importer imported) := by
  have before := known.addVertex imported
  refine ⟨PathMap.ordered_update before.ordered,fun query imports => ?_⟩
  by_cases same : importer.same query = true
  · exact own query same
  · apply before.importers query
    simpa [dependencies,ImportGraph.addEdge,PathMap.get?_update_other (Bool.eq_false_iff.mpr same)] using imports

theorem ofSpecification_importers (spec : Specification) :
    ImportedBy (fun path => ∃ doc ∈ spec.documents, ∃ info, doc.fileInfo = some info ∧ info.path.same path = true)
      (ofSpecification spec) := by
  refine List.foldlRecOn (motive := ImportedBy _) spec.documents _
    ⟨List.Pairwise.nil,fun path imports => absurd rfl imports⟩ fun graph known doc member => ?_
  split
  · exact known
  · rename_i info origin
    refine List.foldlRecOn (motive := ImportedBy _) doc.importValues _ (known.addVertex info.path)
      fun graph known value _ => known.addEdge (fun path same => ⟨doc,member,info,origin,same⟩) _

end ImportGraph
end ScenarioLang
