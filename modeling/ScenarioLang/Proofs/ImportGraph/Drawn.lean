import ScenarioLang.Proofs.ImportGraph.Built

namespace ScenarioLang
namespace ImportGraph

variable {graph other : ImportGraph} {spec also : Specification} {a b path : Path}

theorem addVertex_holds (regular : Regular graph) :
    (graph.addVertex path).edges.holds a = (path.same a || graph.edges.holds a) :=
  PathMap.holds_update regular.ordered

theorem addEdge_holds (regular : Regular graph) {importer imported : Path} :
    (graph.addEdge importer imported).edges.holds a =
      (importer.same a || (imported.same a || graph.edges.holds a)) := by
  rw [addEdge,PathMap.holds_update (regular.addVertex imported).ordered,addVertex_holds regular]

theorem imports_iff_holds : graph.Imports a b ↔ PathMap.holds b ((graph.edges.get? a).getD []) = true := by
  rw [Imports,among_iff,PathMap.holds_iff_key]
  rfl

theorem addVertex_imports (regular : Regular graph) : (graph.addVertex path).Imports a b ↔ graph.Imports a b := by
  rw [imports_iff_holds,imports_iff_holds,addVertex]
  by_cases same : path.same a = true
  · rw [PathMap.get?_update_own regular.ordered same,Option.getD_some]
  · rw [PathMap.get?_update_other (Bool.eq_false_iff.mpr same)]

theorem addEdge_imports (regular : Regular graph) {importer imported : Path} :
    (graph.addEdge importer imported).Imports a b ↔
      graph.Imports a b ∨ (importer.same a = true ∧ imported.same b = true) := by
  have known := regular.addVertex imported
  have before : (graph.addVertex imported).Imports a b ↔ graph.Imports a b := addVertex_imports regular
  rw [← before,imports_iff_holds,imports_iff_holds,addEdge]
  by_cases same : importer.same a = true
  · have ordered : PathMap.Ordered (((graph.addVertex imported).edges.get? a).getD []) := by
      cases found : (graph.addVertex imported).edges.get? a with
      | none => exact List.Pairwise.nil
      | some imports => exact known.sets a imports found
    rw [PathMap.get?_update_own known.ordered same,Option.getD_some,PathSet.insert,PathMap.put,
      PathMap.holds_update ordered,Bool.or_eq_true,or_comm]
    simp [same]
  · rw [PathMap.get?_update_other (Bool.eq_false_iff.mpr same)]
    simp [same]

def Names (doc : Document) (path : Path) : Prop :=
  ∃ info, doc.fileInfo = some info ∧
    (info.path.same path = true ∨ ∃ value ∈ doc.importValues, (info.path.resolveImport value).same path = true)

def Draws (doc : Document) (a b : Path) : Prop :=
  ∃ info, doc.fileInfo = some info ∧ info.path.same a = true ∧
    ∃ value ∈ doc.importValues, (info.path.resolveImport value).same b = true

def withImports (graph : ImportGraph) (importer : Path) (values : List Text) : ImportGraph :=
  values.foldl (fun graph value => graph.addEdge importer (importer.resolveImport value)) graph

theorem Regular.withImports (regular : Regular graph) (importer : Path) (values : List Text) :
    Regular (graph.withImports importer values) :=
  List.foldlRecOn (motive := Regular) values _ regular fun _ regular _ _ => regular.addEdge _ _

theorem withImports_holds (regular : Regular graph) {importer : Path} (listed : graph.edges.holds importer = true)
    (values : List Text) : (graph.withImports importer values).edges.holds a = true ↔
      graph.edges.holds a = true ∨ ∃ value ∈ values, (importer.resolveImport value).same a = true := by
  induction values generalizing graph with
  | nil => simp [withImports]
  | cons value rest ih =>
    have kept : (graph.addEdge importer (importer.resolveImport value)).edges.holds importer = true := by
      rw [addEdge_holds regular,Path.same_refl]
      rfl
    have own : importer.same a = true → graph.edges.holds a = true := by
      intro same
      rwa [PathMap.holds,← PathMap.get?_same same]
    have later := ih (regular.addEdge importer (importer.resolveImport value)) kept
    rw [withImports] at later
    rw [withImports,List.foldl_cons,later,addEdge_holds regular,Bool.or_eq_true,Bool.or_eq_true]
    simp only [List.exists_mem_cons_iff]
    constructor
    · rintro ((same | new | old) | later)
      · exact .inl (own same)
      · exact .inr (.inl new)
      · exact .inl old
      · exact .inr (.inr later)
    · rintro (old | new | later)
      · exact .inl (.inr (.inr old))
      · exact .inl (.inr (.inl new))
      · exact .inr later

theorem withImports_imports (regular : Regular graph) (importer : Path) (values : List Text) :
    (graph.withImports importer values).Imports a b ↔ graph.Imports a b ∨
      (importer.same a = true ∧ ∃ value ∈ values, (importer.resolveImport value).same b = true) := by
  induction values generalizing graph with
  | nil => simp [withImports]
  | cons value rest ih =>
    have later := ih (regular.addEdge importer (importer.resolveImport value))
    rw [withImports] at later
    rw [withImports,List.foldl_cons,later,addEdge_imports regular]
    rw [List.exists_mem_cons_iff,or_assoc,← and_or_left]

def withDocument (graph : ImportGraph) (doc : Document) : ImportGraph :=
  match doc.fileInfo with
  | none => graph
  | some info => (graph.addVertex info.path).withImports info.path doc.importValues

theorem ofSpecification_eq (spec : Specification) : ofSpecification spec = spec.documents.foldl withDocument empty := rfl

theorem Regular.withDocument (regular : Regular graph) (doc : Document) : Regular (graph.withDocument doc) := by
  unfold ImportGraph.withDocument
  split
  · exact regular
  · exact (regular.addVertex _).withImports _ _

theorem withDocument_holds (regular : Regular graph) (doc : Document) :
    (graph.withDocument doc).edges.holds a = true ↔ graph.edges.holds a = true ∨ Names doc a := by
  unfold withDocument Names
  split
  · rename_i origin
    simp [origin]
  · rename_i info origin
    have listed : (graph.addVertex info.path).edges.holds info.path = true := by
      rw [addVertex_holds regular,Path.same_refl]
      rfl
    rw [withImports_holds (regular.addVertex _) listed,addVertex_holds regular,Bool.or_eq_true,
      or_assoc,or_left_comm]
    simp [origin]

theorem withDocument_imports (regular : Regular graph) (doc : Document) :
    (graph.withDocument doc).Imports a b ↔ graph.Imports a b ∨ Draws doc a b := by
  unfold withDocument Draws
  split
  · rename_i origin
    simp [origin]
  · rename_i info origin
    rw [withImports_imports (regular.addVertex _),addVertex_imports regular]
    simp [origin]

theorem withDocuments_holds (regular : Regular graph) (docs : List Document) :
    (docs.foldl withDocument graph).edges.holds a = true ↔
      graph.edges.holds a = true ∨ ∃ doc ∈ docs, Names doc a := by
  induction docs generalizing graph with
  | nil => simp
  | cons doc rest ih =>
    rw [List.foldl_cons,ih (regular.withDocument doc),withDocument_holds regular,List.exists_mem_cons_iff,or_assoc]

theorem withDocuments_imports (regular : Regular graph) (docs : List Document) :
    (docs.foldl withDocument graph).Imports a b ↔ graph.Imports a b ∨ ∃ doc ∈ docs, Draws doc a b := by
  induction docs generalizing graph with
  | nil => simp
  | cons doc rest ih =>
    rw [List.foldl_cons,ih (regular.withDocument doc),withDocument_imports regular,List.exists_mem_cons_iff,or_assoc]

theorem ofSpecification_holds (spec : Specification) :
    (ofSpecification spec).edges.holds a = true ↔ ∃ doc ∈ spec.documents, Names doc a := by
  rw [ofSpecification_eq,withDocuments_holds empty_regular]
  exact or_iff_right (by simp [empty,PathMap.holds,PathMap.get?])

theorem ofSpecification_imports (spec : Specification) :
    (ofSpecification spec).Imports a b ↔ ∃ doc ∈ spec.documents, Draws doc a b := by
  rw [ofSpecification_eq,withDocuments_imports empty_regular]
  exact or_iff_right (by simp [imports_iff_holds,empty,PathMap.holds,PathMap.get?])

structure Spelled (graph : ImportGraph) : Prop where
  files : PathMap.Spelled graph.edges
  imports : ∀ path imports, graph.edges.get? path = some imports → PathMap.Spelled imports

theorem Spelled.update {change : Option PathSet → PathSet} (spelled : Spelled graph) (regular : Regular graph)
    (normal : path.Normal) (changed : PathMap.Spelled (change (graph.edges.get? path))) :
    Spelled ⟨graph.edges.update path change⟩ := by
  refine ⟨PathMap.spelled_update spelled.files normal,fun query found held => ?_⟩
  by_cases same : path.same query = true
  · rw [PathMap.get?_update_own regular.ordered same,← PathMap.get?_same same] at held
    rw [← Option.some.inj held]
    exact changed
  · rw [PathMap.get?_update_other (Bool.eq_false_iff.mpr same)] at held
    exact spelled.imports query found held

theorem Spelled.set (spelled : Spelled graph) (path : Path) : PathMap.Spelled ((graph.edges.get? path).getD []) := by
  cases found : graph.edges.get? path with
  | none => exact fun entry member => nomatch member
  | some imports => exact spelled.imports path imports found

theorem Spelled.addVertex (spelled : Spelled graph) (regular : Regular graph) (normal : path.Normal) :
    Spelled (graph.addVertex path) :=
  spelled.update regular normal (spelled.set path)

theorem Spelled.addEdge {importer imported : Path} (spelled : Spelled graph) (regular : Regular graph)
    (first : importer.Normal) (second : imported.Normal) : Spelled (graph.addEdge importer imported) :=
  (spelled.addVertex regular second).update (regular.addVertex imported) first
    (PathMap.spelled_update ((spelled.addVertex regular second).set importer) second)

theorem Spelled.withDocument (spelled : Spelled graph) (regular : Regular graph) {doc : Document}
    (normal : ∀ info, doc.fileInfo = some info → info.path.Normal) : Spelled (graph.withDocument doc) := by
  unfold ImportGraph.withDocument
  split
  · exact spelled
  · rename_i info origin
    have first := normal info origin
    have both := List.foldlRecOn (motive := fun graph => Regular graph ∧ Spelled graph) doc.importValues
      (fun graph value => graph.addEdge info.path (info.path.resolveImport value))
      ⟨regular.addVertex info.path,spelled.addVertex regular first⟩
      fun _ known _ _ => ⟨known.1.addEdge _ _,known.2.addEdge known.1 first (Path.resolveImport_normal _ _)⟩
    exact both.2

theorem ofSpecification_spelled
    (normal : ∀ doc ∈ spec.documents, ∀ info, doc.fileInfo = some info → info.path.Normal) :
    Spelled (ofSpecification spec) := by
  have start : Spelled empty := ⟨fun entry member => (nomatch member),fun _ _ found => (nomatch found)⟩
  have both := List.foldlRecOn (motive := fun graph => Regular graph ∧ Spelled graph) spec.documents withDocument
    ⟨empty_regular,start⟩
    fun _ known doc member => ⟨known.1.withDocument doc,known.2.withDocument known.1 (normal doc member)⟩
  exact both.2

theorem Regular.ext (regular : Regular graph) (also : Regular other) (spelled : Spelled graph)
    (also_spelled : Spelled other) (files : ∀ a, graph.edges.holds a = true ↔ other.edges.holds a = true)
    (imports : ∀ a b, graph.Imports a b ↔ other.Imports a b) : graph = other := by
  have edges : graph.edges = other.edges := by
    refine PathMap.Ordered.ext_get? regular.ordered also.ordered spelled.files also_spelled.files fun a normal => ?_
    cases found : graph.edges.get? a with
    | none =>
      have absent : ¬ other.edges.holds a = true := by
        rw [← files,PathMap.holds,found]
        simp
      rw [PathMap.holds,Option.not_isSome_iff_eq_none] at absent
      exact absent.symm
    | some set =>
      have listed : other.edges.holds a = true := by
        rw [← files,PathMap.holds,found]
        rfl
      obtain ⟨set',found'⟩ := Option.isSome_iff_exists.mp listed
      rw [found',Option.some.injEq]
      refine PathMap.Ordered.ext_get? (regular.sets a set found) (also.sets a set' found')
        (spelled.imports a set found) (also_spelled.imports a set' found') fun b normal => ?_
      have held := imports a b
      rw [imports_iff_holds,imports_iff_holds,found,found',Option.getD_some,Option.getD_some] at held
      cases one : PathMap.get? b set <;> cases another : PathMap.get? b set' <;>
        simp [PathMap.holds,one,another] at held ⊢
  cases graph
  cases other
  exact congrArg ImportGraph.mk edges

theorem ofSpecification_perm (same : spec.documents.Perm also.documents)
    (normal : ∀ doc ∈ spec.documents, ∀ info, doc.fileInfo = some info → info.path.Normal) :
    ofSpecification spec = ofSpecification also := by
  refine (ofSpecification_built spec).regular.ext (ofSpecification_built also).regular (ofSpecification_spelled normal)
    (ofSpecification_spelled fun doc member => normal doc (same.mem_iff.mpr member)) (fun a => ?_) fun a b => ?_
  · simp only [ofSpecification_holds,same.mem_iff]
  · simp only [ofSpecification_imports,same.mem_iff]

end ImportGraph
end ScenarioLang
