import ScenarioLang.Proofs.Compilation.Complete
import ScenarioLang.Proofs.ImportGraph.Drawn
import ScenarioLang.Proofs.Path.Folding

namespace ScenarioLang

theorem PathMap.update_keys {entries : PathMap α} {path : Path} {change : Option α → α} {good : Path → Prop}
    (old : ∀ entry ∈ entries, good entry.1) (own : good path) : ∀ entry ∈ update path change entries, good entry.1 := by
  intro entry member
  rcases update_key member with same | ⟨before,inside,same⟩
  · exact same ▸ own
  · exact same ▸ old before inside

def Recognizer.KeepsOrigin (recognizer : Recognizer σ) : Prop :=
  ∀ language doc state, (recognizer.recognize language doc state).1.fileInfo = doc.fileInfo

def Document.Folded (doc : Document) : Prop := ∀ info, doc.fileInfo = some info → info.path.Folded

theorem Document.Folded.key {doc : Document} (folded : doc.Folded) : (Specification.key doc).Folded := by
  unfold Specification.key
  split
  · exact folded _ (by assumption)
  · rfl

structure Specification.Folded (spec : Specification) : Prop where
  documents : ∀ doc ∈ spec.documents, doc.Folded
  positions : ∀ entry ∈ spec.positions, entry.1.Folded

theorem Specification.Folded.insert {spec : Specification} (folded : spec.Folded) {doc : Document} (own : doc.Folded) :
    (spec.insert doc).Folded := by
  unfold Specification.insert
  split
  · refine ⟨fun other member => ?_,folded.positions⟩
    rcases List.mem_or_eq_of_mem_set member with before | rfl
    · exact folded.documents other before
    · exact own
  · refine ⟨fun other member => ?_,List.forall_mem_cons.mpr ⟨own.key,folded.positions⟩⟩
    rcases List.mem_append.mp member with before | last
    · exact folded.documents other before
    · exact List.mem_singleton.mp last ▸ own

namespace ImportGraph

def Folded (graph : ImportGraph) : Prop := ∀ entry ∈ graph.edges, entry.1.Folded

variable {graph : ImportGraph} {path importer imported : Path}

theorem Folded.addVertex (folded : graph.Folded) (own : path.Folded) : (graph.addVertex path).Folded :=
  PathMap.update_keys folded own

theorem Folded.addEdge (folded : graph.Folded) (first : importer.Folded) (second : imported.Folded) :
    (graph.addEdge importer imported).Folded :=
  PathMap.update_keys (folded.addVertex second) first

theorem Folded.withDocument (folded : graph.Folded) {doc : Document} (own : doc.Folded) :
    (graph.withDocument doc).Folded := by
  unfold ImportGraph.withDocument
  split
  · exact folded
  · rename_i info origin
    exact List.foldlRecOn doc.importValues _ (folded.addVertex (own info origin)) fun graph known value _ =>
      known.addEdge (own info origin) (info.path.resolveImport_folded value)

theorem ofSpecification_folded {spec : Specification} (folded : spec.Folded) : (ofSpecification spec).Folded := by
  rw [ofSpecification_eq]
  exact List.foldlRecOn spec.documents _ (fun entry member => nomatch member) fun graph known doc member =>
    known.withDocument (folded.documents doc member)

end ImportGraph

def Stage.Folded (origin : Prop) : Stage → Prop
  | reporting (some doc) _ | reported (some doc) => origin → doc.Folded
  | published imports => ∀ path ∈ imports, path.Folded
  | _ => True

structure FileTask.Folded (origin : Prop) (task : FileTask) : Prop where
  path : task.path.Folded
  stage : task.stage.Folded origin

namespace Run

structure Folded (origin : Prop) (run : Run σ) : Prop where
  inputs : ∀ path ∈ run.inputs, path.Folded
  tasks : ∀ task ∈ run.tasks, task.Folded origin
  statuses : ∀ entry ∈ run.statuses, entry.1.Folded
  spec : origin → run.spec.Folded

variable {compiler : Compiler σ} {run next : Run σ} {origin : Prop} {index : Nat} {task : FileTask} {path : Path}

theorem Folded.setStage (folded : run.Folded origin) (index : Nat) (stage : Stage) (carried : stage.Folded origin) :
    (run.setStage index stage).Folded origin := by
  refine ⟨folded.inputs,fun task member => ?_,folded.statuses,folded.spec⟩
  obtain ⟨j,found⟩ := List.mem_iff_getElem?.mp member
  simp only [Run.setStage,List.getElem?_modify] at found
  obtain ⟨before,held,same⟩ := Option.map_eq_some_iff.mp found
  have own := folded.tasks before (List.mem_of_getElem? held)
  split at same <;> subst same
  · exact ⟨own.path,carried⟩
  · exact own

theorem Folded.spawn (folded : run.Folded origin) (parent : Option Nat) {paths : List Path}
    (all : ∀ path ∈ paths, path.Folded) : (run.spawn parent paths).Folded origin := by
  refine ⟨folded.inputs,fun task member => ?_,folded.statuses,folded.spec⟩
  rcases List.mem_append.mp member with before | started
  · exact folded.tasks task before
  · obtain ⟨path,inside,rfl⟩ := List.mem_map.mp started
    exact ⟨all path inside,trivial⟩

theorem Folded.setStatus (folded : run.Folded origin) (own : path.Folded) (status : FileStatus) :
    (run.setStatus path status).Folded origin := by
  refine ⟨folded.inputs,folded.tasks,?_,folded.spec⟩
  simp only [Run.setStatus,StatusTable.advance]
  split
  · split
    · exact PathMap.update_keys folded.statuses own
    · exact folded.statuses
  · exact folded.statuses

theorem Folded.report (folded : run.Folded origin) (problems : ProblemMap) :
    (run.report compiler problems).Folded origin :=
  ⟨folded.inputs,folded.tasks,folded.statuses,folded.spec⟩

theorem Folded.claim (folded : run.Folded origin) (own : path.Folded) (index : Nat) :
    (run.claim index path).Folded origin := by
  by_cases held : PathMap.holds path run.statuses = true
  · simp only [Run.claim,StatusTable.claim,held,if_true]
    exact folded.setStage index .ended trivial
  · have claimed : Folded origin { run with statuses := PathMap.put path .pending run.statuses } :=
      ⟨folded.inputs,folded.tasks,PathMap.update_keys folded.statuses own,folded.spec⟩
    simp only [Run.claim,StatusTable.claim,held]
    exact claimed.setStage index .claimed trivial

theorem Folded.load (folded : run.Folded origin) (index : Nat) (path : Path) :
    (run.load compiler index path).Folded origin := by
  have read : Folded origin { run with reads := path :: run.reads } :=
    ⟨folded.inputs,folded.tasks,folded.statuses,folded.spec⟩
  unfold Run.load
  split
  · exact read.setStage index (.loaded _) trivial
  · exact read.setStage index (.reporting none _) trivial
  · exact folded.setStage index .crashed trivial

theorem Folded.equip (folded : run.Folded origin) (index : Nat) (path : Path) (content : Text) :
    (run.equip compiler index path content).Folded origin := by
  unfold Run.equip
  split
  · rename_i pipeline idle waiting
    have taken : Folded origin { run with idle := idle } :=
      ⟨folded.inputs,folded.tasks,folded.statuses,folded.spec⟩
    exact taken.setStage index (.equipped pipeline content) trivial
  · split
    · exact folded.setStage index (.equipped _ content) trivial
    · exact folded.setStage index (.reporting none _) trivial
    · exact folded.setStage index .crashed trivial

theorem Folded.compile (folded : run.Folded compiler.recognizer.KeepsOrigin) (own : path.Folded) (index : Nat)
    (pipeline : Pipeline) (content : Text) :
    (run.compile compiler index path pipeline content).Folded compiler.recognizer.KeepsOrigin := by
  let made := pipeline.process compiler.recognizer path content compiler.options.lineBreak .empty run.recognition
  have processed : Folded compiler.recognizer.KeepsOrigin
      { run with idle := made.2.1 :: run.idle, recognition := made.2.2.2 } :=
    ⟨folded.inputs,folded.tasks,folded.statuses,folded.spec⟩
  refine processed.setStage index (.reporting (some made.1) made.2.2.1) fun keeps info origin => ?_
  have file : made.1.fileInfo = some ⟨path,Hash.ofText content⟩ :=
    Pipeline.process_origin keeps path content compiler.options.lineBreak .empty run.recognition
  cases file.symm.trans origin
  exact own

theorem act_folded (folded : run.Folded compiler.recognizer.KeepsOrigin) (found : run.tasks[index]? = some task)
    (acted : run.act compiler index task = some next) : next.Folded compiler.recognizer.KeepsOrigin := by
  have own := folded.tasks task (List.mem_of_getElem? found)
  have carried := own.stage
  cases acted_of_act acted with
  | claims stage => exact folded.claim own.path index
  | enters stage room => exact folded.setStage index .admitted trivial
  | loads stage => exact folded.load index task.path
  | equips stage => exact folded.equip index task.path _
  | compiles stage => exact folded.compile own.path index _ _
  | reports stage =>
    rename_i doc problems
    rw [stage] at carried
    refine (folded.report problems).setStage index (.reported doc) ?_
    cases doc <;> exact carried
  | fails stage => exact (folded.setStatus own.path .failed).setStage index .ended trivial
  | lists stage =>
    rename_i doc
    rw [stage] at carried
    have set := folded.setStatus own.path .compiled
    have listed : Folded compiler.recognizer.KeepsOrigin
        { run.setStatus task.path .compiled with spec := run.spec.insert doc } :=
      ⟨set.inputs,set.tasks,set.statuses,fun origin => (folded.spec origin).insert (carried origin)⟩
    refine listed.setStage index (.published (importsOf task.path doc)) fun path member => ?_
    obtain ⟨value,_,rfl⟩ := List.mem_map.mp member
    exact task.path.resolveImport_folded value
  | follows stage goesOn =>
    rw [stage] at carried
    exact (folded.spawn (some index) carried).setStage index .awaiting trivial
  | skips stage stopped => exact folded.setStage index .awaiting trivial
  | finishes stage ended => exact (folded.setStatus own.path .done).setStage index .ended trivial
  | breaks stage => exact ((folded.setStatus own.path .failed).report _).setStage index .ended trivial

theorem take_folded (folded : run.Folded compiler.recognizer.KeepsOrigin) {turn : Turn}
    (taken : run.take compiler turn = some next) : next.Folded compiler.recognizer.KeepsOrigin := by
  cases turn with
  | input =>
    obtain ⟨path,rest,waiting,_,_,rfl⟩ := started_of_startInput taken
    have inputs := folded.inputs
    rw [waiting] at inputs
    obtain ⟨own,others⟩ := List.forall_mem_cons.mp inputs
    have left : Folded compiler.recognizer.KeepsOrigin { run with inputs := rest } :=
      ⟨others,folded.tasks,folded.statuses,folded.spec⟩
    exact left.spawn none (List.forall_mem_singleton.mpr own)
  | task index =>
    obtain ⟨task,found,acted⟩ := Option.bind_eq_some_iff.mp taken
    exact act_folded folded found acted

theorem start_folded (origin : Prop) (files : List Path) (base : Path) (recognition : σ) :
    (start (files.map base.resolve) recognition).Folded origin := by
  refine ⟨fun path member => ?_,List.forall_mem_nil _,List.forall_mem_nil _,fun _ =>
    ⟨List.forall_mem_nil _,List.forall_mem_nil _⟩⟩
  obtain ⟨file,_,rfl⟩ := List.mem_map.mp member
  exact base.resolve_folded file

theorem Steps.folded {count : Nat} {first : Run σ} (steps : Steps compiler count first run)
    (folded : first.Folded compiler.recognizer.KeepsOrigin) : run.Folded compiler.recognizer.KeepsOrigin := by
  induction steps with
  | none => exact folded
  | next _ step ih =>
    obtain ⟨turn,taken⟩ := step
    exact take_folded (ih folded) taken

theorem drive_folded (folded : run.Folded compiler.recognizer.KeepsOrigin) (fuel : Nat) :
    (run.drive compiler fuel).Folded compiler.recognizer.KeepsOrigin := by
  induction fuel generalizing run with
  | zero => exact folded
  | succ fuel ih =>
    rw [drive]
    split
    · rename_i next taken
      obtain ⟨turn,_,found⟩ := List.exists_of_findSome?_eq_some taken
      exact ih (take_folded folded found)
    · exact folded

end Run

-- No key of a compilation can be folded any further.
structure Compilation.Folded (origin : Prop) (result : Compilation) : Prop where
  statuses : ∀ path ∈ PathMap.keys result.statuses, path.normalize = path
  spec : origin → ∀ path ∈ result.spec.positions.map Prod.fst, path.normalize = path
  graph : origin → ∀ path ∈ result.graph.vertices, path.normalize = path

theorem Run.Folded.result {run : Run σ} {origin : Prop} (folded : run.Folded origin) (analyzer : Analyzer) :
    (Compilation.ofRun analyzer run).Folded origin where
  statuses := List.forall_mem_map.mpr folded.statuses
  spec kept := List.forall_mem_map.mpr (folded.spec kept).positions
  graph kept := List.forall_mem_map.mpr (ImportGraph.ofSpecification_folded (folded.spec kept))

-- Folding leaves one form of a path: no dot, and two dots only in front of a relative
-- path. It is the end of following the path over a stack, however the path is edited
-- on the way, and joining does not tell whether a path was folded before. All keys of
-- a compilation are in this form, in whatever order its turns are taken.
theorem folding_canonical :
    (∀ path : Path,
      (∃ (climbs : Nat) (names : List Text), path.normalize.components =
        (if path.isAbsolute then [.root] else List.replicate climbs .up) ++ names.map Component.name) ∧
      path.normalize.isAbsolute = path.isAbsolute ∧ path.normalize.normalize = path.normalize ∧
      (∀ base : Path, (base.normalize.join path).normalize = (base.join path).normalize) ∧
      path.normalize.components = (path.components.foldl Path.follow []).reverse ∧
      path.components.foldl Path.edit ⟨[]⟩ = path.normalize) ∧
    (∀ (importer : Path) (first second : Text),
      (Path.written first).normalize.components = (Path.written second).normalize.components →
      importer.resolveImport first = importer.resolveImport second) ∧
    ∀ (σ : Type) (compiler : Compiler σ) (analyzer : Analyzer) (files : List Path) (base : Path) (recognition : σ),
      (compiler.compile analyzer files base recognition).1.Folded compiler.recognizer.KeepsOrigin ∧
      ∀ count run, Run.Steps compiler count (.start (files.map base.resolve) recognition) run →
        (Compilation.ofRun analyzer run).Folded compiler.recognizer.KeepsOrigin := by
  refine ⟨fun path => ?_,fun importer first second same => Path.resolveImport_same importer same,?_⟩
  · exact ⟨path.normalize_components,path.isAbsolute_normalize,path.normalize_normalize,
      fun base => base.normalize_base path,path.components_normalize,path.edited_normalize⟩
  · intro σ compiler analyzer files base recognition
    have started := Run.start_folded compiler.recognizer.KeepsOrigin files base recognition
    exact ⟨(Run.drive_folded started _).result analyzer,fun count run steps => (steps.folded started).result analyzer⟩

theorem folding_canonical_dangling :
    let inputs := [⟨"../a".toList⟩].map (Path.resolve ⟨['/']⟩)
    Path.resolveImport ⟨"/s/a".toList⟩ "x\\..\\./b".toList = Path.resolveImport ⟨"/s/a".toList⟩ ".//b".toList ∧
    ∃ count run, Run.Steps Compiler.dangling count (.start inputs ()) run ∧ run.Stuck Compiler.dangling ∧
      let result := Compilation.ofRun .none run
      ∀ path ∈ result.spec.positions.map Prod.fst ++ result.graph.vertices, path.normalize = path := by
  intro inputs
  obtain ⟨_,values,keys⟩ := folding_canonical
  have keeps : Compiler.dangling.recognizer.KeepsOrigin := fun _ _ _ => rfl
  have spelled : ∀ path ∈ inputs, path.Normal :=
    List.forall_mem_map.mpr fun file _ => Path.resolve_normal ⟨['/']⟩ file
  obtain ⟨stuck,count,steps⟩ := Run.drive_stuck Compiler.dangling_standard.regular spelled .none
    (Run.turnBound Compiler.dangling inputs) (Nat.le_add_left _ _)
  have folded := (keys Unit Compiler.dangling .none [⟨"../a".toList⟩] ⟨['/']⟩ ()).2 count _ steps
  refine ⟨values _ _ _ (by decide),count,_,steps,stuck,fun path member => ?_⟩
  rcases List.mem_append.mp member with listed | drawn
  · exact folded.spec keeps path listed
  · exact folded.graph keeps path drawn

end ScenarioLang
