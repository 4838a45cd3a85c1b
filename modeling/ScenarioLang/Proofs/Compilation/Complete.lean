import ScenarioLang.Proofs.Compilation.Termination
import ScenarioLang.Proofs.ImportGraph

namespace ScenarioLang

namespace Compilation

def cycleErrors (query : Path) (cycles : List ImportCycle) : List Problem :=
  cycles.filterMap fun cycle =>
    match cycle.head? with
    | some first => if first.same query then some (.unlocated .importing (ImportCycle.message cycle)) else none
    | none => none

theorem said_reportCycles (graph : ImportGraph) {problems : ProblemMap} (ordered : problems.Ordered) (query : Path) :
    (reportCycles graph problems).said query = (problems.said query).add ⟨cycleErrors query graph.cycles,[]⟩ := by
  unfold reportCycles
  generalize graph.cycles = cycles
  induction cycles generalizing problems with
  | nil => exact (FileProblems.add_none _).symm
  | cons cycle rest ih =>
    rw [List.foldl_cons]
    cases cycle with
    | nil => exact ih ordered
    | cons first others =>
      have next : (problems.addError first (.unlocated .importing (ImportCycle.message (first :: others)))).Ordered :=
        ProblemMap.ordered_add ordered
      simp only [List.head?_cons]
      rw [ih next]
      cases own : first.same query with
      | true =>
        rw [ProblemMap.addError,ProblemMap.addErrors,ProblemMap.said_add_own ordered own,FileProblems.add_assoc]
        simp [cycleErrors,own,FileProblems.add]
      | false =>
        rw [ProblemMap.addError,ProblemMap.addErrors,ProblemMap.said_add_other own]
        simp [cycleErrors,own]

theorem cycleErrors_none {spec : Specification} {query : Path}
    (foreign : ∀ doc ∈ spec.documents, ∀ info, doc.fileInfo = some info → info.path.same query = false) :
    cycleErrors query (ImportGraph.ofSpecification spec).cycles = [] := by
  apply List.filterMap_eq_nil_iff.mpr
  intro cycle member
  obtain ⟨first,rest,rfl,imports⟩ := ImportGraph.cycles_entered _ cycle member
  obtain ⟨doc,inside,info,origin,same⟩ := (ImportGraph.ofSpecification_importers spec).importers first imports
  have apart : first.same query = false := by
    rw [← Bool.not_eq_true]
    intro own
    have met := Path.same_trans same own
    rw [foreign doc inside info origin] at met
    cases met
  simp [apart]

end Compilation

theorem ProblemMap.generic_normal : generic.Normal := rfl

def FileStore.failure? (store : FileStore) (path : Path) : Option Problem :=
  match store.read path with
  | .unreadable reason => some (Run.readFailure path reason)
  | _ => none

def Run.Finished (run : Run σ) : Prop := run.inputs = [] ∧ ∀ task ∈ run.tasks, task.stage.hasEnded = true

-- The result depends on the needed files alone, but for the order of documents
-- and of the problems that belong to no file.
structure Compilation.Complete (compiler : Compiler Unit) (inputs : List Path) (result : Compilation) : Prop where
  readOnce : result.reads.Nodup
  read : ∀ path, path ∈ result.reads ↔ compiler.Needed inputs path
  ordered : PathMap.Ordered result.statuses
  statuses : ∀ path status, (path,status) ∈ result.statuses ↔
    compiler.Needed inputs path ∧ status = if compiler.store.hasText path then .done else .failed
  documents : ∃ order : List Path, order.Nodup ∧
    (∀ path, path ∈ order ↔ compiler.Needed inputs path ∧ compiler.store.hasText path = true) ∧
    result.spec.documents.map some = order.map fun path => (compiler.outcome path).1
  document : ∀ path, compiler.Needed inputs path → result.spec.get? path = (compiler.outcome path).1
  graph : result.graph = .ofSpecification result.spec
  errors : ∀ path, compiler.Needed inputs path → compiler.store.hasText path = true →
    result.problems.errors path = (compiler.outcome path).2.errors path ++ cycleErrors path result.graph.cycles
  warnings : ∀ path, compiler.Needed inputs path → compiler.store.hasText path = true →
    result.problems.warnings path = (compiler.outcome path).2.warnings path
  unread : ∃ order : List Path, order.Nodup ∧
    (∀ path, path ∈ order ↔ compiler.Needed inputs path ∧ compiler.store.hasText path = false) ∧
    (result.problems.errors ProblemMap.generic).map some = order.map compiler.store.failure?
  unwarned : result.problems.warnings ProblemMap.generic = []
  silent : ∀ query, query.same ProblemMap.generic = false →
    (∀ path, compiler.Needed inputs path → compiler.store.hasText path = true → path.same query = false) →
    result.problems.errors query = [] ∧ result.problems.warnings query = []

variable {compiler : Compiler Unit} {setup : LexerSetup} {inputs : List Path} {phase : Path → Phase}
  {reported listed : List Path} {run : Run Unit} {path : Path}

theorem FileStore.failure_isSome (standard : compiler.Standard) (path : Path) :
    (compiler.store.failure? path).isSome = !compiler.store.hasText path := by
  cases stored : compiler.store.read path with
  | text content => simp [failure?,hasText,stored]
  | unreadable reason => simp [failure?,hasText,stored]
  | crashing => exact absurd stored (standard.steady path)

theorem Compiler.Standard.place_eq (standard : compiler.Standard) (path : Path) :
    compiler.store.place path = if compiler.store.hasText path then path else ProblemMap.generic := by
  cases stored : compiler.store.read path with
  | text content => simp [FileStore.place,FileStore.hasText,stored]
  | unreadable reason => simp [FileStore.place,FileStore.hasText,stored]
  | crashing => exact absurd stored (standard.steady path)

theorem Compiler.told_generic (standard : compiler.Standard) (named : path.same ProblemMap.generic = false) :
    (compiler.told path).said ProblemMap.generic = ⟨(compiler.store.failure? path).toList,[]⟩ := by
  cases stored : compiler.store.read path with
  | text content =>
    have place : compiler.store.place path = path := by simp [FileStore.place,stored]
    rw [told_other standard (by rw [place]; exact named)]
    simp [FileStore.failure?,stored,FileProblems.none]
  | unreadable reason =>
    rw [told_outcome (standard.steady path),outcome_unreadable stored,ProblemMap.addGenericError,ProblemMap.addError,
      ProblemMap.addErrors,ProblemMap.said_add_own ProblemMap.ordered_empty (Path.same_refl _)]
    simp [FileStore.failure?,stored,ProblemMap.said_empty,FileProblems.add,FileProblems.none]
  | crashing => exact absurd stored (standard.steady path)

theorem Specification.position?_zipIdx {spec : Specification} {order : List Path}
    (positions : spec.positions = order.zipIdx.reverse) (normal : ∀ path ∈ order, path.Normal) (own : path.Normal) :
    (spec.position? path = none ∧ path ∉ order) ∨ ∃ i, spec.position? path = some i ∧ order[i]? = some path := by
  unfold position?
  rw [positions]
  cases found : order.zipIdx.reverse.find? fun entry => entry.1.same path with
  | none =>
    refine .inl ⟨rfl,fun member => ?_⟩
    obtain ⟨i,inside,held⟩ := List.mem_iff_getElem.mp member
    have entry : (path,i) ∈ order.zipIdx.reverse := by
      rw [List.mem_reverse,List.mem_zipIdx_iff_getElem?]
      exact List.getElem?_eq_some_iff.mpr ⟨inside,held⟩
    exact List.find?_eq_none.mp found (path,i) entry (Path.same_refl path)
  | some entry =>
    obtain ⟨other,i⟩ := entry
    have same := List.find?_some found
    have held : order[i]? = some other := by
      have member := List.mem_of_find?_eq_some found
      rwa [List.mem_reverse,List.mem_zipIdx_iff_getElem?] at member
    obtain rfl := (Path.normal_same (normal other (List.mem_of_getElem? held)) own).mp same
    exact .inr ⟨i,rfl,held⟩

namespace Account

theorem normal_listed (sound : Account compiler setup inputs run phase reported listed)
    (spelled : ∀ path ∈ inputs, path.Normal) (path : Path) (member : path ∈ listed) : path.Normal := by
  have far := (sound.spec.tracks.members path).mp member
  apply sound.normal spelled path
  intro unclaimed
  rw [unclaimed] at far
  cases far

theorem document_listed (regular : compiler.Regular) (sound : Account compiler setup inputs run phase reported listed)
    {doc : Document} {info : FileInfo} (member : doc ∈ run.spec.documents) (origin : doc.fileInfo = some info) :
    info.path ∈ listed := by
  have listed_doc : some doc ∈ listed.map fun path => (compiler.outcome path).1 := by
    rw [← sound.spec.documents]
    exact List.mem_map_of_mem member
  obtain ⟨path,inside,made⟩ := List.mem_map.mp listed_doc
  have key : info.path = path := by
    have named := Compiler.outcome_key regular made
    rwa [Specification.key,origin] at named
  rw [key]
  exact inside

theorem said_total (sound : Account compiler setup inputs run phase reported listed) (query : Path) :
    (Compilation.ofRun .none run).problems.said query =
      (FileProblems.sum (reported.map fun path => (compiler.told path).said query)).add
        ⟨Compilation.cycleErrors query (ImportGraph.ofSpecification run.spec).cycles,[]⟩ := by
  rw [← sound.problems.said]
  exact Compilation.said_reportCycles _ sound.problems.ordered query

theorem document (regular : compiler.Regular) (spelled : ∀ path ∈ inputs, path.Normal)
    (sound : Account compiler setup inputs run phase reported listed) (stuck : run.Stuck compiler)
    (settled : phase path = .settled) : run.spec.get? path = (compiler.outcome path).1 := by
  have own := sound.normal spelled path (by rw [settled]; simp)
  unfold Specification.get?
  rcases Specification.position?_zipIdx sound.spec.positions (sound.normal_listed spelled) own with
    ⟨absent,unlisted⟩ | ⟨i,there,held⟩
  · have unreadable : (compiler.outcome path).1.isSome = false := by
      rw [Compiler.outcome_isSome regular,← Bool.not_eq_true]
      exact fun readable => unlisted ((sound.listed_iff stuck path).mpr ⟨settled,readable⟩)
    rw [absent,Option.isNone_iff_eq_none.mp (Option.isSome_eq_false_iff.mp unreadable)]
    rfl
  · have documents := congrArg (·[i]?) sound.spec.documents
    simp only [List.getElem?_map,held,Option.map_some] at documents
    obtain ⟨doc,doc_at,made⟩ := Option.map_eq_some_iff.mp documents
    rw [there,Option.bind_some,doc_at,made]

end Account

namespace Sound

theorem reported_needed (sound : Sound compiler setup inputs run phase reported listed) (stuck : run.Stuck compiler)
    (path : Path) : path ∈ reported ↔ compiler.Needed inputs path := by
  rw [sound.reported_iff stuck,sound.settled_iff stuck]

theorem listed_needed (sound : Sound compiler setup inputs run phase reported listed) (stuck : run.Stuck compiler)
    (path : Path) : path ∈ listed ↔ compiler.Needed inputs path ∧ compiler.store.hasText path = true := by
  rw [sound.listed_iff stuck,sound.settled_iff stuck]

theorem document (standard : compiler.Standard) (spelled : ∀ path ∈ inputs, path.Normal)
    (sound : Sound compiler setup inputs run phase reported listed) (stuck : run.Stuck compiler)
    (needed : compiler.Needed inputs path) : run.spec.get? path = (compiler.outcome path).1 :=
  sound.toAccount.document standard spelled stuck ((sound.settled_iff stuck path).mpr needed)

theorem foreign_cycles (standard : compiler.Standard)
    (sound : Sound compiler setup inputs run phase reported listed) (stuck : run.Stuck compiler) {query : Path}
    (foreign : ∀ path, compiler.Needed inputs path → compiler.store.hasText path = true → path.same query = false) :
    Compilation.cycleErrors query (ImportGraph.ofSpecification run.spec).cycles = [] := by
  apply Compilation.cycleErrors_none
  intro doc member info origin
  obtain ⟨needed,readable⟩ := (sound.listed_needed stuck info.path).mp (sound.document_listed standard member origin)
  exact foreign info.path needed readable

theorem said_readable (standard : compiler.Standard) (spelled : ∀ path ∈ inputs, path.Normal)
    (named : ∀ path, compiler.Needed inputs path → path ≠ ProblemMap.generic)
    (sound : Sound compiler setup inputs run phase reported listed) (stuck : run.Stuck compiler)
    (needed : compiler.Needed inputs path) :
    FileProblems.sum (reported.map fun other => (compiler.told other).said path) =
      (compiler.outcome path).2.said path := by
  rw [← Compiler.told_outcome (standard.steady path)]
  refine FileProblems.sum_alone sound.problems.tracks.once ((sound.reported_needed stuck path).mpr needed)
    fun other member apart => Compiler.told_other standard ?_
  have own := needed.normal spelled
  have other_own := ((sound.reported_needed stuck other).mp member).normal spelled
  rw [standard.place_eq,← Bool.not_eq_true]
  split
  · exact fun same => apart ((Path.normal_same other_own own).mp same)
  · exact fun same => named path needed ((Path.normal_same ProblemMap.generic_normal own).mp same).symm

theorem said_generic (standard : compiler.Standard) (spelled : ∀ path ∈ inputs, path.Normal)
    (named : ∀ path, compiler.Needed inputs path → path ≠ ProblemMap.generic)
    (sound : Sound compiler setup inputs run phase reported listed) (stuck : run.Stuck compiler) :
    (Compilation.ofRun .none run).problems.said ProblemMap.generic =
      ⟨reported.filterMap compiler.store.failure?,[]⟩ := by
  have apart : ∀ path, compiler.Needed inputs path → path.same ProblemMap.generic = false := by
    intro path needed
    rw [← Bool.not_eq_true,Path.normal_same (needed.normal spelled) ProblemMap.generic_normal]
    exact named path needed
  have each : (reported.map fun path => (compiler.told path).said ProblemMap.generic) =
      reported.map fun path => ⟨(compiler.store.failure? path).toList,[]⟩ := by
    apply List.map_congr_left
    intro path member
    exact Compiler.told_generic standard (apart path ((sound.reported_needed stuck path).mp member))
  have cycles := sound.foreign_cycles standard stuck fun path needed _ => apart path needed
  rw [sound.said_total,cycles,each]
  simp [FileProblems.add,FileProblems.errors_sum,FileProblems.warnings_sum,List.flatMap_map,
    List.filterMap_eq_flatMap_toList]

theorem said_foreign (standard : compiler.Standard) (sound : Sound compiler setup inputs run phase reported listed)
    (stuck : run.Stuck compiler) {query : Path} (specific : query.same ProblemMap.generic = false)
    (foreign : ∀ path, compiler.Needed inputs path → compiler.store.hasText path = true → path.same query = false) :
    (Compilation.ofRun .none run).problems.said query = .none := by
  have quiet : FileProblems.sum (reported.map fun path => (compiler.told path).said query) = .none := by
    apply FileProblems.sum_none
    intro part member
    obtain ⟨path,inside,rfl⟩ := List.mem_map.mp member
    apply Compiler.told_other standard
    rw [standard.place_eq]
    split
    · rename_i readable
      exact foreign path ((sound.reported_needed stuck path).mp inside) readable
    · rw [Path.same_comm]
      exact specific
  rw [sound.said_total,sound.foreign_cycles standard stuck foreign,quiet]
  rfl

theorem complete (standard : compiler.Standard) (spelled : ∀ path ∈ inputs, path.Normal)
    (named : ∀ path, compiler.Needed inputs path → path ≠ ProblemMap.generic)
    (sound : Sound compiler setup inputs run phase reported listed) (stuck : run.Stuck compiler) :
    (Compilation.ofRun .none run).Complete compiler inputs where
  readOnce := sound.reads.once
  read path := by
    -- A settled path was read, for reading always comes to an end.
    have answers : compiler.store.answers path = true := by
      cases stored : compiler.store.read path with
      | crashing => exact absurd stored (standard.steady path)
      | _ => simp [FileStore.answers,stored]
    have reached : (Phase.settled.isRead && compiler.store.answers path) = true := by rw [answers]; rfl
    exact (sound.tracked_iff stuck sound.reads (fun _ => rfl) path).trans
      ((and_iff_left reached).trans (sound.settled_iff stuck path))
  ordered := sound.statuses.ordered
  statuses path status := by
    rw [← sound.settled_iff stuck]
    exact sound.status_iff stuck path status
  documents := ⟨listed,sound.spec.tracks.once,sound.listed_needed stuck,sound.spec.documents⟩
  document path needed := sound.document standard spelled stuck needed
  graph := rfl
  errors path needed readable := by
    rw [ProblemMap.errors_eq,sound.said_total,sound.said_readable standard spelled named stuck needed]
    rfl
  warnings path needed readable := by
    rw [ProblemMap.warnings_eq,sound.said_total,sound.said_readable standard spelled named stuck needed]
    exact List.append_nil _
  unread := by
    refine ⟨reported.filter fun path => (compiler.store.failure? path).isSome,
      sound.problems.tracks.once.filter _,fun path => ?_,?_⟩
    · rw [List.mem_filter,sound.reported_needed stuck,FileStore.failure_isSome standard,Bool.not_eq_true']
    · rw [ProblemMap.errors_eq,sound.said_generic standard spelled named stuck,
        List.map_filterMap_some_eq_filter_map_isSome,List.filter_map]
      rfl
  unwarned := by
    rw [ProblemMap.warnings_eq,sound.said_generic standard spelled named stuck]
  silent query specific foreign := by
    rw [ProblemMap.errors_eq,ProblemMap.warnings_eq,sound.said_foreign standard stuck specific foreign]
    exact ⟨rfl,rfl⟩

end Sound

theorem Sound.finished (sound : Sound compiler setup inputs run phase reported listed) (stuck : run.Stuck compiler) :
    run.Finished :=
  ⟨sound.stuck_inputs stuck sound.goesOn,sound.ended stuck⟩

-- In whatever order the turns are taken, they come to an end, and at the end all
-- files that are needed, and no others, have been read and compiled as if alone.
theorem Compiler.compile_complete (standard : compiler.Standard) (files : List Path) (base : Path)
    (named : ∀ path, compiler.Needed (files.map base.resolve) path → path ≠ ProblemMap.generic) :
    let inputs := files.map base.resolve
    (∃ count run, Run.Steps compiler count (.start inputs ()) run ∧ run.Finished ∧
      (compiler.compile .none files base ()).1 = .ofRun .none run ∧
      (Compilation.ofRun .none run).Complete compiler inputs) ∧
    ∀ count run, Run.Steps compiler count (.start inputs ()) run →
      count ≤ Run.turnBound compiler inputs ∧
      ((∃ next, Run.Step compiler run next) ∨
        (run.Finished ∧ (Compilation.ofRun .none run).Complete compiler inputs)) := by
  intro inputs
  obtain ⟨setup,ready,_⟩ := standard.ready
  have spelled : ∀ path ∈ inputs, path.Normal := by
    intro path member
    obtain ⟨file,_,rfl⟩ := List.mem_map.mp member
    exact Path.resolve_normal base file
  have ended : ∀ count run, Run.Steps compiler count (.start inputs ()) run → run.Stuck compiler →
      run.Finished ∧ (Compilation.ofRun .none run).Complete compiler inputs := by
    intro count run steps stuck
    obtain ⟨phase,reported,listed,sound⟩ := steps.sound standard ready spelled
    exact ⟨sound.finished stuck,sound.complete standard spelled named stuck⟩
  refine ⟨?_,fun count run steps => ⟨?_,?_⟩⟩
  · obtain ⟨stuck,count,steps⟩ :=
      Run.drive_stuck standard spelled .none (Run.turnBound compiler inputs) (Nat.le_add_left _ _)
    obtain ⟨finished,complete⟩ := ended count _ steps stuck
    exact ⟨count,_,steps,finished,rfl,complete⟩
  · exact Nat.le_trans (Nat.le_add_right _ _) (steps.bounded standard spelled)
  · by_cases stuck : run.Stuck compiler
    · exact .inr (ended count run steps stuck)
    · obtain ⟨turn,taken⟩ := Classical.not_forall.mp stuck
      obtain ⟨next,reached⟩ := Option.ne_none_iff_exists'.mp taken
      exact .inl ⟨next,⟨turn,reached⟩⟩

theorem FileStore.ofTexts_steady (texts : List (Path × Text)) (path : Path) :
    (ofTexts texts []).read path ≠ .crashing := by
  unfold read
  split
  · rename_i key stored found
    have member := List.mem_of_find?_eq_some found
    simp only [ofTexts,List.map_nil,List.nil_append] at member
    obtain ⟨text,_,made⟩ := List.mem_map.mp member
    cases made
    simp
  · simp

namespace Compiler

def dangling : Compiler Unit :=
  ⟨.standard,.ofTexts [(⟨"/a".toList⟩,"Import \"b\"".toList)] [],Dictionary.builtinSource,.none⟩

theorem dangling_standard : dangling.Standard where
  recognizer := rfl
  goesOn := rfl
  provided := .builtin
  checked := ⟨Dictionary.english,rfl⟩
  steady path := FileStore.ofTexts_steady _ path

theorem dangling_named (path : Path) (needed : dangling.Needed ([⟨['a']⟩].map (Path.resolve ⟨['/']⟩)) path) :
    path ≠ ProblemMap.generic := by
  have known : path ∈ [⟨"/a".toList⟩,⟨"/b".toList⟩] := by
    induction needed with
    | input member =>
      have inputs : [⟨['a']⟩].map (Path.resolve ⟨['/']⟩) = [⟨"/a".toList⟩] := by decide
      rw [inputs] at member
      exact List.mem_append_left [⟨"/b".toList⟩] member
    | imported needed member ih =>
      have first : dangling.imports ⟨"/a".toList⟩ = [⟨"/b".toList⟩] := by decide +kernel
      have second : dangling.imports ⟨"/b".toList⟩ = [] := by decide
      rcases List.mem_cons.mp ih with rfl | last
      · rw [first] at member
        exact List.mem_cons_of_mem _ member
      · rw [List.mem_singleton.mp last,second] at member
        cases member
  rintro rfl
  exact absurd known (by decide)

theorem compile_complete_dangling :
    (dangling.compile .none [⟨['a']⟩] ⟨['/']⟩ ()).1.Complete dangling
      ([⟨['a']⟩].map (Path.resolve ⟨['/']⟩)) := by
  obtain ⟨⟨_,_,_,_,same,complete⟩,_⟩ := compile_complete dangling_standard [⟨['a']⟩] ⟨['/']⟩ dangling_named
  rw [same]
  exact complete

end Compiler

end ScenarioLang
