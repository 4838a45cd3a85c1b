import ScenarioLang.Proofs.Compilation.Complete
import ScenarioLang.Proofs.ImportGraph.Drawn
import ScenarioLang.Proofs.Pipeline.Stopping

namespace ScenarioLang

def Compiler.stopping (compiler : Compiler σ) (stops : Bool) : Compiler σ :=
  { compiler with options := { compiler.options with stopOnError := stops } }

namespace Compiler

variable {compiler : Compiler Unit} {inputs : List Path} {path : Path}

theorem Regular.stopping (regular : compiler.Regular) (stops : Bool) : (compiler.stopping stops).Regular :=
  ⟨regular.keeps,regular.provided,regular.checked⟩

theorem outcome_stopping (regular : compiler.Regular) (a b : Bool)
    (clean : ((compiler.stopping a).told path).hasErrors = false) :
    (compiler.stopping b).outcome path = (compiler.stopping a).outcome path := by
  cases stored : compiler.store.read path with
  | text content =>
    obtain ⟨base,ready⟩ := regular.ready
    have each : ∀ stops, (compiler.stopping stops).outcome path = _ := fun stops => outcome_text (ready stops) stored
    have told : (compiler.stopping a).told path = ((compiler.stopping a).outcome path).2 :=
      told_outcome (by rw [stopping,stored]; simp)
    rw [told,each] at clean
    obtain ⟨docs,problems⟩ := Pipeline.process_stopping b compiler.recognizer path (Run.withoutMark content)
      compiler.options.lineBreak () clean
    rw [each,each]
    exact Prod.ext (congrArg some docs) problems
  | unreadable reason =>
    have each : ∀ stops, (compiler.stopping stops).outcome path = _ := fun stops => outcome_unreadable stored
    rw [each,each]
  | crashing =>
    have each : ∀ stops, (compiler.stopping stops).outcome path = _ := fun stops => outcome_crashing stored
    rw [each,each]

theorem told_stopping (regular : compiler.Regular) (a b : Bool)
    (clean : ((compiler.stopping a).told path).hasErrors = false) :
    (compiler.stopping b).told path = (compiler.stopping a).told path := by
  unfold told
  rw [outcome_stopping regular a b clean]
  rfl

theorem hasErrors_stopping (regular : compiler.Regular) (a b : Bool) (path : Path) :
    ((compiler.stopping a).told path).hasErrors = ((compiler.stopping b).told path).hasErrors := by
  cases first : ((compiler.stopping a).told path).hasErrors with
  | false => rw [told_stopping regular a b first,first]
  | true =>
    cases second : ((compiler.stopping b).told path).hasErrors with
    | false => rw [← first,told_stopping regular b a second,second]
    | true => rfl

theorem stops_stopping (compiler : Compiler Unit) (path : Path) :
    (compiler.stopping true).stops path = ((compiler.stopping true).told path).hasErrors := Bool.true_and _

theorem imports_stopping (regular : compiler.Regular) (quiet : (compiler.stopping true).stops path = false) :
    (compiler.stopping false).imports path = (compiler.stopping true).imports path := by
  rw [stops_stopping] at quiet
  rw [imports,imports,outcome_stopping regular true false quiet]

theorem Sought.whole (regular : compiler.Regular) (sought : (compiler.stopping true).Sought inputs path) :
    (compiler.stopping false).Needed inputs path := by
  induction sought with
  | input member => exact .input member
  | imported sought quiet member ih => exact .imported ih (by rwa [imports_stopping regular quiet])

theorem Needed.unstopped (regular : compiler.Regular)
    (clean : ∀ path, (compiler.stopping true).Sought inputs path → (compiler.stopping true).stops path = false)
    (needed : (compiler.stopping false).Needed inputs path) : (compiler.stopping true).Sought inputs path := by
  induction needed with
  | input member => exact .input member
  | imported needed member ih =>
    have quiet := clean _ ih
    exact .imported ih quiet (by rwa [← imports_stopping regular quiet])

theorem place_clean (clean : (compiler.told path).hasErrors = false) : compiler.store.place path = path := by
  cases stored : compiler.store.read path with
  | unreadable reason =>
    rw [told_outcome (by rw [stored]; simp),outcome_unreadable stored] at clean
    exact absurd clean (by simp [ProblemMap.addGenericError,ProblemMap.addError,ProblemMap.addErrors,
      ProblemMap.hasErrors_alone])
  | _ => simp [FileStore.place,stored]

end Compiler

-- What both compilations come to is the same, but for the order of documents.
structure Compilation.Agrees (one other : Compilation) : Prop where
  statuses : one.statuses = other.statuses
  documents : one.spec.documents.Perm other.spec.documents
  graph : one.graph = other.graph
  errors : ∀ query, one.problems.errors query = other.problems.errors query
  warnings : ∀ query, one.problems.warnings query = other.problems.warnings query

-- What holds of a run that errors may have stopped, beside one that nothing stops.
-- The order is that in which documents came in.
structure Run.Curtailed (compiler : Compiler Unit) (run whole : Run Unit) : Prop where
  ended : ∀ task ∈ run.tasks, task.stage.hasEnded = true
  terminal : ∀ path status, (path,status) ∈ run.statuses → status.isTerminal = true
  claimed : ∀ path ∈ PathMap.keys run.statuses, path ∈ PathMap.keys whole.statuses
  documents : ∃ order : List Path, order.Nodup ∧ (∀ path, path ∈ order ↔ (path,.done) ∈ run.statuses) ∧
    run.spec.documents.map some = order.map fun path => (compiler.outcome path).1
  readOnce : run.reads.Nodup
  failed : ∀ path, (path,.failed) ∈ run.statuses → (path,.failed) ∈ whole.statuses

namespace Account

section Reported

variable {compiler : Compiler Unit} {setup : LexerSetup} {inputs : List Path} {run : Run Unit}
  {phase : Path → Phase} {reported listed : List Path}

theorem hasErrors_eq (regular : compiler.Regular)
    (sound : Account compiler setup inputs run phase reported listed) :
    run.problems.hasErrors = reported.any fun path => (compiler.told path).hasErrors := by
  rw [Bool.eq_iff_iff,ProblemMap.hasErrors_iff sound.problems.ordered,List.any_eq_true]
  have each : ∀ path, (compiler.told path).hasErrors = true ↔ ∃ query, ((compiler.told path).said query).errors ≠ [] :=
    fun path => ProblemMap.hasErrors_iff (Compiler.told_ordered regular path)
  simp only [each,sound.problems.said,FileProblems.errors_sum,ne_eq,List.flatMap_eq_nil_iff,List.forall_mem_map,
    not_forall]
  constructor
  · rintro ⟨query,path,member,wrong⟩
    exact ⟨path,member,query,wrong⟩
  · rintro ⟨path,member,query,wrong⟩
    exact ⟨query,path,member,wrong⟩

end Reported

section Compared

variable {compiler : Compiler Unit} {setup other : LexerSetup} {inputs : List Path} {run whole : Run Unit}
  {phase reached : Path → Phase} {reported listed told kept : List Path} {path : Path}

theorem stopped_eq (regular : compiler.Regular)
    (sound : Account (compiler.stopping true) setup inputs run phase reported listed) :
    run.stopped = run.problems.hasErrors := by
  rw [sound.stopped,sound.hasErrors_eq (regular.stopping true)]
  exact congrArg reported.any (funext (Compiler.stops_stopping compiler))

theorem reported_clean (regular : compiler.Regular)
    (sound : Account (compiler.stopping true) setup inputs run phase reported listed)
    (clean : run.problems.hasErrors = false) (member : path ∈ reported) :
    ((compiler.stopping true).told path).hasErrors = false := by
  rw [sound.hasErrors_eq (regular.stopping true),List.any_eq_false] at clean
  simpa using clean path member

variable (regular : compiler.Regular)
  (part : Account (compiler.stopping true) setup inputs run phase reported listed)
  (full : Sound (compiler.stopping false) other inputs whole reached told kept)
  (ended : whole.Stuck (compiler.stopping false))
include regular part full ended

theorem settled_whole (settled : phase path = .settled) : reached path = .settled :=
  (full.settled_iff ended path).mpr ((part.claimed path (by rw [settled]; simp)).whole regular)

variable (stuck : run.Stuck (compiler.stopping true))
include stuck

theorem settled_alike (clean : run.problems.hasErrors = false) (path : Path) :
    phase path = .settled ↔ reached path = .settled := by
  refine ⟨part.settled_whole regular full ended,fun settled => ?_⟩
  have goesOn := (part.stopped_eq regular).trans clean
  have quiet : ∀ path, (compiler.stopping true).Sought inputs path → (compiler.stopping true).stops path = false :=
    fun path sought => part.quiet goesOn ((part.reported_iff stuck path).mpr (part.stuck_settled stuck goesOn sought))
  exact part.stuck_settled stuck goesOn (((full.settled_iff ended path).mp settled).unstopped regular quiet)

theorem hasErrors_alike : run.problems.hasErrors = whole.problems.hasErrors := by
  cases erring : run.problems.hasErrors with
  | true =>
    -- The file that stopped the run has errors in the whole run as well.
    rw [part.hasErrors_eq (regular.stopping true),List.any_eq_true] at erring
    obtain ⟨path,member,wrong⟩ := erring
    rw [full.hasErrors_eq (regular.stopping false),eq_comm,List.any_eq_true]
    refine ⟨path,?_,by rwa [Compiler.hasErrors_stopping regular false true]⟩
    rw [full.reported_iff ended]
    exact part.settled_whole regular full ended ((part.reported_iff stuck path).mp member)
  | false =>
    have none := erring
    rw [part.hasErrors_eq (regular.stopping true),List.any_eq_false] at none
    rw [full.hasErrors_eq (regular.stopping false),eq_comm,List.any_eq_false]
    intro path member
    have settled := (part.settled_alike regular full ended stuck erring path).mpr
      ((full.reported_iff ended path).mp member)
    rw [Compiler.hasErrors_stopping regular false true]
    exact none path ((part.reported_iff stuck path).mpr settled)

theorem documents_alike (clean : run.problems.hasErrors = false) :
    run.spec.documents.Perm whole.spec.documents := by
  have alike := part.settled_alike regular full ended stuck clean
  have same : listed.Perm kept := by
    rw [List.perm_ext_iff_of_nodup part.spec.tracks.once full.spec.tracks.once]
    intro path
    rw [part.listed_iff stuck,full.listed_iff ended,alike]
    rfl
  have made : kept.map (fun path => ((compiler.stopping false).outcome path).1) =
      kept.map fun path => ((compiler.stopping true).outcome path).1 := by
    apply List.map_congr_left
    intro path member
    have settled := ((part.listed_iff stuck path).mp (same.mem_iff.mpr member)).1
    have quiet := part.reported_clean regular clean ((part.reported_iff stuck path).mpr settled)
    rw [Compiler.outcome_stopping regular true false quiet]
  have both : (run.spec.documents.map some).Perm (whole.spec.documents.map some) := by
    rw [part.spec.documents,full.spec.documents,made]
    exact same.map _
  simpa [List.filterMap_map] using both.filterMap id

-- Each file speaks of itself alone, so the order of reports does not matter.
theorem told_alike (spelled : ∀ path ∈ inputs, path.Normal) (clean : run.problems.hasErrors = false) (query : Path) :
    FileProblems.sum (reported.map fun path => ((compiler.stopping true).told path).said query) =
      .sum (told.map fun path => ((compiler.stopping false).told path).said query) := by
  have alike : ∀ path, path ∈ reported ↔ path ∈ told := by
    intro path
    rw [part.reported_iff stuck,full.reported_iff ended,part.settled_alike regular full ended stuck clean]
  have same : told.map (fun path => ((compiler.stopping false).told path).said query) =
      told.map fun path => ((compiler.stopping true).told path).said query := by
    apply List.map_congr_left
    intro path member
    rw [Compiler.told_stopping regular true false (part.reported_clean regular clean ((alike path).mpr member))]
  have own : ∀ path ∈ reported, ((compiler.stopping true).told path).said query ≠ .none →
      path.Normal ∧ path.same query = true := by
    intro path member speaks
    have settled := (part.reported_iff stuck path).mp member
    refine ⟨part.normal spelled path (by rw [settled]; simp),?_⟩
    by_contra apart
    rw [Bool.not_eq_true,← Compiler.place_clean (part.reported_clean regular clean member)] at apart
    exact speaks (Compiler.told_other (regular.stopping true) apart)
  rw [same]
  refine FileProblems.sum_sole part.problems.tracks.once full.problems.tracks.once alike ?_
  intro a a_member b b_member a_speaks b_speaks
  obtain ⟨a_normal,a_same⟩ := own a a_member a_speaks
  obtain ⟨b_normal,b_same⟩ := own b b_member b_speaks
  rw [Path.same_comm] at b_same
  exact (Path.normal_same a_normal b_normal).mp (Path.same_trans a_same b_same)

theorem agrees (spelled : ∀ path ∈ inputs, path.Normal) (clean : run.problems.hasErrors = false) :
    (Compilation.ofRun .none run).Agrees (.ofRun .none whole) := by
  have docs := part.documents_alike regular full ended stuck clean
  have graph : ImportGraph.ofSpecification run.spec = ImportGraph.ofSpecification whole.spec :=
    ImportGraph.ofSpecification_perm docs fun doc member info origin =>
      part.normal_listed spelled info.path (part.document_listed (regular.stopping true) member origin)
  have said : ∀ query, (Compilation.ofRun .none run).problems.said query =
      (Compilation.ofRun .none whole).problems.said query := by
    intro query
    rw [part.said_total,full.said_total,graph,part.told_alike regular full ended stuck spelled clean]
  have statuses : run.statuses = whole.statuses := by
    refine part.statuses.ordered.ext full.statuses.ordered fun entry => ?_
    obtain ⟨path,status⟩ := entry
    rw [part.status_iff stuck,full.status_iff ended,part.settled_alike regular full ended stuck clean]
    rfl
  refine ⟨statuses,docs,graph,fun query => ?_,fun query => ?_⟩
  · rw [ProblemMap.errors_eq,said,ProblemMap.errors_eq]
  · rw [ProblemMap.warnings_eq,said,ProblemMap.warnings_eq]

theorem curtailed : run.Curtailed (compiler.stopping true) whole := by
  have within : ∀ path status, (path,status) ∈ run.statuses → (path,status) ∈ whole.statuses := by
    intro path status member
    obtain ⟨settled,own⟩ := (part.status_iff stuck path status).mp member
    exact (full.status_iff ended path status).mpr ⟨part.settled_whole regular full ended settled,own⟩
  refine ⟨part.ended stuck,?_,?_,⟨listed,part.spec.tracks.once,?_,part.spec.documents⟩,part.reads.once,
    fun path => within path .failed⟩
  · intro path status member
    rw [((part.status_iff stuck path status).mp member).2]
    split <;> rfl
  · intro path member
    obtain ⟨⟨own,status⟩,entry,rfl⟩ := List.mem_map.mp member
    exact List.mem_map_of_mem (within own status entry)
  · intro path
    rw [part.listed_iff stuck,part.status_iff stuck]
    cases (compiler.stopping true).store.hasText path <;> simp

end Compared

end Account

-- Whatever the order of turns, with and without errors that stop, both runs come to
-- an end. The one has errors if the other has, without errors they come to the
-- same, and what was stopped is a part of the whole.
theorem Compiler.stopping_agrees {compiler : Compiler Unit} (regular : compiler.Regular) (files : List Path)
    (base : Path) :
    let inputs := files.map base.resolve
    (∀ stops,
      (∃ count run, Run.Steps (compiler.stopping stops) count (.start inputs ()) run ∧
        run.Stuck (compiler.stopping stops) ∧
        ((compiler.stopping stops).compile .none files base ()).1 = .ofRun .none run) ∧
      ∀ count run, Run.Steps (compiler.stopping stops) count (.start inputs ()) run →
        count ≤ Run.turnBound (compiler.stopping stops) inputs) ∧
    ∀ count run total whole,
      Run.Steps (compiler.stopping true) count (.start inputs ()) run → run.Stuck (compiler.stopping true) →
      Run.Steps (compiler.stopping false) total (.start inputs ()) whole → whole.Stuck (compiler.stopping false) →
      (run.problems.hasErrors = true ↔ whole.problems.hasErrors = true) ∧
      (run.problems.hasErrors = false → whole.problems.hasErrors = false →
        (Compilation.ofRun .none run).Agrees (.ofRun .none whole)) ∧
      run.Curtailed (compiler.stopping true) whole := by
  intro inputs
  have spelled : ∀ path ∈ inputs, path.Normal := by
    intro path member
    obtain ⟨file,_,rfl⟩ := List.mem_map.mp member
    exact Path.resolve_normal base file
  refine ⟨fun stops => ⟨?_,fun count run steps => ?_⟩,fun count run total whole steps stuck all ended => ?_⟩
  · obtain ⟨stuck,count,steps⟩ := Run.drive_stuck (regular.stopping stops) spelled .none
      (Run.turnBound (compiler.stopping stops) inputs) (Nat.le_add_left _ _)
    exact ⟨count,_,steps,stuck,rfl⟩
  · exact Nat.le_trans (Nat.le_add_right _ _) (steps.bounded (regular.stopping stops) spelled)
  · obtain ⟨words,ready⟩ := regular.ready
    obtain ⟨phase,reported,listed,part⟩ := steps.account (regular.stopping true) (ready true) spelled
    obtain ⟨reached,told,kept,account⟩ := all.account (regular.stopping false) (ready false) spelled
    have full : Sound (compiler.stopping false) _ inputs whole reached told kept := ⟨account,rfl⟩
    refine ⟨?_,fun clean _ => part.agrees regular full ended stuck spelled clean,
      part.curtailed regular full ended stuck⟩
    rw [part.hasErrors_alike regular full ended stuck]

theorem Compiler.stopping_agrees_dangling :
    (∃ run whole : Run Unit,
      ((dangling.stopping true).compile .none [⟨['a']⟩] ⟨['/']⟩ ()).1 = .ofRun .none run ∧
      ((dangling.stopping false).compile .none [⟨['a']⟩] ⟨['/']⟩ ()).1 = .ofRun .none whole ∧
      (run.problems.hasErrors = true ↔ whole.problems.hasErrors = true) ∧
      run.Curtailed (dangling.stopping true) whole) := by
  obtain ⟨ends,compared⟩ := stopping_agrees dangling_standard.regular [⟨['a']⟩] ⟨['/']⟩
  obtain ⟨count,run,steps,stuck,made⟩ := (ends true).1
  obtain ⟨total,whole,all,ended,also⟩ := (ends false).1
  obtain ⟨errors,_,curtailed⟩ := compared count run total whole steps stuck all ended
  exact ⟨run,whole,made,also,errors,curtailed⟩

end ScenarioLang
