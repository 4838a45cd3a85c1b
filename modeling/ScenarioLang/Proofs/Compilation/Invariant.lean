import ScenarioLang.Proofs.Compilation.Shared
import ScenarioLang.Proofs.Compilation.Turn

namespace ScenarioLang

variable {compiler : Compiler Unit} {setup : LexerSetup} {inputs : List Path} {phase : Path → Phase} {path : Path}
  {next : Phase} {reported listed : List Path}

theorem ProblemsSound.keep {problems : ProblemMap} (sound : ProblemsSound compiler problems phase reported)
    (same : next.isReported = (phase path).isReported) :
    ProblemsSound compiler problems (Function.update phase path next) reported :=
  ⟨sound.tracks.keep same,sound.ordered,sound.said⟩

theorem SpecSound.keep {spec : Specification} (sound : SpecSound compiler spec phase listed)
    (same : next.isListed = (phase path).isListed) :
    SpecSound compiler spec (Function.update phase path next) listed :=
  ⟨sound.tracks.keep (by rw [same]),sound.documents,sound.positions⟩

theorem SpecSound.pass {spec : Specification} (sound : SpecSound compiler spec phase listed)
    (unreadable : compiler.store.hasText path = false) :
    SpecSound compiler spec (Function.update phase path next) listed :=
  ⟨sound.tracks.keep (by rw [unreadable]; simp),sound.documents,sound.positions⟩

-- All that a run shares agrees with one account of how far each path has come. A
-- run has stopped when a file was reported that stops it.
structure Account (compiler : Compiler Unit) (setup : LexerSetup) (inputs : List Path) (run : Run Unit)
    (phase : Path → Phase) (reported listed : List Path) : Prop where
  tasks : TasksSound compiler setup inputs run.inputs run.tasks phase run.stopped
  statuses : StatusSound compiler run.statuses phase
  reads : Tracks (fun path phase => phase.isRead && compiler.store.answers path) run.reads phase
  problems : ProblemsSound compiler run.problems phase reported
  spec : SpecSound compiler run.spec phase listed
  stopped : run.stopped = reported.any compiler.stops
  idle : ∀ pipeline ∈ run.idle, pipeline = .ofSetup setup
  claimed : ∀ path, phase path ≠ .unclaimed → compiler.Sought inputs path

namespace Account

variable {run : Run Unit} {index : Nat} {task : FileTask}

theorem normal (sound : Account compiler setup inputs run phase reported listed)
    (normal : ∀ path ∈ inputs, path.Normal) (path : Path) (claimed : phase path ≠ .unclaimed) : path.Normal :=
  (sound.claimed path claimed).needed.normal normal

theorem sought (sound : Account compiler setup inputs run phase reported listed)
    (found : run.tasks[index]? = some task) : compiler.Sought inputs task.path :=
  sound.tasks.sought _ (List.mem_map_of_mem (List.mem_of_getElem? found))

theorem claimed_update (sound : Account compiler setup inputs run phase reported listed)
    (found : run.tasks[index]? = some task) (path : Path)
    (claimed : Function.update phase task.path next path ≠ .unclaimed) : compiler.Sought inputs path := by
  by_cases own : path = task.path
  · subst own
    exact sound.sought found
  · rw [Function.update_of_ne own] at claimed
    exact sound.claimed path claimed

theorem phase_eq (sound : Account compiler setup inputs run phase reported listed)
    (found : run.tasks[index]? = some task) {own : Phase} (stage : task.stage.phase? = some own) :
    phase task.path = own :=
  (sound.tasks.staged index task found).owns own stage

theorem carries (sound : Account compiler setup inputs run phase reported listed)
    (found : run.tasks[index]? = some task) : Carries compiler setup (phase task.path) task :=
  (sound.tasks.staged index task found).carries

theorem quiet (sound : Account compiler setup inputs run phase reported listed) (goesOn : run.stopped = false)
    (member : path ∈ reported) : compiler.stops path = false := by
  have none := sound.stopped.symm.trans goesOn
  rw [List.any_eq_false] at none
  simpa using none path member

theorem advance (sound : Account compiler setup inputs run phase reported listed)
    (found : run.tasks[index]? = some task) {own : Phase} (held : task.stage.phase? = some own) (stage : Stage)
    (reaches : stage.phase? = some next) (carries : Carries compiler setup next (task.at_ stage))
    (claimed : next ≠ .unclaimed)
    (followed : run.stopped = false → next.isFollowed = true → ∀ imported ∈ compiler.imports task.path,
      imported ∈ run.tasks.map FileTask.path) :
    TasksSound compiler setup inputs run.inputs (run.tasks.modify index fun task => task.at_ stage)
      (Function.update phase task.path next) run.stopped := by
  have active : task.stage.isActive = true := by rw [Stage.isActive,held]; rfl
  refine sound.tasks.move found stage next (fun _ => sound.tasks.alone found (.inl active)) ⟨?_,carries⟩ claimed
    (fun _ => .inl (by rw [Stage.isActive,reaches]; rfl)) followed
  intro reached same
  have stage_eq : stage.phase? = some reached := same
  rw [reaches] at stage_eq
  exact Option.some.inj stage_eq

theorem settle (sound : Account compiler setup inputs run phase reported listed)
    (found : run.tasks[index]? = some task) {own : Phase} (held : task.stage.phase? = some own)
    (followed : run.stopped = false → ∀ imported ∈ compiler.imports task.path,
      imported ∈ run.tasks.map FileTask.path) :
    TasksSound compiler setup inputs run.inputs (run.tasks.modify index fun task => task.at_ .ended)
      (Function.update phase task.path .settled) run.stopped := by
  have active : task.stage.isActive = true := by rw [Stage.isActive,held]; rfl
  refine sound.tasks.move found .ended .settled (fun _ => sound.tasks.alone found (.inl active)) ⟨?_,?_⟩
    (by simp) (fun opened => by cases opened) fun goesOn _ => followed goesOn
  · intro reached same; cases same
  · exact fun unclaimed => by cases unclaimed

theorem claim_sound (spelled : ∀ path ∈ inputs, path.Normal)
    (sound : Account compiler setup inputs run phase reported listed)
    (found : run.tasks[index]? = some task) (stage : task.stage = .queued) :
    ∃ phase, Account compiler setup inputs (run.claim index task.path) phase reported listed := by
  have own := (sound.sought found).needed.normal spelled
  have holds := PathMap.holds_iff sound.statuses.ordered (sound.statuses.spelled (sound.normal spelled)) own
  have passive : task.stage.isActive = false := by rw [stage]; rfl
  by_cases held : PathMap.holds task.path run.statuses = true
  · -- Somebody else owns the path.
    have claimed : phase task.path ≠ .unclaimed := by
      obtain ⟨status,member⟩ := holds.mp held
      have reached := (sound.statuses.entries _ _).mp member
      intro unclaimed
      rw [unclaimed] at reached
      cases reached
    refine ⟨phase,?_⟩
    have tasks := sound.tasks.move found .ended (phase task.path)
      (fun other => by simp [Stage.isActive,Stage.phase?] at other)
      ⟨fun reached same => (by cases same),claimed⟩ claimed (fun _ => .inr ⟨rfl,passive⟩)
      (fun goesOn => sound.tasks.followed goesOn task.path)
    rw [Function.update_eq_self] at tasks
    simp only [Run.claim,StatusTable.claim,held,if_true]
    exact ⟨tasks,sound.statuses,sound.reads,sound.problems,sound.spec,sound.stopped,sound.idle,sound.claimed⟩
  · have unclaimed : phase task.path = .unclaimed := by
      cases reached : (phase task.path).status? (compiler.store.hasText task.path) with
      | none => cases own : phase task.path <;> rw [own] at reached <;> first | rfl | cases reached
      | some status => exact absurd (holds.mpr ⟨status,(sound.statuses.entries _ _).mpr reached⟩) held
    have tasks := sound.tasks.move found .claimed .claimed (fun _ => sound.tasks.alone found (.inr unclaimed))
      ⟨fun reached same => (by cases same; rfl),trivial⟩ (by simp) (fun _ => .inl rfl) (fun _ far => by cases far)
    refine ⟨Function.update phase task.path .claimed,?_⟩
    simp only [Run.claim,StatusTable.claim,held]
    exact ⟨tasks,sound.statuses.put (sound.normal spelled) own rfl,sound.reads.keep (by rw [unclaimed]; rfl),
      sound.problems.keep (by rw [unclaimed]; rfl),sound.spec.keep (by rw [unclaimed]; rfl),sound.stopped,sound.idle,
      fun path => sound.claimed_update found path⟩

theorem stay (sound : Account compiler setup inputs run phase reported listed)
    (found : run.tasks[index]? = some task) {own : Phase} (held : task.stage.phase? = some own) (stage : Stage)
    (reaches : stage.phase? = some own) (carries : Carries compiler setup own (task.at_ stage)) :
    Account compiler setup inputs (run.setStage index stage) phase reported listed := by
  have phase_eq := sound.phase_eq found held
  have claimed : own ≠ .unclaimed := by
    rintro rfl
    cases current : task.stage <;> rw [current] at held <;> cases held
  have tasks := sound.advance found held stage reaches carries claimed fun goesOn far =>
    sound.tasks.followed goesOn task.path (by rw [phase_eq]; exact far)
  rw [← phase_eq,Function.update_eq_self] at tasks
  exact ⟨tasks,sound.statuses,sound.reads,sound.problems,sound.spec,sound.stopped,sound.idle,sound.claimed⟩

theorem load_sound (sound : Account compiler setup inputs run phase reported listed)
    (found : run.tasks[index]? = some task) (stage : task.stage = .admitted) :
    ∃ phase, Account compiler setup inputs (run.load compiler index task.path) phase reported listed := by
  have held : task.stage.phase? = some .claimed := by rw [stage]; rfl
  have phase_eq := sound.phase_eq found held
  have move : ∀ stage : Stage, stage.phase? = some .read → Carries compiler setup .read (task.at_ stage) →
      compiler.store.answers task.path = true →
      Account compiler setup inputs ({ run with reads := task.path :: run.reads }.setStage index stage)
        (Function.update phase task.path .read) reported listed := by
    intro stage reaches carries answers
    refine ⟨sound.advance found held stage reaches carries (by simp) (fun _ far => (by cases far)),
      sound.statuses.keep (by rw [phase_eq]; rfl),sound.reads.cons (by rw [phase_eq]; rfl) (by rw [answers]; rfl),
      sound.problems.keep (by rw [phase_eq]; rfl),sound.spec.keep (by rw [phase_eq]; rfl),sound.stopped,sound.idle,
      fun path => sound.claimed_update found path⟩
  cases stored : compiler.store.read task.path with
  | text content =>
    refine ⟨Function.update phase task.path .read,?_⟩
    simp only [Run.load,stored]
    exact move (.loaded (Run.withoutMark content)) rfl ⟨content,stored,rfl⟩ (by simp [FileStore.answers,stored])
  | unreadable reason =>
    have outcome := Compiler.outcome_unreadable stored
    have told : compiler.told task.path = (compiler.outcome task.path).2 :=
      Compiler.told_outcome (by rw [stored]; simp)
    refine ⟨Function.update phase task.path .read,?_⟩
    simp only [Run.load,stored]
    exact move (.reporting none _) rfl ⟨by rw [FileTask.at_,outcome],by rw [FileTask.at_,told,outcome]⟩
      (by simp [FileStore.answers,stored])
  | crashing =>
    refine ⟨phase,?_⟩
    simp only [Run.load,stored]
    exact sound.stay found held .crashed rfl stored

theorem equip_sound (ready : LexerSetup.start compiler.options.language compiler.source compiler.options.stopOnError =
      .ready setup) (sound : Account compiler setup inputs run phase reported listed)
    (found : run.tasks[index]? = some task) {content : Text} (stage : task.stage = .loaded content) :
    Account compiler setup inputs (run.equip compiler index task.path content) phase reported listed := by
  have held : task.stage.phase? = some .read := by rw [stage]; rfl
  have stored : ∃ stored, compiler.store.read task.path = .text stored ∧ content = Run.withoutMark stored := by
    have carries := sound.carries found
    simp only [Carries,stage] at carries
    exact carries
  cases idle : run.idle with
  | nil =>
    simp only [Run.equip,idle,ready]
    exact sound.stay found held (.equipped (.ofSetup setup) content) rfl ⟨rfl,stored⟩
  | cons pipeline rest =>
    have fresh := sound.idle pipeline (by rw [idle]; exact List.mem_cons_self)
    have kept := sound.stay found held (.equipped pipeline content) rfl ⟨fresh,stored⟩
    simp only [Run.equip,idle]
    exact ⟨kept.tasks,kept.statuses,kept.reads,kept.problems,kept.spec,kept.stopped,
      fun other member => sound.idle other (by rw [idle]; exact List.mem_cons_of_mem _ member),kept.claimed⟩

theorem compile_sound (regular : compiler.Regular)
    (ready : LexerSetup.start compiler.options.language compiler.source compiler.options.stopOnError = .ready setup)
    (sound : Account compiler setup inputs run phase reported listed) (found : run.tasks[index]? = some task)
    {pipeline : Pipeline} {content : Text} (stage : task.stage = .equipped pipeline content) :
    Account compiler setup inputs (run.compile compiler index task.path pipeline content) phase reported listed := by
  have held : task.stage.phase? = some .read := by rw [stage]; rfl
  have carries := sound.carries found
  simp only [Carries,stage] at carries
  obtain ⟨rfl,stored,read,rfl⟩ := carries
  have outcome := Compiler.outcome_text ready read
  have told : compiler.told task.path = (compiler.outcome task.path).2 :=
    Compiler.told_outcome (by rw [read]; simp)
  have restored := Pipeline.process_restores (LexerSetup.start_settled regular.provided ready) compiler.recognizer
    task.path (Run.withoutMark stored) compiler.options.lineBreak .empty run.recognition
  have kept := sound.stay found held (.reporting _ _) rfl ⟨by rw [FileTask.at_,outcome],by rw [FileTask.at_,told,outcome]⟩
  refine ⟨kept.tasks,kept.statuses,kept.reads,kept.problems,kept.spec,kept.stopped,?_,kept.claimed⟩
  intro other member
  rcases List.mem_cons.mp member with rfl | old
  · exact restored
  · exact sound.idle other old

theorem stopped_report (sound : Account compiler setup inputs run phase reported listed) (path : Path) :
    (run.report compiler (compiler.told path)).stopped = (reported ++ [path]).any compiler.stops := by
  rw [Run.report,sound.stopped,List.any_append]
  simp [Compiler.stops]

theorem report_sound (regular : compiler.Regular) (sound : Account compiler setup inputs run phase reported listed)
    (found : run.tasks[index]? = some task) {doc : Option Document} {problems : ProblemMap}
    (stage : task.stage = .reporting doc problems) : ∃ phase, Account compiler setup inputs
      ((run.report compiler problems).setStage index (.reported doc)) phase (reported ++ [task.path]) listed := by
  have held : task.stage.phase? = some .read := by rw [stage]; rfl
  have phase_eq := sound.phase_eq found held
  have carries := sound.carries found
  simp only [Carries,stage] at carries
  obtain ⟨made,rfl⟩ := carries
  have reaches : (Stage.reported doc).phase? = some .reported := rfl
  have tasks := sound.advance found held (.reported doc) reaches made (by simp) fun _ far => by cases far
  exact ⟨Function.update phase task.path .reported,tasks.halt _,sound.statuses.keep (by rw [phase_eq]; rfl),
    sound.reads.keep (by rw [phase_eq]; rfl),sound.problems.report regular (by rw [phase_eq]; rfl) rfl,
    sound.spec.keep (by rw [phase_eq]; rfl),sound.stopped_report task.path,sound.idle,
    fun path => sound.claimed_update found path⟩

theorem fail_sound (regular : compiler.Regular) (spelled : ∀ path ∈ inputs, path.Normal)
    (sound : Account compiler setup inputs run phase reported listed) (found : run.tasks[index]? = some task)
    (stage : task.stage = .reported none) : ∃ phase, Account compiler setup inputs
      ((run.setStatus task.path .failed).setStage index .ended) phase reported listed := by
  have held : task.stage.phase? = some .reported := by rw [stage]; rfl
  have phase_eq := sound.phase_eq found held
  have carries := sound.carries found
  simp only [Carries,stage] at carries
  have unreadable : compiler.store.hasText task.path = false := by
    rw [← Compiler.outcome_isSome regular,carries]
    rfl
  have tasks := sound.settle found held (fun _ => by simp [Compiler.imports,carries])
  have own := (sound.sought found).needed.normal spelled
  refine ⟨Function.update phase task.path .settled,tasks,?_,sound.reads.keep (by rw [phase_eq]; rfl),
    sound.problems.keep (by rw [phase_eq]; rfl),sound.spec.pass unreadable,sound.stopped,sound.idle,
    fun path => sound.claimed_update found path⟩
  exact sound.statuses.advance (sound.normal spelled) own (by rw [phase_eq]; rfl) (by rw [unreadable]; rfl) rfl

theorem list_sound (regular : compiler.Regular) (spelled : ∀ path ∈ inputs, path.Normal)
    (sound : Account compiler setup inputs run phase reported listed) (found : run.tasks[index]? = some task)
    {doc : Document} (stage : task.stage = .reported (some doc)) : ∃ phase, Account compiler setup inputs
      ({ run.setStatus task.path .compiled with spec := run.spec.insert doc }.setStage index
        (.published (Run.importsOf task.path doc))) phase reported (listed ++ [task.path]) := by
  have held : task.stage.phase? = some .reported := by rw [stage]; rfl
  have phase_eq := sound.phase_eq found held
  have carries := sound.carries found
  simp only [Carries,stage] at carries
  have readable : compiler.store.hasText task.path = true := by
    rw [← Compiler.outcome_isSome regular,carries]
    rfl
  have imports : Run.importsOf task.path doc = compiler.imports task.path := by
    rw [Compiler.imports,carries]
  have own := (sound.sought found).needed.normal spelled
  have reaches : (Stage.published (Run.importsOf task.path doc)).phase? = some .listed := rfl
  have tasks := sound.advance found held (.published (Run.importsOf task.path doc)) reaches ⟨readable,imports⟩ (by simp)
    fun _ far => by cases far
  refine ⟨Function.update phase task.path .listed,tasks,?_,sound.reads.keep (by rw [phase_eq]; rfl),
    sound.problems.keep (by rw [phase_eq]; rfl),?_,sound.stopped,sound.idle,
    fun path => sound.claimed_update found path⟩
  · exact sound.statuses.advance (sound.normal spelled) own (by rw [phase_eq]; rfl) rfl rfl
  · exact sound.spec.insert regular (sound.normal spelled) own (by rw [phase_eq]; rfl) rfl carries

theorem await_sound (sound : Account compiler setup inputs run phase reported listed)
    (found : run.tasks[index]? = some task) (held : task.stage.phase? = some .listed)
    (readable : compiler.store.hasText task.path = true)
    (followed : run.stopped = false → ∀ imported ∈ compiler.imports task.path,
      imported ∈ run.tasks.map FileTask.path) :
    ∃ phase, Account compiler setup inputs (run.setStage index .awaiting) phase reported listed := by
  have phase_eq := sound.phase_eq found held
  have reaches : Stage.awaiting.phase? = some .followed := rfl
  have tasks := sound.advance found held .awaiting reaches readable (by simp) fun goesOn _ => followed goesOn
  exact ⟨Function.update phase task.path .followed,tasks,sound.statuses.keep (by rw [phase_eq]; rfl),
    sound.reads.keep (by rw [phase_eq]; rfl),sound.problems.keep (by rw [phase_eq]; rfl),
    sound.spec.keep (by rw [phase_eq]; rfl),sound.stopped,sound.idle,fun path => sound.claimed_update found path⟩

theorem follow_sound (sound : Account compiler setup inputs run phase reported listed)
    (found : run.tasks[index]? = some task) {imports : List Path} (stage : task.stage = .published imports)
    (goesOn : run.stopped = false) :
    ∃ phase, Account compiler setup inputs ((run.spawn (some index) imports).setStage index .awaiting)
      phase reported listed := by
  have carries := sound.carries found
  simp only [Carries,stage] at carries
  obtain ⟨readable,rfl⟩ := carries
  have held : task.stage.phase? = some .listed := by rw [stage]; rfl
  have phase_eq := sound.phase_eq found held
  have inside : index < run.tasks.length := (List.getElem?_eq_some_iff.mp found).1
  have quiet := sound.quiet goesOn ((sound.problems.tracks.members task.path).mpr (by rw [phase_eq]; rfl))
  have sought : ∀ path ∈ compiler.imports task.path, compiler.Sought inputs path :=
    fun path member => .imported (sound.sought found) quiet member
  have spawned : Account compiler setup inputs (run.spawn (some index) (compiler.imports task.path)) phase reported
      listed :=
    ⟨sound.tasks.spawn sought (fun k own => by cases own; exact inside) (fun path member => member)
      (fun path member => .inl member),
      sound.statuses,sound.reads,sound.problems,sound.spec,sound.stopped,sound.idle,sound.claimed⟩
  have found' : (run.spawn (some index) (compiler.imports task.path)).tasks[index]? = some task := by
    simp only [Run.spawn]
    rw [List.getElem?_append_left inside,found]
  refine spawned.await_sound found' held readable fun _ imported member => ?_
  simp only [Run.spawn,List.map_append,List.map_map,Function.comp_def,List.map_id']
  exact List.mem_append_right _ member

theorem skip_sound (sound : Account compiler setup inputs run phase reported listed)
    (found : run.tasks[index]? = some task) {imports : List Path} (stage : task.stage = .published imports)
    (stopped : run.stopped = true) :
    ∃ phase, Account compiler setup inputs (run.setStage index .awaiting) phase reported listed := by
  have carries := sound.carries found
  simp only [Carries,stage] at carries
  refine sound.await_sound found (by rw [stage]; rfl) carries.1 fun goesOn => ?_
  rw [stopped] at goesOn
  cases goesOn

theorem finish_sound (spelled : ∀ path ∈ inputs, path.Normal)
    (sound : Account compiler setup inputs run phase reported listed) (found : run.tasks[index]? = some task)
    (stage : task.stage = .awaiting) : ∃ phase, Account compiler setup inputs
      ((run.setStatus task.path .done).setStage index .ended) phase reported listed := by
  have held : task.stage.phase? = some .followed := by rw [stage]; rfl
  have phase_eq := sound.phase_eq found held
  have readable : compiler.store.hasText task.path = true := by
    have carries := sound.carries found
    simp only [Carries,stage] at carries
    exact carries
  have tasks := sound.settle found held fun goesOn =>
    sound.tasks.followed goesOn task.path (by rw [phase_eq]; rfl)
  have own := (sound.sought found).needed.normal spelled
  refine ⟨Function.update phase task.path .settled,tasks,?_,sound.reads.keep (by rw [phase_eq]; rfl),
    sound.problems.keep (by rw [phase_eq]; rfl),sound.spec.keep (by rw [phase_eq]; rfl),sound.stopped,sound.idle,
    fun path => sound.claimed_update found path⟩
  exact sound.statuses.advance (sound.normal spelled) own (by rw [phase_eq]; rfl) (by rw [readable]; rfl) rfl

theorem break_sound (regular : compiler.Regular) (spelled : ∀ path ∈ inputs, path.Normal)
    (sound : Account compiler setup inputs run phase reported listed) (found : run.tasks[index]? = some task)
    (stage : task.stage = .crashed) : ∃ phase, Account compiler setup inputs
      (((run.setStatus task.path .failed).report compiler
        (ProblemMap.empty.addError task.path Run.crash)).setStage index .ended) phase (reported ++ [task.path]) listed := by
  have held : task.stage.phase? = some .claimed := by rw [stage]; rfl
  have phase_eq := sound.phase_eq found held
  have stored := sound.carries found
  simp only [Carries,stage] at stored
  have unreadable : compiler.store.hasText task.path = false := by simp [FileStore.hasText,stored]
  have tasks := sound.settle found held (fun _ => by simp [Compiler.imports,Compiler.outcome_crashing stored])
  have own := (sound.sought found).needed.normal spelled
  rw [← Compiler.told_crashing stored]
  refine ⟨Function.update phase task.path .settled,tasks.halt _,?_,
    sound.reads.keep (by simp [phase_eq,FileStore.answers,stored]),
    sound.problems.report regular (by rw [phase_eq]; rfl) rfl,sound.spec.pass unreadable,
    sound.stopped_report task.path,sound.idle,fun path => sound.claimed_update found path⟩
  exact sound.statuses.advance (sound.normal spelled) own (by rw [phase_eq]; rfl) (by rw [unreadable]; rfl) rfl

theorem act_sound {next : Run Unit} (regular : compiler.Regular)
    (ready : LexerSetup.start compiler.options.language compiler.source compiler.options.stopOnError = .ready setup)
    (spelled : ∀ path ∈ inputs, path.Normal) (sound : Account compiler setup inputs run phase reported listed)
    (found : run.tasks[index]? = some task) (acted : run.act compiler index task = some next) :
    ∃ phase reported listed, Account compiler setup inputs next phase reported listed := by
  cases Run.acted_of_act acted with
  | claims stage =>
    obtain ⟨phase,kept⟩ := sound.claim_sound spelled found stage
    exact ⟨phase,_,_,kept⟩
  | enters stage room => exact ⟨_,_,_,sound.stay found (by rw [stage]; rfl) .admitted rfl trivial⟩
  | loads stage =>
    obtain ⟨phase,kept⟩ := sound.load_sound found stage
    exact ⟨phase,_,_,kept⟩
  | equips stage => exact ⟨_,_,_,sound.equip_sound ready found stage⟩
  | compiles stage => exact ⟨_,_,_,sound.compile_sound regular ready found stage⟩
  | reports stage =>
    obtain ⟨phase,kept⟩ := sound.report_sound regular found stage
    exact ⟨phase,_,_,kept⟩
  | fails stage =>
    obtain ⟨phase,kept⟩ := sound.fail_sound regular spelled found stage
    exact ⟨phase,_,_,kept⟩
  | lists stage =>
    obtain ⟨phase,kept⟩ := sound.list_sound regular spelled found stage
    exact ⟨phase,_,_,kept⟩
  | follows stage goesOn =>
    obtain ⟨phase,kept⟩ := sound.follow_sound found stage goesOn
    exact ⟨phase,_,_,kept⟩
  | skips stage stopped =>
    obtain ⟨phase,kept⟩ := sound.skip_sound found stage stopped
    exact ⟨phase,_,_,kept⟩
  | finishes stage ended =>
    obtain ⟨phase,kept⟩ := sound.finish_sound spelled found stage
    exact ⟨phase,_,_,kept⟩
  | breaks stage =>
    obtain ⟨phase,kept⟩ := sound.break_sound regular spelled found stage
    exact ⟨phase,_,_,kept⟩

theorem startInput_sound {next : Run Unit} (sound : Account compiler setup inputs run phase reported listed)
    (started : run.startInput compiler = some next) : Account compiler setup inputs next phase reported listed := by
  obtain ⟨path,rest,waiting,_,_,rfl⟩ := Run.started_of_startInput started
  have sought : ∀ other ∈ [path], compiler.Sought inputs other := by
    intro other member
    rw [List.mem_singleton.mp member]
    exact .input (sound.tasks.waits path (by rw [waiting]; exact List.mem_cons_self))
  refine ⟨sound.tasks.spawn sought (fun k own => (by cases own)) ?_ ?_,
    sound.statuses,sound.reads,sound.problems,sound.spec,sound.stopped,sound.idle,sound.claimed⟩
  · intro other member
    rw [waiting]
    exact List.mem_cons_of_mem _ member
  · intro other member
    rw [waiting] at member
    rcases List.mem_cons.mp member with rfl | later
    · exact .inr List.mem_cons_self
    · exact .inl later

theorem step_sound {next : Run Unit} (regular : compiler.Regular)
    (ready : LexerSetup.start compiler.options.language compiler.source compiler.options.stopOnError = .ready setup)
    (spelled : ∀ path ∈ inputs, path.Normal) (sound : Account compiler setup inputs run phase reported listed)
    (step : Run.Step compiler run next) :
    ∃ phase reported listed, Account compiler setup inputs next phase reported listed := by
  obtain ⟨turn,taken⟩ := step
  cases turn with
  | input => exact ⟨_,_,_,sound.startInput_sound taken⟩
  | task index =>
    obtain ⟨task,found,acted⟩ := Option.bind_eq_some_iff.mp taken
    exact sound.act_sound regular ready spelled found acted

theorem start (inputs : List Path) : Account compiler setup inputs (Run.start inputs ()) (fun _ => .unclaimed) [] [] := by
  refine ⟨.start inputs,.start,.start fun _ => rfl,⟨.start fun _ => rfl,ProblemMap.ordered_empty,fun _ => rfl⟩,
    ⟨.start fun _ => rfl,rfl,rfl⟩,rfl,by simp [Run.start],?_⟩
  intro path claimed
  exact absurd rfl claimed

end Account

end ScenarioLang
