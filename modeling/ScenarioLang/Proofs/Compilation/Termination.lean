import Mathlib.Algebra.GroupWithZero.Nat
import ScenarioLang.Proofs.Compilation.Imports
import ScenarioLang.Proofs.Compilation.Progress

namespace ScenarioLang

-- The turns a task may still take, with ten for each task it may start: one for
-- every line of a file it has claimed, and as many as there are once these are
-- known.
def Stage.turnsLeft (lines : Nat) : Stage → Nat
  | queued => 9
  | claimed => 8 + 10*lines
  | admitted => 7 + 10*lines
  | loaded _ => 6 + 10*lines
  | equipped _ _ => 5 + 10*lines
  | reporting _ _ => 4 + 10*lines
  | reported _ => 3 + 10*lines
  | published imports => 2 + 10*imports.length
  | awaiting => 1
  | crashed => 1
  | ended => 0

namespace FileStore

def unclaimed (statuses : StatusTable) (store : FileStore) : Nat :=
  (store.files.map fun entry => if PathMap.holds entry.1 statuses then 0 else entry.2.lines).sum

def linesAt (store : FileStore) (path : Path) : Nat := (store.read path).lines

variable {statuses : StatusTable} {path query : Path} {status : FileStatus}

theorem holds_put (ordered : PathMap.Ordered statuses) :
    PathMap.holds query (PathMap.put path status statuses) = (path.same query || PathMap.holds query statuses) := by
  by_cases same : path.same query = true
  · rw [PathMap.holds,PathMap.put,PathMap.get?_update_own ordered same,same]
    rfl
  · have other := Bool.eq_false_iff.mpr same
    rw [PathMap.holds,PathMap.put,PathMap.get?_update_other other,other,Bool.false_or,PathMap.holds]

theorem holds_advance (ordered : PathMap.Ordered statuses) :
    PathMap.holds query (StatusTable.advance path status statuses).2 = PathMap.holds query statuses := by
  unfold StatusTable.advance
  split
  · rename_i current found
    split
    · rw [holds_put ordered]
      cases same : path.same query with
      | false => rfl
      | true => rw [PathMap.holds,← PathMap.get?_same same,found]; rfl
    · rfl
  · rfl

theorem unclaimed_advance (store : FileStore) (ordered : PathMap.Ordered statuses) :
    store.unclaimed (StatusTable.advance path status statuses).2 = store.unclaimed statuses := by
  simp only [unclaimed,holds_advance ordered]

theorem unclaimed_put_le (store : FileStore) (ordered : PathMap.Ordered statuses) :
    store.unclaimed (PathMap.put path status statuses) ≤ store.unclaimed statuses := by
  obtain ⟨files,absent⟩ := store
  induction files with
  | nil => exact Nat.le_refl _
  | cons entry rest ih =>
    simp only [unclaimed,List.map_cons,List.sum_cons] at ih ⊢
    refine Nat.add_le_add ?_ ih
    rw [holds_put ordered]
    cases PathMap.holds entry.1 statuses with
    | true => simp
    | false => cases path.same entry.1 <;> simp

theorem unclaimed_put (store : FileStore) (ordered : PathMap.Ordered statuses)
    (fresh : PathMap.holds path statuses = false) :
    store.unclaimed (PathMap.put path status statuses) + store.linesAt path ≤ store.unclaimed statuses := by
  obtain ⟨files,absent⟩ := store
  induction files with
  | nil => exact Nat.le_refl _
  | cons entry rest ih =>
    have fewer : unclaimed (PathMap.put path status statuses) ⟨rest,absent⟩ ≤ unclaimed statuses ⟨rest,absent⟩ :=
      unclaimed_put_le _ ordered
    simp only [unclaimed,linesAt,read,List.map_cons,List.sum_cons,List.find?_cons,holds_put ordered] at ih fewer ⊢
    cases same : entry.1.same path with
    | true =>
      have own : path.same entry.1 = true := by rw [Path.same_comm,same]
      have held : PathMap.holds entry.1 statuses = false := by rw [PathMap.holds,PathMap.get?_same same]; exact fresh
      simp only [own,held,Bool.true_or,if_true,Bool.false_eq_true,if_false]
      omega
    | false =>
      have other : path.same entry.1 = false := by rw [Path.same_comm,same]
      simp only [other,Bool.false_or]
      omega

end FileStore

variable {compiler : Compiler Unit} {setup : LexerSetup} {inputs : List Path} {phase : Path → Phase}
  {reported listed : List Path} {run next : Run Unit} {tasks : List FileTask} {index : Nat} {task : FileTask}

def FileTask.turnsLeft (store : FileStore) (task : FileTask) : Nat := task.stage.turnsLeft (store.linesAt task.path)

namespace Run

def turnsLeft (compiler : Compiler Unit) (run : Run Unit) : Nat :=
  10*run.inputs.length + (run.tasks.map (FileTask.turnsLeft compiler.store)).sum +
    10*compiler.store.unclaimed run.statuses

theorem sum_stage (weight : FileTask → Nat) (stage : Stage) (found : tasks[index]? = some task) :
    ((tasks.modify index fun task => task.at_ stage).map weight).sum + weight task =
      (tasks.map weight).sum + weight (task.at_ stage) := by
  induction tasks generalizing index with
  | nil => cases found
  | cons first rest ih =>
    cases index with
    | zero =>
      cases found
      simp only [List.modify_zero_cons,List.map_cons,List.sum_cons]
      omega
    | succ index =>
      have later := ih found
      simp only [List.modify_succ_cons,List.map_cons,List.sum_cons]
      omega

theorem turnsLeft_setStage (found : run.tasks[index]? = some task) (stage : Stage) :
    (run.setStage index stage).turnsLeft compiler + task.turnsLeft compiler.store =
      run.turnsLeft compiler + stage.turnsLeft (compiler.store.linesAt task.path) := by
  have sum := sum_stage (FileTask.turnsLeft compiler.store) stage found
  have left : (run.setStage index stage).turnsLeft compiler = 10*run.inputs.length +
      ((run.tasks.modify index fun task => task.at_ stage).map (FileTask.turnsLeft compiler.store)).sum +
      10*compiler.store.unclaimed run.statuses := rfl
  have own : (task.at_ stage).turnsLeft compiler.store = stage.turnsLeft (compiler.store.linesAt task.path) := rfl
  rw [own] at sum
  rw [left,turnsLeft]
  omega

theorem turnsLeft_spawn (run : Run Unit) (parent : Option Nat) (paths : List Path) :
    (run.spawn parent paths).turnsLeft compiler = run.turnsLeft compiler + 9*paths.length := by
  have each : FileTask.turnsLeft compiler.store ∘ (fun path => ⟨path,parent,.queued⟩) = fun _ : Path => 9 := rfl
  have sum : ((run.spawn parent paths).tasks.map (FileTask.turnsLeft compiler.store)).sum =
      (run.tasks.map (FileTask.turnsLeft compiler.store)).sum + 9*paths.length := by
    rw [spawn,List.map_append,List.sum_append,List.map_map,each,List.map_const',List.sum_replicate_nat,Nat.mul_comm]
  have left : (run.spawn parent paths).turnsLeft compiler = 10*run.inputs.length +
      ((run.spawn parent paths).tasks.map (FileTask.turnsLeft compiler.store)).sum +
      10*compiler.store.unclaimed run.statuses := rfl
  rw [left,sum,turnsLeft]
  omega

theorem turns_drop (found : run.tasks[index]? = some task) (stage : Stage) (same : next.inputs = run.inputs)
    (moved : next.tasks = (run.setStage index stage).tasks)
    (claims : compiler.store.unclaimed next.statuses = compiler.store.unclaimed run.statuses)
    (fewer : stage.turnsLeft (compiler.store.linesAt task.path) < task.turnsLeft compiler.store) :
    next.turnsLeft compiler < run.turnsLeft compiler := by
  have stays : next.turnsLeft compiler = (run.setStage index stage).turnsLeft compiler := by
    simp only [turnsLeft,same,moved,claims]
    rfl
  have goes : (run.setStage index stage).turnsLeft compiler + task.turnsLeft compiler.store =
      run.turnsLeft compiler + stage.turnsLeft (compiler.store.linesAt task.path) := turnsLeft_setStage found stage
  omega

end Run

namespace Account

theorem claim_turns (sound : Account compiler setup inputs run phase reported listed)
    (found : run.tasks[index]? = some task) (stage : task.stage = .queued) :
    (run.claim index task.path).turnsLeft compiler < run.turnsLeft compiler := by
  have weight : task.turnsLeft compiler.store = 9 := by rw [FileTask.turnsLeft,stage]; rfl
  cases held : PathMap.holds task.path run.statuses with
  | true =>
    simp only [Run.claim,StatusTable.claim,held,if_true]
    exact Run.turns_drop found .ended rfl rfl rfl (by rw [weight]; exact Nat.zero_lt_succ 8)
  | false =>
    have freed : compiler.store.unclaimed (PathMap.put task.path .pending run.statuses) +
        compiler.store.linesAt task.path ≤ compiler.store.unclaimed run.statuses :=
      compiler.store.unclaimed_put sound.statuses.ordered held
    let claimed := { run with statuses := PathMap.put task.path .pending run.statuses }
    have after : claimed.turnsLeft compiler + 10*compiler.store.linesAt task.path ≤ run.turnsLeft compiler := by
      simp only [claimed,Run.turnsLeft]
      omega
    have found' : claimed.tasks[index]? = some task := found
    have goes : (claimed.setStage index .claimed).turnsLeft compiler + task.turnsLeft compiler.store =
        claimed.turnsLeft compiler + (8 + 10*compiler.store.linesAt task.path) :=
      Run.turnsLeft_setStage found' .claimed
    simp only [Run.claim,StatusTable.claim,held,Bool.false_eq_true,if_false]
    change (claimed.setStage index .claimed).turnsLeft compiler < run.turnsLeft compiler
    omega

theorem load_turns (found : run.tasks[index]? = some task) (stage : task.stage = .admitted) :
    (run.load compiler index task.path).turnsLeft compiler < run.turnsLeft compiler := by
  have weight : task.turnsLeft compiler.store = 7 + 10*compiler.store.linesAt task.path := by
    rw [FileTask.turnsLeft,stage]
    rfl
  unfold Run.load
  split
  · exact Run.turns_drop found _ rfl rfl rfl (by rw [weight,Stage.turnsLeft]; omega)
  · exact Run.turns_drop found _ rfl rfl rfl (by rw [weight,Stage.turnsLeft]; omega)
  · exact Run.turns_drop found _ rfl rfl rfl (by rw [weight,Stage.turnsLeft]; omega)

theorem equip_turns (found : run.tasks[index]? = some task) {content : Text} (stage : task.stage = .loaded content) :
    (run.equip compiler index task.path content).turnsLeft compiler < run.turnsLeft compiler := by
  have weight : task.turnsLeft compiler.store = 6 + 10*compiler.store.linesAt task.path := by
    rw [FileTask.turnsLeft,stage]
    rfl
  unfold Run.equip
  split
  · exact Run.turns_drop found _ rfl rfl rfl (by rw [weight,Stage.turnsLeft]; omega)
  · split
    · exact Run.turns_drop found _ rfl rfl rfl (by rw [weight,Stage.turnsLeft]; omega)
    · exact Run.turns_drop found _ rfl rfl rfl (by rw [weight,Stage.turnsLeft]; omega)
    · exact Run.turns_drop found _ rfl rfl rfl (by rw [weight,Stage.turnsLeft]; omega)

theorem list_turns (regular : compiler.Regular) (sound : Account compiler setup inputs run phase reported listed)
    (found : run.tasks[index]? = some task) {doc : Document} (stage : task.stage = .reported (some doc)) :
    ({ run.setStatus task.path .compiled with spec := run.spec.insert doc }.setStage index
      (.published (Run.importsOf task.path doc))).turnsLeft compiler < run.turnsLeft compiler := by
  have weight : task.turnsLeft compiler.store = 3 + 10*compiler.store.linesAt task.path := by
    rw [FileTask.turnsLeft,stage]
    rfl
  have carries := sound.carries found
  simp only [Carries,stage] at carries
  have few : (Run.importsOf task.path doc).length ≤ compiler.store.linesAt task.path := by
    have bounded := Compiler.length_imports regular task.path
    rw [Compiler.imports,carries] at bounded
    exact bounded
  refine Run.turns_drop found (.published (Run.importsOf task.path doc)) rfl rfl ?_ ?_
  · exact compiler.store.unclaimed_advance sound.statuses.ordered
  · rw [weight,Stage.turnsLeft]
    omega

-- The turns of a published file cover those of all the tasks it starts.
theorem follow_turns (found : run.tasks[index]? = some task) {imports : List Path}
    (stage : task.stage = .published imports) :
    ((run.spawn (some index) imports).setStage index .awaiting).turnsLeft compiler < run.turnsLeft compiler := by
  have weight : task.turnsLeft compiler.store = 2 + 10*imports.length := by rw [FileTask.turnsLeft,stage]; rfl
  have found' : (run.spawn (some index) imports).tasks[index]? = some task := by
    simp only [Run.spawn]
    rw [List.getElem?_append_left (List.getElem?_eq_some_iff.mp found).1,found]
  have goes : ((run.spawn (some index) imports).setStage index .awaiting).turnsLeft compiler +
      task.turnsLeft compiler.store = (run.spawn (some index) imports).turnsLeft compiler + 1 :=
    Run.turnsLeft_setStage found' .awaiting
  rw [weight,Run.turnsLeft_spawn] at goes
  omega

theorem act_turns (regular : compiler.Regular) (sound : Account compiler setup inputs run phase reported listed)
    (found : run.tasks[index]? = some task) (acted : run.act compiler index task = some next) :
    next.turnsLeft compiler < run.turnsLeft compiler := by
  have drop : ∀ stage : Stage, stage.turnsLeft (compiler.store.linesAt task.path) < task.turnsLeft compiler.store →
      (run.setStage index stage).turnsLeft compiler < run.turnsLeft compiler :=
    fun stage fewer => Run.turns_drop found stage rfl rfl rfl fewer
  have advanced : ∀ status, compiler.store.unclaimed (StatusTable.advance task.path status run.statuses).2 =
      compiler.store.unclaimed run.statuses :=
    fun status => compiler.store.unclaimed_advance sound.statuses.ordered
  cases Run.acted_of_act acted with
  | claims stage => exact sound.claim_turns found stage
  | enters stage room => exact drop .admitted (by simp only [FileTask.turnsLeft,stage,Stage.turnsLeft]; omega)
  | loads stage => exact load_turns found stage
  | equips stage => exact equip_turns found stage
  | compiles stage =>
    exact Run.turns_drop found (.reporting _ _) rfl rfl rfl
      (by simp only [FileTask.turnsLeft,stage,Stage.turnsLeft]; omega)
  | reports stage =>
    exact Run.turns_drop found (.reported _) rfl rfl rfl
      (by simp only [FileTask.turnsLeft,stage,Stage.turnsLeft]; omega)
  | fails stage =>
    exact Run.turns_drop found .ended rfl rfl (advanced .failed)
      (by simp only [FileTask.turnsLeft,stage,Stage.turnsLeft]; omega)
  | lists stage => exact sound.list_turns regular found stage
  | follows stage goesOn => exact follow_turns found stage
  | skips stage stopped => exact drop .awaiting (by simp only [FileTask.turnsLeft,stage,Stage.turnsLeft]; omega)
  | finishes stage ended =>
    exact Run.turns_drop found .ended rfl rfl (advanced .done)
      (by simp only [FileTask.turnsLeft,stage,Stage.turnsLeft]; omega)
  | breaks stage =>
    exact Run.turns_drop found .ended rfl rfl (advanced .failed)
      (by simp only [FileTask.turnsLeft,stage,Stage.turnsLeft]; omega)

theorem step_turns (regular : compiler.Regular) (sound : Account compiler setup inputs run phase reported listed)
    (step : Run.Step compiler run next) : next.turnsLeft compiler < run.turnsLeft compiler := by
  obtain ⟨turn,taken⟩ := step
  cases turn with
  | input =>
    obtain ⟨path,rest,waiting,_,_,rfl⟩ := Run.started_of_startInput taken
    have length : run.inputs.length = rest.length + 1 := by rw [waiting,List.length_cons]
    rw [Run.turnsLeft_spawn]
    simp only [Run.turnsLeft,length,List.length_singleton]
    omega
  | task index =>
    obtain ⟨task,found,acted⟩ := Option.bind_eq_some_iff.mp taken
    exact sound.act_turns regular found acted

end Account

namespace Run

-- A number of turns taken one after the other, in any order the run allows.
inductive Steps (compiler : Compiler σ) : Nat → Run σ → Run σ → Prop where
  | none {run : Run σ} : Steps compiler 0 run run
  | next {count : Nat} {start before after : Run σ} (earlier : Steps compiler count start before)
      (step : Step compiler before after) : Steps compiler (count + 1) start after

theorem turnsLeft_start (compiler : Compiler Unit) (inputs : List Path) :
    (start inputs ()).turnsLeft compiler = turnBound compiler inputs := by
  have lines : compiler.store.unclaimed [] = (compiler.store.files.map fun entry => entry.2.lines).sum := by
    simp [FileStore.unclaimed,PathMap.holds,PathMap.get?]
  have bound : turnBound compiler inputs =
    10*(inputs.length + (compiler.store.files.map fun entry => entry.2.lines).sum) := rfl
  have left : (start inputs ()).turnsLeft compiler = 10*inputs.length + 0 + 10*compiler.store.unclaimed [] := rfl
  rw [left,lines,bound]
  omega

theorem Steps.account {count : Nat} (regular : compiler.Regular)
    (ready : LexerSetup.start compiler.options.language compiler.source compiler.options.stopOnError = .ready setup)
    (spelled : ∀ path ∈ inputs, path.Normal) (steps : Steps compiler count (start inputs ()) run) :
    ∃ phase reported listed, Account compiler setup inputs run phase reported listed := by
  generalize begun : start inputs () = first at steps
  induction steps with
  | none =>
    subst begun
    exact ⟨_,_,_,.start inputs⟩
  | next earlier step ih =>
    obtain ⟨phase,reported,listed,sound⟩ := ih begun
    exact sound.step_sound regular ready spelled step

theorem Steps.sound {count : Nat} (standard : compiler.Standard)
    (ready : LexerSetup.start compiler.options.language compiler.source compiler.options.stopOnError = .ready setup)
    (spelled : ∀ path ∈ inputs, path.Normal) (steps : Steps compiler count (start inputs ()) run) :
    ∃ phase reported listed, Sound compiler setup inputs run phase reported listed := by
  obtain ⟨phase,reported,listed,account⟩ := steps.account standard ready spelled
  exact ⟨phase,reported,listed,account,standard.goesOn⟩

theorem Steps.bounded {count : Nat} (regular : compiler.Regular) (spelled : ∀ path ∈ inputs, path.Normal)
    (steps : Steps compiler count (start inputs ()) run) :
    count + run.turnsLeft compiler ≤ turnBound compiler inputs := by
  obtain ⟨base,ready⟩ := regular.ready
  rw [← turnsLeft_start]
  generalize begun : start inputs () = first at steps
  induction steps with
  | none => exact Nat.le_of_eq (Nat.zero_add _)
  | next earlier step ih =>
    rw [← begun] at earlier
    obtain ⟨phase,reported,listed,sound⟩ := earlier.account regular (ready _) spelled
    have fewer := sound.step_turns regular step
    have before := ih begun
    omega

theorem stuck_of_turns (none : run.turns.findSome? (run.take compiler) = .none) : run.Stuck compiler := by
  intro turn
  have each := List.findSome?_eq_none_iff.mp none
  cases turn with
  | input => exact each .input List.mem_cons_self
  | task index =>
    by_cases inside : index < run.tasks.length
    · exact each (.task index) (List.mem_cons_of_mem _ (List.mem_map_of_mem (List.mem_range.mpr inside)))
    · rw [take,List.getElem?_eq_none (Nat.le_of_not_lt inside)]
      rfl

theorem drive_stuck (regular : compiler.Regular) (spelled : ∀ path ∈ inputs, path.Normal) {count : Nat}
    (steps : Steps compiler count (start inputs ()) run) (fuel : Nat)
    (enough : turnBound compiler inputs ≤ count + fuel) :
    (run.drive compiler fuel).Stuck compiler ∧
      ∃ count, Steps compiler count (start inputs ()) (run.drive compiler fuel) := by
  have bounded := steps.bounded regular spelled
  induction fuel generalizing run count with
  | zero =>
    refine ⟨fun turn => ?_,count,steps⟩
    cases taken : run.take compiler turn with
    | none => exact taken
    | some next =>
      have longer := (steps.next ⟨turn,taken⟩).bounded regular spelled
      omega
  | succ fuel ih =>
    rw [drive]
    split
    · rename_i next found
      obtain ⟨turn,_,taken⟩ := List.exists_of_findSome?_eq_some found
      have longer := steps.next ⟨turn,taken⟩
      exact ih longer (by omega) (longer.bounded regular spelled)
    · rename_i none
      exact ⟨stuck_of_turns none,count,steps⟩

end Run
end ScenarioLang
