import Mathlib.Logic.Function.Basic
import ScenarioLang.Proofs.Compilation.Outcome

namespace ScenarioLang

-- How far the one task that owns a path has come: it has claimed the path, read
-- it, reported its problems, put its document into the specification, started its
-- imports, and settled the path.
inductive Phase where
  | unclaimed | claimed | read | reported | listed | followed | settled
  deriving DecidableEq, Repr

namespace Phase

def isRead : Phase → Bool
  | unclaimed | claimed => false
  | _ => true

def isReported : Phase → Bool
  | unclaimed | claimed | read => false
  | _ => true

def isListed : Phase → Bool
  | listed | followed | settled => true
  | _ => false

def isFollowed : Phase → Bool
  | followed | settled => true
  | _ => false

def isOpen : Phase → Bool
  | unclaimed | settled => false
  | _ => true

end Phase

def Stage.phase? : Stage → Option Phase
  | queued | ended => none
  | claimed | admitted | crashed => some .claimed
  | loaded _ | equipped _ _ | reporting _ _ => some .read
  | reported _ => some .reported
  | published _ => some .listed
  | awaiting => some .followed

def Stage.isActive (stage : Stage) : Bool := stage.phase?.isSome

variable {compiler : Compiler Unit} {setup : LexerSetup} {inputs waiting : List Path} {tasks : List FileTask}
  {phase : Path → Phase} {stopped : Bool}

def Carries (compiler : Compiler Unit) (setup : LexerSetup) (phase : Phase) (task : FileTask) : Prop :=
  match task.stage with
  | .queued | .claimed | .admitted => True
  | .loaded content => ∃ stored, compiler.store.read task.path = .text stored ∧ content = Run.withoutMark stored
  | .equipped pipeline content =>
    pipeline = .ofSetup setup ∧
      ∃ stored, compiler.store.read task.path = .text stored ∧ content = Run.withoutMark stored
  | .reporting doc problems => (compiler.outcome task.path).1 = doc ∧ compiler.told task.path = problems
  | .reported doc => (compiler.outcome task.path).1 = doc
  | .published imports => compiler.store.hasText task.path = true ∧ imports = compiler.imports task.path
  | .awaiting => compiler.store.hasText task.path = true
  | .crashed => compiler.store.read task.path = .crashing
  | .ended => phase ≠ .unclaimed

structure Staged (compiler : Compiler Unit) (setup : LexerSetup) (phase : Phase) (task : FileTask) : Prop where
  owns : ∀ own, task.stage.phase? = some own → phase = own
  carries : Carries compiler setup phase task

def FileTask.at_ (task : FileTask) (stage : Stage) : FileTask := { task with stage := stage }

-- The tasks of a run with the inputs that have none yet. Each open path has one
-- owner, children stand behind their parent, no input is lost, and no import unless
-- the run has stopped.
structure TasksSound (compiler : Compiler Unit) (setup : LexerSetup) (inputs waiting : List Path)
    (tasks : List FileTask) (phase : Path → Phase) (stopped : Bool) : Prop where
  sought : ∀ path ∈ tasks.map FileTask.path, Compiler.Sought compiler inputs path
  staged : ∀ (i : Nat) (task : FileTask), tasks[i]? = some task → Staged compiler setup (phase task.path) task
  sole : ∀ (i j : Nat) (a b : FileTask), tasks[i]? = some a → tasks[j]? = some b →
    a.stage.isActive = true → b.stage.isActive = true → a.path = b.path → i = j
  owned : ∀ path, (phase path).isOpen = true →
    ∃ (i : Nat) (task : FileTask), tasks[i]? = some task ∧ task.path = path ∧ task.stage.isActive = true
  upward : ∀ (i k : Nat) (task : FileTask), tasks[i]? = some task → task.parent = some k → k < i
  waits : ∀ path ∈ waiting, path ∈ inputs
  started : ∀ path ∈ inputs, path ∈ waiting ∨ path ∈ tasks.map FileTask.path
  followed : stopped = false → ∀ path, (phase path).isFollowed = true →
    ∀ imported ∈ compiler.imports path, imported ∈ tasks.map FileTask.path

theorem map_path_modify (tasks : List FileTask) (index : Nat) (stage : Stage) :
    (tasks.modify index fun task => task.at_ stage).map FileTask.path = tasks.map FileTask.path := by
  apply List.ext_getElem?
  intro j
  simp only [List.getElem?_map,List.getElem?_modify]
  split
  · cases tasks[j]? <;> rfl
  · cases tasks[j]? <;> rfl

theorem getElem?_stage {index j : Nat} {task other : FileTask} {stage : Stage} (found : tasks[index]? = some task)
    (other_at : (tasks.modify index fun task => task.at_ stage)[j]? = some other) :
    (j = index ∧ other = task.at_ stage) ∨ (j ≠ index ∧ tasks[j]? = some other) := by
  rw [List.getElem?_modify] at other_at
  by_cases same : index = j
  · subst same
    rw [found] at other_at
    simp only [if_true,Option.map_eq_map,Option.map_some,Option.some.injEq] at other_at
    exact .inl ⟨rfl,other_at.symm⟩
  · cases held : tasks[j]? with
    | none => simp [held] at other_at
    | some task =>
      simp only [held,same,if_false,Option.map_eq_map,Option.map_some] at other_at
      exact .inr ⟨Ne.symm same,other_at⟩

theorem stage_getElem? {index : Nat} {task : FileTask} (stage : Stage) (found : tasks[index]? = some task) :
    (tasks.modify index fun task => task.at_ stage)[index]? = some (task.at_ stage) := by
  simp [found]

namespace TasksSound

theorem alone (sound : TasksSound compiler setup inputs waiting tasks phase stopped) {index : Nat} {task : FileTask}
    (found : tasks[index]? = some task) (owner : task.stage.isActive = true ∨ phase task.path = .unclaimed)
    (j : Nat) (other : FileTask) (other_at : tasks[j]? = some other) (same : other.path = task.path)
    (active : other.stage.isActive = true) : j = index := by
  rcases owner with own | unclaimed
  · exact sound.sole j index other task other_at found active own same
  · obtain ⟨own,held⟩ := Option.isSome_iff_exists.mp active
    have phase_eq := (sound.staged j other other_at).owns own held
    rw [same,unclaimed] at phase_eq
    subst phase_eq
    cases stage : other.stage <;> rw [stage] at held <;> cases held

theorem move (sound : TasksSound compiler setup inputs waiting tasks phase stopped) {index : Nat} {task : FileTask}
    (found : tasks[index]? = some task) (stage : Stage) (next : Phase)
    (alone : stage.isActive = true ∨ next ≠ phase task.path → ∀ (j : Nat) (other : FileTask),
      tasks[j]? = some other → other.path = task.path → other.stage.isActive = true → j = index)
    (staged : Staged compiler setup next (task.at_ stage)) (claimed : next ≠ .unclaimed)
    (owned : next.isOpen = true → stage.isActive = true ∨
      (next = phase task.path ∧ task.stage.isActive = false))
    (followed : stopped = false → next.isFollowed = true → ∀ imported ∈ compiler.imports task.path,
      imported ∈ tasks.map FileTask.path) :
    TasksSound compiler setup inputs waiting (tasks.modify index fun task => task.at_ stage)
      (Function.update phase task.path next) stopped := by
  refine ⟨?_,?_,?_,?_,?_,sound.waits,?_,?_⟩
  · rw [map_path_modify]
    exact sound.sought
  · intro j other other_at
    rcases getElem?_stage found other_at with ⟨rfl,rfl⟩ | ⟨apart,held⟩
    · have own : (task.at_ stage).path = task.path := rfl
      rw [own,Function.update_self]
      exact staged
    · have before := sound.staged j other held
      by_cases same : other.path = task.path
      · rw [same,Function.update_self]
        -- Only a passive task may share the path, unless the phase stays.
        by_cases active : other.stage.isActive = true
        · by_cases unchanged : next = phase task.path
          · rw [unchanged,← same]
            exact before
          · exact absurd (alone (.inr unchanged) j other held same active) apart
        · cases stage' : other.stage with
          | queued => exact ⟨by simp [stage',Stage.phase?],by simp [Carries,stage']⟩
          | ended => exact ⟨by simp [stage',Stage.phase?],by simpa [Carries,stage'] using claimed⟩
          | _ => simp [stage',Stage.isActive,Stage.phase?] at active
      · rw [Function.update_of_ne same]
        exact before
  · intro i j a b a_at b_at a_active b_active same
    rcases getElem?_stage found a_at with ⟨rfl,rfl⟩ | ⟨a_apart,a_held⟩
    · rcases getElem?_stage found b_at with ⟨rfl,_⟩ | ⟨b_apart,b_held⟩
      · rfl
      · exact (alone (.inl a_active) j b b_held same.symm b_active).symm
    · rcases getElem?_stage found b_at with ⟨rfl,rfl⟩ | ⟨b_apart,b_held⟩
      · exact alone (.inl b_active) i a a_held same a_active
      · exact sound.sole i j a b a_held b_held a_active b_active same
  · intro path opened
    by_cases same : path = task.path
    · subst same
      rw [Function.update_self] at opened
      rcases owned opened with active | ⟨unchanged,passive⟩
      · exact ⟨index,_,stage_getElem? stage found,rfl,active⟩
      · rw [unchanged] at opened
        obtain ⟨i,owner,held,own,active⟩ := sound.owned _ opened
        refine ⟨i,owner,?_,own,active⟩
        have apart : index ≠ i := by
          rintro rfl
          rw [found] at held
          cases held
          rw [passive] at active
          cases active
        simp [apart,held]
    · rw [Function.update_of_ne same] at opened
      obtain ⟨i,owner,held,own,active⟩ := sound.owned _ opened
      refine ⟨i,owner,?_,own,active⟩
      have apart : index ≠ i := by
        rintro rfl
        rw [found] at held
        cases held
        exact same own.symm
      simp [apart,held]
  · intro i k other other_at parent
    rcases getElem?_stage found other_at with ⟨rfl,rfl⟩ | ⟨_,held⟩
    · exact sound.upward i k task found parent
    · exact sound.upward i k other held parent
  · rw [map_path_modify]
    exact sound.started
  · rw [map_path_modify]
    intro goesOn path opened
    by_cases same : path = task.path
    · subst same
      rw [Function.update_self] at opened
      exact followed goesOn opened
    · rw [Function.update_of_ne same] at opened
      exact sound.followed goesOn path opened

theorem spawn (sound : TasksSound compiler setup inputs waiting tasks phase stopped) {paths later : List Path}
    {parent : Option Nat} (sought : ∀ path ∈ paths, Compiler.Sought compiler inputs path)
    (above : ∀ k, parent = some k → k < tasks.length) (waits : ∀ path ∈ later, path ∈ waiting)
    (taken : ∀ path ∈ waiting, path ∈ later ∨ path ∈ paths) :
    TasksSound compiler setup inputs later (tasks ++ paths.map fun path => ⟨path,parent,.queued⟩) phase stopped := by
  have old_or_new : ∀ (i : Nat) (task : FileTask),
      (tasks ++ paths.map fun path => ⟨path,parent,.queued⟩)[i]? = some task →
      tasks[i]? = some task ∨ (tasks.length ≤ i ∧ task.stage = .queued ∧ task.parent = parent) := by
    intro i task task_at
    by_cases inside : i < tasks.length
    · rw [List.getElem?_append_left inside] at task_at
      exact .inl task_at
    · rw [List.getElem?_append_right (Nat.le_of_not_lt inside),List.getElem?_map] at task_at
      obtain ⟨path,_,rfl⟩ := Option.map_eq_some_iff.mp task_at
      exact .inr ⟨Nat.le_of_not_lt inside,rfl,rfl⟩
  have kept : ∀ (i : Nat) (task : FileTask), tasks[i]? = some task →
      (tasks ++ paths.map fun path => ⟨path,parent,.queued⟩)[i]? = some task := by
    intro i task task_at
    rw [List.getElem?_append_left (List.getElem?_eq_some_iff.mp task_at).1]
    exact task_at
  have named : (tasks ++ paths.map fun path => (⟨path,parent,.queued⟩ : FileTask)).map FileTask.path =
      tasks.map FileTask.path ++ paths := by simp [Function.comp_def]
  have passive : ∀ task : FileTask, task.stage = .queued → task.stage.isActive = false := by
    intro task stage
    rw [stage]
    rfl
  refine ⟨?_,?_,?_,?_,?_,fun path member => sound.waits path (waits path member),?_,?_⟩
  · rw [named]
    intro path member
    rcases List.mem_append.mp member with old | new
    · exact sound.sought path old
    · exact sought path new
  · intro i task task_at
    rcases old_or_new i task task_at with old | ⟨_,stage,_⟩
    · exact sound.staged i task old
    · exact ⟨by simp [stage,Stage.phase?],by simp [Carries,stage]⟩
  · intro i j a b a_at b_at a_active b_active same
    rcases old_or_new i a a_at with a_old | ⟨_,a_stage,_⟩
    · rcases old_or_new j b b_at with b_old | ⟨_,b_stage,_⟩
      · exact sound.sole i j a b a_old b_old a_active b_active same
      · rw [passive b b_stage] at b_active; cases b_active
    · rw [passive a a_stage] at a_active; cases a_active
  · intro path opened
    obtain ⟨i,owner,held,own,active⟩ := sound.owned path opened
    exact ⟨i,owner,kept i owner held,own,active⟩
  · intro i k task task_at own
    rcases old_or_new i task task_at with old | ⟨behind,_,given⟩
    · exact sound.upward i k task old own
    · exact Nat.lt_of_lt_of_le (above k (given ▸ own)) behind
  · rw [named]
    intro path member
    rcases sound.started path member with wait | there
    · rcases taken path wait with later | new
      · exact .inl later
      · exact .inr (List.mem_append_right _ new)
    · exact .inr (List.mem_append_left _ there)
  · rw [named]
    intro goesOn path opened imported member
    exact List.mem_append_left _ (sound.followed goesOn path opened imported member)

theorem halt (sound : TasksSound compiler setup inputs waiting tasks phase stopped) (more : Bool) :
    TasksSound compiler setup inputs waiting tasks phase (stopped || more) :=
  ⟨sound.sought,sound.staged,sound.sole,sound.owned,sound.upward,sound.waits,sound.started,
    fun goesOn => sound.followed (Bool.or_eq_false_iff.mp goesOn).1⟩

theorem start (inputs : List Path) :
    TasksSound compiler setup inputs inputs [] (fun _ => .unclaimed) false := by
  refine ⟨by simp,by simp,by simp,?_,by simp,fun _ member => member,fun _ member => .inl member,?_⟩
  · intro path opened; cases opened
  · intro _ path opened; cases opened

end TasksSound

end ScenarioLang
