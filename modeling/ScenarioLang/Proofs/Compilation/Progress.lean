import ScenarioLang.Proofs.Compilation.Invariant

namespace ScenarioLang

def Run.Stuck (compiler : Compiler σ) (run : Run σ) : Prop := ∀ turn, run.take compiler turn = none

variable {compiler : Compiler Unit} {setup : LexerSetup} {inputs : List Path} {phase : Path → Phase}
  {reported listed : List Path} {run : Run Unit}

theorem Run.hasRoom_zero (options : Options) : hasRoom options.limit? 0 = true := by
  unfold hasRoom
  split
  · rename_i limit given
    obtain ⟨_,positive⟩ := Option.filter_eq_some_iff.mp given
    simpa [Nat.pos_iff_ne_zero] using positive
  · rfl

namespace Run.Stuck

theorem idle_stage (stuck : run.Stuck compiler) {index : Nat} {task : FileTask} (found : run.tasks[index]? = some task) :
    task.stage = .claimed ∨ task.stage = .awaiting ∨ task.stage = .ended := by
  have still : run.act compiler index task = none := by
    have taken := stuck (.task index)
    simpa [take,found] using taken
  cases stage : task.stage with
  | claimed => exact .inl rfl
  | awaiting => exact .inr (.inl rfl)
  | ended => exact .inr (.inr rfl)
  | reported doc => cases doc <;> simp [act,stage] at still
  | _ => simp [act,stage] at still

theorem no_claimed (stuck : run.Stuck compiler) {index : Nat} {task : FileTask}
    (found : run.tasks[index]? = some task) : task.stage ≠ .claimed := by
  intro stage
  have none_held : run.permits = 0 := by
    apply List.countP_eq_zero.mpr
    intro other member
    obtain ⟨j,other_at⟩ := List.mem_iff_getElem?.mp member
    rcases stuck.idle_stage other_at with waits | waits | waits <;> rw [waits] <;> simp [Stage.holdsPermit]
  have still := stuck (.task index)
  simp [take,found,act,stage,none_held,hasRoom_zero] at still

end Run.Stuck

namespace Account

-- Children stand behind their parents, so the last task that has not ended waits
-- for nobody.
theorem stuck_ended (sound : Account compiler setup inputs run phase reported listed) (stuck : run.Stuck compiler)
    (index : Nat) (task : FileTask) (found : run.tasks[index]? = some task) : task.stage = .ended := by
  induction ahead : run.tasks.length - index using Nat.strongRecOn generalizing index task with
  | ind ahead ih =>
    rcases stuck.idle_stage found with stage | stage | stage
    · exact absurd stage (stuck.no_claimed found)
    · have children : (run.tasks.all fun child => decide (child.parent ≠ some index) || child.stage.hasEnded) = true := by
        apply List.all_eq_true.mpr
        intro child member
        obtain ⟨j,child_at⟩ := List.mem_iff_getElem?.mp member
        by_cases own : child.parent = some index
        · have behind := sound.tasks.upward j index child child_at own
          have inside := (List.getElem?_eq_some_iff.mp child_at).1
          have ended := ih _ (by omega) j child child_at rfl
          simp [ended,Stage.hasEnded]
        · simp [own]
      have still := stuck (.task index)
      simp only [Run.take,found,Option.bind_some,Run.act,stage,children,if_true] at still
      cases still
    · exact stage

theorem ended (sound : Account compiler setup inputs run phase reported listed) (stuck : run.Stuck compiler)
    (task : FileTask) (member : task ∈ run.tasks) : task.stage.hasEnded = true := by
  obtain ⟨i,task_at⟩ := List.mem_iff_getElem?.mp member
  rw [sound.stuck_ended stuck i task task_at]
  rfl

theorem stuck_inputs (sound : Account compiler setup inputs run phase reported listed) (stuck : run.Stuck compiler)
    (goesOn : run.stopped = false) : run.inputs = [] := by
  have none_open : run.openInputs = 0 := by
    apply List.countP_eq_zero.mpr
    intro task member
    obtain ⟨i,task_at⟩ := List.mem_iff_getElem?.mp member
    rw [sound.stuck_ended stuck i task task_at]
    simp [Stage.hasEnded]
  cases waiting : run.inputs with
  | nil => rfl
  | cons path rest =>
    have still := stuck .input
    simp [Run.take,Run.startInput,waiting,goesOn,none_open,Run.hasRoom_zero] at still

theorem stuck_closed (sound : Account compiler setup inputs run phase reported listed) (stuck : run.Stuck compiler)
    (path : Path) : phase path = .unclaimed ∨ phase path = .settled := by
  have closed : (phase path).isOpen = false := by
    rw [← Bool.not_eq_true]
    intro opened
    obtain ⟨j,owner,owner_at,_,active⟩ := sound.tasks.owned _ opened
    rw [sound.stuck_ended stuck j owner owner_at] at active
    cases active
  cases own : phase path <;> rw [own] at closed <;> first | exact .inl rfl | exact .inr rfl | cases closed

theorem task_settled (sound : Account compiler setup inputs run phase reported listed) (stuck : run.Stuck compiler)
    {path : Path} (member : path ∈ run.tasks.map FileTask.path) : phase path = .settled := by
  obtain ⟨task,inside,rfl⟩ := List.mem_map.mp member
  obtain ⟨i,task_at⟩ := List.mem_iff_getElem?.mp inside
  have carries := sound.carries task_at
  simp only [Carries,sound.stuck_ended stuck i task task_at] at carries
  exact (sound.stuck_closed stuck task.path).resolve_left carries

-- A run that cannot go on although nothing has stopped it has settled all that it
-- may come to.
theorem stuck_settled (sound : Account compiler setup inputs run phase reported listed) (stuck : run.Stuck compiler)
    (goesOn : run.stopped = false) {path : Path} (sought : compiler.Sought inputs path) : phase path = .settled := by
  induction sought with
  | input member =>
    rcases sound.tasks.started _ member with waiting | there
    · rw [sound.stuck_inputs stuck goesOn] at waiting
      cases waiting
    · exact sound.task_settled stuck there
  | imported sought quiet member ih =>
    exact sound.task_settled stuck (sound.tasks.followed goesOn _ (by rw [ih]; rfl) _ member)

theorem tracked_iff (sound : Account compiler setup inputs run phase reported listed) (stuck : run.Stuck compiler)
    {flag : Path → Phase → Bool} {paths : List Path} (tracks : Tracks flag paths phase)
    (never : ∀ path, flag path .unclaimed = false) (path : Path) :
    path ∈ paths ↔ phase path = .settled ∧ flag path .settled = true := by
  rw [tracks.members]
  rcases sound.stuck_closed stuck path with unclaimed | settled
  · simp [unclaimed,never]
  · simp [settled]

theorem reported_iff (sound : Account compiler setup inputs run phase reported listed) (stuck : run.Stuck compiler)
    (path : Path) : path ∈ reported ↔ phase path = .settled := by
  rw [sound.tracked_iff stuck sound.problems.tracks fun _ => rfl]
  exact and_iff_left rfl

theorem listed_iff (sound : Account compiler setup inputs run phase reported listed) (stuck : run.Stuck compiler)
    (path : Path) : path ∈ listed ↔ phase path = .settled ∧ compiler.store.hasText path = true :=
  sound.tracked_iff stuck sound.spec.tracks (fun _ => rfl) path

theorem status_iff (sound : Account compiler setup inputs run phase reported listed) (stuck : run.Stuck compiler)
    (path : Path) (status : FileStatus) : (path,status) ∈ run.statuses ↔
      phase path = .settled ∧ status = if compiler.store.hasText path then .done else .failed := by
  rw [sound.statuses.entries]
  rcases sound.stuck_closed stuck path with unclaimed | settled
  · simp [unclaimed,Phase.status?]
  · rw [settled,Phase.status?,Option.some.injEq,eq_comm]
    exact (and_iff_right rfl).symm

end Account

structure Sound (compiler : Compiler Unit) (setup : LexerSetup) (inputs : List Path) (run : Run Unit)
    (phase : Path → Phase) (reported listed : List Path) : Prop
    extends Account compiler setup inputs run phase reported listed where
  keepsOn : compiler.options.stopOnError = false

namespace Sound

theorem goesOn (sound : Sound compiler setup inputs run phase reported listed) : run.stopped = false := by
  rw [sound.stopped,List.any_eq_false]
  intro path _
  simp [Compiler.stops,sound.keepsOn]

theorem settled_iff (sound : Sound compiler setup inputs run phase reported listed) (stuck : run.Stuck compiler)
    (path : Path) : phase path = .settled ↔ compiler.Needed inputs path := by
  refine ⟨fun settled => (sound.claimed path (by rw [settled]; simp)).needed,fun needed => ?_⟩
  exact sound.stuck_settled stuck sound.goesOn (needed.sought sound.keepsOn)

end Sound

end ScenarioLang
