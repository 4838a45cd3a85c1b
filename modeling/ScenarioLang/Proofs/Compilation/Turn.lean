import ScenarioLang.Compilation.Run

namespace ScenarioLang
namespace Run

inductive Acted (compiler : Compiler σ) (run : Run σ) (index : Nat) (task : FileTask) : Run σ → Prop where
  | claims (stage : task.stage = .queued) : Acted compiler run index task (run.claim index task.path)
  | enters (stage : task.stage = .claimed) (room : hasRoom compiler.options.limit? run.permits = true) :
      Acted compiler run index task (run.setStage index .admitted)
  | loads (stage : task.stage = .admitted) : Acted compiler run index task (run.load compiler index task.path)
  | equips {content : Text} (stage : task.stage = .loaded content) :
      Acted compiler run index task (run.equip compiler index task.path content)
  | compiles {pipeline : Pipeline} {content : Text} (stage : task.stage = .equipped pipeline content) :
      Acted compiler run index task (run.compile compiler index task.path pipeline content)
  | reports {doc : Option Document} {problems : ProblemMap} (stage : task.stage = .reporting doc problems) :
      Acted compiler run index task ((run.report compiler problems).setStage index (.reported doc))
  | fails (stage : task.stage = .reported none) :
      Acted compiler run index task ((run.setStatus task.path .failed).setStage index .ended)
  | lists {doc : Document} (stage : task.stage = .reported (some doc)) :
      Acted compiler run index task ({ run.setStatus task.path .compiled with spec := run.spec.insert doc }.setStage
        index (.published (importsOf task.path doc)))
  | follows {imports : List Path} (stage : task.stage = .published imports) (goesOn : run.stopped = false) :
      Acted compiler run index task ((run.spawn (some index) imports).setStage index .awaiting)
  | skips {imports : List Path} (stage : task.stage = .published imports) (stopped : run.stopped = true) :
      Acted compiler run index task (run.setStage index .awaiting)
  | finishes (stage : task.stage = .awaiting)
      (ended : (run.tasks.all fun child => child.parent ≠ some index || child.stage.hasEnded) = true) :
      Acted compiler run index task ((run.setStatus task.path .done).setStage index .ended)
  | breaks (stage : task.stage = .crashed) :
      Acted compiler run index task (((run.setStatus task.path .failed).report compiler
        (ProblemMap.empty.addError task.path crash)).setStage index .ended)

variable {compiler : Compiler σ} {run next : Run σ} {index : Nat} {task : FileTask}

theorem acted_of_act (acted : run.act compiler index task = some next) : Acted compiler run index task next := by
  cases stage : task.stage with
  | queued => simp only [act,stage] at acted; cases acted; exact .claims stage
  | claimed =>
    simp only [act,stage] at acted
    split at acted
    · rename_i room
      cases acted
      exact .enters stage room
    · cases acted
  | admitted => simp only [act,stage] at acted; cases acted; exact .loads stage
  | loaded content => simp only [act,stage] at acted; cases acted; exact .equips stage
  | equipped pipeline content => simp only [act,stage] at acted; cases acted; exact .compiles stage
  | reporting doc problems => simp only [act,stage] at acted; cases acted; exact .reports stage
  | reported doc =>
    cases doc with
    | none => simp only [act,stage] at acted; cases acted; exact .fails stage
    | some doc => simp only [act,stage] at acted; cases acted; exact .lists stage
  | published imports =>
    simp only [act,stage] at acted
    cases acted
    cases stopped : run.stopped with
    | false => exact .follows stage stopped
    | true => exact .skips stage stopped
  | awaiting =>
    simp only [act,stage] at acted
    split at acted
    · rename_i ended
      cases acted
      exact .finishes stage ended
    · cases acted
  | crashed => simp only [act,stage] at acted; cases acted; exact .breaks stage
  | ended => simp only [act,stage] at acted; cases acted

theorem started_of_startInput (started : run.startInput compiler = some next) :
    ∃ path rest, run.inputs = path :: rest ∧ run.stopped = false ∧
      hasRoom compiler.options.limit? run.openInputs = true ∧ next = { run with inputs := rest }.spawn none [path] := by
  unfold startInput at started
  split at started
  · cases started
  · rename_i path rest waiting
    split at started
    · rename_i free
      rw [Bool.and_eq_true,Bool.not_eq_true'] at free
      cases started
      exact ⟨path,rest,waiting,free.1,free.2,rfl⟩
    · cases started

end Run
end ScenarioLang
