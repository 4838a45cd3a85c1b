import ScenarioLang.Proofs.Lexer.Stopping
import ScenarioLang.Proofs.Parsing.Stopping
import ScenarioLang.Proofs.Pipeline

namespace ScenarioLang

theorem ProblemMap.hasErrors_alone (path : Path) (found : FileProblems) :
    (empty.add path found).hasErrors = !found.errors.isEmpty := by
  simp [hasErrors,empty,add,PathMap.update,FileProblems.none_add]

namespace Pipeline

variable {setup : LexerSetup}

theorem parseLexed_stopping (stops : Bool) {lexed : Reading} {info : FileInfo}
    (clean : (parseLexed setup lexed info).2.errors = []) :
    parseLexed (setup.stopping stops) lexed info = parseLexed setup lexed info := by
  have parsed : (parse setup.stopOnError lexed.nodes (.ofFile info) []).errors = [] := by
    have both := (List.append_eq_nil_iff.mp clean).2
    exact List.map_eq_nil_iff.mp both
  have same : parse stops lexed.nodes (.ofFile info) [] = parse setup.stopOnError lexed.nodes (.ofFile info) [] :=
    congrArg Parsing.result (Parsing.run_stopping stops setup.stopOnError parsed)
  simp only [parseLexed,LexerSetup.stopping,same]

theorem process_stopping (stops : Bool) (recognizer : Recognizer σ) (path : Path) (content lineBreak : Text) (state : σ)
    (clean : ((ofSetup setup).process recognizer path content lineBreak .empty state).2.2.1.hasErrors = false) :
    ((ofSetup (setup.stopping stops)).process recognizer path content lineBreak .empty state).1 =
        ((ofSetup setup).process recognizer path content lineBreak .empty state).1 ∧
      ((ofSetup (setup.stopping stops)).process recognizer path content lineBreak .empty state).2.2.1 =
        ((ofSetup setup).process recognizer path content lineBreak .empty state).2.2.1 := by
  cases read : setup.initial.addLines setup (linesOf content lineBreak) with
  | error broken =>
    rw [process_crash read,ProblemMap.hasErrors_alone] at clean
    cases clean
  | ok lexer =>
    simp only [process,ofSetup,read,ProblemMap.hasErrors_alone,FileProblems.add,Bool.not_eq_false',
      List.isEmpty_iff,List.append_eq_nil_iff] at clean
    have parsed := clean.1
    have lexed : lexer.hasErrors = false := by
      have errors := (List.append_eq_nil_iff.mp parsed).1
      simp only [LexerState.finish,List.map_eq_nil_iff] at errors
      simp [LexerState.hasErrors,errors]
    have again : (setup.stopping stops).initial.addLines (setup.stopping stops) (linesOf content lineBreak) =
        .ok lexer := LexerState.addLines_stopping stops read lexed
    have finished : (lexer.finish (setup.stopping stops)).1 = (lexer.finish setup).1 := rfl
    simp only [process,ofSetup,read,again,finished,parseLexed_stopping stops parsed]
    exact ⟨rfl,rfl⟩

end Pipeline
end ScenarioLang
