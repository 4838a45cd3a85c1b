import ScenarioLang.Proofs.Lexer.Location
import ScenarioLang.Proofs.Lexer.Renumbering

namespace ScenarioLang.LexerState

def following (front : Reading) (state : LexerState) : LexerState :=
  { state with lexed := front.followedBy state.lexed }

variable {setup : LexerSetup} {front : Reading} {state : LexerState}

theorem following_push (state : LexerState) (node : Node) :
    (state.following front).push node = (state.push node).following front := by
  simp [following,push,Reading.followedBy]

theorem following_report (state : LexerState) (errors : List LexicalError) (warnings : List LexicalWarning) :
    (state.following front).report errors warnings = (state.report errors warnings).following front := by
  simp [following,report,Reading.followedBy]

theorem following_switch (state : LexerState) (language : Text) (location : Location) :
    (state.following front).switch setup language location =
      (state.switch setup language location).map (following front) := by
  have tongue : (state.following front).language = state.language := rfl
  unfold switch
  rw [tongue]
  split
  · rfl
  · split
    · rfl
    · exact congrArg some (following_report state _ _)
    · rfl

theorem following_enter (state : LexerState) (node : Node) :
    (state.following front).enter setup node = (state.enter setup node).map (following front) := by
  unfold enter
  split
  · rfl
  · split
    · exact following_switch state _ _
    · rfl
  · rfl

theorem following_keep (state : LexerState) (nodes : List Node) :
    (state.following front).keep setup nodes = Prod.map id (following front) (state.keep setup nodes) := by
  induction nodes generalizing state with
  | nil => rfl
  | cons node rest ih =>
    rw [keep,keep,following_enter]
    cases state.enter setup node with
    | none => rfl
    | some entered =>
      refine Eq.trans ?_ (ih (entered.push node))
      rw [← following_push]
      rfl

theorem following_addRaw (state : LexerState) (line : Text) (number : Nat) :
    (state.following front).addRaw line number = (state.addRaw line number).following front := by
  unfold addRaw
  split
  · simp [following,Reading.followedBy]
  · exact following_push state _

theorem following_addLine (quiet : setup.stopOnError = false ∨ front.errors = []) (state : LexerState) (line : Text)
    (number : Nat) :
    (state.following front).addLine setup line number =
      Prod.map id (following front) (state.addLine setup line number) := by
  have stops : (setup.stopOnError && (state.following front).hasErrors) = (setup.stopOnError && state.hasErrors) := by
    rcases quiet with off | none
    · rw [off,Bool.false_and,Bool.false_and]
    · simp [hasErrors,following,Reading.followedBy,none]
  unfold addLine
  rw [stops]
  split
  · rfl
  · have mode : (state.following front).inLongString = state.inLongString := rfl
    rw [mode]
    split
    · exact congrArg (Prod.mk LineOutcome.accepted) (following_addRaw state line number)
    · have first : (state.following front).firstReading line number = state.firstReading line number := rfl
      rw [first]
      split
      · rfl
      · rename_i type reading _
        refine Eq.trans ?_ (following_keep _ reading.nodes)
        rw [← following_report]
        rfl

theorem following_addLines (quiet : setup.stopOnError = false ∨ front.errors = []) (state : LexerState)
    (lines : List (Text × Nat)) :
    (state.following front).addLines setup lines =
      ((state.addLines setup lines).map (following front)).mapError (following front) := by
  induction lines generalizing state with
  | nil => rfl
  | cons head rest ih =>
    obtain ⟨line,number⟩ := head
    rw [addLines_cons,addLines_cons,following_addLine quiet]
    simp only [Prod.map_fst,Prod.map_snd,id]
    split
    · rfl
    · exact ih _

end ScenarioLang.LexerState
