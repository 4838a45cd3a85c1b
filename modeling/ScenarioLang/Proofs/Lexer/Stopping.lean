import Mathlib.Data.Nat.Find
import ScenarioLang.Proofs.Lexer.Reset

namespace ScenarioLang

def LexerSetup.stopping (setup : LexerSetup) (stops : Bool) : LexerSetup := { setup with stopOnError := stops }

theorem LexerSetup.start_stopping {language : Text} {source : DictionarySource} {stopOnError : Bool} {setup : LexerSetup}
    (ready : start language source stopOnError = .ready setup) (stops : Bool) :
    start language source stops = .ready (setup.stopping stops) := by
  obtain ⟨base,found,rfl⟩ := start_ready ready
  simp only [start,found,stopping]

namespace LexerState

variable {setup : LexerSetup} {state next : LexerState}

theorem keep_stopping (stops : Bool) (state : LexerState) (nodes : List Node) :
    keep (setup.stopping stops) state nodes = keep setup state nodes := by
  induction nodes generalizing state with
  | nil => rfl
  | cons node rest ih =>
    have enters : state.enter (setup.stopping stops) node = state.enter setup node := rfl
    rw [keep,keep,enters]
    split
    · exact ih _
    · rfl

theorem addLine_stopping (stops : Bool) (clean : state.hasErrors = false) (line : Text) (number : Nat) :
    state.addLine (setup.stopping stops) line number = state.addLine setup line number := by
  simp only [addLine,clean,Bool.and_false,Bool.false_or,keep_stopping]

theorem addLine_clean {line : Text} {number : Nat}
    (clean : (state.addLine setup line number).2.hasErrors = false) : state.hasErrors = false := by
  obtain ⟨added,lexed,_⟩ := addLine_adds setup state line number
  rw [hasErrors,lexed] at clean
  simp only [Reading.followedBy,Bool.not_eq_false',List.isEmpty_iff,List.append_eq_nil_iff] at clean
  simp [hasErrors,clean.1]

theorem addLines_clean {lines : List (Text × Nat)} (read : state.addLines setup lines = .ok next)
    (clean : next.hasErrors = false) : state.hasErrors = false := by
  induction lines generalizing state with
  | nil =>
    cases read
    exact clean
  | cons line rest ih =>
    obtain ⟨line,number⟩ := line
    rw [addLines] at read
    split at read
    · cases read
    · rename_i after _ reached
      have later : (state.addLine setup line number).2.hasErrors = false := by
        rw [reached]
        exact ih read
      exact addLine_clean later

theorem addLines_stopping (stops : Bool) {lines : List (Text × Nat)} (read : state.addLines setup lines = .ok next)
    (clean : next.hasErrors = false) : state.addLines (setup.stopping stops) lines = .ok next := by
  induction lines generalizing state with
  | nil => exact read
  | cons line rest ih =>
    have before := addLines_clean read clean
    obtain ⟨line,number⟩ := line
    rw [addLines,addLine_stopping stops before]
    rw [addLines] at read
    split at read
    · cases read
    · exact ih read

theorem addLine_stopped (stopped : (setup.stopOnError && state.hasErrors) = true) (line : Text) (number : Nat) :
    state.addLine setup line number = (.refused,state) := by
  unfold addLine
  rw [stopped,Bool.true_or,if_pos rfl]

def feed (lines : List (Text × Nat)) : List LexerAction := lines.map fun entry => .line entry.1 entry.2

theorem after_fed (state : LexerState) (line : Text) (number : Nat) (rest : List (Text × Nat)) :
    state.after setup (feed ((line,number) :: rest)) =
      (state.act setup (.line line number)).2.after setup (feed rest) := rfl

theorem answers_fed (state : LexerState) (line : Text) (number : Nat) (rest : List (Text × Nat)) :
    state.answers setup (feed ((line,number) :: rest)) =
      (state.act setup (.line line number)).1 :: (state.act setup (.line line number)).2.answers setup (feed rest) := rfl

theorem after_append (state : LexerState) (actions later : List LexerAction) :
    state.after setup (actions ++ later) = (state.after setup actions).after setup later :=
  List.foldl_append

theorem answers_append (state : LexerState) (actions later : List LexerAction) :
    state.answers setup (actions ++ later) =
      state.answers setup actions ++ (state.after setup actions).answers setup later := by
  induction actions generalizing state with
  | nil => rfl
  | cons action rest ih => exact congrArg _ (ih (state.act setup action).2)

theorem act_stopping (stops : Bool) (clean : state.hasErrors = false) (line : Text) (number : Nat) :
    state.act (setup.stopping stops) (.line line number) = state.act setup (.line line number) := by
  simp only [act,addLine_stopping stops clean]

-- Until there is an error, all lines are read in one way, the line with the error too.
theorem feed_stopping (stops : Bool) {lines : List (Text × Nat)}
    (clean : ∀ j < lines.length, (state.after setup (feed (lines.take j))).hasErrors = false) :
    state.after (setup.stopping stops) (feed lines) = state.after setup (feed lines) ∧
      state.answers (setup.stopping stops) (feed lines) = state.answers setup (feed lines) := by
  induction lines generalizing state with
  | nil => exact ⟨rfl,rfl⟩
  | cons head rest ih =>
    obtain ⟨line,number⟩ := head
    have start : state.hasErrors = false := clean 0 (Nat.zero_lt_succ _)
    have still : ∀ j < rest.length,
        ((state.act setup (.line line number)).2.after setup (feed (rest.take j))).hasErrors = false :=
      fun j within => clean (j + 1) (Nat.succ_lt_succ within)
    obtain ⟨after,answers⟩ := ih still
    rw [after_fed,after_fed,answers_fed,answers_fed,act_stopping stops start]
    exact ⟨after,congrArg _ answers⟩

theorem feed_stopped (stopped : (setup.stopOnError && state.hasErrors) = true) (lines : List (Text × Nat)) :
    state.after setup (feed lines) = state ∧
      state.answers setup (feed lines) = List.replicate lines.length (state.shown (some .refused) none) := by
  induction lines with
  | nil => exact ⟨rfl,rfl⟩
  | cons head rest ih =>
    obtain ⟨line,number⟩ := head
    have refused : state.act setup (.line line number) = (state.shown (some .refused) none,state) := by
      simp only [act,addLine_stopped stopped]
    rw [after_fed,answers_fed,refused]
    exact ⟨ih.1,congrArg _ ih.2⟩

end LexerState

-- How many lines a new lexer reads up to the first one that leaves it with an error,
-- that line included, or all of them where none does.
structure LexerSetup.ReadsUntil (setup : LexerSetup) (lines : List (Text × Nat)) (count : Nat) : Prop where
  within : count ≤ lines.length
  clean : ∀ j < count, (setup.initial.after setup (LexerState.feed (lines.take j))).hasErrors = false
  ends : count = lines.length ∨
    (setup.initial.after setup (LexerState.feed (lines.take count))).hasErrors = true

theorem LexerSetup.readsUntil_exists (setup : LexerSetup) (lines : List (Text × Nat)) :
    ∃ count, setup.ReadsUntil lines count := by
  classical
  have bounded : ∃ count, count = lines.length ∨
      (setup.initial.after setup (LexerState.feed (lines.take count))).hasErrors = true := ⟨_,.inl rfl⟩
  refine ⟨Nat.find bounded,Nat.find_min' bounded (.inl rfl),?_,Nat.find_spec bounded⟩
  intro j before
  have neither := Nat.find_min bounded before
  exact (Bool.not_eq_true _).mp fun error => neither (.inr error)

namespace LexerState

-- A lexer that stops on errors is, after any lines, where one that does not was right after
-- its first line with an error. All of that line is kept, and whatever comes later is
-- refused and changes nothing.
theorem stopping_truncates {language : Text} {source : DictionarySource} {lenient : LexerSetup}
    (ready : LexerSetup.start language source false = .ready lenient) (lines : List (Text × Nat)) :
    ∃ strict, LexerSetup.start language source true = .ready strict ∧
      (∃ count, lenient.ReadsUntil lines count) ∧
      ∀ count, lenient.ReadsUntil lines count →
        let reached := lenient.initial.after lenient (feed (lines.take count))
        strict.initial.after strict (feed lines) = reached ∧
        strict.initial.answers strict (feed lines) = lenient.initial.answers lenient (feed (lines.take count)) ++
          List.replicate (lines.length - count) (reached.shown (some .refused) none) ∧
        (reached.hasErrors = true → ∀ later, reached.after strict (feed later) = reached ∧
          reached.answers strict (feed later) =
            List.replicate later.length (reached.shown (some .refused) none)) := by
  let strict := lenient.stopping true
  refine ⟨strict,LexerSetup.start_stopping ready true,lenient.readsUntil_exists lines,?_⟩
  intro count first reached
  have clean : ∀ j < (lines.take count).length,
      (lenient.initial.after lenient (feed ((lines.take count).take j))).hasErrors = false := by
    intro j before
    have less : j < count := Nat.lt_of_lt_of_le before (List.length_take_le _ _)
    rw [List.take_take,Nat.min_eq_left (Nat.le_of_lt less)]
    exact first.clean j less
  obtain ⟨same,answered⟩ := feed_stopping true clean
  have stops : reached.hasErrors = true → ∀ later, reached.after strict (feed later) = reached ∧
      reached.answers strict (feed later) = List.replicate later.length (reached.shown (some .refused) none) :=
    fun error later => feed_stopped (by rw [error]; rfl) later
  have rest : reached.after strict (feed (lines.drop count)) = reached ∧
      reached.answers strict (feed (lines.drop count)) =
        List.replicate (lines.length - count) (reached.shown (some .refused) none) := by
    rcases first.ends with all | error
    · rw [all,List.drop_length,Nat.sub_self]
      exact ⟨rfl,rfl⟩
    · rw [← List.length_drop]
      exact stops error _
  have parts : feed lines = feed (lines.take count) ++ feed (lines.drop count) :=
    (congrArg feed (List.take_append_drop count lines).symm).trans List.map_append
  have front : strict.initial.after strict (feed (lines.take count)) = reached := same
  refine ⟨?_,?_,stops⟩
  · rw [parts,after_append,front,rest.1]
  · rw [parts,answers_append,front,rest.2]
    exact congrArg (· ++ _) answered

-- A failed switch of the language ends the reading: the line with it is kept, and the
-- header below is not even looked at.
theorem stopping_truncates_unsupported : ∃ strict,
    LexerSetup.start ['e','n'] Dictionary.builtinSource true = .ready strict ∧
    let lines := [("Feature: a".toList,1),("#language: xx".toList,2),("Scenario: b".toList,3)]
    let reached := strict.initial.after strict (feed lines)
    reached.lexed.nodes.length = 2 ∧ reached.lexed.errors.length = 1 ∧
    reached.after strict (feed [("Scenario: c".toList,4)]) = reached := by
  have ready : LexerSetup.start ['e','n'] Dictionary.builtinSource false =
      .ready ⟨Dictionary.builtinSource,Dictionary.english,false⟩ := rfl
  let lines := [("Feature: a".toList,1),("#language: xx".toList,2),("Scenario: b".toList,3)]
  obtain ⟨strict,started,_,truncated⟩ := stopping_truncates ready lines
  obtain ⟨same,_,stopped⟩ := truncated 2 ⟨by decide,by decide,.inr (by decide)⟩
  refine ⟨strict,started,?_,?_,?_⟩
  · rw [same]
    decide
  · rw [same]
    decide
  · rw [same]
    exact (stopped (by decide) _).1

end LexerState
end ScenarioLang
