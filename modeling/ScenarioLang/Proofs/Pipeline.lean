import ScenarioLang.Pipeline
import ScenarioLang.Proofs.Lexer
import ScenarioLang.Proofs.Parsing.Conservation
import ScenarioLang.Proofs.ProblemMap

namespace ScenarioLang

namespace Pipeline

variable {setup : LexerSetup} {pipeline : Pipeline} {recognizer : Recognizer σ}

-- What files may leave behind, one after the other and whatever is in them,
-- from a new pipeline on.
inductive Reached (setup : LexerSetup) (recognizer : Recognizer σ) : Pipeline → Prop where
  | new : Reached setup recognizer (.ofSetup setup)
  | next {pipeline : Pipeline} (reached : Reached setup recognizer pipeline) (path : Path)
      (content lineBreak : Text) (problems : ProblemMap) (state : σ) :
      Reached setup recognizer (pipeline.process recognizer path content lineBreak problems state).2.1

theorem process_restores (settled : setup.Settled) (recognizer : Recognizer σ) (path : Path) (content lineBreak : Text)
    (problems : ProblemMap) (state : σ) :
    ((ofSetup setup).process recognizer path content lineBreak problems state).2.1 = ofSetup setup := by
  simp only [process,ofSetup]
  split
  · simp only [LexerState.recover_initial]
  · rename_i lexer read
    have bound := LexerState.addLines_bound settled (LexerState.initial_bound setup) read
    simp only [LexerState.finish,LexerState.reset_bound bound]

theorem reached_new (settled : setup.Settled) (reached : Reached setup recognizer pipeline) :
    pipeline = ofSetup setup := by
  induction reached with
  | new => rfl
  | next reached path content lineBreak problems state ih =>
    subst ih
    exact process_restores settled recognizer path content lineBreak problems state

theorem process_adds (pipeline : Pipeline) (recognizer : Recognizer σ) (path : Path) (content lineBreak : Text)
    (state : σ) : ∃ doc next found after, ∀ problems : ProblemMap,
      pipeline.process recognizer path content lineBreak problems state =
        (doc,next,problems.add path found,after) := by
  simp only [process]
  split
  · exact ⟨_,_,_,_,fun problems => rfl⟩
  · exact ⟨_,_,_,_,fun problems => rfl⟩

theorem process_crash {broken : LexerState} {content lineBreak : Text}
    (broke : setup.initial.addLines setup (linesOf content lineBreak) = .error broken)
    (recognizer : Recognizer σ) (path : Path) (problems : ProblemMap) (state : σ) :
    (ofSetup setup).process recognizer path content lineBreak problems state =
      (.ofFile ⟨path,Hash.ofText content⟩,ofSetup setup,problems.add path ⟨[crash],[]⟩,state) := by
  simp only [process,ofSetup,broke,LexerState.recover_initial]
  rfl

theorem apply_keeps (view : Document → α)
    (keeps : ∀ language doc state, view (recognizer.recognize language doc state).1 = view doc)
    (language : Text) (doc : Document) (state : σ) : view (recognizer.apply language doc state).1 = view doc := by
  unfold Recognizer.apply
  split
  · rfl
  · rfl
  · rename_i prepared _
    have kept := keeps language doc prepared
    split
    · rename_i recognized
      rw [recognized] at kept
      exact kept
    · rename_i recognized
      rw [recognized] at kept
      exact kept

theorem process_origin (keeps : ∀ language doc state, (recognizer.recognize language doc state).1.fileInfo = doc.fileInfo)
    (path : Path) (content lineBreak : Text) (problems : ProblemMap) (state : σ) :
    (pipeline.process recognizer path content lineBreak problems state).1.fileInfo =
      some ⟨path,Hash.ofText content⟩ := by
  simp only [process]
  split
  · rfl
  · exact (apply_keeps Document.fileInfo keeps _ _ _).trans (Parsing.run_origin _ _)

-- A pipeline that took any files before takes the next one as a new pipeline
-- would, and speaks of no other file. A crash shows as one error.
theorem process_independent {language : Text} {source : DictionarySource} {stopOnError : Bool}
    (provided : Dictionary.Provided source) (ready : LexerSetup.start language source stopOnError = .ready setup)
    (reached : Reached setup recognizer pipeline) {problems : ProblemMap} (ordered : problems.Ordered)
    (path : Path) (content lineBreak : Text) (state : σ) :
    let fresh := (ofSetup setup).process recognizer path content lineBreak .empty state
    let here := pipeline.process recognizer path content lineBreak problems state
    here.1 = fresh.1 ∧ here.2.1 = ofSetup setup ∧ here.2.2.2 = fresh.2.2.2 ∧ here.2.2.1.Ordered ∧
    here.2.2.1.errors path = problems.errors path ++ fresh.2.2.1.errors path ∧
    here.2.2.1.warnings path = problems.warnings path ++ fresh.2.2.1.warnings path ∧
    (∀ other, path.same other = false → here.2.2.1.get? other = problems.get? other) ∧
    (∀ broken, pipeline.lexer.addLines setup (linesOf content lineBreak) = .error broken →
      here.1 = .ofFile ⟨path,Hash.ofText content⟩ ∧
      fresh.2.2.1.errors path = [crash] ∧ fresh.2.2.1.warnings path = []) ∧
    ((∀ language doc state, (recognizer.recognize language doc state).1.fileInfo = doc.fileInfo) →
      here.1.fileInfo = some ⟨path,Hash.ofText content⟩) := by
  have settled := LexerSetup.start_settled provided ready
  -- Whatever files went before, the pipeline is a new one.
  obtain rfl := reached_new settled reached
  obtain ⟨doc,next,found,after,made⟩ := process_adds (ofSetup setup) recognizer path content lineBreak state
  have restored := process_restores settled recognizer path content lineBreak problems state
  have own := Path.same_refl path
  have said : ∀ map : ProblemMap, map.Ordered → (map.add path found).said path = (map.said path).add found :=
    fun map ordered => ProblemMap.said_add_own ordered own
  have nothing : (ProblemMap.empty.add path found).said path = found := by
    rw [said _ ProblemMap.ordered_empty,ProblemMap.said_empty,FileProblems.none_add]
  refine ⟨by rw [made,made],restored,by rw [made,made],by rw [made]; exact ProblemMap.ordered_add ordered,
    ?_,?_,?_,?_,?_⟩
  · rw [made,made,ProblemMap.errors_eq,ProblemMap.errors_eq,ProblemMap.errors_eq,said problems ordered,nothing]
    rfl
  · rw [made,made,ProblemMap.warnings_eq,ProblemMap.warnings_eq,ProblemMap.warnings_eq,said problems ordered,nothing]
    rfl
  · intro other apart
    rw [made]
    exact ProblemMap.get?_add_other apart
  · intro broken broke
    have crashed := process_crash broke recognizer path .empty state
    refine ⟨?_,?_,?_⟩
    · rw [process_crash broke recognizer path problems state]
    · rw [crashed,ProblemMap.errors_eq,ProblemMap.said_add_own ProblemMap.ordered_empty own]
      rfl
    · rw [crashed,ProblemMap.warnings_eq,ProblemMap.said_add_own ProblemMap.ordered_empty own]
      rfl
  · intro keeps
    exact process_origin keeps path content lineBreak problems state

theorem process_independent_crashed : ∃ setup,
    LexerSetup.start ['e','n'] (Dictionary.crashingOn [['x','x']] Dictionary.builtinSource) false = .ready setup ∧
    let used := ((ofSetup setup).process .none ⟨['a']⟩ "# language: xx".toList [] .empty ()).2.1
    (used.process .none ⟨['b']⟩ "Feature: b".toList [] .empty ()).1 =
      ((ofSetup setup).process .none ⟨['b']⟩ "Feature: b".toList [] .empty ()).1 := by
  have ready : LexerSetup.start ['e','n'] (Dictionary.crashingOn [['x','x']] Dictionary.builtinSource) false =
      .ready ⟨_,Dictionary.english,false⟩ := rfl
  exact ⟨_,ready,(process_independent (.crashing [['x','x']] .builtin) ready (.next .new ⟨['a']⟩ _ [] .empty ())
    ProblemMap.ordered_empty ⟨['b']⟩ "Feature: b".toList [] ()).1⟩

end Pipeline
end ScenarioLang
