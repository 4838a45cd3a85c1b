import ScenarioLang.Lexer
import ScenarioLang.Proofs.Dictionary.Source
import ScenarioLang.Proofs.Line

namespace ScenarioLang

-- The base dictionary is what the source gives for its own language, as far as a
-- file can ask for that language.
def LexerSetup.Settled (setup : LexerSetup) : Prop :=
  ∀ words, setup.source setup.base.language = .found words →
    (∀ c ∈ setup.base.language, Line.isCodeChar c = true) → words = setup.base

theorem LexerSetup.start_ready {language : Text} {source : DictionarySource} {stopOnError : Bool}
    {setup : LexerSetup} (ready : start language source stopOnError = .ready setup) :
    ∃ base, source language = .found base ∧ setup = ⟨source,base,stopOnError⟩ := by
  unfold start at ready
  split at ready
  · rename_i base found
    cases ready
    exact ⟨base,found,rfl⟩
  · cases ready
  · cases ready

theorem LexerSetup.start_settled {language : Text} {source : DictionarySource} {stopOnError : Bool}
    {setup : LexerSetup} (provided : Dictionary.Provided source)
    (ready : start language source stopOnError = .ready setup) : setup.Settled := by
  obtain ⟨base,found,rfl⟩ := start_ready ready
  exact fun words again letters => Dictionary.settled provided found again letters

namespace LexerState

variable {setup : LexerSetup} {state next : LexerState}

theorem firstReading_words (state : LexerState) (line : Text) (number : Nat) : state.firstReading line number =
    Line.firstReading state.dictionary (state.followers ++ Line.priority) line number :=
  state.lexers.firstReading_words state.followers line number

theorem firstReading_reads {line : Text} {number : Nat} {type : NodeType} {reading : Reading}
    (first : state.firstReading line number = some (type,reading)) :
    Line.reader state.dictionary type line number = some reading :=
  Line.firstReading_reads (state.firstReading_words line number ▸ first)

-- Under the name of the base language the words are the base words. Only then
-- does a reset that compares names bring all words back.
def Bound (setup : LexerSetup) (state : LexerState) : Prop :=
  state.language = setup.base.language → state.dictionary = setup.base

theorem initial_bound (setup : LexerSetup) : Bound setup setup.initial := fun _ => rfl

-- The words stay as they are, or they are those the source gives for the language
-- that was named last.
def Turns (setup : LexerSetup) (before after : LexerState) : Prop :=
  (after.language = before.language ∧ after.dictionary = before.dictionary) ∨
    (setup.source after.language = .found after.dictionary ∧ ∀ c ∈ after.language, Line.isCodeChar c = true)

theorem Turns.stay (language : next.language = state.language) (dictionary : next.dictionary = state.dictionary) :
    Turns setup state next := .inl ⟨language,dictionary⟩

theorem Turns.trans {first second third : LexerState} (before : Turns setup first second)
    (after : Turns setup second third) : Turns setup first third := by
  rcases after with ⟨language,dictionary⟩ | turned
  · unfold Turns
    rw [language,dictionary]
    exact before
  · exact .inr turned

theorem Turns.bound (settled : setup.Settled) (turns : Turns setup state next) (bound : Bound setup state) :
    Bound setup next := by
  intro own
  rcases turns with ⟨language,dictionary⟩ | ⟨found,letters⟩
  · rw [dictionary]
    exact bound (language ▸ own)
  · rw [own] at found letters
    exact settled _ found letters

theorem switch_turns {language : Text} {location : Location} (letters : ∀ c ∈ language, Line.isCodeChar c = true)
    (switched : state.switch setup language location = some next) : Turns setup state next := by
  simp only [switch] at switched
  split at switched
  · cases switched
    exact .stay rfl rfl
  · split at switched
    · rename_i words found
      cases switched
      exact .inr ⟨found,letters⟩
    · cases switched
      exact .stay rfl rfl
    · cases switched

theorem enter_turns {node : Node}
    (code : node.type = .language → ∃ code, node.value? = some code ∧ ∀ c ∈ code, Line.isCodeChar c = true)
    (entered : state.enter setup node = some next) : Turns setup state next := by
  cases type : node.type with
  | longString =>
    simp only [enter,type] at entered
    cases entered
    exact .stay rfl rfl
  | language =>
    obtain ⟨code,value,letters⟩ := code type
    simp only [enter,type,value] at entered
    exact switch_turns letters entered
  | _ =>
    simp only [enter,type] at entered
    cases entered
    exact .stay rfl rfl

theorem keep_turns {nodes : List Node}
    (codes : ∀ node ∈ nodes, node.type = .language →
      ∃ code, node.value? = some code ∧ ∀ c ∈ code, Line.isCodeChar c = true) :
    Turns setup state (keep setup state nodes).2 := by
  induction nodes generalizing state with
  | nil => exact .stay rfl rfl
  | cons node rest ih =>
    rw [keep]
    split
    · rename_i entered kept
      have now := enter_turns (codes node List.mem_cons_self) kept
      have pushed : Turns setup entered (entered.push node) := .stay rfl rfl
      exact (now.trans pushed).trans (ih fun node member => codes node (List.mem_cons_of_mem _ member))
    · exact .stay rfl rfl

theorem addRaw_turns (line : Text) (number : Nat) : Turns setup state (state.addRaw line number) := by
  unfold addRaw
  split <;> exact .stay rfl rfl

theorem addLine_turns (line : Text) (number : Nat) : Turns setup state (state.addLine setup line number).2 := by
  unfold addLine
  split
  · exact .stay rfl rfl
  · split
    · exact addRaw_turns line number
    · split
      · exact .stay rfl rfl
      · rename_i type reading found
        have noted : Turns setup state ({ state with last := some type }.report reading.errors reading.warnings) :=
          .stay rfl rfl
        refine noted.trans (keep_turns ?_)
        exact fun node member own => Line.reader_code (firstReading_reads found) member own

theorem addLine_bound (line : Text) (number : Nat) (settled : setup.Settled) (bound : Bound setup state) :
    Bound setup (state.addLine setup line number).2 := (addLine_turns line number).bound settled bound

theorem addLines_cons (state : LexerState) (line : Text) (number : Nat) (rest : List (Text × Nat)) :
    state.addLines setup ((line,number) :: rest) =
      if (state.addLine setup line number).1 = .crashed then .error (state.addLine setup line number).2
      else (state.addLine setup line number).2.addLines setup rest := by
  rw [addLines]
  split
  · rename_i crashed
    rw [if_pos (by rw [crashed]),crashed]
  · rename_i goesOn same
    rw [if_neg (by rw [same]; exact goesOn),same]

theorem addLines_append (lines rest : List (Text × Nat)) :
    state.addLines setup (lines ++ rest) = (state.addLines setup lines).bind fun next => next.addLines setup rest := by
  induction lines generalizing state with
  | nil => rfl
  | cons head others ih =>
    obtain ⟨line,number⟩ := head
    rw [List.cons_append,addLines_cons,addLines_cons]
    split
    · rfl
    · exact ih

theorem addLines_bound {lines : List (Text × Nat)} (settled : setup.Settled) (bound : Bound setup state)
    (read : state.addLines setup lines = .ok next) : Bound setup next := by
  induction lines generalizing state with
  | nil => cases read; exact bound
  | cons line rest ih =>
    obtain ⟨line,number⟩ := line
    have after := addLine_bound line number settled bound
    rw [addLines] at read
    split at read
    · cases read
    · rename_i outcome reached same
      rw [same] at after
      exact ih after read

theorem reset_bound (bound : Bound setup state) : state.reset setup = setup.initial := by
  unfold reset LexerSetup.initial
  split
  · rename_i own
    rw [Lexers.eq_standard (bound own)]
  · rw [Lexers.bind_standard]

theorem recover_initial (setup : LexerSetup) (state : LexerState) : state.recover setup = setup.initial := by
  simp only [recover,Lexers.bind_standard]
  rfl

end LexerState
end ScenarioLang
