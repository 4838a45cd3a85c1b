import ScenarioLang.Proofs.Lexer.Followers
import ScenarioLang.Proofs.Line.Declaration

namespace ScenarioLang

namespace Dictionary
open Text

-- The sources with one dictionary for all ASCII cases of a name and of the name that the
-- dictionary has: those that look languages up, any other that is like that, and these
-- where they break down on some languages.
inductive CaseBlind : DictionarySource → Prop where
  | stored {source : DictionarySource} (looked : Stored source) : CaseBlind source
  | other {source : DictionarySource} (same : ∀ language code base words, source language = .found base →
      sameAsciiCase code language = true ∨ sameAsciiCase code base.language = true →
      source code = .found words → words = base) : CaseBlind source
  | crashing {source : DictionarySource} (languages : List Text) (blind : CaseBlind source) :
      CaseBlind (crashingOn languages source)

variable {source : DictionarySource} {language code : Text} {base words : Dictionary}

theorem CaseBlind.agree (blind : CaseBlind source) (letters : ∀ c ∈ code, Line.isCodeChar c = true)
    (found : source language = .found base)
    (same : sameAsciiCase code language = true ∨ sameAsciiCase code base.language = true)
    (again : source code = .found words) : words = base := by
  induction blind with
  | stored looked =>
    apply Lookup.found.inj
    rw [← again]
    rcases same with asked | own
    · exact looked.sameCase (sameAsciiCase_symm asked) found
    · exact looked.sameCase (sameAsciiCase_symm own) (looked.settled found (letters_sameCase own letters))
  | other one => exact one _ _ _ _ found same again
  | crashing languages blind ih =>
    simp only [crashingOn] at found again
    split at found
    · cases found
    · split at again
      · cases again
      · exact ih found again

end Dictionary

namespace LexerState
open Line

variable {setup : LexerSetup} {state next : LexerState} {declaration : Declaration} {line : Text} {number : Nat}
  {language : Text} {words : Dictionary}

def Spoken (setup : LexerSetup) (state : LexerState) : Prop :=
  ∃ asked, setup.source asked = .found state.dictionary ∧
    (state.language = asked ∨ state.language = state.dictionary.language)

theorem Turns.spoken (turns : Turns setup state next) (spoken : Spoken setup state) : Spoken setup next := by
  rcases turns with ⟨language,dictionary⟩ | ⟨found,_⟩
  · unfold Spoken
    rw [language,dictionary]
    exact spoken
  · exact ⟨_,found,.inl rfl⟩

theorem reset_spoken (first : Spoken setup setup.initial) (spoken : Spoken setup state) :
    Spoken setup (state.reset setup) := by
  by_cases own : state.language = setup.base.language
  · have same : (state.reset setup).dictionary = state.dictionary := congrArg Lexers.dictionary (if_pos own)
    have named : (state.reset setup).language = state.language := own.symm
    unfold Spoken
    rw [same,named]
    exact spoken
  · have same : (state.reset setup).dictionary = setup.base := congrArg Lexers.dictionary (if_neg own)
    unfold Spoken
    rw [same]
    exact first

theorem act_spoken (first : Spoken setup setup.initial) (spoken : Spoken setup state) (action : LexerAction) :
    Spoken setup (state.act setup action).2 := by
  cases action with
  | line text number => exact (addLine_turns text number).spoken spoken
  | reset => exact reset_spoken first spoken
  | recover => exact first
  | finish => exact reset_spoken first spoken

theorem after_spoken (first : Spoken setup setup.initial) (spoken : Spoken setup state) (actions : List LexerAction) :
    Spoken setup (state.after setup actions) := by
  induction actions generalizing state with
  | nil => exact spoken
  | cons action rest ih => exact ih (act_spoken first spoken action)

def Reached (setup : LexerSetup) (state : LexerState) : Prop :=
  ∃ language history, LexerSetup.start language setup.source setup.stopOnError = .ready setup ∧
    state = setup.initial.after setup history

theorem Reached.spoken (reached : Reached setup state) : Spoken setup state := by
  obtain ⟨language,history,ready,rfl⟩ := reached
  obtain ⟨base,found,made⟩ := LexerSetup.start_ready ready
  have first : Spoken setup setup.initial := ⟨language,by rw [made] at found ⊢; exact found,.inr rfl⟩
  exact after_spoken first first history

theorem enter_words {node : Node} (other : node.type ≠ .language) (entered : state.enter setup node = some next) :
    next.dictionary = state.dictionary := by
  unfold enter at entered
  split at entered
  · cases entered; rfl
  · rename_i own
    exact absurd own other
  · cases entered; rfl

theorem keep_words {nodes : List Node} (plain : ∀ node ∈ nodes, node.type ≠ .language) :
    (state.keep setup nodes).2.dictionary = state.dictionary := by
  induction nodes generalizing state with
  | nil => rfl
  | cons node rest ih =>
    obtain ⟨other,later⟩ := List.forall_mem_cons.mp plain
    rw [keep]
    split
    · rename_i entered kept
      have same : entered.dictionary = state.dictionary := enter_words other kept
      exact (ih later).trans same
    · rfl

theorem keep_accepted {nodes : List Node} (runs : (state.keep setup nodes).1 ≠ .crashed) :
    (state.keep setup nodes).1 = .accepted := by
  cases outcome : (state.keep setup nodes).1 with
  | accepted => rfl
  | refused => exact absurd outcome (keep_taken setup state nodes)
  | crashed => exact absurd outcome runs

theorem addLine_words (runs : (state.addLine setup line number).1 ≠ .crashed) : ∃ added,
    (state.addLine setup line number).2.lexed.nodes = state.lexed.nodes ++ added ∧
    ((∀ node ∈ added, node.type ≠ .language) → (state.addLine setup line number).2.dictionary = state.dictionary) := by
  unfold addLine at runs ⊢
  split
  · exact ⟨[],(List.append_nil _).symm,fun _ => rfl⟩
  · rename_i goesOn
    rw [if_neg goesOn] at runs
    split
    · unfold addRaw
      split
      · exact ⟨_,rfl,fun _ => rfl⟩
      · exact ⟨_,rfl,fun _ => rfl⟩
    · rename_i outside
      rw [if_neg outside] at runs
      split
      · exact ⟨[],(List.append_nil _).symm,fun _ => rfl⟩
      · rename_i type reading found
        rw [found] at runs
        obtain ⟨kept,faults,lexed,_,all,_⟩ :=
          keep_adds setup ({ state with last := some type }.report reading.errors reading.warnings) reading.nodes
        obtain rfl := all (keep_accepted runs)
        exact ⟨reading.nodes,by rw [lexed]; rfl,keep_words⟩

-- Lines are read with these words, and so are the lines behind them as long as none of
-- them declares a language.
def Speaks (setup : LexerSetup) (state : LexerState) (words : Dictionary) : Prop :=
  ∀ lines final, state.addLines setup lines = .ok final → ∃ added,
    final.lexed.nodes = state.lexed.nodes ++ added ∧
    ((∀ node ∈ added, node.type ≠ .language) → final.dictionary = words)

theorem addLines_speaks (setup : LexerSetup) (state : LexerState) : Speaks setup state state.dictionary := by
  intro lines final read
  induction lines generalizing state with
  | nil =>
    cases read
    exact ⟨[],(List.append_nil _).symm,fun _ => rfl⟩
  | cons head rest ih =>
    obtain ⟨line,number⟩ := head
    rw [addLines_cons] at read
    split at read
    · cases read
    · rename_i runs
      obtain ⟨first,grown,kept⟩ := addLine_words runs
      obtain ⟨later,whole,held⟩ := ih _ read
      refine ⟨first ++ later,by rw [whole,grown,List.append_assoc],fun plain => ?_⟩
      obtain ⟨early,late⟩ := List.forall_mem_append.mp plain
      exact (held late).trans (kept early)

theorem firstReading_declares (declaration : Declaration) (state : LexerState) (number : Nat) :
    state.firstReading declaration.line number = some (.language,.ofNode (declaration.node number) []) := by
  rw [LexerState.firstReading_words]
  apply firstReading_alone (List.mem_append_right _ (priority_whole .language))
  · rw [declaration.reader_declares,if_pos rfl]
  · intro other _ apart
    rw [declaration.reader_declares,if_neg apart]

theorem switch_answers (state : LexerState) (answers : setup.source language ≠ .crashed) (location : Location) : ∃ next,
    state.switch setup language location = some next ∧ next.lexed.nodes = state.lexed.nodes ∧
    ∀ words, setup.source language = .found words → next.lexed = state.lexed ∧
      next.dictionary = if Text.sameAsciiCase language state.language then state.dictionary else words := by
  unfold switch
  split
  · exact ⟨state,rfl,rfl,fun _ _ => ⟨rfl,rfl⟩⟩
  · cases found : setup.source language with
    | found dictionary =>
      refine ⟨_,rfl,rfl,fun words same => ⟨rfl,?_⟩⟩
      cases same
      rfl
    | failed error => exact ⟨_,rfl,rfl,nofun⟩
    | crashed => exact absurd found answers

theorem addLine_declares (outside : state.inLongString = false) (goesOn : (setup.stopOnError && state.hasErrors) = false)
    (answers : setup.source declaration.code ≠ .crashed) (number : Nat) : ∃ next,
    state.addLine setup declaration.line number = (.accepted,next) ∧
    next.lexed.nodes = state.lexed.nodes ++ [declaration.node number] ∧
    ∀ words, setup.source declaration.code = .found words →
      next.lexed = state.lexed.followedBy (.ofNode (declaration.node number) []) ∧
      next.dictionary = if Text.sameAsciiCase declaration.code state.language then state.dictionary else words := by
  have filled : declaration.line.allBlank = false := Text.head_filled declaration.line_head
  have first : { state with last := some .language }.report [] [] = { state with last := some .language } := by
    simp [report]
  obtain ⟨next,switched,nodes,given⟩ :=
    switch_answers { state with last := some .language } answers (declaration.node number).location
  refine ⟨next.push (declaration.node number),?_,?_,?_⟩
  · have entered : enter setup { state with last := some .language } (declaration.node number) = some next := switched
    unfold addLine
    rw [if_neg (by simp [goesOn,filled]),if_neg (by simp [outside]),firstReading_declares]
    dsimp only [Reading.ofNode]
    rw [first,keep,entered]
    rfl
  · exact congrArg (· ++ [declaration.node number]) nodes
  · intro words found
    obtain ⟨lexed,dictionary⟩ := given words found
    refine ⟨?_,dictionary⟩
    simp only [push,lexed,Reading.followedBy,Reading.ofNode,List.append_nil]

-- Whatever words are active, a file can declare its language with the word that all
-- dictionaries know. The line is that declaration and nothing else, and where the source
-- has the language its words are used for the lines below. A name that differs from the
-- active one in letter case alone changes no words; only a source with other words for
-- it would tell.
theorem language_declarable (declaration : Declaration) (number : Nat) :
    let node := declaration.node number
    (node.type = .language ∧ node.value? = some declaration.code ∧ declaration.code <:+ node.content) ∧
    (∀ dictionary type, reader dictionary type declaration.line number =
      if type = .language then some (.ofNode node []) else none) ∧
    ∀ (setup : LexerSetup) (state : LexerState), state.inLongString = false →
      (setup.stopOnError && state.hasErrors) = false →
      state.firstReading declaration.line number = some (.language,.ofNode node []) ∧
      (setup.source declaration.code ≠ .crashed → ∃ next,
        state.addLine setup declaration.line number = (.accepted,next) ∧
        next.lexed.nodes = state.lexed.nodes ++ [node] ∧
        ∀ words, setup.source declaration.code = .found words →
          next.lexed = state.lexed.followedBy (.ofNode node []) ∧
          (Text.sameAsciiCase declaration.code state.language = false ∨
            Dictionary.CaseBlind setup.source ∧ Reached setup state → Speaks setup next words)) := by
  intro node
  refine ⟨⟨rfl,rfl,declaration.code_ends⟩,fun dictionary type => declaration.reader_declares dictionary type number,?_⟩
  intro setup state outside goesOn
  refine ⟨firstReading_declares declaration state number,fun answers => ?_⟩
  obtain ⟨next,added,nodes,given⟩ := addLine_declares outside goesOn answers number
  refine ⟨next,added,nodes,fun words found => ?_⟩
  obtain ⟨lexed,dictionary⟩ := given words found
  refine ⟨lexed,fun settled => ?_⟩
  have turned : next.dictionary = words := by
    rw [dictionary]
    split
    · rename_i same
      obtain ⟨blind,reached⟩ := settled.resolve_left (by rw [same]; exact Bool.noConfusion)
      obtain ⟨asked,first,named⟩ := reached.spoken
      have spelled : Text.sameAsciiCase declaration.code asked = true ∨
          Text.sameAsciiCase declaration.code state.dictionary.language = true := by
        rcases named with own | own
        · exact .inl (own ▸ same)
        · exact .inr (own ▸ same)
      exact (blind.agree declaration.letters first spelled found).symm
    · rfl
  exact turned ▸ addLines_speaks setup next

theorem language_declarable_regional : ∃ (setup : LexerSetup) (declaration : Declaration) (next : LexerState),
    let state := setup.initial.after setup [.line "#language: pt".toList 1]
    declaration.line = "\t# LanGUAGE :es-MX ".toList ∧ state.language = "pt".toList ∧
    state.addLine setup declaration.line 2 = (.accepted,next) ∧ Speaks setup next Dictionary.spanish := by
  let setup : LexerSetup := ⟨Dictionary.builtinSource,Dictionary.english,false⟩
  let space : Text.Blanks := ⟨[' '],by decide⟩
  let declaration : Declaration := ⟨⟨['\t'],by decide⟩,space,"LanGUAGE".toList,space,⟨[],rfl⟩,
    "es-MX".toList,space,by decide,by decide,List.all_eq_true.mp (by decide)⟩
  let state := setup.initial.after setup [.line "#language: pt".toList 1]
  obtain ⟨_,_,declares⟩ := language_declarable declaration 2
  obtain ⟨_,answers⟩ := declares setup state (by decide) (by decide)
  have found : setup.source declaration.code = .found Dictionary.spanish := by
    have asked : Dictionary.candidates "es-MX".toList = ["es-mx".toList,"es".toList] := by decide
    change Dictionary.builtinSource "es-MX".toList = _
    rw [Dictionary.builtinSource,asked]
    rfl
  obtain ⟨next,added,_,given⟩ := answers (by rw [found]; simp)
  refine ⟨setup,declaration,next,by decide,by decide,added,?_⟩
  exact (given _ found).2 (.inr ⟨.stored .builtin,"en".toList,_,rfl,rfl⟩)

end LexerState
end ScenarioLang
