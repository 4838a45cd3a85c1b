import ScenarioLang.Proofs.Lexer

namespace ScenarioLang

variable (f : Nat → Nat)

def Location.renumber (location : Location) : Location := { location with line := f location.line }

def Node.renumber (node : Node) : Node := { node with location := node.location.renumber f }

def LexicalError.renumber (error : LexicalError) : LexicalError :=
  { error with location := error.location.renumber f }

def LexicalWarning.renumber (warning : LexicalWarning) : LexicalWarning :=
  { warning with location := warning.location.renumber f }

def Reading.renumber (reading : Reading) : Reading :=
  ⟨reading.nodes.map (Node.renumber f),reading.errors.map (LexicalError.renumber f),
    reading.warnings.map (LexicalWarning.renumber f)⟩

def LexerState.renumber (state : LexerState) : LexerState := { state with lexed := state.lexed.renumber f }

section
variable (g f : Nat → Nat)

theorem Node.renumber_comp : Node.renumber g ∘ Node.renumber f = Node.renumber (g ∘ f) := rfl

theorem Reading.renumber_renumber (reading : Reading) :
    (reading.renumber f).renumber g = reading.renumber (g ∘ f) := by
  simp only [renumber,List.map_map]
  rfl

end

namespace Node

variable {f} (node : Node)

@[simp] theorem renumber_type : (node.renumber f).type = node.type := rfl
@[simp] theorem renumber_location : (node.renumber f).location = node.location.renumber f := rfl
@[simp] theorem renumber_name? : (node.renumber f).name? = node.name? := rfl
@[simp] theorem renumber_value? : (node.renumber f).value? = node.value? := rfl

end Node

namespace Line

variable {f}

theorem made_renumber (type : NodeType) (line content : Text) (number : Nat) (data : NodeData)
    (faults : List LexicalFault) :
    Reading.ofNode ⟨type,.ofContent line (f number),content,data⟩ (report (.ofContent line (f number)) faults) =
      (Reading.ofNode ⟨type,.ofContent line number,content,data⟩
        (report (.ofContent line number) faults)).renumber f := by
  simp [Reading.ofNode,Reading.renumber,Node.renumber,LexicalError.renumber,report,Location.ofContent,
    Location.renumber]

theorem readTag_renumber (reserved : List TagNames) (written : Text) (number column : Nat) :
    readTag reserved written ⟨f number,column⟩ =
      ((readTag reserved written ⟨number,column⟩).map (Node.renumber f)).mapError (LexicalError.renumber f) := by
  simp only [readTag]
  split <;> rfl

theorem readTags_renumber (reserved : List TagNames) (line : Text) (number : Nat) :
    readTags reserved line (f number) = (readTags reserved line number).map (Reading.renumber f) := by
  simp only [readTags]
  split
  · simp only [Option.map_some,Reading.renumber,List.map_filterMap,List.filterMap_map,List.map_nil]
    congr 3 <;> (funext piece; simp only [Function.comp_apply,readTag_renumber])
    · cases readTag reserved (Text.trim piece.2) ⟨number,piece.1⟩ <;> rfl
    · cases readTag reserved (Text.trim piece.2) ⟨number,piece.1⟩ <;> rfl
  · rfl

-- Readers use the number of a line only to say where things are.
theorem reader_renumber (dictionary : Dictionary) (type : NodeType) (line : Text) (number : Nat) :
    reader dictionary type line (f number) = (reader dictionary type line number).map (Reading.renumber f) := by
  cases type with
  | language =>
    simp only [reader,NodeLexer.ofDictionary,NodeLexer.updateWords,NodeLexer.read,readLanguage]
    split
    · simp only [bind,Option.map_bind,Function.comp_def]
      rfl
    · rfl
  | importPath =>
    simp only [reader,NodeLexer.ofDictionary,NodeLexer.read,readImport,bind,Option.map_bind,Function.comp_def,made_renumber]
    rfl
  | tag => exact readTags_renumber _ line number
  | feature | scenario | testCase | table | database | uiElement =>
    simp only [reader,NodeLexer.ofDictionary,NodeLexer.read,readNamed,bind,Option.map_bind,Function.comp_def,made_renumber]
    rfl
  | background | variantBackground | block | event =>
    simp only [reader,NodeLexer.ofDictionary,NodeLexer.read,readBlock,bind,Option.map_bind,Function.comp_def,made_renumber]
    rfl
  | variant =>
    simp only [reader,NodeLexer.ofDictionary,NodeLexer.read,readNumbered,bind,Option.map_bind,Function.comp_def,made_renumber]
    rfl
  | definition kind =>
    simp only [reader,NodeLexer.ofDictionary,NodeLexer.read,readDefinition]
    split
    · simp only [bind,Option.map_bind,Function.comp_def,made_renumber]
      rfl
    · rfl
  | tableRow =>
    simp only [reader,NodeLexer.ofDictionary,NodeLexer.read,readTableRow]
    split <;> rfl
  | databaseProperty | uiProperty =>
    simp only [reader,NodeLexer.ofDictionary,NodeLexer.read,readItem]
    split
    · simp only [bind,Option.map_bind,Function.comp_def,made_renumber]
      rfl
    · rfl
  | step kind =>
    simp only [reader,NodeLexer.ofDictionary,NodeLexer.read,readStep,bind,Option.map_bind,Function.comp_def]
    congr 1
    funext found
    by_cases empty : found.2 = []
    · simp only [if_pos empty]
      rfl
    · simp only [if_neg empty]
      rfl
  | text =>
    simp only [reader,NodeLexer.ofDictionary,NodeLexer.read,readText]
    split <;> rfl
  | longString =>
    simp only [reader,NodeLexer.ofDictionary,NodeLexer.read,readDelimiter,bind,Option.map_bind,Function.comp_def]
    congr 1
    funext rest
    split
    · rfl
    · rw [Option.map_map]
      rfl
    · rfl

theorem reader_unnumbered (dictionary : Dictionary) (type : NodeType) (line : Text) (number other : Nat) :
    (reader dictionary type line number).isSome = (reader dictionary type line other).isSome := by
  rw [reader_renumber (f := fun _ => number) dictionary type line other,Option.isSome_map]

theorem firstReading_renumber (dictionary : Dictionary) (types : List NodeType) (line : Text) (number : Nat) :
    firstReading dictionary types line (f number) =
      (firstReading dictionary types line number).map (Prod.map id (Reading.renumber f)) := by
  unfold firstReading
  induction types with
  | nil => rfl
  | cons type rest ih =>
    rw [List.findSome?_cons,List.findSome?_cons,reader_renumber]
    cases reader dictionary type line number with
    | none => exact ih
    | some reading => rfl

end Line

namespace LexerState

variable {f} {setup : LexerSetup}

@[simp] theorem renumber_language (state : LexerState) : (state.renumber f).language = state.language := rfl
@[simp] theorem renumber_dictionary (state : LexerState) : (state.renumber f).dictionary = state.dictionary := rfl
@[simp] theorem renumber_inLongString (state : LexerState) :
    (state.renumber f).inLongString = state.inLongString := rfl

theorem hasErrors_renumber (state : LexerState) : (state.renumber f).hasErrors = state.hasErrors := by
  simp [hasErrors,renumber,Reading.renumber]

theorem push_renumber (state : LexerState) (node : Node) :
    (state.renumber f).push (node.renumber f) = (state.push node).renumber f := by
  simp [push,renumber,Reading.renumber]

theorem report_renumber (state : LexerState) (errors : List LexicalError) (warnings : List LexicalWarning) :
    (state.renumber f).report (errors.map (LexicalError.renumber f)) (warnings.map (LexicalWarning.renumber f)) =
      (state.report errors warnings).renumber f := by
  simp [report,renumber,Reading.renumber]

theorem switch_renumber (state : LexerState) (language : Text) (location : Location) :
    (state.renumber f).switch setup language (location.renumber f) =
      (state.switch setup language location).map (renumber f) := by
  unfold switch
  rw [renumber_language]
  split
  · rfl
  · split
    · rfl
    · rename_i error _
      exact congrArg some (report_renumber state [⟨.unsupportedLanguage language error,location⟩] [])
    · rfl

theorem enter_renumber (state : LexerState) (node : Node) :
    (state.renumber f).enter setup (node.renumber f) = (state.enter setup node).map (renumber f) := by
  unfold enter
  rw [Node.renumber_type,Node.renumber_value?]
  split
  · rfl
  · split
    · exact switch_renumber state _ _
    · rfl
  · rfl

theorem keep_renumber (state : LexerState) (nodes : List Node) :
    (state.renumber f).keep setup (nodes.map (Node.renumber f)) =
      Prod.map id (renumber f) (state.keep setup nodes) := by
  induction nodes generalizing state with
  | nil => rfl
  | cons node rest ih =>
    rw [List.map_cons,keep,keep,enter_renumber]
    cases state.enter setup node with
    | none => rfl
    | some entered =>
      refine Eq.trans ?_ (ih (entered.push node))
      rw [← push_renumber]
      rfl

theorem firstReading_renumber (state : LexerState) (line : Text) (number : Nat) :
    (state.renumber f).firstReading line (f number) =
      (state.firstReading line number).map (Prod.map id (Reading.renumber f)) := by
  rw [firstReading_words,firstReading_words]
  exact Line.firstReading_renumber _ _ line number

theorem addRaw_renumber (state : LexerState) (line : Text) (number : Nat) :
    (state.renumber f).addRaw line (f number) = (state.addRaw line number).renumber f := by
  have same : Line.readDelimiter line (f number) = (Line.readDelimiter line number).map (Reading.renumber f) :=
    Line.reader_renumber state.dictionary .longString line number
  unfold addRaw
  rw [same]
  cases Line.readDelimiter line number with
  | none => exact push_renumber state (Line.rawText line number)
  | some reading => simp [renumber,Reading.renumber]

theorem addLine_renumber (state : LexerState) (line : Text) (number : Nat) :
    (state.renumber f).addLine setup line (f number) =
      Prod.map id (renumber f) (state.addLine setup line number) := by
  unfold addLine
  rw [hasErrors_renumber]
  by_cases skipped : (setup.stopOnError && state.hasErrors || line.allBlank) = true
  · rw [if_pos skipped,if_pos skipped]
    rfl
  rw [if_neg skipped,if_neg skipped,renumber_inLongString]
  by_cases inside : state.inLongString = true
  · rw [if_pos inside,if_pos inside,addRaw_renumber]
    rfl
  rw [if_neg inside,if_neg inside,firstReading_renumber]
  cases state.firstReading line number with
  | none => rfl
  | some found =>
    obtain ⟨type,reading⟩ := found
    refine Eq.trans ?_ (keep_renumber _ reading.nodes)
    rw [← report_renumber]
    rfl

theorem addLines_renumber (state : LexerState) (lines : List (Text × Nat)) :
    (state.renumber f).addLines setup (lines.map (Prod.map id f)) =
      ((state.addLines setup lines).map (renumber f)).mapError (renumber f) := by
  induction lines generalizing state with
  | nil => rfl
  | cons head rest ih =>
    obtain ⟨line,number⟩ := head
    rw [List.map_cons,Prod.map_apply,addLines_cons,addLines_cons,id,addLine_renumber]
    simp only [Prod.map_fst,Prod.map_snd,id]
    split
    · rfl
    · exact ih _

end LexerState
end ScenarioLang
