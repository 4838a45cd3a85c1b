import ScenarioLang.Proofs.Lexer.Skipping
import ScenarioLang.Proofs.Text.Comment

namespace ScenarioLang

namespace Line
open Text

variable {line comment : Text} {number : Nat}

structure Commented (line comment : Text) : Prop where
  filled : line.allBlank = false
  other : (trimStart line).head? ≠ some '#'
  bare : line.getLast? ≠ some '<'
  whole : uncommented line = line
  plain : '#' ∉ comment
  single : '\n' ∉ comment
  quote : (trimEnd comment).getLast? ≠ some '"'
  angle : (trimEnd comment).getLast? ≠ some '>'

namespace Commented

theorem uncommented (commented : Commented line comment) : Text.uncommented (line ++ '#' :: comment) = line :=
  uncommented_sign commented.bare commented.plain commented.quote commented.angle

theorem start (commented : Commented line comment) :
    trimStart (line ++ '#' :: comment) = trimStart line ++ '#' :: comment :=
  trimStart_append (trimStart_solid commented.filled) _

theorem head (commented : Commented line comment) :
    (trimStart (line ++ '#' :: comment)).head? = (trimStart line).head? := by
  obtain ⟨c,rest,start,_⟩ := trimStart_filled (trimStart_solid commented.filled)
  rw [commented.start,start]
  rfl

theorem location (commented : Commented line comment) (number : Nat) :
    Location.ofContent (line ++ '#' :: comment) number = Location.ofContent line number := by
  have same := (trimStart_start (List.prefix_append line ('#' :: comment)) (trimStart_solid commented.filled)).2
  rw [Location.ofContent,Location.ofContent,same]

end Commented

theorem readDelimiter_comment (commented : Commented line comment) :
    readDelimiter (line ++ '#' :: comment) number = readDelimiter line number := by
  have apart : '#' ∉ delimiter := by decide
  have ended : oneLine comment = some comment := by simp [oneLine,commented.single]
  unfold readDelimiter
  rw [commented.start,commented.location,after_sign apart]
  cases after delimiter (trimStart line) with
  | none => rfl
  | some rest =>
    simp only [Option.map_some,Option.bind_eq_bind,Option.bind_some]
    cases between : trimStart rest with
    | nil =>
      rw [trimStart_blank (trimStart_nil_iff.mp between),trimStart_stays (by decide)]
      simp only [ended,Option.map_some]
      rfl
    | cons c more =>
      rw [trimStart_append (by rw [between]; exact List.cons_ne_nil _ _),between,List.cons_append]
      by_cases sign : c = '#'
      · subst sign
        simp [oneLine,commented.single]
        split <;> rfl
      · simp [sign]

theorem readLanguage_comment (commented : Commented line comment) (pattern : KeywordPattern) :
    readLanguage pattern (line ++ '#' :: comment) number = readLanguage pattern line number := by
  have refused : ∀ {line}, (trimStart line).head? ≠ some '#' → readLanguage pattern line number = none := by
    intro line other
    unfold readLanguage
    split
    · rename_i start
      exact absurd (by rw [start]; rfl) other
    · rfl
  rw [refused (commented.head ▸ commented.other),refused commented.other]

-- No reader sees the comment: the two that look at the whole line see where it begins.
theorem reader_comment (commented : Commented line comment) (dictionary : Dictionary) (type : NodeType) (number : Nat) :
    reader dictionary type (line ++ '#' :: comment) number = reader dictionary type line number := by
  have plain := commented.uncommented
  have whole := commented.whole
  have location := commented.location number
  cases type with
  | language => exact readLanguage_comment commented _
  | longString => exact readDelimiter_comment commented
  | text => simp only [reader,NodeLexer.ofDictionary,NodeLexer.read,readText,plain,whole,location,commented.head]
  | importPath => simp only [reader,NodeLexer.ofDictionary,NodeLexer.read,readImport,plain,whole,location]
  | tag => simp only [reader,NodeLexer.ofDictionary,NodeLexer.read,readTags,plain,whole]
  | feature | scenario | testCase | table | database | uiElement => simp only [reader,NodeLexer.ofDictionary,NodeLexer.read,readNamed,plain,whole,location]
  | variant => simp only [reader,NodeLexer.ofDictionary,NodeLexer.read,readNumbered,plain,whole,location]
  | background | variantBackground | block | event => simp only [reader,NodeLexer.ofDictionary,NodeLexer.read,readBlock,plain,whole,location]
  | definition => simp only [reader,NodeLexer.ofDictionary,NodeLexer.read,readDefinition,plain,whole,location]
  | tableRow => simp only [reader,NodeLexer.ofDictionary,NodeLexer.read,readTableRow,plain,whole,location]
  | databaseProperty | uiProperty => simp only [reader,NodeLexer.ofDictionary,NodeLexer.read,readItem,plain,whole,location]
  | step => simp only [reader,NodeLexer.ofDictionary,NodeLexer.read,readStep,plain,whole,location]

end Line

namespace LexerState

variable {setup : LexerSetup} {state : LexerState} {line comment : Text} {before after : List Text}

theorem addLine_comment (commented : Line.Commented line comment) (outside : state.inLongString = false) (number : Nat) :
    state.addLine setup (line ++ '#' :: comment) number = state.addLine setup line number := by
  have filled : (line ++ '#' :: comment).allBlank = false := by
    rw [Text.allBlank,List.all_append]
    exact Bool.and_eq_false_iff.mpr (.inl commented.filled)
  have same : state.firstReading (line ++ '#' :: comment) number = state.firstReading line number := by
    simp only [firstReading_words,followers,Line.firstReading,Line.reader_comment commented]
  unfold addLine
  rw [filled,commented.filled,outside,same]
  rfl

theorem digest_comment (commented : Line.Commented line comment)
    (outside : ∀ state, setup.initial.addLines setup (Text.numbered before) = .ok state → state.inLongString = false)
    (stopOnError : Bool) (info : FileInfo) :
    setup.digest stopOnError info (before ++ (line ++ '#' :: comment) :: after) =
      setup.digest stopOnError info (before ++ line :: after) := by
  have parts : ∀ line, Text.numbered (before ++ line :: after) = Text.numbered before ++
      (line,1 + before.length) :: after.zipIdx (1 + before.length + 1) := fun line => List.zipIdx_append
  have same : setup.initial.addLines setup (Text.numbered (before ++ (line ++ '#' :: comment) :: after)) =
      setup.initial.addLines setup (Text.numbered (before ++ line :: after)) := by
    rw [parts,parts,addLines_append,addLines_append]
    cases reached : setup.initial.addLines setup (Text.numbered before) with
    | error broken => rfl
    | ok state =>
      change state.addLines setup _ = state.addLines setup _
      rw [addLines,addLines,addLine_comment commented (outside state reached)]
  unfold LexerSetup.digest
  rw [same]

-- Outside long strings a comment behind a line changes nothing, whatever number signs
-- the line has in values and literals: the line is taken or refused as before, with
-- the same nodes, errors and warnings, and so is all of the source around it.
theorem trailing_comment_invisible {line comment : Text} (commented : Line.Commented line comment)
    (setup : LexerSetup) :
    (∀ state : LexerState, state.inLongString = false → ∀ number,
      state.addLine setup (line ++ '#' :: comment) number = state.addLine setup line number) ∧
    ∀ before after : List Text,
      (∀ state, setup.initial.addLines setup (Text.numbered before) = .ok state → state.inLongString = false) →
      ∀ stopOnError info, setup.digest stopOnError info (before ++ (line ++ '#' :: comment) :: after) =
        setup.digest stopOnError info (before ++ line :: after) :=
  ⟨fun _ outside => addLine_comment commented outside,fun _ _ outside => digest_comment commented outside⟩

theorem trailing_comment_invisible_literal :
    let setup : LexerSetup := ⟨Dictionary.builtinSource,Dictionary.english,false⟩
    let comment := " <b> or \"c\"?".toList
    (setup.initial.addLine setup ("Given a <#id>".toList ++ '#' :: comment) 1).2.lexed.nodes.map Node.content =
      ["Given a <#id>".toList] ∧
    setup.digest false ⟨⟨"/a".toList⟩,[]⟩ ["Feature: a".toList,"import \"#b\" ".toList ++ '#' :: comment] =
      setup.digest false ⟨⟨"/a".toList⟩,[]⟩ ["Feature: a".toList,"import \"#b\" ".toList] := by
  intro setup comment
  have plain : '#' ∉ comment ∧ '\n' ∉ comment ∧ (Text.trimEnd comment).getLast? ≠ some '"' ∧
    (Text.trimEnd comment).getLast? ≠ some '>' := by decide
  obtain ⟨sign,single,quote,angle⟩ := plain
  have literal : Line.Commented "Given a <#id>".toList comment :=
    ⟨by decide,by decide,by decide,by decide,sign,single,quote,angle⟩
  have value : Line.Commented "import \"#b\" ".toList comment :=
    ⟨by decide,by decide,by decide,by decide,sign,single,quote,angle⟩
  constructor
  · rw [(trailing_comment_invisible literal setup).1 _ rfl]
    decide
  · apply (trailing_comment_invisible value setup).2 ["Feature: a".toList] []
    rintro state ⟨⟩
    decide

end LexerState
end ScenarioLang
