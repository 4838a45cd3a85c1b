import ScenarioLang.Line
import ScenarioLang.Proofs.Text
import ScenarioLang.Proofs.Text.Pattern

namespace ScenarioLang.Line

theorem languageCode_letters {t code rest : Text} (found : languageCode t = some (code,rest)) :
    ∀ c ∈ code, isCodeChar c = true := by
  have letters : ∀ c ∈ t.takeWhile isCodeChar, isCodeChar c = true := fun c member =>
    List.all_eq_true.mp List.all_takeWhile c member
  simp only [languageCode] at found
  split at found
  · cases found
  · split at found
    · cases found; exact letters
    · obtain ⟨_,_,same⟩ := Option.map_eq_some_iff.mp found
      cases same
      exact letters
    · cases found

theorem readLanguage_node {pattern : KeywordPattern} {line : Text} {number : Nat} {reading : Reading}
    (read : readLanguage pattern line number = some reading) : ∃ node code, reading.nodes = [node] ∧
      node.type = .language ∧ node.value? = some code ∧ ∀ c ∈ code, isCodeChar c = true := by
  simp only [readLanguage,KeywordPattern.captureWith_words] at read
  split at read
  · obtain ⟨⟨code,rest⟩,captured,made⟩ := Option.bind_eq_some_iff.mp read
    cases made
    obtain ⟨_,behind,accepted,_⟩ := Words.capture_shorter captured
    split at accepted
    · exact ⟨_,code,rfl,rfl,rfl,languageCode_letters accepted⟩
    · cases accepted
  · cases read

theorem readTag_type {reserved : List TagNames} {written : Text} {location : Location} {node : Node}
    (read : (readTag reserved written location).toOption = some node) : node.type = .tag := by
  simp only [readTag] at read
  split at read
  · cases read; rfl
  · cases read

theorem readDefinition_reads {kind : DefinitionKind} {pattern : KeywordPattern} {line : Text} {number : Nat}
    {reading : Reading} (read : readDefinition kind pattern line number = some reading) :
    ∃ item name value faults, Text.trimStart (Text.uncommented line) = '-' :: item ∧
      reading = .ofNode ⟨.definition kind,.ofContent line number,Text.trim (Text.uncommented line),.definition name value⟩
        (report (.ofContent line number) faults) := by
  simp only [readDefinition] at read
  split at read
  · rename_i item start
    obtain ⟨⟨name,rest⟩,_,read⟩ := Option.bind_eq_some_iff.mp read
    obtain ⟨written,_,read⟩ := Option.bind_eq_some_iff.mp read
    obtain ⟨value,_,made⟩ := Option.bind_eq_some_iff.mp read
    exact ⟨item,name,value,_,start,(Option.some.inj made).symm⟩
  · cases read

theorem reader_type {dictionary : Dictionary} {type : NodeType} {line : Text} {number : Nat} {reading : Reading}
    (read : reader dictionary type line number = some reading) : ∀ node ∈ reading.nodes, node.type = type := by
  have single : ∀ {node : Node} {errors : List LexicalError} {reading : Reading},
      some (Reading.ofNode node errors) = some reading → node.type = type →
      ∀ found ∈ reading.nodes, found.type = type := by
    intro node errors reading same own found member
    cases same
    obtain rfl := List.mem_singleton.mp member
    exact own
  cases type with
  | language =>
    obtain ⟨node,code,nodes,own,_⟩ := readLanguage_node read
    intro found member
    rw [nodes] at member
    exact List.mem_singleton.mp member ▸ own
  | importPath =>
    simp only [reader,NodeLexer.ofDictionary,NodeLexer.read,readImport] at read
    obtain ⟨written,_,made⟩ := Option.bind_eq_some_iff.mp read
    exact single made rfl
  | tag =>
    simp only [reader,NodeLexer.ofDictionary,NodeLexer.read,readTags] at read
    split at read
    · cases read
      intro node member
      obtain ⟨tag,inside,taken⟩ := List.mem_filterMap.mp member
      obtain ⟨⟨column,piece⟩,_,rfl⟩ := List.mem_map.mp inside
      exact readTag_type taken
    · cases read
  | feature | scenario | testCase | table | database | uiElement =>
    simp only [reader,NodeLexer.ofDictionary,NodeLexer.read,readNamed] at read
    obtain ⟨value,_,made⟩ := Option.bind_eq_some_iff.mp read
    exact single made rfl
  | background | variantBackground | block | event =>
    simp only [reader,NodeLexer.ofDictionary,NodeLexer.read,readBlock] at read
    obtain ⟨value,_,made⟩ := Option.bind_eq_some_iff.mp read
    exact single made rfl
  | variant =>
    simp only [reader,NodeLexer.ofDictionary,NodeLexer.read,readNumbered] at read
    obtain ⟨⟨digits,value⟩,_,made⟩ := Option.bind_eq_some_iff.mp read
    exact single made rfl
  | definition kind =>
    obtain ⟨_,_,_,_,_,made⟩ := readDefinition_reads read
    exact single (congrArg some made.symm) rfl
  | tableRow =>
    simp only [reader,NodeLexer.ofDictionary,NodeLexer.read,readTableRow] at read
    split at read
    · exact single read rfl
    · cases read
  | databaseProperty | uiProperty =>
    simp only [reader,NodeLexer.ofDictionary,NodeLexer.read,readItem] at read
    split at read
    · obtain ⟨written,_,made⟩ := Option.bind_eq_some_iff.mp read
      exact single made rfl
    · cases read
  | step kind =>
    simp only [reader,NodeLexer.ofDictionary,NodeLexer.read,readStep] at read
    obtain ⟨⟨keyword,value⟩,_,made⟩ := Option.bind_eq_some_iff.mp read
    cases made
    intro node member
    obtain rfl := List.mem_singleton.mp member
    rfl
  | text =>
    simp only [reader,NodeLexer.ofDictionary,NodeLexer.read,readText] at read
    split at read
    · cases read
    · exact single read rfl
  | longString =>
    simp only [reader,NodeLexer.ofDictionary,NodeLexer.read,readDelimiter] at read
    obtain ⟨rest,_,read⟩ := Option.bind_eq_some_iff.mp read
    split at read
    · exact single read rfl
    · obtain ⟨_,_,made⟩ := Option.map_eq_some_iff.mp read
      cases made
      intro node member
      obtain rfl := List.mem_singleton.mp member
      rfl
    · cases read

theorem reader_code {dictionary : Dictionary} {type : NodeType} {line : Text} {number : Nat} {reading : Reading}
    (read : reader dictionary type line number = some reading) {node : Node} (member : node ∈ reading.nodes)
    (own : node.type = .language) : ∃ code, node.value? = some code ∧ ∀ c ∈ code, isCodeChar c = true := by
  have language := (reader_type read node member).symm.trans own
  subst language
  obtain ⟨only,code,nodes,_,value,letters⟩ := readLanguage_node read
  rw [nodes] at member
  obtain rfl := List.mem_singleton.mp member
  exact ⟨code,value,letters⟩

theorem firstReading_reads {dictionary : Dictionary} {types : List NodeType} {line : Text} {number : Nat}
    {type : NodeType} {reading : Reading}
    (read : firstReading dictionary types line number = some (type,reading)) :
    reader dictionary type line number = some reading := by
  obtain ⟨tried,_,found⟩ := List.exists_of_findSome?_eq_some read
  obtain ⟨made,own,same⟩ := Option.map_eq_some_iff.mp found
  cases same
  exact own

end ScenarioLang.Line

namespace ScenarioLang

theorem Line.priority_whole (type : NodeType) : type ∈ priority := by
  cases type <;> first | decide | (rename_i kind; cases kind <;> decide)

namespace NodeLexer

theorem type_ofDictionary (dictionary : Dictionary) (type : NodeType) : (ofDictionary dictionary type).type = type := by
  cases type <;> rfl

end NodeLexer

namespace Lexers

variable {lexers : Lexers} {dictionary : Dictionary}

theorem eq_standard (own : lexers.dictionary = dictionary) : lexers = .standard dictionary := by
  subst own
  obtain ⟨readers,dictionary,rfl⟩ := lexers
  rfl

theorem bind_standard (lexers : Lexers) (dictionary : Dictionary) : lexers.bind dictionary = .standard dictionary :=
  eq_standard rfl

theorem ofType?_made (lexers : Lexers) (type : NodeType) :
    lexers.ofType? type = some (.ofDictionary lexers.dictionary type) := by
  have made : (fun lexer : NodeLexer => decide (lexer.type = type)) ∘ NodeLexer.ofDictionary lexers.dictionary =
      fun other => decide (other = type) := funext fun other => by simp [NodeLexer.type_ofDictionary]
  rw [ofType?,lexers.bound,NodeLexer.standard,List.find?_map,made]
  cases found : Line.priority.find? fun other => decide (other = type) with
  | none => simpa using List.find?_eq_none.mp found type (Line.priority_whole type)
  | some other =>
    have same : other = type := by simpa using List.find?_some found
    rw [same]
    rfl

-- What the readers take is what their words make of the line.
theorem firstReading_words (lexers : Lexers) (suggested : List NodeType) (line : Text) (number : Nat) :
    lexers.firstReading suggested line number =
      Line.firstReading lexers.dictionary (suggested ++ Line.priority) line number := by
  have listed : suggested.filterMap lexers.ofType? ++ lexers.readers =
      (suggested ++ Line.priority).map (.ofDictionary lexers.dictionary) := by
    rw [List.map_append,lexers.bound,NodeLexer.standard,funext lexers.ofType?_made,List.filterMap_eq_map']
  rw [firstReading,listed,List.findSome?_map]
  exact congrArg (fun read => List.findSome? read (suggested ++ Line.priority))
    (funext fun type => by rw [Function.comp_apply,NodeLexer.type_ofDictionary,Line.reader])

end Lexers
end ScenarioLang
