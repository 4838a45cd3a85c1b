import ScenarioLang.Proofs.Line.Item
import ScenarioLang.Proofs.Text.Comment

namespace ScenarioLang

def LexicalFault.retyped (type : NodeType) : LexicalFault → LexicalFault
  | missingName _ => .missingName type
  | invalidName _ name => .invalidName type name
  | invalidNumber _ digits => .invalidNumber type digits
  | trailingContent _ content => .trailingContent type content
  | contentAfterValue _ => .contentAfterValue type
  | unclosedValue _ => .unclosedValue type
  | invalidValue _ value => .invalidValue type value
  | emptyItem _ => .emptyItem type
  | invalidTag written => .invalidTag written
  | unsupportedLanguage language reason => .unsupportedLanguage language reason

namespace Reading

def retyped (type : NodeType) (reading : Reading) : Reading :=
  ⟨reading.nodes.map fun node => { node with type := type },
    reading.errors.map fun error => { error with fault := error.fault.retyped type },reading.warnings⟩

def Quotes (reading : Reading) : Prop :=
  ∃ name value, reading.nodes.map Node.data = [.definition name (.text value)]

end Reading

namespace Line
open Text Unicode

variable {dictionary : Dictionary} {kind : DefinitionKind} {name value : Text} {pattern : KeywordPattern}
  {reading : Reading} {found : DefinitionValue}

def definitionParts (pattern : KeywordPattern) (line : Text) : Option (Text × Text) :=
  match trimStart (uncommented line) with
  | '-' :: item => do
    let (name,rest) ← quoted (trimStart item)
    let written ← Words.capture pattern.words (trimStart rest) fun word rest =>
      if isWordEdge word.getLast? rest.head? then oneLine (trimStart rest) else none
    return (name,written)
  | _ => none

def definitionReading (kind : DefinitionKind) (line : Text) (number : Nat) (name : Text) (value : DefinitionValue) :
    Reading :=
  .ofNode ⟨.definition kind,.ofContent line number,trim (uncommented line),.definition name value⟩
    (report (.ofContent line number) (if isName name then [] else [.invalidName (.definition kind) name]))

theorem readDefinition_parts (kind : DefinitionKind) (pattern : KeywordPattern) (line : Text) (number : Nat) :
    readDefinition kind pattern line number = (definitionParts pattern line).bind fun (name,written) =>
      (definitionValue kind (trim written)).map (definitionReading kind line number name) := by
  simp only [readDefinition,KeywordPattern.captureWith_words,definitionParts]
  generalize trimStart (uncommented line) = t
  cases t with
  | nil => rfl
  | cons c item =>
    by_cases dash : c = '-'
    · subst dash
      simp only [Option.bind_eq_bind,Option.bind_assoc,Option.map_eq_bind]
      rfl
    · simp [dash]

theorem definitionValue_regex (t : Text) : definitionValue .regex t = some found ↔
    definitionValue .constant t = some found ∧ ∃ inner, found = .text inner := by
  simp only [definitionValue]
  split
  · rename_i inner rest _
    cases allBlank rest with
    | false => simp
    | true =>
      constructor
      · rintro ⟨⟩
        exact ⟨rfl,inner,rfl⟩
      · exact And.left
  · constructor
    · rintro ⟨⟩
    · rintro ⟨same,inner,rfl⟩
      split at same <;> cases same

theorem definitionReading_retyped (line : Text) (number : Nat) (name : Text) (value : DefinitionValue) :
    (definitionReading .constant line number name value).retyped (.definition .regex) =
      definitionReading .regex line number name value := by
  simp only [definitionReading,Reading.retyped,Reading.ofNode,report]
  split <;> rfl

theorem definitionReading_quotes {line : Text} {number : Nat} :
    (definitionReading kind line number name found).Quotes ↔ ∃ inner, found = .text inner := by
  simp [Reading.Quotes,definitionReading,Reading.ofNode]

theorem readDefinition_twin {line : Text} {number : Nat} :
    readDefinition .regex pattern line number = some reading ↔
    ∃ twin, readDefinition .constant pattern line number = some twin ∧ twin.Quotes ∧
      reading = twin.retyped (.definition .regex) := by
  rw [readDefinition_parts,readDefinition_parts]
  cases definitionParts pattern line with
  | none => simp
  | some parts =>
    obtain ⟨name,written⟩ := parts
    simp only [Option.bind_some,Option.map_eq_some_iff]
    constructor
    · rintro ⟨found,read,rfl⟩
      obtain ⟨constant,quotes⟩ := (definitionValue_regex _).mp read
      exact ⟨_,⟨found,constant,rfl⟩,definitionReading_quotes.mpr quotes,(definitionReading_retyped _ _ _ _).symm⟩
    · rintro ⟨_,⟨found,constant,rfl⟩,quotes,rfl⟩
      have read := (definitionValue_regex _).mpr ⟨constant,definitionReading_quotes.mp quotes⟩
      exact ⟨found,read,(definitionReading_retyped _ _ _ _).symm⟩

inductive WrittenValue : Text → DefinitionValue → Prop where
  | text {inner : Text} : wellEscaped inner = true → '\n' ∉ inner → WrittenValue ('"' :: (inner ++ ['"'])) (.text inner)
  | number {numeral : Text} : isNumeral numeral = true → WrittenValue numeral (.number numeral)

-- A definition with its blanks, and the defining word in some letter case.
structure WrittenDefinition (dictionary : Dictionary) where
  name : Text
  own : Text
  word : Text
  value : Text
  found : DefinitionValue
  before : Gap
  first : Gap
  second : Gap
  third : Gap
  after : Gap
  named : isName name = true
  among : own ∈ dictionary.words .is
  same : word.map fold = own.map fold
  valued : WrittenValue value found
  apart : third.1 ≠ []

namespace WrittenDefinition

def behind (written : WrittenDefinition dictionary) : Text := written.value ++ written.after.1

def line (written : WrittenDefinition dictionary) : Text :=
  written.before.1 ++ '-' :: (written.first.1 ++ '"' :: (written.name ++ '"' ::
    (written.second.1 ++ (written.word ++ (written.third.1 ++ written.behind)))))

end WrittenDefinition

theorem numeral_chars (numeral : isNumeral value = true) : ∀ c ∈ value, c = '-' ∨ c = '.' ∨ isDigit c = true := by
  unfold isNumeral at numeral
  extract_lets magnitude fraction at numeral
  obtain ⟨_,shape⟩ := Bool.and_eq_true_iff.mp numeral
  have signed : ∀ c ∈ value, c = '-' ∨ c ∈ magnitude := by
    intro c member
    simp only [magnitude]
    split
    · exact List.mem_cons.mp member
    · exact .inr member
  have cut : fraction = magnitude.dropWhile isDigit := rfl
  clear_value fraction
  have pointed : ∀ c ∈ fraction, c = '.' ∨ isDigit c = true := by
    intro c member
    cases fraction with
    | nil => cases member
    | cons d digits =>
      simp only [Bool.and_eq_true,decide_eq_true_eq,isDigits] at shape
      rcases List.mem_cons.mp member with rfl | digit
      · exact .inl shape.1
      · exact .inr (List.all_eq_true.mp shape.2.2 c digit)
  intro c member
  refine (signed c member).imp_right fun inside => ?_
  rw [← List.takeWhile_append_dropWhile (p := isDigit) (l := magnitude)] at inside
  rcases List.mem_append.mp inside with whole | behind
  · exact .inr (List.all_eq_true.mp List.all_takeWhile c whole)
  · exact pointed c (cut ▸ behind)

theorem numeral_plain (numeral : isNumeral value = true) : '#' ∉ value ∧ '\n' ∉ value := by
  constructor
  · exact fun member => absurd (numeral_chars numeral '#' member) (by decide)
  · exact fun member => absurd (numeral_chars numeral '\n' member) (by decide)

namespace WrittenValue

theorem isValue (written : WrittenValue value found) : IsValue .constant value := by
  cases written with
  | text escaped => exact .inl ⟨_,escaped,rfl⟩
  | number numeral => exact .inr ⟨rfl,numeral⟩

theorem read (written : WrittenValue value found) : definitionValue .constant value = some found := by
  cases written with
  | text escaped => exact definitionValue_quoted escaped
  | number numeral => exact definitionValue_numeral numeral

theorem single (written : WrittenValue value found) : '\n' ∉ value := by
  cases written with
  | text _ clean => simp [clean]
  | number numeral => exact (numeral_plain numeral).2

theorem trimmed (written : WrittenValue value found) : trim value = value := by
  cases written with
  | text => exact trim_ends rfl quote_solid (by simp [List.getLast?_cons]) quote_solid
  | number numeral =>
    have solid : ∀ c ∈ value, isBlank c = false := by
      intro c member
      rcases numeral_chars numeral c member with rfl | rfl | digit
      · decide
      · decide
      · exact isDigit_solid digit
    obtain ⟨c,rest,rfl,_⟩ := numeral_head numeral
    have some : c :: rest ≠ [] := List.cons_ne_nil _ _
    exact trim_ends rfl (solid c List.mem_cons_self) (List.getLast?_eq_some_getLast some) (solid _ (List.getLast_mem some))

-- What opens no comment has no number sign, or a quote closes it.
theorem uncomments (written : WrittenValue value found) :
    '#' ∉ value ∨ value.getLast? = some '"' := by
  cases written with
  | text => exact .inr (by simp [List.getLast?_cons])
  | number numeral => exact .inl (numeral_plain numeral).1

end WrittenValue

theorem word_unsigned (active : dictionary ∈ Dictionary.builtin) {word own : Text} (among : own ∈ dictionary.words .is)
    (same : word.map fold = own.map fold) : '#' ∉ word := fun member =>
  absurd (Words.covered_plain (is_plain active among).2 same '#' member) (by decide)

namespace WrittenDefinition

variable (written : WrittenDefinition dictionary)

theorem uncomments (active : dictionary ∈ Dictionary.builtin) : uncommented written.line = written.line := by
  rcases written.valued.uncomments with plain | quote
  · have name : '#' ∉ written.name := fun member => absurd (name_chars written.named '#' member) (by decide)
    have word := word_unsigned active written.among written.same
    apply uncommented_unsigned
    simp [line,behind,plain,name,word,Gap.unsigned]
  · apply uncommented_closed
    obtain ⟨front,last⟩ := List.getLast?_eq_some_iff.mp quote
    obtain ⟨ahead,whole⟩ : ∃ ahead, written.line = ahead ++ written.value ++ written.after.1 :=
      ⟨written.before.1 ++ '-' :: (written.first.1 ++ '"' :: (written.name ++ '"' ::
        (written.second.1 ++ (written.word ++ written.third.1)))),by simp [line,behind]⟩
    rw [whole,trimEnd_blank written.after.2.1,last,← List.append_assoc,trimEnd_ends quote_solid,List.getLast?_concat]

end WrittenDefinition

-- Definitions are read as they are written, comment signs and quotes in them included.
-- Those of regular expressions are the quoted ones, and nothing else about them differs.
theorem definitions_verbatim :
    (∀ dictionary ∈ Dictionary.builtin, ∀ (written : WrittenDefinition dictionary) (number : Nat),
      reader dictionary (.definition .constant) written.line number = some (.ofNode ⟨.definition .constant,
        .ofContent written.line number,trim written.line,.definition written.name written.found⟩ [])) ∧
    ∀ (dictionary : Dictionary) (line : Text) (number : Nat) (reading : Reading),
      reader dictionary (.definition .regex) line number = some reading ↔
        ∃ twin, reader dictionary (.definition .constant) line number = some twin ∧ twin.Quotes ∧
          reading = twin.retyped (.definition .regex) := by
  refine ⟨?_,fun dictionary line number reading => readDefinition_twin⟩
  intro dictionary active written number
  obtain ⟨c,rest,start,solid⟩ := value_head written.valued.isValue
  have whole := written.uncomments active
  have content : trimStart (uncommented written.line) = '-' :: (written.first.1 ++ '"' :: (written.name ++ '"' ::
      (written.second.1 ++ (written.word ++ (written.third.1 ++ written.behind))))) := by
    rw [whole,WrittenDefinition.line,trimStart_blank written.before.2.1,trimStart_stays dash_solid]
  have single : '\n' ∉ written.behind := by
    rw [WrittenDefinition.behind,List.mem_append,not_or]
    exact ⟨written.valued.single,written.after.2.2⟩
  have stays : trimStart written.behind = written.behind := by
    rw [WrittenDefinition.behind,start,List.cons_append,trimStart_stays solid]
  have ending : trim written.behind = written.value :=
    (trim_around ⟨[],rfl⟩ written.after.blanks written.value).trans written.valued.trimmed
  have read := readDefinition_written active content written.named written.first.2.1 written.second.2.1
    written.among written.same written.third.2.1 written.apart single stays (ending.symm ▸ written.valued.read) number
  rwa [whole] at read

theorem definitions_verbatim_signs :
    let line := "\t-\"é 1\" É  \"# é \\\"\" ".toList
    let content := "-\"é 1\" É  \"# é \\\"\"".toList
    let data := NodeData.definition "é 1".toList (.text "# é \\\"".toList)
    reader .portuguese (.definition .constant) line 4 = some (.ofNode ⟨.definition .constant,⟨4,2⟩,content,data⟩ []) ∧
    reader .portuguese (.definition .regex) line 4 = some (.ofNode ⟨.definition .regex,⟨4,2⟩,content,data⟩ []) := by
  obtain ⟨verbatim,twins⟩ := definitions_verbatim
  have constant := verbatim .portuguese (by simp [Dictionary.builtin]) {
    name := "é 1".toList
    own := "é".toList
    word := "É".toList
    value := '"' :: ("# é \\\"".toList ++ ['"'])
    found := .text "# é \\\"".toList
    before := ⟨['\t'],by decide⟩
    first := ⟨[],by decide⟩
    second := ⟨[' '],by decide⟩
    third := ⟨[' ',' '],by decide⟩
    after := ⟨[' '],by decide⟩
    named := by decide
    among := by decide
    same := by decide
    valued := .text (by decide) (by decide)
    apart := List.cons_ne_nil _ _ } 4
  exact ⟨constant,(twins _ _ _ _).mpr ⟨_,constant,⟨_,_,rfl⟩,rfl⟩⟩

end Line
end ScenarioLang
