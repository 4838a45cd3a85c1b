import ScenarioLang.Line.Item
import ScenarioLang.Line.Header
import ScenarioLang.Line.Tag

namespace ScenarioLang

-- A reader of one kind of line with the words it holds. A line that is told by its signs
-- alone needs none.
inductive NodeLexer where
  | longString
  | language (pattern : KeywordPattern)
  | importPath (pattern : KeywordPattern)
  | tag (reserved : List Line.TagNames)
  | named (type : NodeType) (pattern : KeywordPattern)
  | numbered (type : NodeType) (pattern : KeywordPattern)
  | block (type : NodeType) (pattern : KeywordPattern)
  | step (type : NodeType) (pattern : KeywordPattern)
  | definition (kind : DefinitionKind) (pattern : KeywordPattern)
  | tableRow
  | item (type : NodeType)
  | text

namespace NodeLexer

def type : NodeLexer → NodeType
  | longString => .longString
  | language _ => .language
  | importPath _ => .importPath
  | tag _ => .tag
  | named type _ | numbered type _ | block type _ | step type _ | item type => type
  | definition kind _ => .definition kind
  | tableRow => .tableRow
  | text => .text

def read : NodeLexer → LineReader
  | longString => Line.readDelimiter
  | language pattern => Line.readLanguage pattern
  | importPath pattern => Line.readImport pattern
  | tag reserved => Line.readTags reserved
  | named type pattern => Line.readNamed type pattern
  | numbered type pattern => Line.readNumbered type pattern
  | block type pattern => Line.readBlock type pattern
  | step type pattern => Line.readStep type pattern
  | definition kind pattern => Line.readDefinition kind pattern
  | tableRow => Line.readTableRow
  | item type => Line.readItem type
  | text => Line.readText

-- The language line keeps its universal word in every language.
def updateWords (dictionary : Dictionary) : NodeLexer → NodeLexer
  | language pattern => language (pattern.setWords (dictionary.words .language ++ [Line.universalLanguageWord]))
  | importPath pattern => importPath (pattern.rebind dictionary)
  | tag reserved => tag (reserved.map fun tags => tags.updateWords dictionary)
  | named type pattern => named type (pattern.rebind dictionary)
  | numbered type pattern => numbered type (pattern.rebind dictionary)
  | block type pattern => block type (pattern.rebind dictionary)
  | step type pattern => step type (pattern.rebind dictionary)
  | definition kind pattern => definition kind (pattern.rebind dictionary)
  | longString => longString
  | tableRow => tableRow
  | item type => item type
  | text => text

def ofDictionary (dictionary : Dictionary) : NodeType → NodeLexer
  | .longString => longString
  | .language => updateWords dictionary (language (.ofDictionary .language dictionary))
  | .importPath => importPath (.ofDictionary .importPath dictionary)
  | .tag => tag (TagMeaning.all.map (.ofDictionary dictionary))
  | .feature => named .feature (.ofDictionary .feature dictionary)
  | .background => block .background (.ofDictionary .background dictionary)
  | .variantBackground => block .variantBackground (.ofDictionary .variantBackground dictionary)
  | .scenario => named .scenario (.ofDictionary .scenario dictionary)
  | .variant => numbered .variant (.ofDictionary .variant dictionary)
  | .testCase => named .testCase (.ofDictionary .testCase dictionary)
  | .block kind => block (.block kind) (.ofDictionary (.block kind) dictionary)
  | .definition kind => definition kind (.ofDictionary .is dictionary)
  | .table => named .table (.ofDictionary .table dictionary)
  | .tableRow => tableRow
  | .database => named .database (.ofDictionary .database dictionary)
  | .databaseProperty => item .databaseProperty
  | .uiElement => named .uiElement (.ofDictionary .uiElement dictionary)
  | .uiProperty => item .uiProperty
  | .event kind => block (.event kind) (.ofDictionary (.event kind) dictionary)
  | .step kind => step (.step kind) (.ofDictionary (.step kind) dictionary)
  | .text => text

end NodeLexer

namespace Line

def priority : List NodeType :=
  [.longString, .language, .importPath, .tag, .feature, .background, .variantBackground, .scenario,
   .variant, .testCase, .block .constant, .block .regex, .table, .database, .uiElement] ++
  EventKind.all.map .event ++ StepKind.all.map .step ++
  [.definition .constant, .definition .regex, .tableRow, .uiProperty, .databaseProperty, .text]

-- Types that usually come next. They are tried first, which is what tells the
-- items of different blocks apart. Text is never among them: it would also take
-- the delimiter of a long string.
def followers : NodeType → List NodeType
  | .language | .importPath => [.importPath, .tag, .feature]
  | .tag => [.tag, .feature, .scenario, .variant, .testCase, .uiElement]
  | .feature => [.background, .scenario]
  | .background | .variantBackground | .scenario | .variant | .testCase | .event _ => [.step .given]
  | .step .given => [.step .also, .step .action, .step .outcome]
  | .step .action => [.step .also, .step .outcome]
  | .step .outcome => [.step .also, .step .otherwise]
  | .step .also => [.step .also, .step .action, .step .outcome, .step .otherwise]
  | .step .otherwise => [.step .also]
  | .block kind | .definition kind => [.definition kind]
  | .table | .tableRow => [.tableRow]
  | .database | .databaseProperty => [.databaseProperty]
  | .uiElement | .uiProperty => [.uiProperty]
  | .text | .longString => []

def reader (dictionary : Dictionary) (type : NodeType) : LineReader := (NodeLexer.ofDictionary dictionary type).read

def firstReading (dictionary : Dictionary) (types : List NodeType) (line : Text) (number : Nat) :
    Option (NodeType × Reading) :=
  types.findSome? fun type => (reader dictionary type line number).map fun reading => (type,reading)

end Line

def NodeLexer.standard (dictionary : Dictionary) : List NodeLexer := Line.priority.map (ofDictionary dictionary)

theorem NodeLexer.updateWords_ofDictionary (old new : Dictionary) (type : NodeType) :
    (ofDictionary old type).updateWords new = ofDictionary new type := by
  cases type with
  | tag => simp [ofDictionary,updateWords,Line.TagNames.ofDictionary,Line.TagNames.updateWords]
  | _ => rfl

-- The readers of a lexer. They are bound one by one, and each time to the same dictionary:
-- whatever words they held, they are then as if made for it.
structure Lexers where
  readers : List NodeLexer
  dictionary : Dictionary
  bound : readers = NodeLexer.standard dictionary

namespace Lexers

def standard (dictionary : Dictionary) : Lexers := ⟨NodeLexer.standard dictionary,dictionary,rfl⟩

def bind (lexers : Lexers) (dictionary : Dictionary) : Lexers where
  readers := lexers.readers.map fun lexer => lexer.updateWords dictionary
  dictionary := dictionary
  bound := by
    rw [lexers.bound,NodeLexer.standard,NodeLexer.standard,List.map_map]
    exact List.map_congr_left fun type _ => NodeLexer.updateWords_ofDictionary lexers.dictionary dictionary type

def ofType? (lexers : Lexers) (type : NodeType) : Option NodeLexer :=
  lexers.readers.find? fun lexer => lexer.type = type

def firstReading (lexers : Lexers) (suggested : List NodeType) (line : Text) (number : Nat) :
    Option (NodeType × Reading) :=
  (suggested.filterMap lexers.ofType? ++ lexers.readers).findSome? fun lexer =>
    (lexer.read line number).map fun reading => (lexer.type,reading)

end Lexers
end ScenarioLang
