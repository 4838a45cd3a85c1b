import ScenarioLang.Text
import ScenarioLang.NodeType

namespace ScenarioLang

inductive Keyword where
  | language | importPath | feature | background | variantBackground | scenario | variant | testCase
  | block (kind : DefinitionKind) | table | database | uiElement
  | event (kind : EventKind) | step (kind : StepKind)
  | is | tag (meaning : TagMeaning)
  deriving DecidableEq, Repr

namespace Keyword

def all : List Keyword :=
  [language, importPath, feature, background, variantBackground, scenario, variant, testCase,
   block .constant, block .regex, table, database, uiElement] ++
  EventKind.all.map event ++ StepKind.all.map step ++ [is] ++ TagMeaning.all.map tag

def key : Keyword → String
  | language => "language"
  | importPath => "import"
  | feature => "feature"
  | background => "background"
  | variantBackground => "variantBackground"
  | scenario => "scenario"
  | variant => "variant"
  | testCase => "testCase"
  | block .constant => "constantBlock"
  | block .regex => "regexBlock"
  | table => "table"
  | database => "database"
  | uiElement => "uiElement"
  | event .beforeAll => "beforeAll"
  | event .afterAll => "afterAll"
  | event .beforeFeature => "beforeFeature"
  | event .afterFeature => "afterFeature"
  | event .beforeEachScenario => "beforeEachScenario"
  | event .afterEachScenario => "afterEachScenario"
  | step .given => "stepGiven"
  | step .action => "stepWhen"
  | step .outcome => "stepThen"
  | step .also => "stepAnd"
  | step .otherwise => "stepOtherwise"
  | is => "is"
  | tag .feature => "tagFeature"
  | tag .scenario => "tagScenario"
  | tag .variant => "tagVariant"
  | tag .generated => "tagGenerated"
  | tag .fail => "tagFail"
  | tag .ignore => "tagIgnore"
  | tag .everywhere => "tagGlobal"
  | tag .importance => "tagImportance"
  | tag .validValuesOnly => "tagGenerateOnlyValidValues"

end Keyword

structure Dictionary where
  language : Text
  words : Keyword → List Text

-- Why a language has no dictionary. The reader's own complaint about a
-- malformed file is not part of the message.
inductive DictionaryError where
  | notFound (language : Text)
  | invalid (language : Text)
  | unreadable (path : Text) (reason : String)
  deriving DecidableEq, Repr

def DictionaryError.message : DictionaryError → String
  | notFound language => s!"no dictionary available for language \"{String.ofList language}\""
  | invalid language => s!"invalid dictionary for language \"{String.ofList language}\": <json error>"
  | unreadable path reason => s!"could not read dictionary {String.ofList path}: {reason}"

-- What asking for a dictionary ends in. A source may break down instead of
-- answering; whoever asked must then be brought back into a known state.
inductive Lookup where
  | found (dictionary : Dictionary)
  | failed (error : DictionaryError)
  | crashed

abbrev DictionarySource := Text → Lookup

end ScenarioLang
