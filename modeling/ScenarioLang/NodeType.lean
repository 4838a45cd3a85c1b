namespace ScenarioLang

inductive EventKind where
  | beforeAll | afterAll | beforeFeature | afterFeature | beforeEachScenario | afterEachScenario
  deriving DecidableEq, Repr

inductive StepKind where
  | given | action | outcome | also | otherwise
  deriving DecidableEq, Repr

inductive DefinitionKind where
  | constant | regex
  deriving DecidableEq, Repr

inductive TagMeaning where
  | feature | scenario | variant | generated | fail | ignore | everywhere | importance
  | validValuesOnly
  deriving DecidableEq, Repr

inductive NodeType where
  | language | importPath | tag
  | feature | background | variantBackground | scenario | variant | testCase
  | block (kind : DefinitionKind) | definition (kind : DefinitionKind)
  | table | tableRow | database | databaseProperty | uiElement | uiProperty
  | event (kind : EventKind) | step (kind : StepKind)
  | text | longString
  deriving DecidableEq, Repr

namespace EventKind

def all : List EventKind :=
  [beforeAll, afterAll, beforeFeature, afterFeature, beforeEachScenario, afterEachScenario]

def needsFeature : EventKind → Bool
  | beforeAll | afterAll => false
  | _ => true

def code : EventKind → String
  | beforeAll => "beforeAll"
  | afterAll => "afterAll"
  | beforeFeature => "beforeFeature"
  | afterFeature => "afterFeature"
  | beforeEachScenario => "beforeEachScenario"
  | afterEachScenario => "afterEachScenario"

def name : EventKind → String
  | beforeAll => "Before All"
  | afterAll => "After All"
  | beforeFeature => "Before Feature"
  | afterFeature => "After Feature"
  | beforeEachScenario => "Before Each Scenario"
  | afterEachScenario => "After Each Scenario"

end EventKind

namespace StepKind

def all : List StepKind := [given, action, outcome, also, otherwise]

def continues : StepKind → Bool
  | also | otherwise => true
  | _ => false

def code : StepKind → String
  | given => "stepGiven"
  | action => "stepWhen"
  | outcome => "stepThen"
  | also => "stepAnd"
  | otherwise => "stepOtherwise"

def name : StepKind → String
  | given => "Given"
  | action => "When"
  | outcome => "Then"
  | also => "And"
  | otherwise => "Otherwise"

end StepKind

namespace DefinitionKind

def blockCode : DefinitionKind → String
  | constant => "constantBlock"
  | regex => "regexBlock"

def itemCode : DefinitionKind → String
  | constant => "constant"
  | regex => "regex"

def blockName : DefinitionKind → String
  | constant => "Constants"
  | regex => "Regular Expressions"

def itemName : DefinitionKind → String
  | constant => "Constant"
  | regex => "Regular Expression"

end DefinitionKind

namespace TagMeaning

def all : List TagMeaning :=
  [feature, scenario, variant, generated, fail, ignore, everywhere, importance, validValuesOnly]

def code : TagMeaning → String
  | feature => "feature"
  | scenario => "scenario"
  | variant => "variant"
  | generated => "generated"
  | fail => "fail"
  | ignore => "ignore"
  | everywhere => "global"
  | importance => "importance"
  | validValuesOnly => "generateOnlyValidValues"

end TagMeaning

namespace NodeType

def all : List NodeType :=
  [language, importPath, tag, feature, background, variantBackground, scenario, variant, testCase,
   block .constant, definition .constant, block .regex, definition .regex, table, tableRow,
   database, databaseProperty, uiElement, uiProperty] ++
  EventKind.all.map event ++ StepKind.all.map step ++ [text, longString]

def code : NodeType → String
  | language => "language"
  | importPath => "import"
  | tag => "tag"
  | feature => "feature"
  | background => "background"
  | variantBackground => "variantBackground"
  | scenario => "scenario"
  | variant => "variant"
  | testCase => "testCase"
  | block kind => kind.blockCode
  | definition kind => kind.itemCode
  | table => "table"
  | tableRow => "tableRow"
  | database => "database"
  | databaseProperty => "databaseProperty"
  | uiElement => "uiElement"
  | uiProperty => "uiProperty"
  | event kind => kind.code
  | step kind => kind.code
  | text => "text"
  | longString => "longString"

def name : NodeType → String
  | language => "Language"
  | importPath => "Import"
  | tag => "Tag"
  | feature => "Feature"
  | background => "Background"
  | variantBackground => "Variant Background"
  | scenario => "Scenario"
  | variant => "Variant"
  | testCase => "Test Case"
  | block kind => kind.blockName
  | definition kind => kind.itemName
  | table => "Table"
  | tableRow => "Table Row"
  | database => "Database"
  | databaseProperty => "Database Property"
  | uiElement => "UI Element"
  | uiProperty => "UI Property"
  | event kind => kind.name
  | step kind => kind.name
  | text => "Text"
  | longString => "Long String"

def isStep : NodeType → Bool
  | step _ => true
  | _ => false

def event? : NodeType → Option EventKind
  | event kind => some kind
  | _ => none

end NodeType
end ScenarioLang
