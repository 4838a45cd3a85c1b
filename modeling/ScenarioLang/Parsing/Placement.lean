import ScenarioLang.Parsing.Scope

namespace ScenarioLang

inductive PlacementFault where
  | repeatedLanguage
  | duplicateImport (value : Text)
  | secondFeature
  | backgroundOutsideFeature | secondBackground | backgroundAfterScenarios
  | scenarioOutsideFeature
  | variantBackgroundOutsideScenario | secondVariantBackground | variantBackgroundAfterVariants
  | variantOutsideScenario
  | stepOutsideContainer (kind : StepKind)
  | stepWithoutPredecessor (kind : StepKind)
  | secondBlock (kind : DefinitionKind)
  | definitionOutsideBlock (kind : DefinitionKind)
  | duplicateDefinition (kind : DefinitionKind) (name : Text)
  | rowOutsideTable | propertyOutsideDatabase | propertyOutsideUiElement
  | eventOutsideFeature (kind : EventKind)
  | secondEvent (kind : EventKind)
  deriving DecidableEq, Repr

def PlacementFault.message : PlacementFault → String
  | repeatedLanguage => "Language is already declared"
  | duplicateImport value => s!"Duplicate import: \"{String.ofList value}\""
  | secondFeature => "Only one Feature is allowed per file"
  | backgroundOutsideFeature => "Background must be declared after a Feature"
  | secondBackground => "Only one Background is allowed per Feature"
  | backgroundAfterScenarios => "Background must be declared before the Scenarios"
  | scenarioOutsideFeature => "Scenario must be declared after a Feature"
  | variantBackgroundOutsideScenario => "Variant Background must be declared after a Scenario"
  | secondVariantBackground => "Only one Variant Background is allowed per Scenario"
  | variantBackgroundAfterVariants => "Variant Background must be declared before the Variants"
  | variantOutsideScenario => "Variant must be declared after a Scenario"
  | stepOutsideContainer kind =>
    s!"{kind.name} step must be inside a Background, Scenario, Variant, Test Case or test event"
  | stepWithoutPredecessor kind => s!"{kind.name} step must follow another step"
  | secondBlock kind => s!"Only one {kind.blockName} block is allowed per file"
  | definitionOutsideBlock kind => s!"{kind.itemName} must be declared inside a {kind.blockName} block"
  | duplicateDefinition kind name => s!"Duplicate {kind.itemName}: \"{String.ofList name}\""
  | rowOutsideTable => "Table Row must be declared inside a Table"
  | propertyOutsideDatabase => "Database Property must be declared inside a Database"
  | propertyOutsideUiElement => "UI Property must be declared inside a UI Element"
  | eventOutsideFeature kind => s!"{kind.name} must be declared after a Feature"
  | secondEvent kind => s!"Only one {kind.name} is allowed per file"

structure SyntacticError where
  fault : PlacementFault
  location : Location
  deriving DecidableEq, Repr

def SyntacticError.message (error : SyntacticError) : String := error.fault.message

structure Site where
  doc : Document
  scope : Scope

-- Text, tags and long string delimiters have no place of their own. Text and
-- tags are taken by the headers next to them.
def NodeType.isPlaced : NodeType → Bool
  | .tag | .text | .longString => false
  | _ => true

def NodeType.isDescribed : NodeType → Bool
  | .feature | .scenario | .variant | .testCase => true
  | _ => false

namespace Site

def start (doc : Document) : Site := ⟨doc,.root⟩

def placeBackground (site : Site) (node : Node) : Except PlacementFault Site :=
  match site.doc.feature with
  | none => .error .backgroundOutsideFeature
  | some feature =>
    if feature.background.isSome then .error .secondBackground
    else if !feature.scenarios.isEmpty then .error .backgroundAfterScenarios
    else .ok ⟨site.doc.changeFeature fun f => { f with background := some ⟨node,[]⟩ },.background⟩

def placeVariantBackground (site : Site) (node : Node) : Except PlacementFault Site :=
  match site.doc.currentScenario? with
  | none => .error .variantBackgroundOutsideScenario
  | some scenario =>
    if scenario.background.isSome then .error .secondVariantBackground
    else if !scenario.variants.isEmpty then .error .variantBackgroundAfterVariants
    else .ok ⟨site.doc.changeScenario fun s => { s with background := some ⟨node,[]⟩ },.variantBackground⟩

def placeStep (site : Site) (kind : StepKind) (node : Node) : Except PlacementFault Site :=
  match site.doc.openSteps? site.scope with
  | none => .error (.stepOutsideContainer kind)
  | some steps =>
    if kind.continues && steps.isEmpty then .error (.stepWithoutPredecessor kind)
    else .ok ⟨site.doc.addStep node site.scope,site.scope⟩

-- A name stands once in its block. A node without a name has the empty one.
def placeDefinition (site : Site) (kind : DefinitionKind) (node : Node) : Except PlacementFault Site :=
  match (if site.scope = .block kind then site.doc.currentBlock? site.scope else none) with
  | none => .error (.definitionOutsideBlock kind)
  | some block =>
    let name := node.name?.getD []
    if block.items.any fun item => item.name? = some name then .error (.duplicateDefinition kind name)
    else .ok ⟨site.doc.addDefinition node kind,site.scope⟩

def placeEvent (site : Site) (kind : EventKind) (node : Node) : Except PlacementFault Site :=
  if kind.needsFeature && site.doc.feature.isNone then .error (.eventOutsideFeature kind)
  else if (site.doc.events kind).isSome then .error (.secondEvent kind)
  else .ok ⟨site.doc.setEvent kind ⟨node,[]⟩,.event kind⟩

def placeImport (site : Site) (node : Node) : Except PlacementFault Site :=
  let value := node.value?.getD []
  if site.doc.importValues.contains value then .error (.duplicateImport value)
  else .ok ⟨{ site.doc with imports := site.doc.imports ++ [node] },site.scope⟩

-- Puts a node into the document with the tags before it and the description
-- after it, where it may have them. Headers open their scope; a refused node
-- changes nothing.
def place (site : Site) (node : Node) (tags description : List Node) : Except PlacementFault Site :=
  let doc := site.doc
  match node.type with
  | .language =>
    if doc.language.isSome then .error .repeatedLanguage
    else .ok ⟨{ doc with language := some node },site.scope⟩
  | .importPath => site.placeImport node
  | .feature =>
    if doc.feature.isSome then .error .secondFeature
    else .ok ⟨{ doc with feature := some ⟨node,tags,description,none,[],[]⟩ },.feature⟩
  | .background => site.placeBackground node
  | .scenario =>
    if doc.feature.isNone then .error .scenarioOutsideFeature
    else .ok ⟨doc.changeFeature fun feature =>
      { feature with scenarios := feature.scenarios ++ [⟨node,tags,description,none,[],[]⟩] },.scenario⟩
  | .variantBackground => site.placeVariantBackground node
  | .variant =>
    if doc.currentScenario?.isNone then .error .variantOutsideScenario
    else .ok ⟨doc.changeScenario fun scenario =>
      { scenario with variants := scenario.variants ++ [⟨node,tags,description,[]⟩] },.variant⟩
  | .testCase => .ok ⟨{ doc with testCases := doc.testCases ++ [⟨node,tags,description,[]⟩] },.testCase⟩
  | .block kind =>
    if (doc.blocks kind).isSome then .error (.secondBlock kind)
    else .ok ⟨doc.setBlock kind ⟨node,[]⟩,.block kind⟩
  | .definition kind => site.placeDefinition kind node
  | .table => .ok ⟨{ doc with tables := doc.tables ++ [⟨node,[]⟩] },.table⟩
  | .tableRow =>
    if (doc.currentTable? site.scope).isNone then .error .rowOutsideTable
    else .ok ⟨doc.addTableRow node,site.scope⟩
  | .database => .ok ⟨{ doc with databases := doc.databases ++ [⟨node,[]⟩] },.database⟩
  | .databaseProperty =>
    if (doc.currentDatabase? site.scope).isNone then .error .propertyOutsideDatabase
    else .ok ⟨doc.addDatabaseProperty node,site.scope⟩
  | .uiElement => .ok ⟨doc.addUiElement ⟨node,tags,[]⟩,.uiElement doc.feature.isSome⟩
  | .uiProperty =>
    if (doc.currentUiElement? site.scope).isNone then .error .propertyOutsideUiElement
    else .ok ⟨doc.addUiProperty node site.scope,site.scope⟩
  | .event kind => site.placeEvent kind node
  | .step kind => site.placeStep kind node
  | .tag | .text | .longString => .ok site

end Site
end ScenarioLang
