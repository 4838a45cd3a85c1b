import ScenarioLang.Document

namespace ScenarioLang

inductive Scope where
  | root | feature | background | scenario | variantBackground | variant | testCase
  | uiElement (inFeature : Bool) | database | table
  | block (kind : DefinitionKind) | event (kind : EventKind)
  deriving DecidableEq, Repr

def changeLast (change : α → α) : List α → List α
  | [] => []
  | [a] => [change a]
  | a :: rest => a :: changeLast change rest

namespace Document

def currentScenario? (doc : Document) : Option Scenario :=
  doc.feature.bind fun feature => feature.scenarios.getLast?

def currentVariant? (doc : Document) : Option Variant :=
  doc.currentScenario?.bind fun scenario => scenario.variants.getLast?

def currentTestCase? (doc : Document) : Option TestCase := doc.testCases.getLast?

def currentUiElement? (doc : Document) : Scope → Option UiElement
  | .uiElement true => doc.feature.bind fun feature => feature.uiElements.getLast?
  | .uiElement false => doc.uiElements.getLast?
  | _ => none

def currentDatabase? (doc : Document) : Scope → Option Database
  | .database => doc.databases.getLast?
  | _ => none

def currentTable? (doc : Document) : Scope → Option Table
  | .table => doc.tables.getLast?
  | _ => none

def currentBlock? (doc : Document) : Scope → Option Block
  | .block kind => doc.blocks kind
  | _ => none

def openSteps? (doc : Document) : Scope → Option (List Node)
  | .background => (doc.feature.bind Feature.background).map Background.steps
  | .scenario => doc.currentScenario?.map Scenario.steps
  | .variantBackground => (doc.currentScenario?.bind Scenario.background).map Background.steps
  | .variant => doc.currentVariant?.map Variant.steps
  | .testCase => doc.currentTestCase?.map TestCase.steps
  | .event kind => (doc.events kind).map TestEvent.steps
  | _ => none

def changeFeature (change : Feature → Feature) (doc : Document) : Document :=
  { doc with feature := doc.feature.map change }

def changeScenario (change : Scenario → Scenario) : Document → Document :=
  changeFeature fun feature => { feature with scenarios := changeLast change feature.scenarios }

def changeVariant (change : Variant → Variant) : Document → Document :=
  changeScenario fun scenario => { scenario with variants := changeLast change scenario.variants }

def setBlock (kind : DefinitionKind) (block : Block) (doc : Document) : Document :=
  { doc with blocks := fun k => if k = kind then some block else doc.blocks k }

def setEvent (kind : EventKind) (event : TestEvent) (doc : Document) : Document :=
  { doc with events := fun k => if k = kind then some event else doc.events k }

def addStep (node : Node) (doc : Document) : Scope → Document
  | .background =>
    doc.changeFeature fun feature =>
      { feature with background := feature.background.map fun b => { b with steps := b.steps ++ [node] } }
  | .scenario => doc.changeScenario fun s => { s with steps := s.steps ++ [node] }
  | .variantBackground =>
    doc.changeScenario fun s =>
      { s with background := s.background.map fun b => { b with steps := b.steps ++ [node] } }
  | .variant => doc.changeVariant fun v => { v with steps := v.steps ++ [node] }
  | .testCase =>
    { doc with testCases := changeLast (fun t => { t with steps := t.steps ++ [node] }) doc.testCases }
  | .event kind =>
    { doc with events := fun k =>
        if k = kind then (doc.events k).map fun e => { e with steps := e.steps ++ [node] } else doc.events k }
  | _ => doc

def addUiProperty (node : Node) (doc : Document) : Scope → Document
  | .uiElement true =>
    doc.changeFeature fun feature =>
      { feature with
        uiElements := changeLast (fun e => { e with properties := e.properties ++ [node] }) feature.uiElements }
  | .uiElement false =>
    { doc with
      uiElements := changeLast (fun e => { e with properties := e.properties ++ [node] }) doc.uiElements }
  | _ => doc

def addDatabaseProperty (node : Node) (doc : Document) : Document :=
  { doc with databases := changeLast (fun d => { d with properties := d.properties ++ [node] }) doc.databases }

def addTableRow (node : Node) (doc : Document) : Document :=
  { doc with tables := changeLast (fun t => { t with rows := t.rows ++ [node] }) doc.tables }

def addDefinition (node : Node) (kind : DefinitionKind) (doc : Document) : Document :=
  { doc with blocks := fun k =>
      if k = kind then (doc.blocks k).map fun b => { b with items := b.items ++ [node] } else doc.blocks k }

def addUiElement (element : UiElement) (doc : Document) : Document :=
  if doc.feature.isSome then
    doc.changeFeature fun feature => { feature with uiElements := feature.uiElements ++ [element] }
  else { doc with uiElements := doc.uiElements ++ [element] }

end Document
end ScenarioLang
