import ScenarioLang.Node
import ScenarioLang.Path

namespace ScenarioLang

structure FileInfo where
  path : Path
  hash : Text
  deriving DecidableEq, Repr

structure Background where
  node : Node
  steps : List Node
  deriving DecidableEq, Repr

structure Variant where
  node : Node
  tags : List Node
  description : List Node
  steps : List Node
  deriving DecidableEq, Repr

structure Scenario where
  node : Node
  tags : List Node
  description : List Node
  background : Option Background
  steps : List Node
  variants : List Variant
  deriving DecidableEq, Repr

structure UiElement where
  node : Node
  tags : List Node
  properties : List Node
  deriving DecidableEq, Repr

structure Feature where
  node : Node
  tags : List Node
  description : List Node
  background : Option Background
  scenarios : List Scenario
  uiElements : List UiElement
  deriving DecidableEq, Repr

structure TestCase where
  node : Node
  tags : List Node
  description : List Node
  steps : List Node
  deriving DecidableEq, Repr

structure Database where
  node : Node
  properties : List Node
  deriving DecidableEq, Repr

structure Table where
  node : Node
  rows : List Node
  deriving DecidableEq, Repr

structure Block where
  node : Node
  items : List Node
  deriving DecidableEq, Repr

structure TestEvent where
  node : Node
  steps : List Node
  deriving DecidableEq, Repr

-- The tree of one file. There is at most one block of each kind and one event
-- of each kind. UI elements stand here when they were declared before the
-- feature, and in the feature otherwise.
structure Document where
  fileInfo : Option FileInfo
  language : Option Node
  imports : List Node
  feature : Option Feature
  uiElements : List UiElement
  databases : List Database
  tables : List Table
  blocks : DefinitionKind → Option Block
  events : EventKind → Option TestEvent
  testCases : List TestCase

namespace Document

def empty : Document := ⟨none,none,[],none,[],[],[],fun _ => none,fun _ => none,[]⟩

def ofFile (info : FileInfo) : Document := { empty with fileInfo := some info }

def languageCode? (doc : Document) : Option Text := doc.language.bind Node.value?

def importValues (doc : Document) : List Text := doc.imports.filterMap Node.value?

end Document
end ScenarioLang
