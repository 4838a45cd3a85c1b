import Mathlib.Data.List.Basic
import Mathlib.Logic.Function.Basic
import ScenarioLang.Parsing

namespace ScenarioLang

theorem changeLast_eq_modify (change : α → α) (l : List α) :
    changeLast change l = l.modify (l.length - 1) change := by
  fun_induction changeLast change l with
  | case1 => rfl
  | case2 a => rfl
  | case3 a rest more ih =>
    cases rest with
    | nil => exact absurd rfl more
    | cons b rest => simp [ih,List.modify_succ_cons]

theorem map_changeLast (g : α → β) (change : α → α) (h : β → β) (l : List α)
    (square : ∀ a, g (change a) = h (g a)) : (changeLast change l).map g = changeLast h (l.map g) := by
  fun_induction changeLast change l with
  | case1 => rfl
  | case2 a => simp [changeLast,square]
  | case3 a rest more ih =>
    cases rest with
    | nil => exact absurd rfl more
    | cons b rest => simpa [changeLast] using ih

theorem map_changeLast_eq (g : α → β) (change : α → α) (l : List α)
    (same : ∀ a, g (change a) = g a) : (changeLast change l).map g = l.map g := by
  fun_induction changeLast change l with
  | case1 => rfl
  | case2 a => simp [same]
  | case3 a rest more ih => simp [ih]

@[simp] theorem length_changeLast (change : α → α) (l : List α) : (changeLast change l).length = l.length := by
  simp [changeLast_eq_modify]

theorem getElem?_changeLast (change : α → α) (l : List α) (i : Nat) :
    (changeLast change l)[i]? = if i = l.length - 1 then l[i]?.map change else l[i]? := by
  rw [changeLast_eq_modify,List.getElem?_modify]
  by_cases last : l.length - 1 = i
  · simp [last]
  · simp [last,Ne.symm last]

@[simp] theorem changeLast_eq_nil {change : α → α} {l : List α} : changeLast change l = [] ↔ l = [] := by
  rw [← List.length_eq_zero_iff,length_changeLast,List.length_eq_zero_iff]

theorem changeLast_concat (change : α → α) (front : List α) (last : α) :
    changeLast change (front ++ [last]) = front ++ [change last] := by
  induction front with
  | nil => rfl
  | cons first rest ih =>
    rw [List.cons_append,changeLast,ih,List.cons_append]
    simp

structure Container where
  node : Node
  tags : List Node
  description : List Node
  children : List Node
  deriving DecidableEq, Repr

-- The lists of containers in a document. Where a document holds at most one
-- container the list has at most one element.
inductive Family where
  | feature | background | scenario | variantBackground (scenario : Nat) | variant (scenario : Nat)
  | testCase | uiElement (inFeature : Bool) | database | table
  | block (kind : DefinitionKind) | event (kind : EventKind)
  deriving DecidableEq, Repr

def Container.add (node : Node) (container : Container) : Container :=
  { container with children := container.children ++ [node] }

def Background.container (b : Background) : Container := ⟨b.node,[],[],b.steps⟩
def Variant.container (v : Variant) : Container := ⟨v.node,v.tags,v.description,v.steps⟩
def Scenario.container (s : Scenario) : Container := ⟨s.node,s.tags,s.description,s.steps⟩
def UiElement.container (e : UiElement) : Container := ⟨e.node,e.tags,[],e.properties⟩
def Feature.container (f : Feature) : Container := ⟨f.node,f.tags,f.description,[]⟩
def TestCase.container (t : TestCase) : Container := ⟨t.node,t.tags,t.description,t.steps⟩
def Database.container (d : Database) : Container := ⟨d.node,[],[],d.properties⟩
def Table.container (t : Table) : Container := ⟨t.node,[],[],t.rows⟩
def Block.container (b : Block) : Container := ⟨b.node,[],[],b.items⟩
def TestEvent.container (e : TestEvent) : Container := ⟨e.node,[],[],e.steps⟩

def Scenario.backgrounds (s : Scenario) : List Container := s.background.toList.map Background.container
def Scenario.variantContainers (s : Scenario) : List Container := s.variants.map Variant.container

namespace Document

def background? (doc : Document) : Option Background := doc.feature.bind Feature.background
def scenarios (doc : Document) : List Scenario := (doc.feature.map Feature.scenarios).getD []
def featureUiElements (doc : Document) : List UiElement := (doc.feature.map Feature.uiElements).getD []

def containers (doc : Document) : Family → List Container
  | .feature => doc.feature.toList.map Feature.container
  | .background => doc.background?.toList.map Background.container
  | .scenario => doc.scenarios.map Scenario.container
  | .variantBackground i => (doc.scenarios[i]?.map Scenario.backgrounds).getD []
  | .variant i => (doc.scenarios[i]?.map Scenario.variantContainers).getD []
  | .testCase => doc.testCases.map TestCase.container
  | .uiElement true => doc.featureUiElements.map UiElement.container
  | .uiElement false => doc.uiElements.map UiElement.container
  | .database => doc.databases.map Database.container
  | .table => doc.tables.map Table.container
  | .block kind => (doc.blocks kind).toList.map Block.container
  | .event kind => (doc.events kind).toList.map TestEvent.container

end Document

-- A document as nothing but lists: the declared language, the imports, and the
-- containers of each family.
@[ext]
structure Layout where
  language : List Node
  imports : List Node
  containers : Family → List Container

def Document.layout (doc : Document) : Layout := ⟨doc.language.toList,doc.imports,doc.containers⟩

-- What one accepted node adds. A header opens a container behind the others of
-- its family; a child joins the last container of a family.
inductive Effect where
  | nothing | declares | includes | opens (family : Family) | joins (family : Family)
  deriving DecidableEq, Repr

def NodeType.isTagged : NodeType → Bool
  | .feature | .scenario | .variant | .testCase | .uiElement => true
  | _ => false

def Container.header (node : Node) (tags description : List Node) : Container :=
  ⟨node,if node.type.isTagged then tags else [],if node.type.isDescribed then description else [],[]⟩

namespace Layout

def change (family : Family) (change : List Container → List Container) (layout : Layout) : Layout :=
  { layout with containers := Function.update layout.containers family (change (layout.containers family)) }

def after (layout : Layout) (node : Node) (tags description : List Node) : Effect → Layout
  | .nothing => layout
  | .declares => { layout with language := layout.language ++ [node] }
  | .includes => { layout with imports := layout.imports ++ [node] }
  | .opens family => layout.change family (· ++ [.header node tags description])
  | .joins family => layout.change family (changeLast (Container.add node))

end Layout

namespace Site

def family? (site : Site) : Option Family :=
  match site.scope with
  | .root => none
  | .feature => some .feature
  | .background => some .background
  | .scenario => some .scenario
  | .variantBackground => some (.variantBackground (site.doc.scenarios.length - 1))
  | .variant => some (.variant (site.doc.scenarios.length - 1))
  | .testCase => some .testCase
  | .uiElement inFeature => some (.uiElement inFeature)
  | .database => some .database
  | .table => some .table
  | .block kind => some (.block kind)
  | .event kind => some (.event kind)

end Site

-- The family a header joins. Variants and their background go to the last
-- scenario, elements to the feature once there is one.
def Document.familyOf? (doc : Document) : NodeType → Option Family
  | .feature => some .feature
  | .background => some .background
  | .scenario => some .scenario
  | .variantBackground => some (.variantBackground (doc.scenarios.length - 1))
  | .variant => some (.variant (doc.scenarios.length - 1))
  | .testCase => some .testCase
  | .uiElement => some (.uiElement doc.feature.isSome)
  | .database => some .database
  | .table => some .table
  | .block kind => some (.block kind)
  | .event kind => some (.event kind)
  | _ => none

def Site.effect (site : Site) (type : NodeType) : Effect :=
  match type with
  | .language => .declares
  | .importPath => .includes
  | .tag | .text | .longString => .nothing
  | type =>
    match site.doc.familyOf? type with
    | some family => .opens family
    | none => match site.family? with
      | some family => .joins family
      | none => .nothing

theorem part_changeLast (part : Scenario → List Container) (alter : Scenario → Scenario)
    (change : List Container → List Container) (l : List Scenario) (filled : l ≠ [])
    (altered : ∀ s, l.getLast? = some s → part (alter s) = change (part s)) (i : Nat) :
    ((changeLast alter l)[i]?.map part).getD [] =
      if i = l.length - 1 then change ((l[i]?.map part).getD []) else (l[i]?.map part).getD [] := by
  have positive : l.length ≠ 0 := by simpa using filled
  rw [getElem?_changeLast]
  by_cases last : i = l.length - 1
  · have inside : l.length - 1 < l.length := by omega
    have current := altered _ (by rw [List.getLast?_eq_getElem?,List.getElem?_eq_getElem inside])
    simp [last,List.getElem?_eq_getElem inside,current]
  · simp [last]

namespace Document

theorem scenarios_changeScenario (change : Scenario → Scenario) (doc : Document) :
    (doc.changeScenario change).scenarios = changeLast change doc.scenarios := by
  cases feature : doc.feature <;> simp [changeScenario,changeFeature,scenarios,feature,changeLast]

theorem currentScenario?_eq (doc : Document) : doc.currentScenario? = doc.scenarios.getLast? := by
  cases feature : doc.feature <;> simp [currentScenario?,scenarios,feature]

theorem containers_changeScenario (doc : Document) (alter : Scenario → Scenario)
    (own : Container → Container) (backgrounds variants : List Container → List Container)
    (owns : ∀ s, (alter s).container = own s.container)
    (filled : doc.scenarios ≠ [])
    (backs : ∀ s, doc.scenarios.getLast? = some s → (alter s).backgrounds = backgrounds s.backgrounds)
    (vars : ∀ s, (alter s).variantContainers = variants s.variantContainers) (family : Family) :
    (doc.changeScenario alter).containers family = match family with
      | .scenario => changeLast own (doc.containers .scenario)
      | .variantBackground i =>
        if i = doc.scenarios.length - 1 then backgrounds (doc.containers (.variantBackground i))
        else doc.containers (.variantBackground i)
      | .variant i =>
        if i = doc.scenarios.length - 1 then variants (doc.containers (.variant i))
        else doc.containers (.variant i)
      | family => doc.containers family := by
  cases family with
  | scenario => simp only [containers,scenarios_changeScenario,map_changeLast _ _ _ _ owns]
  | variantBackground i =>
    simp only [containers,scenarios_changeScenario,part_changeLast _ _ _ _ filled backs]
  | variant i => simp only [containers,scenarios_changeScenario,part_changeLast _ _ _ _ filled fun s _ => vars s]
  | feature | background => cases feature : doc.feature <;>
      simp [containers,changeScenario,changeFeature,background?,feature,Feature.container]
  | uiElement inFeature => cases inFeature <;> cases feature : doc.feature <;>
      simp [containers,changeScenario,changeFeature,featureUiElements,feature]
  | testCase | database | table | block | event => rfl

end Document

theorem changeLast_id (l : List α) : changeLast id l = l := by
  rw [changeLast_eq_modify,List.modify_id]

namespace Document

theorem layout_change {doc next : Document} {target : Family} {change : List Container → List Container}
    (language : next.language = doc.language) (imports : next.imports = doc.imports)
    (own : next.containers target = change (doc.containers target))
    (others : ∀ family, family ≠ target → next.containers family = doc.containers family) :
    next.layout = doc.layout.change target change := by
  refine Layout.ext (congrArg Option.toList language) imports (funext fun family => ?_)
  by_cases same : family = target
  · subst same
    simpa only [Layout.change,layout,Function.update_self] using own
  · simpa only [Layout.change,layout,Function.update_of_ne same] using others family same

theorem layout_changeScenario_own (doc : Document) (alter : Scenario → Scenario) (own : Container → Container)
    (owns : ∀ s, (alter s).container = own s.container)
    (filled : doc.scenarios ≠ []) (backs : ∀ s, (alter s).backgrounds = s.backgrounds)
    (vars : ∀ s, (alter s).variantContainers = s.variantContainers) :
    (doc.changeScenario alter).layout = doc.layout.change .scenario (changeLast own) := by
  ext family : 2
  · rfl
  · rfl
  · change (doc.changeScenario alter).containers family = _
    rw [containers_changeScenario doc alter own id id owns filled (fun s _ => backs s) vars]
    cases family <;> simp [Layout.change,layout]

theorem layout_changeScenario_background (doc : Document) (alter : Scenario → Scenario)
    (change : List Container → List Container) (owns : ∀ s, (alter s).container = s.container)
    (filled : doc.scenarios ≠ [])
    (backs : ∀ s, doc.scenarios.getLast? = some s → (alter s).backgrounds = change s.backgrounds)
    (vars : ∀ s, (alter s).variantContainers = s.variantContainers) :
    (doc.changeScenario alter).layout =
      doc.layout.change (.variantBackground (doc.scenarios.length - 1)) change := by
  ext family : 2
  · rfl
  · rfl
  · change (doc.changeScenario alter).containers family = _
    rw [containers_changeScenario doc alter id change id owns filled backs vars]
    cases family with
    | scenario => simp [Layout.change,layout,changeLast_id]
    | variantBackground i => by_cases last : i = doc.scenarios.length - 1 <;> simp [Layout.change,layout,last]
    | _ => simp [Layout.change,layout]

theorem layout_changeScenario_variants (doc : Document) (alter : Scenario → Scenario)
    (change : List Container → List Container) (owns : ∀ s, (alter s).container = s.container)
    (filled : doc.scenarios ≠ []) (backs : ∀ s, (alter s).backgrounds = s.backgrounds)
    (vars : ∀ s, (alter s).variantContainers = change s.variantContainers) :
    (doc.changeScenario alter).layout = doc.layout.change (.variant (doc.scenarios.length - 1)) change := by
  ext family : 2
  · rfl
  · rfl
  · change (doc.changeScenario alter).containers family = _
    rw [containers_changeScenario doc alter id id change owns filled (fun s _ => backs s) vars]
    cases family with
    | scenario => simp [Layout.change,layout,changeLast_id]
    | variant i => by_cases last : i = doc.scenarios.length - 1 <;> simp [Layout.change,layout,last]
    | _ => simp [Layout.change,layout]

theorem containers_changeFeature (doc : Document) (alter : Feature → Feature) (feature : Feature)
    (opened : doc.feature = some feature) (own : (alter feature).container = feature.container)
    (family : Family) :
    (doc.changeFeature alter).containers family = match family with
      | .background => (alter feature).background.toList.map Background.container
      | .scenario => (alter feature).scenarios.map Scenario.container
      | .variantBackground i => ((alter feature).scenarios[i]?.map Scenario.backgrounds).getD []
      | .variant i => ((alter feature).scenarios[i]?.map Scenario.variantContainers).getD []
      | .uiElement true => (alter feature).uiElements.map UiElement.container
      | family => doc.containers family := by
  cases family with
  | feature => simp [containers,changeFeature,opened,own]
  | uiElement inFeature => cases inFeature <;> simp [containers,changeFeature,featureUiElements,opened]
  | _ => simp [containers,changeFeature,background?,scenarios,opened]

theorem layout_addFeature (doc : Document) (node : Node) (tags description : List Node)
    (type : node.type = .feature) (none : doc.feature = none) :
    layout { doc with feature := some ⟨node,tags,description,.none,[],[]⟩ } =
      doc.layout.change .feature (· ++ [.header node tags description]) := by
  ext family : 2
  · rfl
  · rfl
  · cases family with
    | uiElement inFeature => cases inFeature <;> simp [Layout.change,layout,containers,featureUiElements,none]
    | _ => simp [Layout.change,layout,containers,background?,scenarios,none,Container.header,type,
        NodeType.isTagged,NodeType.isDescribed,Feature.container]

theorem layout_addBackground (doc : Document) (feature : Feature) (b : Background)
    (opened : doc.feature = some feature) (none : feature.background = none) :
    (doc.changeFeature fun f => { f with background := some b }).layout =
      doc.layout.change .background (· ++ [b.container]) := by
  ext family : 2
  · rfl
  · rfl
  · change (doc.changeFeature _).containers family = _
    rw [containers_changeFeature doc _ feature opened rfl]
    cases family with
    | uiElement inFeature => cases inFeature <;> simp [Layout.change,layout,containers,featureUiElements,opened]
    | _ => simp [Layout.change,layout,containers,background?,scenarios,opened,none]

theorem layout_addScenario (doc : Document) (feature : Feature) (s : Scenario)
    (opened : doc.feature = some feature) (backs : s.backgrounds = []) (vars : s.variantContainers = []) :
    (doc.changeFeature fun f => { f with scenarios := f.scenarios ++ [s] }).layout =
      doc.layout.change .scenario (· ++ [s.container]) := by
  have appended : ∀ (part : Scenario → List Container) (l : List Scenario) (i : Nat), part s = [] →
      ((l ++ [s])[i]?.map part).getD [] = (l[i]?.map part).getD [] := by
    intro part l i empty
    rcases Nat.lt_trichotomy i l.length with inside | last | beyond
    · rw [List.getElem?_append_left inside]
    · simp [last,empty]
    · rw [List.getElem?_eq_none (by simp; omega),List.getElem?_eq_none (by omega)]
  ext family : 2
  · rfl
  · rfl
  · change (doc.changeFeature _).containers family = _
    rw [containers_changeFeature doc _ feature opened rfl]
    cases family with
    | uiElement inFeature => cases inFeature <;> simp [Layout.change,layout,containers,featureUiElements,opened]
    | variantBackground i => simp [Layout.change,layout,containers,scenarios,opened,appended _ _ _ backs]
    | variant i => simp [Layout.change,layout,containers,scenarios,opened,appended _ _ _ vars]
    | _ => simp [Layout.change,layout,containers,background?,scenarios,opened]

theorem layout_addUiElement (doc : Document) (e : UiElement) :
    (doc.addUiElement e).layout = doc.layout.change (.uiElement doc.feature.isSome) (· ++ [e.container]) := by
  ext family : 2
  · unfold addUiElement; split <;> rfl
  · unfold addUiElement; split <;> rfl
  · cases opened : doc.feature with
    | none =>
      simp only [addUiElement,opened]
      cases family with
      | uiElement inFeature => cases inFeature <;> simp [Layout.change,layout,containers,featureUiElements,opened]
      | _ => simp [Layout.change,layout,containers,background?,scenarios,opened]
    | some feature =>
      simp only [addUiElement,opened,Option.isSome_some,if_true]
      change (doc.changeFeature _).containers family = _
      rw [containers_changeFeature doc _ feature opened rfl]
      cases family with
      | uiElement inFeature => cases inFeature <;> simp [Layout.change,layout,containers,featureUiElements,opened]
      | _ => simp [Layout.change,layout,containers,background?,scenarios,opened]

theorem layout_addUiProperty (doc : Document) (node : Node) (inFeature : Bool) :
    (doc.addUiProperty node (.uiElement inFeature)).layout =
      doc.layout.change (.uiElement inFeature) (changeLast (Container.add node)) := by
  have adds : ∀ l : List UiElement,
      (changeLast (fun e => { e with properties := e.properties ++ [node] }) l).map UiElement.container =
        changeLast (Container.add node) (l.map UiElement.container) :=
    fun l => map_changeLast _ _ _ _ fun _ => rfl
  cases inFeature with
  | false =>
    ext family : 2
    · rfl
    · rfl
    · cases family with
      | uiElement inFeature => cases inFeature <;>
          simp [Layout.change,layout,containers,addUiProperty,featureUiElements,adds]
      | _ => simp [Layout.change,layout,containers,addUiProperty,background?,scenarios]
  | true =>
    cases opened : doc.feature with
    | none =>
      ext family : 2
      · rfl
      · rfl
      · cases family with
        | uiElement inFeature => cases inFeature <;>
            simp [Layout.change,layout,containers,addUiProperty,changeFeature,featureUiElements,opened,changeLast]
        | _ => simp [Layout.change,layout,containers,addUiProperty,changeFeature,background?,scenarios,opened]
    | some feature =>
      ext family : 2
      · rfl
      · rfl
      · change (doc.changeFeature _).containers family = _
        rw [containers_changeFeature doc _ feature opened rfl]
        cases family with
        | uiElement inFeature => cases inFeature <;> simp [Layout.change,layout,containers,featureUiElements,opened,adds]
        | _ => simp [Layout.change,layout,containers,background?,scenarios,opened]

theorem layout_addTestCase (doc : Document) (t : TestCase) :
    layout { doc with testCases := doc.testCases ++ [t] } = doc.layout.change .testCase (· ++ [t.container]) := by
  refine layout_change rfl rfl (by simp [containers]) fun family apart => ?_
  cases family with
  | testCase => exact absurd rfl apart
  | uiElement inFeature => cases inFeature <;> rfl
  | _ => rfl

theorem layout_addTable (doc : Document) (t : Table) :
    layout { doc with tables := doc.tables ++ [t] } = doc.layout.change .table (· ++ [t.container]) := by
  refine layout_change rfl rfl (by simp [containers]) fun family apart => ?_
  cases family with
  | table => exact absurd rfl apart
  | uiElement inFeature => cases inFeature <;> rfl
  | _ => rfl

theorem layout_addDatabase (doc : Document) (d : Database) :
    layout { doc with databases := doc.databases ++ [d] } = doc.layout.change .database (· ++ [d.container]) := by
  refine layout_change rfl rfl (by simp [containers]) fun family apart => ?_
  cases family with
  | database => exact absurd rfl apart
  | uiElement inFeature => cases inFeature <;> rfl
  | _ => rfl

theorem layout_addTestCaseStep (doc : Document) (node : Node) :
    (doc.addStep node .testCase).layout = doc.layout.change .testCase (changeLast (Container.add node)) := by
  refine layout_change rfl rfl (map_changeLast _ _ _ _ fun _ => rfl) fun family apart => ?_
  cases family with
  | testCase => exact absurd rfl apart
  | uiElement inFeature => cases inFeature <;> rfl
  | _ => rfl

theorem layout_addTableRow (doc : Document) (node : Node) :
    (doc.addTableRow node).layout = doc.layout.change .table (changeLast (Container.add node)) := by
  refine layout_change rfl rfl (map_changeLast _ _ _ _ fun _ => rfl) fun family apart => ?_
  cases family with
  | table => exact absurd rfl apart
  | uiElement inFeature => cases inFeature <;> rfl
  | _ => rfl

theorem layout_addDatabaseProperty (doc : Document) (node : Node) :
    (doc.addDatabaseProperty node).layout = doc.layout.change .database (changeLast (Container.add node)) := by
  refine layout_change rfl rfl (map_changeLast _ _ _ _ fun _ => rfl) fun family apart => ?_
  cases family with
  | database => exact absurd rfl apart
  | uiElement inFeature => cases inFeature <;> rfl
  | _ => rfl

theorem layout_setBlock (doc : Document) (kind : DefinitionKind) (b : Block) (none : doc.blocks kind = none) :
    (doc.setBlock kind b).layout = doc.layout.change (.block kind) (· ++ [b.container]) := by
  refine layout_change rfl rfl (by simp [containers,setBlock,none]) fun family apart => ?_
  cases family with
  | block other =>
    have differ : other ≠ kind := fun same => apart (congrArg Family.block same)
    simp [containers,setBlock,differ]
  | uiElement inFeature => cases inFeature <;> rfl
  | _ => rfl

theorem layout_setEvent (doc : Document) (kind : EventKind) (e : TestEvent) (none : doc.events kind = none) :
    (doc.setEvent kind e).layout = doc.layout.change (.event kind) (· ++ [e.container]) := by
  refine layout_change rfl rfl (by simp [containers,setEvent,none]) fun family apart => ?_
  cases family with
  | event other =>
    have differ : other ≠ kind := fun same => apart (congrArg Family.event same)
    simp [containers,setEvent,differ]
  | uiElement inFeature => cases inFeature <;> rfl
  | _ => rfl

theorem layout_addDefinition (doc : Document) (node : Node) (kind : DefinitionKind) :
    (doc.addDefinition node kind).layout = doc.layout.change (.block kind) (changeLast (Container.add node)) := by
  refine layout_change rfl rfl ?_ fun family apart => ?_
  · cases held : doc.blocks kind <;> simp [containers,addDefinition,held,changeLast,Block.container,Container.add]
  · cases family with
    | block other =>
      have differ : other ≠ kind := fun same => apart (congrArg Family.block same)
      simp [containers,addDefinition,differ]
    | uiElement inFeature => cases inFeature <;> rfl
    | _ => rfl

theorem layout_addEventStep (doc : Document) (node : Node) (kind : EventKind) :
    (doc.addStep node (.event kind)).layout = doc.layout.change (.event kind) (changeLast (Container.add node)) := by
  refine layout_change rfl rfl ?_ fun family apart => ?_
  · cases held : doc.events kind <;> simp [containers,addStep,held,changeLast,TestEvent.container,Container.add]
  · cases family with
    | event other =>
      have differ : other ≠ kind := fun same => apart (congrArg Family.event same)
      simp [containers,addStep,differ]
    | uiElement inFeature => cases inFeature <;> rfl
    | _ => rfl

theorem layout_addBackgroundStep (doc : Document) (node : Node) :
    (doc.addStep node .background).layout = doc.layout.change .background (changeLast (Container.add node)) := by
  cases opened : doc.feature with
  | none =>
    ext family : 2
    · rfl
    · rfl
    · cases family with
      | uiElement inFeature => cases inFeature <;>
          simp [Layout.change,layout,containers,addStep,changeFeature,featureUiElements,opened]
      | _ => simp [Layout.change,layout,containers,addStep,changeFeature,background?,scenarios,opened,changeLast]
  | some feature =>
    ext family : 2
    · rfl
    · rfl
    · change (doc.changeFeature _).containers family = _
      rw [containers_changeFeature doc _ feature opened rfl]
      cases family with
      | uiElement inFeature => cases inFeature <;> simp [Layout.change,layout,containers,featureUiElements,opened]
      | background =>
        cases own : feature.background <;>
          simp [Layout.change,layout,containers,background?,opened,own,changeLast,Background.container,Container.add]
      | _ => simp [Layout.change,layout,containers,background?,scenarios,opened]

theorem scenarios_ne_nil {doc : Document} {scenario : Scenario} (current : doc.currentScenario? = some scenario) :
    doc.scenarios ≠ [] := by
  intro empty
  simp [currentScenario?_eq,empty] at current

theorem layout_addStep (doc : Document) (node : Node) (scope : Scope) (steps : List Node)
    (open_ : doc.openSteps? scope = some steps) :
    ∃ family, (⟨doc,scope⟩ : Site).family? = some family ∧
      (doc.addStep node scope).layout = doc.layout.change family (changeLast (Container.add node)) := by
  cases scope with
  | background => exact ⟨_,rfl,layout_addBackgroundStep doc node⟩
  | scenario =>
    obtain ⟨scenario,current,_⟩ := Option.map_eq_some_iff.mp open_
    exact ⟨_,rfl,layout_changeScenario_own doc _ _ (fun _ => rfl) (scenarios_ne_nil current) (fun _ => rfl) fun _ => rfl⟩
  | variantBackground =>
    obtain ⟨b,held,_⟩ := Option.map_eq_some_iff.mp open_
    obtain ⟨scenario,current,_⟩ := Option.bind_eq_some_iff.mp held
    refine ⟨_,rfl,layout_changeScenario_background doc _ _ (fun _ => rfl) (scenarios_ne_nil current) ?_ fun _ => rfl⟩
    intro s _
    cases own : s.background <;> simp [Scenario.backgrounds,own,changeLast,Background.container,Container.add]
  | variant =>
    obtain ⟨v,held,_⟩ := Option.map_eq_some_iff.mp open_
    obtain ⟨scenario,current,_⟩ := Option.bind_eq_some_iff.mp held
    refine ⟨_,rfl,layout_changeScenario_variants doc _ _ (fun _ => rfl) (scenarios_ne_nil current) (fun _ => rfl) ?_⟩
    intro s
    exact map_changeLast _ _ _ _ fun _ => rfl
  | testCase => exact ⟨_,rfl,layout_addTestCaseStep doc node⟩
  | event kind => exact ⟨_,rfl,layout_addEventStep doc node kind⟩
  | _ => cases open_

theorem layout_addVariant (doc : Document) (v : Variant) (filled : doc.scenarios ≠ []) :
    (doc.changeScenario fun s => { s with variants := s.variants ++ [v] }).layout =
      doc.layout.change (.variant (doc.scenarios.length - 1)) (· ++ [v.container]) := by
  refine layout_changeScenario_variants doc _ _ ?_ filled ?_ ?_ <;> intro s
  · rfl
  · rfl
  · simp [Scenario.variantContainers]

end Document

namespace Site

variable {site next : Site} {node : Node} {tags description : List Node}

theorem after_opens {layout : Layout} {family : Family} (container : Container)
    (header : .header node tags description = container) :
    layout.after node tags description (.opens family) = layout.change family (· ++ [container]) := by
  subst header; rfl

theorem placeImport_layout (ok : site.placeImport node = .ok next) :
    next.doc.layout = site.doc.layout.after node tags description .includes := by
  simp only [placeImport] at ok
  split at ok <;> cases ok
  rfl

theorem placeBackground_layout (type : node.type = .background) (ok : site.placeBackground node = .ok next) :
    next.doc.layout = site.doc.layout.after node tags description (.opens .background) := by
  rw [after_opens ⟨node,[],[],[]⟩ (by simp [Container.header,type,NodeType.isTagged,NodeType.isDescribed])]
  unfold placeBackground at ok
  split at ok
  · cases ok
  · rename_i feature opened
    split at ok
    · cases ok
    · rename_i absent
      split at ok <;> cases ok
      exact Document.layout_addBackground site.doc feature ⟨node,[]⟩ opened (by simpa using absent)

theorem placeVariantBackground_layout (type : node.type = .variantBackground)
    (ok : site.placeVariantBackground node = .ok next) :
    next.doc.layout = site.doc.layout.after node tags description
      (.opens (.variantBackground (site.doc.scenarios.length - 1))) := by
  rw [after_opens ⟨node,[],[],[]⟩ (by simp [Container.header,type,NodeType.isTagged,NodeType.isDescribed])]
  unfold placeVariantBackground at ok
  split at ok
  · cases ok
  · rename_i scenario current
    split at ok
    · cases ok
    · rename_i absent
      split at ok <;> cases ok
      refine Document.layout_changeScenario_background site.doc _ _ (fun _ => rfl)
        (Document.scenarios_ne_nil current) ?_ fun _ => rfl
      intro s last
      rw [Document.currentScenario?_eq,last] at current
      cases current
      have none : scenario.background = none := by simpa using absent
      simp [Scenario.backgrounds,none,Background.container]

theorem placeDefinition_layout {kind : DefinitionKind} (ok : site.placeDefinition kind node = .ok next) :
    site.family? = some (.block kind) ∧
      next.doc.layout = site.doc.layout.after node tags description (.joins (.block kind)) := by
  unfold placeDefinition at ok
  split at ok
  · cases ok
  · rename_i block held
    split at held
    · rename_i opened
      dsimp only at ok
      split at ok <;> cases ok
      exact ⟨by rw [family?,opened],Document.layout_addDefinition _ _ _⟩
    · cases held

theorem placeEvent_layout {kind : EventKind} (type : node.type = .event kind)
    (ok : site.placeEvent kind node = .ok next) :
    next.doc.layout = site.doc.layout.after node tags description (.opens (.event kind)) := by
  rw [after_opens ⟨node,[],[],[]⟩ (by simp [Container.header,type,NodeType.isTagged,NodeType.isDescribed])]
  unfold placeEvent at ok
  split at ok
  · cases ok
  · split at ok
    · cases ok
    · rename_i absent
      cases ok
      exact Document.layout_setEvent _ _ _ (by simpa using absent)

theorem placeStep_layout {kind : StepKind} (ok : site.placeStep kind node = .ok next) :
    ∃ family, site.family? = some family ∧
      next.doc.layout = site.doc.layout.after node tags description (.joins family) := by
  unfold placeStep at ok
  split at ok
  · cases ok
  · rename_i steps opened
    split at ok <;> cases ok
    exact Document.layout_addStep _ _ _ _ opened

theorem place_layout (ok : site.place node tags description = .ok next) :
    next.doc.layout = site.doc.layout.after node tags description (site.effect node.type) := by
  have described : ∀ type, node.type = type → type.isTagged = true → type.isDescribed = true →
      Container.header node tags description = ⟨node,tags,description,[]⟩ := by
    rintro _ rfl tagged described
    simp [Container.header,tagged,described]
  have plain : ∀ type, node.type = type → type.isTagged = false → type.isDescribed = false →
      Container.header node tags description = ⟨node,[],[],[]⟩ := by
    rintro _ rfl untagged undescribed
    simp [Container.header,untagged,undescribed]
  cases type : node.type with
  | language =>
    simp only [place,type] at ok
    split at ok
    · cases ok
    · rename_i absent
      cases ok
      have undeclared : site.doc.language = none := by simpa using absent
      simp only [Layout.after,effect,Document.layout,undeclared,Option.toList_none,List.nil_append]
      rfl
  | importPath => simp only [place,type] at ok; exact placeImport_layout ok
  | feature =>
    simp only [place,type] at ok
    split at ok
    · cases ok
    · rename_i absent
      cases ok
      exact Document.layout_addFeature _ _ _ _ type (by simpa using absent)
  | background => simp only [place,type] at ok; exact placeBackground_layout type ok
  | scenario =>
    simp only [place,type] at ok
    split at ok
    · cases ok
    · rename_i present
      cases ok
      obtain ⟨feature,opened⟩ := Option.ne_none_iff_exists'.mp (by simpa using present)
      exact (Document.layout_addScenario site.doc feature _ opened rfl rfl).trans
        (after_opens _ (described _ type rfl rfl)).symm
  | variantBackground => simp only [place,type] at ok; exact placeVariantBackground_layout type ok
  | variant =>
    simp only [place,type] at ok
    split at ok
    · cases ok
    · rename_i present
      cases ok
      obtain ⟨scenario,current⟩ := Option.ne_none_iff_exists'.mp (by simpa using present)
      exact (Document.layout_addVariant site.doc _ (Document.scenarios_ne_nil current)).trans
        (after_opens _ (described _ type rfl rfl)).symm
  | testCase =>
    simp only [place,type] at ok
    cases ok
    refine Eq.trans ?_ (after_opens _ (described _ type rfl rfl)).symm
    exact Document.layout_addTestCase _ _
  | block kind =>
    simp only [place,type] at ok
    split at ok
    · cases ok
    · rename_i absent
      cases ok
      exact (Document.layout_setBlock _ _ _ (by simpa using absent)).trans
        (after_opens _ (plain _ type rfl rfl)).symm
  | definition kind =>
    simp only [place,type] at ok
    obtain ⟨opened,layout⟩ := placeDefinition_layout ok
    simpa [effect,Document.familyOf?,opened] using layout
  | table =>
    simp only [place,type] at ok
    cases ok
    exact (Document.layout_addTable _ _).trans (after_opens _ (plain _ type rfl rfl)).symm
  | tableRow =>
    simp only [place,type] at ok
    split at ok
    · cases ok
    · rename_i present
      cases ok
      have opened : site.family? = some .table := by
        cases scope : site.scope <;> simp [Document.currentTable?,scope] at present
        rw [family?,scope]
      have joins : site.effect .tableRow = .joins .table := by simp [effect,Document.familyOf?,opened]
      rw [joins]
      exact Document.layout_addTableRow site.doc node
  | database =>
    simp only [place,type] at ok
    cases ok
    exact (Document.layout_addDatabase _ _).trans (after_opens _ (plain _ type rfl rfl)).symm
  | databaseProperty =>
    simp only [place,type] at ok
    split at ok
    · cases ok
    · rename_i present
      cases ok
      have opened : site.family? = some .database := by
        cases scope : site.scope <;> simp [Document.currentDatabase?,scope] at present
        rw [family?,scope]
      have joins : site.effect .databaseProperty = .joins .database := by
        simp [effect,Document.familyOf?,opened]
      rw [joins]
      exact Document.layout_addDatabaseProperty site.doc node
  | uiElement =>
    simp only [place,type] at ok
    cases ok
    refine (Document.layout_addUiElement _ _).trans (after_opens _ ?_).symm
    simp [Container.header,type,NodeType.isTagged,NodeType.isDescribed,UiElement.container]
  | uiProperty =>
    simp only [place,type] at ok
    split at ok
    · cases ok
    · rename_i present
      cases ok
      cases scope : site.scope <;> simp [Document.currentUiElement?,scope] at present
      rename_i inFeature
      have joins : site.effect .uiProperty = .joins (.uiElement inFeature) := by
        simp [effect,Document.familyOf?,family?,scope]
      rw [joins]
      exact Document.layout_addUiProperty site.doc node inFeature
  | event kind => simp only [place,type] at ok; exact placeEvent_layout type ok
  | step kind =>
    simp only [place,type] at ok
    obtain ⟨family,opened,layout⟩ := placeStep_layout ok
    simpa [effect,Document.familyOf?,opened] using layout
  | tag | text | longString => simp only [place,type] at ok; cases ok; rfl

end Site

end ScenarioLang
