import ScenarioLang.Proofs.Parsing.Layout

namespace ScenarioLang

def Family.takesSteps : Family → Bool
  | .background | .scenario | .variantBackground _ | .variant _ | .testCase | .event _ => true
  | _ => false

namespace Layout

def last? (layout : Layout) (family : Family) : Option Container := (layout.containers family).getLast?

def hasFeature (layout : Layout) : Prop := layout.containers .feature ≠ []
def lastScenario (layout : Layout) : Nat := (layout.containers .scenario).length - 1

-- When a node may be placed, said of the lists of the document and of the
-- family that is open.
def Admits (layout : Layout) (family? : Option Family) (node : Node) : Prop :=
  match node.type with
  | .language => layout.language = []
  | .importPath => ∀ other ∈ layout.imports, other.value? ≠ some (node.value?.getD [])
  | .feature => layout.containers .feature = []
  | .background =>
    layout.hasFeature ∧ layout.containers .background = [] ∧ layout.containers .scenario = []
  | .scenario => layout.hasFeature
  | .variantBackground =>
    layout.containers .scenario ≠ [] ∧ layout.containers (.variantBackground layout.lastScenario) = [] ∧
      layout.containers (.variant layout.lastScenario) = []
  | .variant => layout.containers .scenario ≠ []
  | .testCase | .table | .database | .uiElement => True
  | .block kind => layout.containers (.block kind) = []
  | .event kind => (kind.needsFeature = true → layout.hasFeature) ∧ layout.containers (.event kind) = []
  | .definition kind =>
    family? = some (.block kind) ∧ ∃ block, layout.last? (.block kind) = some block ∧
      ∀ item ∈ block.children, item.name? ≠ some (node.name?.getD [])
  | .tableRow => family? = some .table ∧ layout.containers .table ≠ []
  | .databaseProperty => family? = some .database ∧ layout.containers .database ≠ []
  | .uiProperty => ∃ inFeature, family? = some (.uiElement inFeature) ∧ layout.containers (.uiElement inFeature) ≠ []
  | .step kind =>
    ∃ family container, family? = some family ∧ family.takesSteps = true ∧
      layout.last? family = some container ∧ (kind.continues = true → container.children ≠ [])
  | .tag | .text | .longString => True

end Layout

namespace Document

theorem hasFeature_iff (doc : Document) : doc.layout.hasFeature ↔ doc.feature.isSome = true := by
  cases opened : doc.feature <;> simp [Layout.hasFeature,layout,containers,opened]

theorem scenarios_length (doc : Document) : doc.scenarios.length = (doc.layout.containers .scenario).length := by
  simp [layout,containers]

theorem lastScenario_eq (doc : Document) : doc.layout.lastScenario = doc.scenarios.length - 1 := by
  rw [Layout.lastScenario,scenarios_length]

theorem part_last {doc : Document} {scenario : Scenario} (current : doc.currentScenario? = some scenario)
    (part : Scenario → List Container) :
    ((doc.scenarios[doc.scenarios.length - 1]?).map part).getD [] = part scenario := by
  rw [currentScenario?_eq,List.getLast?_eq_getElem?] at current
  simp [current]

theorem variantBackground_last {doc : Document} {scenario : Scenario}
    (current : doc.currentScenario? = some scenario) :
    doc.layout.containers (.variantBackground doc.layout.lastScenario) = scenario.backgrounds := by
  rw [lastScenario_eq]; exact part_last current _

theorem variant_last {doc : Document} {scenario : Scenario} (current : doc.currentScenario? = some scenario) :
    doc.layout.containers (.variant doc.layout.lastScenario) = scenario.variantContainers := by
  rw [lastScenario_eq]; exact part_last current _

theorem currentScenario?_isSome (doc : Document) :
    doc.currentScenario?.isSome = true ↔ doc.layout.containers .scenario ≠ [] := by
  simp [currentScenario?_eq,layout,containers]

theorem openSteps?_eq (site : Site) (family : Family) (opened : site.family? = some family) :
    site.doc.openSteps? site.scope =
      if family.takesSteps then (site.doc.layout.last? family).map Container.children else none := by
  obtain ⟨doc,scope⟩ := site
  cases scope <;> cases opened
  case background =>
    cases feature : doc.feature with
    | none => simp [openSteps?,Family.takesSteps,Layout.last?,layout,containers,background?,feature]
    | some f =>
      cases own : f.background <;>
        simp [openSteps?,Family.takesSteps,Layout.last?,layout,containers,background?,feature,own,Background.container]
  case scenario =>
    simp only [openSteps?,Family.takesSteps,Layout.last?,layout,containers,currentScenario?_eq,List.getLast?_map,
      Option.map_map]
    rfl
  case variantBackground =>
    change ((doc.currentScenario?.bind Scenario.background).map Background.steps) =
      (((doc.scenarios[doc.scenarios.length - 1]?).map Scenario.backgrounds).getD []).getLast?.map Container.children
    cases current : doc.currentScenario? with
    | none =>
      have empty : doc.scenarios = [] := by simpa [currentScenario?_eq] using current
      simp [empty]
    | some scenario =>
      rw [part_last current]
      cases own : scenario.background <;> simp [Scenario.backgrounds,own,Background.container]
  case variant =>
    change (doc.currentVariant?.map Variant.steps) =
      (((doc.scenarios[doc.scenarios.length - 1]?).map Scenario.variantContainers).getD []).getLast?.map
        Container.children
    cases current : doc.currentScenario? with
    | none =>
      have empty : doc.scenarios = [] := by simpa [currentScenario?_eq] using current
      simp [currentVariant?,current,empty]
    | some scenario =>
      rw [part_last current]
      simp only [currentVariant?,current,Option.bind_some,Scenario.variantContainers,List.getLast?_map,Option.map_map]
      rfl
  case testCase =>
    simp only [openSteps?,Family.takesSteps,Layout.last?,layout,containers,currentTestCase?,List.getLast?_map,
      Option.map_map]
    rfl
  case event kind =>
    cases held : doc.events kind <;>
      simp [openSteps?,Family.takesSteps,Layout.last?,layout,containers,held,TestEvent.container]
  all_goals rfl

end Document

@[simp] theorem guarded_ok_iff {refused : Prop} [Decidable refused] {fault : ε} {value : α} :
    (∃ next, (if refused then Except.error fault else .ok value) = Except.ok next) ↔ ¬refused := by
  by_cases refused <;> simp [*]

namespace Site

variable {site : Site} {node : Node} {tags description : List Node}

theorem placeImport_ok_iff : (∃ next, site.placeImport node = .ok next) ↔
    ∀ other ∈ site.doc.imports, other.value? ≠ some (node.value?.getD []) := by
  have listed : node.value?.getD [] ∈ site.doc.importValues ↔
      ∃ other ∈ site.doc.imports, other.value? = some (node.value?.getD []) := by
    simp [Document.importValues]
  simp only [placeImport]
  split
  · rename_i present
    have member := listed.mp (by simpa using present)
    simp only [reduceCtorEq,exists_false,false_iff]
    intro absent
    obtain ⟨other,inside,same⟩ := member
    exact absent other inside same
  · rename_i missing
    have missing : node.value?.getD [] ∉ site.doc.importValues := by simpa using missing
    exact ⟨fun _ other inside same => missing (listed.mpr ⟨other,inside,same⟩),fun _ => ⟨_,rfl⟩⟩

theorem placeBackground_ok_iff : (∃ next, site.placeBackground node = .ok next) ↔
    site.doc.layout.hasFeature ∧ site.doc.layout.containers .background = [] ∧
      site.doc.layout.containers .scenario = [] := by
  rw [Document.hasFeature_iff]
  cases opened : site.doc.feature with
  | none => simp [placeBackground,opened]
  | some feature =>
    have background : site.doc.layout.containers .background = [] ↔ feature.background = none := by
      cases own : feature.background <;>
        simp [Document.layout,Document.containers,Document.background?,opened,own]
    have scenario : site.doc.layout.containers .scenario = [] ↔ feature.scenarios = [] := by
      simp [Document.layout,Document.containers,Document.scenarios,opened]
    rw [background,scenario]
    cases own : feature.background <;> cases held : feature.scenarios <;> simp [placeBackground,opened,own,held]

theorem placeVariantBackground_ok_iff : (∃ next, site.placeVariantBackground node = .ok next) ↔
    site.doc.layout.containers .scenario ≠ [] ∧
      site.doc.layout.containers (.variantBackground site.doc.layout.lastScenario) = [] ∧
      site.doc.layout.containers (.variant site.doc.layout.lastScenario) = [] := by
  rw [← Document.currentScenario?_isSome]
  cases current : site.doc.currentScenario? with
  | none => simp [placeVariantBackground,current]
  | some scenario =>
    rw [Document.variantBackground_last current,Document.variant_last current]
    cases own : scenario.background <;> cases held : scenario.variants <;>
      simp [placeVariantBackground,current,own,held,Scenario.backgrounds,Scenario.variantContainers]

theorem placeStep_ok_iff (kind : StepKind) : (∃ next, site.placeStep kind node = .ok next) ↔
    ∃ family container, site.family? = some family ∧ family.takesSteps = true ∧
      site.doc.layout.last? family = some container ∧ (kind.continues = true → container.children ≠ []) := by
  cases opened : site.family? with
  | none =>
    have root : site.scope = .root := by cases scope : site.scope <;> simp [family?,scope] at opened; rfl
    simp [placeStep,root,Document.openSteps?]
  | some family =>
    simp only [placeStep,Document.openSteps?_eq site family opened]
    cases takes : family.takesSteps with
    | false => simp [takes]
    | true =>
      cases held : site.doc.layout.last? family with
      | none => simp [held]
      | some container =>
        cases kind.continues <;> simp [takes,held]

theorem placeDefinition_ok_iff (kind : DefinitionKind) : (∃ next, site.placeDefinition kind node = .ok next) ↔
    site.family? = some (.block kind) ∧ ∃ block, site.doc.layout.last? (.block kind) = some block ∧
      ∀ item ∈ block.children, item.name? ≠ some (node.name?.getD []) := by
  have scope : site.family? = some (.block kind) ↔ site.scope = .block kind := by
    cases own : site.scope <;> simp [family?,own]
  rw [scope]
  by_cases opened : site.scope = .block kind
  · cases held : site.doc.blocks kind with
    | none =>
      simp [placeDefinition,opened,Document.currentBlock?,held,Layout.last?,Document.layout,Document.containers]
    | some block =>
      have items : (block.items.any fun item => decide (item.name? = some (node.name?.getD []))) = false ↔
          ∀ item ∈ block.items, item.name? ≠ some (node.name?.getD []) := by simp
      have last : site.doc.layout.last? (.block kind) = some block.container := by
        simp [Layout.last?,Document.layout,Document.containers,held]
      simp only [placeDefinition,opened,if_true,Document.currentBlock?,held,true_and,last,Option.some.injEq,
        exists_eq_left']
      change _ ↔ ∀ item ∈ block.items, _
      rw [← items]
      cases block.items.any fun item => decide (item.name? = some (node.name?.getD [])) <;> simp
  · simp [placeDefinition,opened]

theorem placeEvent_ok_iff (kind : EventKind) : (∃ next, site.placeEvent kind node = .ok next) ↔
    (kind.needsFeature = true → site.doc.layout.hasFeature) ∧ site.doc.layout.containers (.event kind) = [] := by
  rw [Document.hasFeature_iff]
  have empty : site.doc.layout.containers (.event kind) = [] ↔ site.doc.events kind = none := by
    cases held : site.doc.events kind <;> simp [Document.layout,Document.containers,held]
  rw [empty]
  cases needs : kind.needsFeature <;> cases opened : site.doc.feature <;> cases held : site.doc.events kind <;>
    simp [placeEvent,needs,opened,held]

theorem place_ok_iff : (∃ next, site.place node tags description = .ok next) ↔
    site.doc.layout.Admits site.family? node := by
  have feature : site.doc.layout.containers .feature = [] ↔ site.doc.feature = none := by
    cases opened : site.doc.feature <;> simp [Document.layout,Document.containers,opened]
  cases type : node.type with
  | language =>
    cases declared : site.doc.language <;>
      simp [place,Layout.Admits,type,Document.layout,declared]
  | importPath => simp only [place,Layout.Admits,type]; exact placeImport_ok_iff
  | feature =>
    simp only [place,Layout.Admits,type,feature]
    cases opened : site.doc.feature <;> simp
  | background => simp only [place,Layout.Admits,type]; exact placeBackground_ok_iff
  | scenario =>
    simp only [place,Layout.Admits,type,Document.hasFeature_iff]
    cases opened : site.doc.feature <;> simp
  | variantBackground => simp only [place,Layout.Admits,type]; exact placeVariantBackground_ok_iff
  | variant =>
    simp only [place,Layout.Admits,type,← Document.currentScenario?_isSome]
    cases current : site.doc.currentScenario? <;> simp
  | block kind =>
    simp only [place,Layout.Admits,type]
    cases held : site.doc.blocks kind <;> simp [Document.layout,Document.containers,held]
  | definition kind => simp only [place,Layout.Admits,type]; exact placeDefinition_ok_iff kind
  | tableRow =>
    simp only [place,Layout.Admits,type]
    cases scope : site.scope <;> simp [family?,scope,Document.currentTable?,Document.layout,Document.containers]
  | databaseProperty =>
    simp only [place,Layout.Admits,type]
    cases scope : site.scope <;> simp [family?,scope,Document.currentDatabase?,Document.layout,Document.containers]
  | uiProperty =>
    simp only [place,Layout.Admits,type]
    cases scope : site.scope with
    | uiElement inFeature =>
      cases inFeature <;> cases opened : site.doc.feature <;>
        simp [family?,scope,Document.currentUiElement?,Document.layout,Document.containers,
          Document.featureUiElements,opened]
    | _ => simp [family?,scope,Document.currentUiElement?]
  | event kind => simp only [place,Layout.Admits,type]; exact placeEvent_ok_iff kind
  | step kind => simp only [place,Layout.Admits,type]; exact placeStep_ok_iff kind
  | testCase | table | database | uiElement | tag | text | longString => simp [place,Layout.Admits,type]

end Site

def Document.scopeOf? (doc : Document) : NodeType → Option Scope
  | .feature => some .feature
  | .background => some .background
  | .scenario => some .scenario
  | .variantBackground => some .variantBackground
  | .variant => some .variant
  | .testCase => some .testCase
  | .uiElement => some (.uiElement doc.feature.isSome)
  | .database => some .database
  | .table => some .table
  | .block kind => some (.block kind)
  | .event kind => some (.event kind)
  | _ => none

namespace Site

variable {site next : Site} {node : Node} {tags description : List Node}

theorem place_frame (ok : site.place node tags description = .ok next) :
    next.scope = (site.doc.scopeOf? node.type).getD site.scope ∧ next.doc.fileInfo = site.doc.fileInfo := by
  cases type : node.type with
  | importPath => simp only [place,type,placeImport] at ok; split at ok <;> cases ok; exact ⟨rfl,rfl⟩
  | background =>
    simp only [place,type,placeBackground] at ok
    repeat' split at ok
    all_goals cases ok
    exact ⟨rfl,rfl⟩
  | variantBackground =>
    simp only [place,type,placeVariantBackground] at ok
    repeat' split at ok
    all_goals cases ok
    exact ⟨rfl,rfl⟩
  | definition kind =>
    simp only [place,type,placeDefinition] at ok
    repeat' split at ok
    all_goals cases ok
    all_goals exact ⟨rfl,rfl⟩
  | uiElement =>
    simp only [place,type] at ok
    cases ok
    refine ⟨rfl,?_⟩
    unfold Document.addUiElement
    split <;> rfl
  | uiProperty =>
    simp only [place,type] at ok
    split at ok <;> cases ok
    refine ⟨rfl,?_⟩
    unfold Document.addUiProperty
    split <;> rfl
  | event kind =>
    simp only [place,type,placeEvent] at ok
    repeat' split at ok
    all_goals cases ok
    exact ⟨rfl,rfl⟩
  | step kind =>
    simp only [place,type,placeStep] at ok
    repeat' split at ok
    all_goals cases ok
    refine ⟨rfl,?_⟩
    unfold Document.addStep
    split <;> rfl
  | testCase | table | database | tag | text | longString =>
    simp only [place,type] at ok; cases ok; exact ⟨rfl,rfl⟩
  | language | feature | scenario | variant | block | tableRow | databaseProperty =>
    simp only [place,type] at ok
    split at ok <;> cases ok
    exact ⟨rfl,rfl⟩

theorem after_scenarios {layout : Layout} {effect : Effect} (other : effect ≠ .opens .scenario) :
    ((layout.after node tags description effect).containers .scenario).length =
      (layout.containers .scenario).length := by
  cases effect with
  | opens family =>
    have apart : Family.scenario ≠ family := fun same => other (by rw [same])
    simp [Layout.after,Layout.change,Function.update_of_ne apart]
  | joins family =>
    by_cases same : family = .scenario
    · subst same; simp [Layout.after,Layout.change]
    · simp [Layout.after,Layout.change,Function.update_of_ne (Ne.symm same)]
  | nothing | declares | includes => rfl

theorem family?_congr {a b : Site} (scope : a.scope = b.scope)
    (scenarios : a.doc.scenarios.length = b.doc.scenarios.length) : a.family? = b.family? := by
  simp only [family?,scope,scenarios]

theorem place_family (ok : site.place node tags description = .ok next) :
    next.family? = match site.effect node.type with
      | .opens family => some family
      | _ => site.family? := by
  obtain ⟨scope,_⟩ := place_frame ok
  have scenarios : site.effect node.type ≠ .opens .scenario →
      next.doc.scenarios.length = site.doc.scenarios.length := by
    intro other
    rw [Document.scenarios_length,Document.scenarios_length,place_layout ok,after_scenarios other]
  cases type : node.type with
  | variantBackground | variant =>
    rw [type] at scope scenarios
    have same := scenarios (by simp [effect,Document.familyOf?])
    simp [family?,scope,Document.scopeOf?,effect,Document.familyOf?,same]
  | feature | background | scenario | testCase | uiElement | database | table | block | event =>
    rw [type] at scope
    simp [family?,scope,Document.scopeOf?,effect,Document.familyOf?]
  | language | importPath | tag | text | longString =>
    rw [type] at scope scenarios
    exact family?_congr scope (scenarios (by simp [effect]))
  | definition | tableRow | databaseProperty | uiProperty | step =>
    rw [type] at scope scenarios
    have joined : ∀ family, site.effect node.type ≠ .opens family := by
      intro family
      cases opened : site.family? <;> simp [effect,Document.familyOf?,type,opened]
    rw [type] at joined
    rw [family?_congr scope (scenarios (joined _))]
    split
    · rename_i opens; exact absurd opens (joined _)
    · rfl

theorem joins_filled {family : Family} (admits : site.doc.layout.Admits site.family? node)
    (joins : site.effect node.type = .joins family) : site.doc.layout.containers family ≠ [] := by
  have held : ∀ f c, site.doc.layout.last? f = some c → site.doc.layout.containers f ≠ [] := by
    intro f c last empty
    simp [Layout.last?,empty] at last
  cases type : node.type with
  | definition kind =>
    simp only [Layout.Admits,type] at admits
    obtain ⟨opened,block,last,_⟩ := admits
    simp [effect,Document.familyOf?,type,opened] at joins
    exact joins ▸ held _ _ last
  | tableRow =>
    simp only [Layout.Admits,type] at admits
    simp [effect,Document.familyOf?,type,admits.1] at joins
    exact joins ▸ admits.2
  | databaseProperty =>
    simp only [Layout.Admits,type] at admits
    simp [effect,Document.familyOf?,type,admits.1] at joins
    exact joins ▸ admits.2
  | uiProperty =>
    simp only [Layout.Admits,type] at admits
    obtain ⟨inFeature,opened,filled⟩ := admits
    simp [effect,Document.familyOf?,type,opened] at joins
    exact joins ▸ filled
  | step kind =>
    simp only [Layout.Admits,type] at admits
    obtain ⟨own,container,opened,_,last,_⟩ := admits
    simp [effect,Document.familyOf?,type,opened] at joins
    exact joins ▸ held _ _ last
  | _ => simp [effect,Document.familyOf?,type] at joins

end Site

end ScenarioLang
