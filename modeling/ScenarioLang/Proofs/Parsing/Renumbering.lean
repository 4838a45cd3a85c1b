import ScenarioLang.Proofs.Parsing.Conservation
import ScenarioLang.Proofs.Lexer.Renumbering

namespace ScenarioLang

section
variable (f : Nat → Nat)

def Background.renumber (background : Background) : Background :=
  ⟨background.node.renumber f,background.steps.map (Node.renumber f)⟩

def Variant.renumber (variant : Variant) : Variant :=
  ⟨variant.node.renumber f,variant.tags.map (Node.renumber f),variant.description.map (Node.renumber f),
    variant.steps.map (Node.renumber f)⟩

def Scenario.renumber (scenario : Scenario) : Scenario :=
  ⟨scenario.node.renumber f,scenario.tags.map (Node.renumber f),scenario.description.map (Node.renumber f),
    scenario.background.map (Background.renumber f),scenario.steps.map (Node.renumber f),
    scenario.variants.map (Variant.renumber f)⟩

def UiElement.renumber (element : UiElement) : UiElement :=
  ⟨element.node.renumber f,element.tags.map (Node.renumber f),element.properties.map (Node.renumber f)⟩

def Feature.renumber (feature : Feature) : Feature :=
  ⟨feature.node.renumber f,feature.tags.map (Node.renumber f),feature.description.map (Node.renumber f),
    feature.background.map (Background.renumber f),feature.scenarios.map (Scenario.renumber f),
    feature.uiElements.map (UiElement.renumber f)⟩

def TestCase.renumber (test : TestCase) : TestCase :=
  ⟨test.node.renumber f,test.tags.map (Node.renumber f),test.description.map (Node.renumber f),
    test.steps.map (Node.renumber f)⟩

def Database.renumber (database : Database) : Database :=
  ⟨database.node.renumber f,database.properties.map (Node.renumber f)⟩

def Table.renumber (table : Table) : Table := ⟨table.node.renumber f,table.rows.map (Node.renumber f)⟩

def Block.renumber (block : Block) : Block := ⟨block.node.renumber f,block.items.map (Node.renumber f)⟩

def TestEvent.renumber (event : TestEvent) : TestEvent :=
  ⟨event.node.renumber f,event.steps.map (Node.renumber f)⟩

def Document.renumber (doc : Document) : Document where
  fileInfo := doc.fileInfo
  language := doc.language.map (Node.renumber f)
  imports := doc.imports.map (Node.renumber f)
  feature := doc.feature.map (Feature.renumber f)
  uiElements := doc.uiElements.map (UiElement.renumber f)
  databases := doc.databases.map (Database.renumber f)
  tables := doc.tables.map (Table.renumber f)
  blocks kind := (doc.blocks kind).map (Block.renumber f)
  events kind := (doc.events kind).map (TestEvent.renumber f)
  testCases := doc.testCases.map (TestCase.renumber f)

def SyntacticError.renumber (error : SyntacticError) : SyntacticError :=
  { error with location := error.location.renumber f }

def Cursor.renumber (cursor : Cursor) : Cursor :=
  ⟨cursor.behind.map (Node.renumber f),cursor.ahead.map (Node.renumber f)⟩

def Site.renumber (site : Site) : Site := ⟨site.doc.renumber f,site.scope⟩

def Parsing.renumber (parsing : Parsing) : Parsing :=
  ⟨parsing.cursor.renumber f,parsing.site.renumber f,parsing.errors.map (SyntacticError.renumber f),parsing.ignored⟩

def Parsed.renumber (parsed : Parsed) : Parsed :=
  ⟨parsed.doc.renumber f,parsed.errors.map (SyntacticError.renumber f),parsed.ignored⟩

end

section
variable (g f : Nat → Nat)

theorem Background.renumber_comp : renumber g ∘ renumber f = renumber (g ∘ f) := by
  funext background
  simp only [renumber,Function.comp_apply,List.map_map,Node.renumber_comp]
  rfl

theorem Variant.renumber_comp : renumber g ∘ renumber f = renumber (g ∘ f) := by
  funext variant
  simp only [renumber,Function.comp_apply,List.map_map,Node.renumber_comp]
  rfl

theorem Scenario.renumber_comp : renumber g ∘ renumber f = renumber (g ∘ f) := by
  funext scenario
  simp only [renumber,Function.comp_apply,List.map_map,Option.map_map,Node.renumber_comp,Background.renumber_comp,
    Variant.renumber_comp]
  rfl

theorem UiElement.renumber_comp : renumber g ∘ renumber f = renumber (g ∘ f) := by
  funext element
  simp only [renumber,Function.comp_apply,List.map_map,Node.renumber_comp]
  rfl

theorem Feature.renumber_comp : renumber g ∘ renumber f = renumber (g ∘ f) := by
  funext feature
  simp only [renumber,Function.comp_apply,List.map_map,Option.map_map,Node.renumber_comp,Background.renumber_comp,
    Scenario.renumber_comp,UiElement.renumber_comp]
  rfl

theorem TestCase.renumber_comp : renumber g ∘ renumber f = renumber (g ∘ f) := by
  funext test
  simp only [renumber,Function.comp_apply,List.map_map,Node.renumber_comp]
  rfl

theorem Database.renumber_comp : renumber g ∘ renumber f = renumber (g ∘ f) := by
  funext database
  simp only [renumber,Function.comp_apply,List.map_map,Node.renumber_comp]
  rfl

theorem Table.renumber_comp : renumber g ∘ renumber f = renumber (g ∘ f) := by
  funext table
  simp only [renumber,Function.comp_apply,List.map_map,Node.renumber_comp]
  rfl

theorem Block.renumber_comp : renumber g ∘ renumber f = renumber (g ∘ f) := by
  funext block
  simp only [renumber,Function.comp_apply,List.map_map,Node.renumber_comp]
  rfl

theorem TestEvent.renumber_comp : renumber g ∘ renumber f = renumber (g ∘ f) := by
  funext event
  simp only [renumber,Function.comp_apply,List.map_map,Node.renumber_comp]
  rfl

theorem Document.renumber_renumber (doc : Document) : (doc.renumber f).renumber g = doc.renumber (g ∘ f) := by
  simp [renumber,Node.renumber_comp,Feature.renumber_comp,UiElement.renumber_comp,Database.renumber_comp,
    Table.renumber_comp,Block.renumber_comp,TestEvent.renumber_comp,TestCase.renumber_comp]

theorem Parsed.renumber_renumber (parsed : Parsed) : (parsed.renumber f).renumber g = parsed.renumber (g ∘ f) := by
  simp only [renumber,Document.renumber_renumber,List.map_map]
  rfl

end

variable {f : Nat → Nat}

namespace Document

variable (doc : Document)

theorem currentScenario?_renumber :
    (doc.renumber f).currentScenario? = doc.currentScenario?.map (Scenario.renumber f) := by
  obtain ⟨_,_,_,feature,_,_,_,_,_,_⟩ := doc
  cases feature <;> simp [currentScenario?,renumber,Feature.renumber]

theorem currentVariant?_renumber :
    (doc.renumber f).currentVariant? = doc.currentVariant?.map (Variant.renumber f) := by
  unfold currentVariant?
  rw [currentScenario?_renumber]
  cases doc.currentScenario? <;> simp [Scenario.renumber]

theorem openSteps?_renumber (scope : Scope) :
    (doc.renumber f).openSteps? scope = (doc.openSteps? scope).map (List.map (Node.renumber f)) := by
  cases scope with
  | scenario => simp only [openSteps?,currentScenario?_renumber,Option.map_map]; rfl
  | variantBackground =>
    simp only [openSteps?,currentScenario?_renumber]
    cases doc.currentScenario? with
    | none => rfl
    | some scenario => cases own : scenario.background <;> simp [Scenario.renumber,Background.renumber,own]
  | variant => simp only [openSteps?,currentVariant?_renumber,Option.map_map]; rfl
  | background =>
    cases own : doc.feature with
    | none => simp [openSteps?,renumber,own]
    | some feature => cases below : feature.background <;>
        simp [openSteps?,renumber,own,Feature.renumber,Background.renumber,below]
  | testCase => simp [openSteps?,currentTestCase?,renumber,Function.comp_def,TestCase.renumber]
  | event kind => simp [openSteps?,renumber,Function.comp_def,TestEvent.renumber]
  | _ => rfl

theorem currentUiElement?_renumber (scope : Scope) :
    (doc.renumber f).currentUiElement? scope = (doc.currentUiElement? scope).map (UiElement.renumber f) := by
  cases scope with
  | uiElement inFeature =>
    cases inFeature with
    | true => cases own : doc.feature <;> simp [currentUiElement?,renumber,own,Feature.renumber]
    | false => simp [currentUiElement?,renumber]
  | _ => rfl

theorem currentDatabase?_renumber (scope : Scope) :
    (doc.renumber f).currentDatabase? scope = (doc.currentDatabase? scope).map (Database.renumber f) := by
  cases scope <;> simp [currentDatabase?,renumber]

theorem currentTable?_renumber (scope : Scope) :
    (doc.renumber f).currentTable? scope = (doc.currentTable? scope).map (Table.renumber f) := by
  cases scope <;> simp [currentTable?,renumber]

theorem currentBlock?_renumber (scope : Scope) :
    (doc.renumber f).currentBlock? scope = (doc.currentBlock? scope).map (Block.renumber f) := by
  cases scope <;> simp [currentBlock?,renumber]

variable {doc}

theorem changeFeature_renumber {change changed : Feature → Feature}
    (commutes : ∀ feature, (change feature).renumber f = changed (feature.renumber f)) :
    (doc.changeFeature change).renumber f = (doc.renumber f).changeFeature changed := by
  cases own : doc.feature <;> simp [changeFeature,renumber,own,commutes]

theorem changeScenario_renumber {change changed : Scenario → Scenario}
    (commutes : ∀ scenario, (change scenario).renumber f = changed (scenario.renumber f)) :
    (doc.changeScenario change).renumber f = (doc.renumber f).changeScenario changed := by
  apply changeFeature_renumber
  intro feature
  simp [Feature.renumber,map_changeLast _ _ _ _ commutes]

theorem changeVariant_renumber {change changed : Variant → Variant}
    (commutes : ∀ variant, (change variant).renumber f = changed (variant.renumber f)) :
    (doc.changeVariant change).renumber f = (doc.renumber f).changeVariant changed := by
  apply changeScenario_renumber
  intro scenario
  simp [Scenario.renumber,map_changeLast _ _ _ _ commutes]

variable (node : Node)

theorem addStep_renumber (scope : Scope) :
    (doc.renumber f).addStep (node.renumber f) scope = (doc.addStep node scope).renumber f := by
  symm
  cases scope with
  | background =>
    apply changeFeature_renumber
    intro feature
    cases own : feature.background <;> simp [Feature.renumber,Background.renumber,own]
  | scenario =>
    apply changeScenario_renumber
    intro scenario
    simp [Scenario.renumber]
  | variantBackground =>
    apply changeScenario_renumber
    intro scenario
    cases own : scenario.background <;> simp [Scenario.renumber,Background.renumber,own]
  | variant =>
    apply changeVariant_renumber
    intro variant
    simp [Variant.renumber]
  | testCase =>
    simp only [addStep,renumber]
    congr 1
    exact map_changeLast _ _ _ _ fun test => by simp [TestCase.renumber]
  | event kind =>
    simp only [addStep,renumber]
    congr 1
    funext other
    split
    · simp [Function.comp_def,TestEvent.renumber]
    · rfl
  | _ => rfl

theorem addUiProperty_renumber (scope : Scope) :
    (doc.renumber f).addUiProperty (node.renumber f) scope = (doc.addUiProperty node scope).renumber f := by
  symm
  cases scope with
  | uiElement inFeature =>
    cases inFeature with
    | true =>
      apply changeFeature_renumber
      intro feature
      simp only [Feature.renumber]
      congr 1
      exact map_changeLast _ _ _ _ fun element => by simp [UiElement.renumber]
    | false =>
      simp only [addUiProperty,renumber]
      congr 1
      exact map_changeLast _ _ _ _ fun element => by simp [UiElement.renumber]
  | _ => rfl

theorem addDatabaseProperty_renumber :
    (doc.renumber f).addDatabaseProperty (node.renumber f) = (doc.addDatabaseProperty node).renumber f := by
  simp only [addDatabaseProperty,renumber]
  congr 1
  exact (map_changeLast _ _ _ _ fun database => by simp [Database.renumber]).symm

theorem addTableRow_renumber : (doc.renumber f).addTableRow (node.renumber f) = (doc.addTableRow node).renumber f := by
  simp only [addTableRow,renumber]
  congr 1
  exact (map_changeLast _ _ _ _ fun table => by simp [Table.renumber]).symm

theorem addDefinition_renumber (kind : DefinitionKind) :
    (doc.renumber f).addDefinition (node.renumber f) kind = (doc.addDefinition node kind).renumber f := by
  simp only [addDefinition,renumber]
  congr 1
  funext other
  split
  · simp [Function.comp_def,Block.renumber]
  · rfl

theorem addUiElement_renumber (element : UiElement) :
    (doc.renumber f).addUiElement (element.renumber f) = (doc.addUiElement element).renumber f := by
  cases own : doc.feature <;> simp [addUiElement,renumber,own,changeFeature,Feature.renumber]

theorem setBlock_renumber (kind : DefinitionKind) (block : Block) :
    (doc.renumber f).setBlock kind (block.renumber f) = (doc.setBlock kind block).renumber f := by
  simp only [setBlock,renumber]
  congr 1
  funext other
  split <;> rfl

theorem setEvent_renumber (kind : EventKind) (event : TestEvent) :
    (doc.renumber f).setEvent kind (event.renumber f) = (doc.setEvent kind event).renumber f := by
  simp only [setEvent,renumber]
  congr 1
  funext other
  split <;> rfl

end Document

namespace Site
open Document

variable (site : Site) (node : Node) (tags description : List Node)

theorem ok_renumber {doc changed : Document} {scope : Scope} (same : changed = doc.renumber f) :
    (.ok ⟨changed,scope⟩ : Except PlacementFault Site) = (Except.ok ⟨doc,scope⟩).map (renumber f) :=
  congrArg (fun doc => Except.ok (Site.mk doc scope)) same

theorem placeBackground_renumber :
    (site.renumber f).placeBackground (node.renumber f) = (site.placeBackground node).map (renumber f) := by
  obtain ⟨⟨_,_,_,feature,_,_,_,_,_,_⟩,scope⟩ := site
  cases feature with
  | none => rfl
  | some feature =>
    obtain ⟨_,_,_,background,scenarios,_⟩ := feature
    cases background with
    | some background => rfl
    | none => cases scenarios <;> rfl

theorem placeVariantBackground_renumber :
    (site.renumber f).placeVariantBackground (node.renumber f) =
      (site.placeVariantBackground node).map (renumber f) := by
  have changed : (site.doc.changeScenario fun s => { s with background := some ⟨node,[]⟩ }).renumber f =
      (site.doc.renumber f).changeScenario fun s => { s with background := some ⟨node.renumber f,[]⟩ } :=
    changeScenario_renumber fun scenario => rfl
  unfold placeVariantBackground
  simp only [renumber,currentScenario?_renumber,← changed]
  cases site.doc.currentScenario? with
  | none => rfl
  | some scenario =>
    obtain ⟨_,_,_,background,_,variants⟩ := scenario
    cases background with
    | some background => rfl
    | none => cases variants <;> rfl

theorem placeStep_renumber (kind : StepKind) :
    (site.renumber f).placeStep kind (node.renumber f) = (site.placeStep kind node).map (renumber f) := by
  unfold placeStep
  simp only [renumber,openSteps?_renumber,addStep_renumber]
  cases site.doc.openSteps? site.scope with
  | none => rfl
  | some steps =>
    simp only [Option.map_some,List.isEmpty_map]
    split <;> rfl

theorem placeDefinition_renumber (kind : DefinitionKind) :
    (site.renumber f).placeDefinition kind (node.renumber f) = (site.placeDefinition kind node).map (renumber f) := by
  unfold placeDefinition
  simp only [renumber,currentBlock?_renumber,addDefinition_renumber]
  by_cases inside : site.scope = .block kind
  · rw [if_pos inside,if_pos inside]
    cases site.doc.currentBlock? site.scope with
    | none => rfl
    | some block =>
      have names : (block.renumber f).items.any (fun item => item.name? = some (node.name?.getD [])) =
          block.items.any fun item => item.name? = some (node.name?.getD []) := List.any_map
      rw [Option.map_some,Node.renumber_name?]
      simp only [names]
      split <;> rfl
  · rw [if_neg inside,if_neg inside]
    rfl

theorem placeEvent_renumber (kind : EventKind) :
    (site.renumber f).placeEvent kind (node.renumber f) = (site.placeEvent kind node).map (renumber f) := by
  have opened : (site.doc.renumber f).setEvent kind ⟨node.renumber f,[]⟩ =
      (site.doc.setEvent kind ⟨node,[]⟩).renumber f := setEvent_renumber kind ⟨node,[]⟩
  unfold placeEvent
  simp only [renumber,opened]
  simp only [Document.renumber,Option.isNone_map,Option.isSome_map]
  split
  · rfl
  · split <;> rfl

theorem placeImport_renumber :
    (site.renumber f).placeImport (node.renumber f) = (site.placeImport node).map (renumber f) := by
  have values : (site.doc.renumber f).importValues = site.doc.importValues := by
    simp [importValues,Document.renumber,List.filterMap_map,Function.comp_def]
  unfold placeImport
  simp only [renumber,values,Node.renumber_value?]
  split
  · rfl
  · simp [Except.map,renumber,Document.renumber]

theorem place_renumber :
    (site.renumber f).place (node.renumber f) (tags.map (Node.renumber f)) (description.map (Node.renumber f)) =
      (site.place node tags description).map (renumber f) := by
  have declared : (site.renumber f).doc.language.isSome = site.doc.language.isSome := by simp [renumber,Document.renumber]
  have featured : (site.renumber f).doc.feature.isSome = site.doc.feature.isSome := by simp [renumber,Document.renumber]
  have unfeatured : (site.renumber f).doc.feature.isNone = site.doc.feature.isNone := by simp [renumber,Document.renumber]
  unfold place
  rw [Node.renumber_type]
  cases node.type with
  | language =>
    simp only [declared]
    split <;> rfl
  | importPath => exact placeImport_renumber site node
  | tag | text | longString => rfl
  | feature =>
    simp only [featured]
    split <;> rfl
  | background => exact placeBackground_renumber site node
  | variantBackground => exact placeVariantBackground_renumber site node
  | scenario =>
    simp only [unfeatured]
    split
    · rfl
    · refine ok_renumber (Eq.symm (changeFeature_renumber fun feature => ?_))
      simp [Feature.renumber,Scenario.renumber]
  | variant =>
    have opened : (site.renumber f).doc.currentScenario?.isNone = site.doc.currentScenario?.isNone := by
      rw [renumber,currentScenario?_renumber,Option.isNone_map]
    simp only [opened]
    split
    · rfl
    · refine ok_renumber (Eq.symm (changeScenario_renumber fun scenario => ?_))
      simp [Scenario.renumber,Variant.renumber]
  | testCase => simp [renumber,Document.renumber,Except.map,TestCase.renumber]
  | block kind =>
    have taken : ((site.renumber f).doc.blocks kind).isSome = (site.doc.blocks kind).isSome := by
      simp [renumber,Document.renumber]
    simp only [taken]
    split
    · rfl
    · exact ok_renumber (setBlock_renumber kind ⟨node,[]⟩)
  | definition kind => exact placeDefinition_renumber site node kind
  | table => simp [renumber,Document.renumber,Except.map,Table.renumber]
  | tableRow =>
    simp only [renumber,currentTable?_renumber,Option.isNone_map,addTableRow_renumber]
    split <;> rfl
  | database => simp [renumber,Document.renumber,Except.map,Database.renumber]
  | databaseProperty =>
    simp only [renumber,currentDatabase?_renumber,Option.isNone_map,addDatabaseProperty_renumber]
    split <;> rfl
  | uiElement =>
    simp only [featured]
    exact ok_renumber (addUiElement_renumber ⟨node,tags,[]⟩)
  | uiProperty =>
    simp only [renumber,currentUiElement?_renumber,Option.isNone_map,addUiProperty_renumber]
    split <;> rfl
  | event kind => exact placeEvent_renumber site node kind
  | step kind => exact placeStep_renumber site node kind

end Site

namespace Cursor

variable (cursor : Cursor)

theorem next?_renumber :
    (cursor.renumber f).next? = cursor.next?.map (Prod.map (Node.renumber f) (Cursor.renumber f)) := by
  obtain ⟨behind,ahead⟩ := cursor
  cases ahead <;> rfl

theorem precedingTags_renumber : (cursor.renumber f).precedingTags = cursor.precedingTags.map (Node.renumber f) := by
  simp only [precedingTags,renumber,← List.map_drop,List.takeWhile_map,← List.map_reverse]
  rfl

theorem takeRun_renumber (type : NodeType) :
    (cursor.renumber f).takeRun type =
      ((cursor.takeRun type).1.map (Node.renumber f),(cursor.takeRun type).2.renumber f) := by
  simp only [takeRun,renumber,List.takeWhile_map,List.dropWhile_map,List.map_append,List.map_reverse]
  rfl

end Cursor

namespace Parsing

variable (parsing : Parsing)

theorem placeNode_renumber (node : Node) :
    (parsing.renumber f).placeNode (node.renumber f) = (parsing.placeNode node).renumber f := by
  have run : (parsing.renumber f).cursor.takeRun .text = _ := Cursor.takeRun_renumber parsing.cursor .text
  have tags : (parsing.renumber f).cursor.precedingTags = _ := Cursor.precedingTags_renumber parsing.cursor
  have site : (parsing.renumber f).site = parsing.site.renumber f := rfl
  unfold placeNode
  rw [run,tags,site,Node.renumber_type]
  simp only [Site.place_renumber]
  cases parsing.site.place node parsing.cursor.precedingTags (parsing.cursor.takeRun .text).1 with
  | ok site =>
    simp only [Except.map,renumber]
    split <;> rfl
  | error fault => simp [Except.map,renumber,SyntacticError.renumber]

variable {parsing} {stopOnError : Bool} {node : Node} {cursor : Cursor}

theorem errors_renumber (parsing : Parsing) : (parsing.renumber f).errors.isEmpty = parsing.errors.isEmpty :=
  List.isEmpty_map

theorem run_renumber (parsing : Parsing) : (parsing.renumber f).run stopOnError = (parsing.run stopOnError).renumber f := by
  have moved : (parsing.renumber f).cursor.next? = _ := Cursor.next?_renumber parsing.cursor
  fun_induction run stopOnError parsing with
  | case1 parsing ended =>
    rw [ended] at moved
    exact run_ended moved
  | case2 parsing node cursor next moving placed result stops =>
    have put : ({ parsing.renumber f with cursor := cursor.renumber f } : Parsing).placeNode (node.renumber f) =
        result.renumber f := placeNode_renumber moving node
    rw [next] at moved
    rw [run_next moved,put,errors_renumber,Node.renumber_type,if_pos placed,if_pos stops]
  | case3 parsing node cursor next moving placed result goesOn ih =>
    have put : ({ parsing.renumber f with cursor := cursor.renumber f } : Parsing).placeNode (node.renumber f) =
        result.renumber f := placeNode_renumber moving node
    rw [next] at moved
    rw [run_next moved,put,errors_renumber,Node.renumber_type,if_pos placed,if_neg goesOn]
    exact ih (Cursor.next?_renumber _)
  | case4 parsing node cursor next moving unplaced ih =>
    rw [next] at moved
    rw [run_next moved,Node.renumber_type,if_neg unplaced]
    exact ih (Cursor.next?_renumber _)

end Parsing

theorem parse_renumber (stopOnError : Bool) (nodes : List Node) (doc : Document) (errors : List SyntacticError) :
    parse stopOnError (nodes.map (Node.renumber f)) (doc.renumber f) (errors.map (SyntacticError.renumber f)) =
      (parse stopOnError nodes doc errors).renumber f :=
  congrArg Parsing.result (Parsing.run_renumber (.start nodes doc errors))

end ScenarioLang
