import ScenarioLang.Proofs.Parsing.Conservation

namespace ScenarioLang

def Document.under (origin : Option FileInfo) (doc : Document) : Document := { doc with fileInfo := origin }

def Site.under (origin : Option FileInfo) (site : Site) : Site := ⟨site.doc.under origin,site.scope⟩

def Parsing.under (origin : Option FileInfo) (parsing : Parsing) : Parsing :=
  { parsing with site := parsing.site.under origin }

def Parsed.under (origin : Option FileInfo) (parsed : Parsed) : Parsed := { parsed with doc := parsed.doc.under origin }

variable {origin : Option FileInfo}

namespace Document

theorem addStep_under (doc : Document) (node : Node) (scope : Scope) :
    (doc.under origin).addStep node scope = (doc.addStep node scope).under origin := by
  cases scope <;> rfl

theorem addUiProperty_under (doc : Document) (node : Node) (scope : Scope) :
    (doc.under origin).addUiProperty node scope = (doc.addUiProperty node scope).under origin := by
  cases scope with
  | uiElement inFeature => cases inFeature <;> rfl
  | _ => rfl

theorem addUiElement_under (doc : Document) (element : UiElement) :
    (doc.under origin).addUiElement element = (doc.addUiElement element).under origin := by
  obtain ⟨_,_,_,feature,_,_,_,_,_,_⟩ := doc
  cases feature <;> rfl

end Document

namespace Site

variable (site : Site) (node : Node)

theorem placeBackground_under :
    (site.under origin).placeBackground node = (site.placeBackground node).map (under origin) := by
  obtain ⟨⟨_,_,_,feature,_,_,_,_,_,_⟩,scope⟩ := site
  cases feature with
  | none => rfl
  | some feature =>
    obtain ⟨_,_,_,background,scenarios,_⟩ := feature
    cases background with
    | some background => rfl
    | none => cases scenarios <;> rfl

theorem placeVariantBackground_under :
    (site.under origin).placeVariantBackground node = (site.placeVariantBackground node).map (under origin) := by
  have same : (site.under origin).doc.currentScenario? = site.doc.currentScenario? := rfl
  simp only [placeVariantBackground,same]
  cases site.doc.currentScenario? with
  | none => rfl
  | some scenario =>
    obtain ⟨_,_,_,background,_,variants⟩ := scenario
    cases background with
    | some background => rfl
    | none => cases variants <;> rfl

theorem opened_under (origin : Option FileInfo) : (site.under origin).doc.openSteps? site.scope = site.doc.openSteps? site.scope ∧
    (site.under origin).doc.currentUiElement? site.scope = site.doc.currentUiElement? site.scope ∧
    (site.under origin).doc.currentDatabase? site.scope = site.doc.currentDatabase? site.scope ∧
    (site.under origin).doc.currentTable? site.scope = site.doc.currentTable? site.scope ∧
    (site.under origin).doc.currentBlock? site.scope = site.doc.currentBlock? site.scope := by
  cases site.scope with
  | uiElement inFeature => cases inFeature <;> exact ⟨rfl,rfl,rfl,rfl,rfl⟩
  | _ => exact ⟨rfl,rfl,rfl,rfl,rfl⟩

theorem placeStep_under (kind : StepKind) :
    (site.under origin).placeStep kind node = (site.placeStep kind node).map (under origin) := by
  have scope : (site.under origin).scope = site.scope := rfl
  simp only [placeStep,scope,(site.opened_under origin).1]
  cases site.doc.openSteps? site.scope with
  | none => rfl
  | some steps =>
    dsimp only
    split
    · rfl
    · exact congrArg (fun doc => Except.ok (Site.mk doc site.scope)) (Document.addStep_under site.doc node site.scope)

theorem placeDefinition_under (kind : DefinitionKind) :
    (site.under origin).placeDefinition kind node = (site.placeDefinition kind node).map (under origin) := by
  have scope : (site.under origin).scope = site.scope := rfl
  simp only [placeDefinition,scope,(site.opened_under origin).2.2.2.2]
  cases (if site.scope = .block kind then site.doc.currentBlock? site.scope else none) with
  | none => rfl
  | some block =>
    dsimp only
    split <;> rfl

theorem placeEvent_under (kind : EventKind) :
    (site.under origin).placeEvent kind node = (site.placeEvent kind node).map (under origin) := by
  have feature : (site.under origin).doc.feature = site.doc.feature := rfl
  have events : (site.under origin).doc.events = site.doc.events := rfl
  simp only [placeEvent,feature,events]
  split
  · rfl
  · split <;> rfl

end Site

theorem Site.place_under (site : Site) (node : Node) (tags description : List Node) :
    (site.under origin).place node tags description = (site.place node tags description).map (under origin) := by
  have scope : (site.under origin).scope = site.scope := rfl
  obtain ⟨_,element,database,table,_⟩ := site.opened_under origin
  unfold place
  cases node.type with
  | language =>
    obtain ⟨⟨_,language,_,_,_,_,_,_,_,_⟩,scope⟩ := site
    cases language <;> rfl
  | importPath =>
    have same : (site.under origin).doc.importValues = site.doc.importValues := rfl
    simp only [placeImport,same]
    split <;> rfl
  | feature =>
    obtain ⟨⟨_,_,_,feature,_,_,_,_,_,_⟩,scope⟩ := site
    cases feature <;> rfl
  | background => exact site.placeBackground_under node
  | variantBackground => exact site.placeVariantBackground_under node
  | scenario =>
    obtain ⟨⟨_,_,_,feature,_,_,_,_,_,_⟩,scope⟩ := site
    cases feature <;> rfl
  | variant =>
    have same : (site.under origin).doc.currentScenario? = site.doc.currentScenario? := rfl
    simp only [same]
    split <;> rfl
  | testCase => rfl
  | block kind =>
    have same : (site.under origin).doc.blocks = site.doc.blocks := rfl
    simp only [same]
    split <;> rfl
  | definition kind => exact site.placeDefinition_under node kind
  | table => rfl
  | tableRow =>
    simp only [scope,table]
    split <;> rfl
  | database => rfl
  | databaseProperty =>
    simp only [scope,database]
    split <;> rfl
  | uiElement =>
    have added : (site.doc.under origin).addUiElement ⟨node,tags,[]⟩ = _ :=
      Document.addUiElement_under site.doc ⟨node,tags,[]⟩
    exact congrArg (fun doc => Except.ok (Site.mk doc (.uiElement site.doc.feature.isSome))) added
  | uiProperty =>
    simp only [scope,element]
    split
    · rfl
    · exact congrArg (fun doc => Except.ok (Site.mk doc site.scope)) (Document.addUiProperty_under site.doc node site.scope)
  | event kind => exact site.placeEvent_under node kind
  | step kind => exact site.placeStep_under node kind
  | tag | text | longString => rfl

namespace Parsing

theorem placeNode_under (parsing : Parsing) (node : Node) :
    (parsing.under origin).placeNode node = (parsing.placeNode node).under origin := by
  have site : (parsing.under origin).site = parsing.site.under origin := rfl
  have cursor : (parsing.under origin).cursor = parsing.cursor := rfl
  simp only [placeNode,site,cursor,Site.place_under]
  cases parsing.site.place node parsing.cursor.precedingTags (parsing.cursor.takeRun .text).1 <;> rfl

theorem moved_under (parsing : Parsing) (cursor : Cursor) (node : Node) :
    ({ parsing.under origin with cursor := cursor } : Parsing).placeNode node =
      (({ parsing with cursor := cursor } : Parsing).placeNode node).under origin :=
  placeNode_under { parsing with cursor := cursor } node

theorem errors_under (parsing : Parsing) : (parsing.under origin).errors = parsing.errors := rfl

theorem run_under {stopOnError : Bool} (parsing : Parsing) :
    (parsing.under origin).run stopOnError = (parsing.run stopOnError).under origin := by
  fun_induction run stopOnError parsing with
  | case1 parsing ended => exact run_ended ended
  | case2 parsing node cursor next moving placed result stops =>
    have there : (parsing.under origin).cursor.next? = some (node,cursor) := next
    rw [run_next there,moved_under,errors_under,if_pos placed,if_pos stops]
  | case3 parsing node cursor next moving placed result goesOn ih =>
    have there : (parsing.under origin).cursor.next? = some (node,cursor) := next
    rw [run_next there,moved_under,errors_under,if_pos placed,if_neg goesOn]
    exact ih
  | case4 parsing node cursor next moving unplaced ih =>
    have there : (parsing.under origin).cursor.next? = some (node,cursor) := next
    rw [run_next there,if_neg unplaced]
    exact ih

end Parsing

theorem parse_under (stopOnError : Bool) (nodes : List Node) (doc : Document) (errors : List SyntacticError) :
    parse stopOnError nodes (doc.under origin) errors = (parse stopOnError nodes doc errors).under origin :=
  congrArg Parsing.result (Parsing.run_under (.start nodes doc errors))

end ScenarioLang
