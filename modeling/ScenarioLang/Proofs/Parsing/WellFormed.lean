import ScenarioLang.Pipeline
import ScenarioLang.Proofs.Lexer.Nodes
import ScenarioLang.Proofs.Parsing.Rules

namespace ScenarioLang

def Family.holds : Family → NodeType → Bool
  | .background, type | .scenario, type | .variantBackground _, type | .variant _, type | .testCase, type
  | .event _, type => type.isStep
  | .uiElement _, type => type = .uiProperty
  | .database, type => type = .databaseProperty
  | .table, type => type = .tableRow
  | .block kind, type => type = .definition kind
  | .feature, _ => false

structure Container.WellFormed (family : Family) (container : Container) : Prop where
  header : container.node.type = family.type
  tags : ∀ node ∈ container.tags, node.type = .tag
  description : ∀ node ∈ container.description, node.type = .text
  children : ∀ node ∈ container.children, family.holds node.type = true
  begins : ∀ first, container.children.head? = some first →
    first.type ≠ .step .also ∧ first.type ≠ .step .otherwise
  named : ∀ kind, family = .block kind →
    (∀ item ∈ container.children, ∃ name, item.name? = some name) ∧
    container.children.Pairwise fun first second => first.name? ≠ second.name?

structure Document.WellFormed (doc : Document) : Prop where
  containers : ∀ family, ∀ container ∈ doc.containers family, container.WellFormed family
  language : ∀ node, doc.language = some node → node.type = .language
  imports : ∀ node ∈ doc.imports, node.type = .importPath ∧ ∃ value, node.value? = some value
  fresh : doc.imports.Pairwise fun first second => first.value? ≠ second.value?
  background : ∀ feature background, doc.feature = some feature → feature.background = some background →
    ∀ scenario ∈ feature.scenarios, background.node.location.Before scenario.node.location
  variantBackground : ∀ feature, doc.feature = some feature → ∀ scenario ∈ feature.scenarios,
    ∀ background, scenario.background = some background →
      ∀ variant ∈ scenario.variants, background.node.location.Before variant.node.location
  events : ∀ kind event, kind.needsFeature = true → doc.events kind = some event →
    ∃ feature, doc.feature = some feature ∧ feature.node.location.Before event.node.location
  uiElements : ∀ feature, doc.feature = some feature →
    (∀ element ∈ doc.uiElements, element.node.location.Before feature.node.location) ∧
    ∀ element ∈ feature.uiElements, feature.node.location.Before element.node.location

def Family.precedes : Family → Family → Bool
  | .background, .scenario => true
  | .variantBackground i, .variant j => i = j
  | .uiElement inFeature, .feature => !inFeature
  | .feature, .uiElement inFeature => inFeature
  | .feature, .event kind => kind.needsFeature
  | _, _ => false

def Family.needsFeature : Family → Bool
  | .event kind => kind.needsFeature
  | .uiElement inFeature => inFeature
  | _ => false

theorem mem_changeLast {change : α → α} {l : List α} {a : α} (member : a ∈ changeLast change l) :
    a ∈ l ∨ ∃ last, l.getLast? = some last ∧ a = change last := by
  fun_induction changeLast change l with
  | case1 => cases member
  | case2 b => exact .inr ⟨b,rfl,List.mem_singleton.mp member⟩
  | case3 b rest more ih =>
    rcases List.mem_cons.mp member with rfl | later
    · exact .inl List.mem_cons_self
    · rcases ih later with inside | ⟨last,ends,same⟩
      · exact .inl (List.mem_cons_of_mem _ inside)
      · refine .inr ⟨last,?_,same⟩
        rw [List.getLast?_cons,ends]
        rfl

namespace Layout

variable {layout : Layout} {node : Node} {tags description : List Node} {family other : Family}

structure Regular (layout : Layout) : Prop where
  language : ∀ node ∈ layout.language, node.type = .language
  imports : ∀ node ∈ layout.imports, node.type = .importPath ∧ ∃ value, node.value? = some value
  fresh : layout.imports.Pairwise fun first second => first.value? ≠ second.value?
  containers : ∀ family, ∀ container ∈ layout.containers family, container.WellFormed family
  order : ∀ family other, family.precedes other = true → ∀ first ∈ layout.containers family,
    ∀ second ∈ layout.containers other, first.node.location.Before second.node.location
  feature : ∀ family, family.needsFeature = true → layout.containers family ≠ [] → layout.hasFeature

def Behind (layout : Layout) (location : Location) : Prop :=
  ∀ family, ∀ container ∈ layout.containers family, container.node.location.Before location

theorem mem_opens {container : Container}
    (member : container ∈ (layout.after node tags description (.opens family)).containers other) :
    container ∈ layout.containers other ∨ (other = family ∧ container = .header node tags description) := by
  by_cases same : other = family
  · subst same
    simpa [after,change] using member
  · exact .inl (by simpa [after,change,Function.update_of_ne same] using member)

theorem mem_joins {container : Container}
    (member : container ∈ (layout.after node tags description (.joins family)).containers other) :
    container ∈ layout.containers other ∨
      (other = family ∧ ∃ last, layout.last? family = some last ∧ container = last.add node) := by
  by_cases same : other = family
  · subst same
    have inside : container ∈ changeLast (Container.add node) (layout.containers other) := by
      simpa [after,change] using member
    exact (mem_changeLast inside).imp id fun last => ⟨rfl,last⟩
  · exact .inl (by simpa [after,change,Function.update_of_ne same] using member)

theorem header_after {effect : Effect} {container : Container}
    (member : container ∈ (layout.after node tags description effect).containers family) :
    (∃ old ∈ layout.containers family, container.node = old.node) ∨
      (effect = .opens family ∧ container.node = node) := by
  cases effect with
  | opens own =>
    rcases mem_opens member with old | ⟨rfl,rfl⟩
    · exact .inl ⟨container,old,rfl⟩
    · exact .inr ⟨rfl,rfl⟩
  | joins own =>
    rcases mem_joins member with old | ⟨rfl,last,ends,rfl⟩
    · exact .inl ⟨container,old,rfl⟩
    · exact .inl ⟨last,List.mem_of_getLast? ends,rfl⟩
  | nothing | declares | includes => exact .inl ⟨container,member,rfl⟩

theorem filled_after {effect : Effect} (filled : layout.containers family ≠ []) :
    (layout.after node tags description effect).containers family ≠ [] := by
  obtain ⟨first,member⟩ := List.exists_mem_of_ne_nil _ filled
  obtain ⟨index,inside,found⟩ := List.getElem_of_mem member
  obtain ⟨kept,there,_⟩ := keeps_after effect family index first (by rw [List.getElem?_eq_getElem inside,found])
  exact List.ne_nil_of_mem (List.mem_of_getElem? there)

namespace Regular

theorem declares (regular : layout.Regular) (own : node.type = .language) :
    (layout.after node tags description .declares).Regular := by
  refine ⟨?_,regular.imports,regular.fresh,regular.containers,regular.order,regular.feature⟩
  intro other member
  rcases List.mem_append.mp member with old | new
  · exact regular.language other old
  · exact List.mem_singleton.mp new ▸ own

theorem includes (regular : layout.Regular) (own : node.type = .importPath) (told : node.Told)
    (new : ∀ other ∈ layout.imports, other.value? ≠ some (node.value?.getD [])) :
    (layout.after node tags description .includes).Regular := by
  obtain ⟨value,found⟩ := told.value own
  refine ⟨regular.language,?_,?_,regular.containers,regular.order,regular.feature⟩
  · intro other member
    rcases List.mem_append.mp member with old | added
    · exact regular.imports other old
    · exact List.mem_singleton.mp added ▸ ⟨own,value,found⟩
  · refine List.pairwise_append.mpr ⟨regular.fresh,List.pairwise_singleton _ _,fun first old second added => ?_⟩
    rw [List.mem_singleton.mp added,found]
    have apart := new first old
    rwa [found] at apart

theorem header (own : node.type = family.type) (signs : ∀ tag ∈ tags, tag.type = .tag)
    (texts : ∀ text ∈ description, text.type = .text) : (Container.header node tags description).WellFormed family := by
  have taken : ∀ (take : Bool) (nodes : List Node), (if take then nodes else []) ⊆ nodes := by
    intro take nodes
    cases take with
    | true => exact List.Subset.refl nodes
    | false => exact List.nil_subset nodes
  refine ⟨own,?_,?_,List.forall_mem_nil _,nofun,fun _ _ => ⟨List.forall_mem_nil _,List.Pairwise.nil⟩⟩
  · exact fun tag member => signs tag (taken _ _ member)
  · exact fun text member => texts text (taken _ _ member)

theorem opens (regular : layout.Regular) (behind : layout.Behind node.location)
    (formed : (Container.header node tags description).WellFormed family)
    (late : ∀ other, family.precedes other = true → layout.containers other = [])
    (needs : family.needsFeature = true → layout.hasFeature) :
    (layout.after node tags description (.opens family)).Regular := by
  refine ⟨regular.language,regular.imports,regular.fresh,?_,?_,?_⟩
  · intro other container member
    rcases mem_opens member with old | ⟨rfl,rfl⟩
    · exact regular.containers other container old
    · exact formed
  · intro one other precedes first before second after
    rcases mem_opens before with old | ⟨rfl,rfl⟩
    · rcases mem_opens after with also | ⟨rfl,rfl⟩
      · exact regular.order one other precedes first old second also
      · exact behind one first old
    · rcases mem_opens after with old | ⟨rfl,_⟩
      · rw [late other precedes] at old
        cases old
      · cases other <;> simp [Family.precedes] at precedes
  · intro other asks filled
    by_cases same : other = family
    · exact filled_after (needs (same ▸ asks))
    · refine filled_after (regular.feature other asks ?_)
      simpa [after,change,Function.update_of_ne same] using filled

theorem joins (regular : layout.Regular)
    (formed : ∀ last, layout.last? family = some last → last.WellFormed family → (last.add node).WellFormed family) :
    (layout.after node tags description (.joins family)).Regular := by
  have same : ∀ {other container}, container ∈ (layout.after node tags description (.joins family)).containers other →
      ∃ old ∈ layout.containers other, container.node = old.node := by
    intro other container member
    rcases header_after member with old | ⟨opens,_⟩
    · exact old
    · cases opens
  refine ⟨regular.language,regular.imports,regular.fresh,?_,?_,?_⟩
  · intro other container member
    rcases mem_joins member with old | ⟨rfl,last,ends,rfl⟩
    · exact regular.containers other container old
    · exact formed last ends (regular.containers other last (List.mem_of_getLast? ends))
  · intro one other precedes first before second after
    obtain ⟨a,inside,here⟩ := same before
    obtain ⟨b,member,there⟩ := same after
    rw [here,there]
    exact regular.order one other precedes a inside b member
  · intro other asks filled
    obtain ⟨container,member⟩ := List.exists_mem_of_ne_nil _ filled
    obtain ⟨old,inside,_⟩ := same member
    exact filled_after (regular.feature other asks (List.ne_nil_of_mem inside))

end Regular

end Layout

theorem Container.WellFormed.add {family : Family} {container : Container} {node : Node}
    (formed : container.WellFormed family) (held : family.holds node.type = true)
    (follows : ∀ kind, node.type = .step kind → kind.continues = true → container.children ≠ [])
    (named : ∀ kind, family = .block kind → ∃ name, node.name? = some name ∧
      ∀ item ∈ container.children, item.name? ≠ some name) : (container.add node).WellFormed family := by
  refine ⟨formed.header,formed.tags,formed.description,?_,?_,?_⟩
  · intro child member
    rcases List.mem_append.mp member with old | new
    · exact formed.children child old
    · exact List.mem_singleton.mp new ▸ held
  · intro first starts
    change (container.children ++ [node]).head? = some first at starts
    cases children : container.children with
    | nil =>
      rw [children] at starts
      cases starts
      exact ⟨fun own => follows _ own rfl children,fun own => follows _ own rfl children⟩
    | cons other rest =>
      rw [children] at starts
      exact formed.begins first (by rw [children]; exact starts)
  · intro kind own
    obtain ⟨names,apart⟩ := formed.named kind own
    obtain ⟨name,said,fresh⟩ := named kind own
    refine ⟨?_,List.pairwise_append.mpr ⟨apart,List.pairwise_singleton _ _,?_⟩⟩
    · intro item member
      rcases List.mem_append.mp member with old | new
      · exact names item old
      · exact List.mem_singleton.mp new ▸ ⟨name,said⟩
    · intro first old second new
      rw [List.mem_singleton.mp new,said]
      exact fresh first old

namespace Site

variable {site next : Site} {node : Node} {tags description : List Node} {family : Family}

theorem opens_type (own : site.doc.familyOf? node.type = some family) : node.type = family.type := by
  cases type : node.type <;> rw [type] at own <;> cases own <;> rfl

theorem opens_late (regular : site.doc.layout.Regular) (admits : site.doc.layout.Admits site.family? node)
    (own : site.doc.familyOf? node.type = some family) {other : Family} (precedes : family.precedes other = true) :
    site.doc.layout.containers other = [] := by
  cases type : node.type with
  | feature =>
    rw [type] at own
    cases own
    simp only [Layout.Admits,type] at admits
    have needs : other.needsFeature = true := by cases other <;> exact precedes
    by_contra filled
    exact regular.feature other needs filled admits
  | background =>
    rw [type] at own
    cases own
    simp only [Layout.Admits,type] at admits
    cases other <;> first | exact admits.2.2 | cases precedes
  | variantBackground =>
    rw [type] at own
    cases own
    simp only [Layout.Admits,type,Document.lastScenario_eq] at admits
    cases other <;> first | exact of_decide_eq_true precedes ▸ admits.2.2 | cases precedes
  | uiElement =>
    rw [type] at own
    cases own
    have none : other = .feature ∧ site.doc.feature.isSome = false := by
      cases other <;> first | exact ⟨rfl,by simpa [Family.precedes] using precedes⟩ | cases precedes
    by_contra filled
    rw [none.1] at filled
    exact Bool.false_ne_true (none.2.symm.trans ((Document.hasFeature_iff _).mp filled))
  | _ =>
    rw [type] at own
    cases own <;> cases other <;> cases precedes

theorem opens_needs (admits : site.doc.layout.Admits site.family? node)
    (own : site.doc.familyOf? node.type = some family) (needs : family.needsFeature = true) :
    site.doc.layout.hasFeature := by
  cases type : node.type <;> rw [type] at own <;> cases own <;> try cases needs
  · exact (Document.hasFeature_iff _).mpr needs
  · simp only [Layout.Admits,type] at admits
    exact admits.1 needs

theorem joins_formed (told : node.Told) (admits : site.doc.layout.Admits site.family? node)
    (child : node.type.isChild = true) (own : site.family? = some family) {last : Container}
    (ends : site.doc.layout.last? family = some last) (formed : last.WellFormed family) :
    (last.add node).WellFormed family := by
  have unnamed : (∀ kind, node.type ≠ .definition kind) → family.holds node.type = true →
      ∀ kind, family = .block kind → ∃ name, node.name? = some name ∧
        ∀ item ∈ last.children, item.name? ≠ some name := by
    intro plain held kind same
    rw [same] at held
    exact absurd (of_decide_eq_true held) (plain kind)
  cases type : node.type with
  | definition kind =>
    simp only [Layout.Admits,type] at admits
    obtain ⟨opened,block,there,fresh⟩ := admits
    obtain rfl : .block kind = family := Option.some.inj (opened.symm.trans own)
    obtain rfl : block = last := Option.some.inj (there.symm.trans ends)
    obtain ⟨name,said⟩ := told.name kind type
    rw [said] at fresh
    refine formed.add (by rw [type]; exact decide_eq_true rfl) (by simp [type]) ?_
    exact fun _ _ => ⟨name,said,fresh⟩
  | tableRow =>
    simp only [Layout.Admits,type] at admits
    obtain rfl : .table = family := Option.some.inj (admits.1.symm.trans own)
    exact formed.add (by rw [type]; rfl) (by simp [type]) (unnamed (by simp [type]) (by rw [type]; rfl))
  | databaseProperty =>
    simp only [Layout.Admits,type] at admits
    obtain rfl : .database = family := Option.some.inj (admits.1.symm.trans own)
    exact formed.add (by rw [type]; rfl) (by simp [type]) (unnamed (by simp [type]) (by rw [type]; rfl))
  | uiProperty =>
    simp only [Layout.Admits,type] at admits
    obtain ⟨inFeature,opened,_⟩ := admits
    obtain rfl : .uiElement inFeature = family := Option.some.inj (opened.symm.trans own)
    exact formed.add (by rw [type]; rfl) (by simp [type]) (unnamed (by simp [type]) (by rw [type]; rfl))
  | step kind =>
    simp only [Layout.Admits,type] at admits
    obtain ⟨other,container,opened,takes,there,follows⟩ := admits
    obtain rfl : other = family := Option.some.inj (opened.symm.trans own)
    obtain rfl : container = last := Option.some.inj (there.symm.trans ends)
    have held : other.holds node.type = true := by
      rw [type]
      cases other <;> first | rfl | cases takes
    refine formed.add held ?_ (unnamed (by simp [type]) held)
    intro same own
    rw [type] at own
    cases own
    exact follows
  | _ =>
    rw [type] at child
    cases child

theorem place_regular (regular : site.doc.layout.Regular) (told : node.Told)
    (behind : site.doc.layout.Behind node.location) (signs : ∀ tag ∈ tags, tag.type = .tag)
    (texts : ∀ text ∈ description, text.type = .text) (placed : node.type.isPlaced = true)
    (ok : site.place node tags description = .ok next) : next.doc.layout.Regular := by
  have admits := place_ok_iff.mp ⟨next,ok⟩
  rw [place_layout ok]
  cases kind placed admits with
  | declares own effect =>
    rw [effect]
    exact regular.declares own
  | includes own effect =>
    rw [effect]
    simp only [Layout.Admits,own] at admits
    exact regular.includes own told admits
  | opens own effect =>
    rw [effect]
    apply regular.opens behind (Layout.Regular.header (opens_type own) signs texts)
    · exact fun other precedes => opens_late regular admits own precedes
    · exact opens_needs admits own
  | joins child own effect =>
    rw [effect]
    exact regular.joins fun last ends => joins_formed told admits child own ends

end Site

namespace Parsing

variable {parsing : Parsing} {node : Node}

-- What is ahead is in the order of the text, behind all headers of the document.
structure Regular (parsing : Parsing) : Prop where
  layout : parsing.site.doc.layout.Regular
  told : ∀ node ∈ parsing.cursor.ahead, node.Told
  order : parsing.cursor.ahead.Pairwise fun first second => first.location.Before second.location
  behind : ∀ node ∈ parsing.cursor.ahead, parsing.site.doc.layout.Behind node.location

theorem Regular.skip (regular : parsing.Regular) {cursor : Cursor} (less : cursor.ahead.Sublist parsing.cursor.ahead) :
    Regular { parsing with cursor := cursor } :=
  ⟨regular.layout,fun node member => regular.told node (less.subset member),regular.order.sublist less,
    fun node member => regular.behind node (less.subset member)⟩

theorem Regular.placeNode (regular : parsing.Regular) (told : node.Told)
    (behind : parsing.site.doc.layout.Behind node.location) (placed : node.type.isPlaced = true)
    (before : ∀ later ∈ parsing.cursor.ahead, node.location.Before later.location) :
    (parsing.placeNode node).Regular := by
  have signs : ∀ tag ∈ parsing.cursor.precedingTags, tag.type = .tag := by
    intro tag member
    exact of_decide_eq_true (List.all_eq_true.mp List.all_takeWhile tag (List.mem_reverse.mp member))
  have texts : ∀ text ∈ (parsing.cursor.takeRun .text).1, text.type = .text := by
    intro text member
    exact of_decide_eq_true (List.all_eq_true.mp List.all_takeWhile text member)
  simp only [Parsing.placeNode]
  split
  · rename_i site ok
    have less : (if node.type.isDescribed then (parsing.cursor.takeRun .text).2 else parsing.cursor).ahead.Sublist
        parsing.cursor.ahead := by
      split
      · exact List.dropWhile_sublist _
      · exact List.Sublist.refl _
    have skipped := regular.skip less
    refine ⟨Site.place_regular regular.layout told behind signs texts placed ok,skipped.told,skipped.order,?_⟩
    intro later member family container inside
    rw [Site.place_layout ok] at inside
    rcases Layout.header_after inside with ⟨old,held,same⟩ | ⟨_,same⟩
    · rw [same]
      exact skipped.behind later member family old held
    · rw [same]
      exact before later (less.subset member)
  · exact ⟨regular.layout,regular.told,regular.order,regular.behind⟩

theorem Regular.run (stopOnError : Bool) (regular : parsing.Regular) :
    (parsing.run stopOnError).site.doc.layout.Regular := by
  -- What the cursor passes comes before what is then ahead.
  have passed : ∀ {parsing : Parsing} {node : Node} {cursor : Cursor}, parsing.Regular →
      parsing.cursor.next? = some (node,cursor) → Regular { parsing with cursor := cursor } ∧ node.Told ∧
        parsing.site.doc.layout.Behind node.location ∧
        ∀ later ∈ cursor.ahead, node.location.Before later.location := by
    intro parsing node cursor regular next
    have ahead := Cursor.next?_ahead next
    have inside : node ∈ parsing.cursor.ahead := ahead ▸ List.mem_cons_self
    refine ⟨regular.skip (ahead ▸ List.sublist_cons_self _ _),regular.told node inside,regular.behind node inside,?_⟩
    have order := regular.order
    rw [ahead] at order
    exact (List.pairwise_cons.mp order).1
  fun_induction Parsing.run stopOnError parsing with
  | case1 parsing done => exact regular.layout
  | case2 parsing node cursor next moved placed result stops =>
    obtain ⟨moves,told,behind,before⟩ := passed regular next
    exact (moves.placeNode told behind placed before).layout
  | case3 parsing node cursor next moved placed result goesOn ih =>
    obtain ⟨moves,told,behind,before⟩ := passed regular next
    exact ih (moves.placeNode told behind placed before)
  | case4 parsing node cursor next moved skipped ih =>
    obtain ⟨⟨layout,told,order,behind⟩,_⟩ := passed regular next
    exact ih ⟨layout,told,order,behind⟩

end Parsing

namespace Document

theorem wellFormed {doc : Document} (regular : doc.layout.Regular) : doc.WellFormed := by
  refine ⟨regular.containers,?_,regular.imports,regular.fresh,?_,?_,?_,?_⟩
  · intro node declared
    exact regular.language node (by simp [layout,declared])
  · intro feature background opened held scenario member
    refine regular.order .background .scenario rfl background.container ?_ scenario.container ?_
    · simp [layout,containers,background?,opened,held]
    · simpa [layout,containers,scenarios,opened] using ⟨scenario,member,rfl⟩
  · intro feature opened scenario member background held variant inside
    obtain ⟨i,bound,found⟩ := List.getElem_of_mem member
    have there : doc.scenarios[i]? = some scenario := by
      simp [scenarios,opened,List.getElem?_eq_getElem bound,found]
    refine regular.order (.variantBackground i) (.variant i) (by simp [Family.precedes]) background.container ?_
      variant.container ?_
    · simp [layout,containers,there,Scenario.backgrounds,held]
    · simpa [layout,containers,there,Scenario.variantContainers] using ⟨variant,inside,rfl⟩
  · intro kind event needs held
    have member : event.container ∈ doc.layout.containers (.event kind) := by simp [layout,containers,held]
    have present := (hasFeature_iff doc).mp (regular.feature (.event kind) needs (List.ne_nil_of_mem member))
    obtain ⟨feature,opened⟩ := Option.isSome_iff_exists.mp present
    refine ⟨feature,opened,regular.order .feature (.event kind) needs feature.container ?_ event.container member⟩
    simp [layout,containers,opened]
  · intro feature opened
    have own : feature.container ∈ doc.layout.containers .feature := by simp [layout,containers,opened]
    refine ⟨fun element member => ?_,fun element member => ?_⟩
    · refine regular.order (.uiElement false) .feature rfl element.container ?_ feature.container own
      simpa [layout,containers] using ⟨element,member,rfl⟩
    · refine regular.order .feature (.uiElement true) rfl feature.container own element.container ?_
      simpa [layout,containers,featureUiElements,opened] using ⟨element,member,rfl⟩

theorem empty_regular (origin : Option FileInfo) : { empty with fileInfo := origin }.layout.Regular := by
  have none : ∀ family, { empty with fileInfo := origin }.layout.containers family = [] := by
    intro family
    cases family with
    | uiElement inFeature => cases inFeature <;> rfl
    | _ => rfl
  refine ⟨List.forall_mem_nil _,List.forall_mem_nil _,List.Pairwise.nil,?_,?_,?_⟩
  · intro family container member
    rw [none] at member
    cases member
  · intro family other _ first member
    rw [none] at member
    cases member
  · intro family _ filled
    exact absurd (none family) filled

end Document

-- Whatever lines a text has, a lexer with built-in languages reads them all, and the
-- document made of what it read is well formed, however far errors let it come.
theorem parse_wellFormed {language : Text} {stopOnError : Bool} {setup : LexerSetup}
    (ready : LexerSetup.start language Dictionary.builtinSource stopOnError = .ready setup) (lines : List Text) :
    ∃ lexer, setup.initial.addLines setup (Text.numbered lines) = .ok lexer ∧
      ∀ stops origin errors,
        (parse stops lexer.lexed.nodes { Document.empty with fileInfo := origin } errors).doc.WellFormed := by
  have total : ∀ language, setup.source language ≠ .crashed := by
    unfold LexerSetup.start at ready
    split at ready
    · cases ready
      exact Dictionary.builtinSource_total
    · cases ready
    · cases ready
  obtain ⟨lexer,read⟩ := LexerState.addLines_runs total setup.initial (Text.numbered lines)
  have ahead : setup.initial.Ahead (Text.numbered lines) := ⟨List.Pairwise.nil,List.forall_mem_nil _⟩
  have order := (LexerState.addLines_ahead (Text.numbered_rising lines) ahead (.inl read)).order
  have told := LexerState.addLines_told (List.forall_mem_nil _) read
  refine ⟨lexer,read,fun stops origin errors => ?_⟩
  have start : (Parsing.start lexer.lexed.nodes { Document.empty with fileInfo := origin } errors).Regular := by
    refine ⟨Document.empty_regular origin,told,order,?_⟩
    intro node _ family container member
    cases family with
    | uiElement inFeature => cases inFeature <;> cases member
    | _ => cases member
  exact Document.wellFormed (start.run stops)

-- A background behind its scenario is refused, and the step under it joins the
-- scenario.
theorem parse_wellFormed_misplaced : ∃ setup lexer,
    LexerSetup.start ['e','n'] Dictionary.builtinSource false = .ready setup ∧
    setup.initial.addLines setup (Text.numbered
      ["Element: e".toList,"Feature: a".toList,"Scenario: b".toList,"Background:".toList,"Given c".toList]) = .ok lexer ∧
    lexer.lexed.nodes.length = 5 ∧ (parse false lexer.lexed.nodes .empty []).doc.WellFormed := by
  let lines := ["Element: e".toList,"Feature: a".toList,"Scenario: b".toList,"Background:".toList,"Given c".toList]
  have ready : LexerSetup.start ['e','n'] Dictionary.builtinSource false =
      .ready ⟨Dictionary.builtinSource,Dictionary.english,false⟩ := rfl
  obtain ⟨lexer,read,formed⟩ := parse_wellFormed ready lines
  refine ⟨_,lexer,ready,read,?_,formed false none []⟩
  have count : (match (LexerSetup.initial ⟨Dictionary.builtinSource,Dictionary.english,false⟩).addLines
      ⟨Dictionary.builtinSource,Dictionary.english,false⟩ (Text.numbered lines) with
    | .ok lexer => lexer.lexed.nodes.length
    | .error _ => 0) = 5 := by decide
  rwa [read] at count

end ScenarioLang
