import Mathlib.Data.List.Induction
import ScenarioLang.Proofs.Parsing.Conservation

namespace ScenarioLang

namespace NodeType

def isHeader : NodeType → Bool
  | feature | background | scenario | variantBackground | variant | testCase | uiElement | database | table
  | block _ | event _ => true
  | _ => false

def isChild : NodeType → Bool
  | definition _ | tableRow | databaseProperty | uiProperty | step _ => true
  | _ => false

def takesSteps : NodeType → Bool
  | background | scenario | variantBackground | variant | testCase | event _ => true
  | _ => false

end NodeType

def Family.type : Family → NodeType
  | .feature => .feature
  | .background => .background
  | .scenario => .scenario
  | .variantBackground _ => .variantBackground
  | .variant _ => .variant
  | .testCase => .testCase
  | .uiElement _ => .uiElement
  | .database => .database
  | .table => .table
  | .block kind => .block kind
  | .event kind => .event kind

def Family.isSingle : Family → Bool
  | .variantBackground _ | .variant _ | .uiElement _ => false
  | _ => true

theorem Family.single_eq {family other : Family} (single : family.isSingle = true)
    (same : other.type = family.type) : other = family := by
  cases family <;> cases other <;> cases same <;> first | rfl | cases single

theorem Family.type_header (family : Family) : family.type.isHeader = true := by
  cases family <;> rfl

-- An accepted header with the children that were accepted before the next one.
structure Section where
  family : Family
  header : Node
  children : List Node
  deriving DecidableEq, Repr

namespace Section

def scenarios (sections : List Section) : Nat := (sections.filter fun s => s.family = .scenario).length

-- The family of a header after some sections. Parts of a scenario go to the
-- last one, elements to the feature once there is one.
def familyFor (sections : List Section) : NodeType → Option Family
  | .feature => some .feature
  | .background => some .background
  | .scenario => some .scenario
  | .variantBackground => some (.variantBackground (scenarios sections - 1))
  | .variant => some (.variant (scenarios sections - 1))
  | .testCase => some .testCase
  | .uiElement => some (.uiElement (sections.any fun s => s.family = .feature))
  | .database => some .database
  | .table => some .table
  | .block kind => some (.block kind)
  | .event kind => some (.event kind)
  | _ => none

def add (node : Node) (opened : Section) : Section := { opened with children := opened.children ++ [node] }

def grow (sections : List Section) (node : Node) : List Section :=
  match familyFor sections node.type with
  | some family => sections ++ [⟨family,node,[]⟩]
  | none => if node.type.isChild then changeLast (add node) sections else sections

def sectionsOf (history : List Node) : List Section := history.foldl grow []

def open? (history : List Node) : Option Section := (sectionsOf history).getLast?

end Section

def Had (type : NodeType) (history : List Node) : Prop := ∃ node ∈ history, node.type = type

-- The placement rules, said of the nodes accepted so far and nothing else.
def Allowed (history : List Node) (node : Node) : Prop :=
  match node.type with
  | .language => ¬Had .language history
  | .importPath =>
    ∀ other ∈ history, other.type = .importPath → other.value? ≠ some (node.value?.getD [])
  | .feature => ¬Had .feature history
  | .background => Had .feature history ∧ ¬Had .background history ∧ ¬Had .scenario history
  | .scenario => Had .feature history
  | .variantBackground =>
    -- The last scenario has neither a background nor a variant of its own yet.
    Had .scenario history ∧ ∀ part ∈ Section.sectionsOf history,
      part.family.scenario? ≠ some (Section.scenarios (Section.sectionsOf history) - 1)
  | .variant => Had .scenario history
  | .testCase | .table | .database | .uiElement => True
  | .block kind => ¬Had (.block kind) history
  | .event kind => (kind.needsFeature = true → Had .feature history) ∧ ¬Had (.event kind) history
  | .definition kind => ∃ opened, Section.open? history = some opened ∧ opened.header.type = .block kind ∧
      ∀ item ∈ opened.children, item.name? ≠ some (node.name?.getD [])
  | .tableRow => ∃ opened, Section.open? history = some opened ∧ opened.header.type = .table
  | .databaseProperty => ∃ opened, Section.open? history = some opened ∧ opened.header.type = .database
  | .uiProperty => ∃ opened, Section.open? history = some opened ∧ opened.header.type = .uiElement
  | .step kind => ∃ opened, Section.open? history = some opened ∧ opened.header.type.takesSteps = true ∧
      (kind.continues = true → opened.children ≠ [])
  | .tag | .text | .longString => True

namespace Section

theorem sectionsOf_concat (history : List Node) (node : Node) :
    sectionsOf (history ++ [node]) = grow (sectionsOf history) node := by
  simp [sectionsOf]

theorem familyFor_type {sections : List Section} {type : NodeType} {family : Family}
    (own : familyFor sections type = some family) : family.type = type := by
  cases type <;> cases own <;> rfl

theorem familyFor_none (sections : List Section) {type : NodeType} (header : type.isHeader = false) :
    familyFor sections type = none := by
  cases type <;> first | rfl | cases header

theorem familyFor_isSome (sections : List Section) (type : NodeType) :
    (familyFor sections type).isSome = type.isHeader := by
  cases type <;> rfl

theorem headers_eq (history : List Node) :
    (sectionsOf history).map header = history.filter fun node => node.type.isHeader := by
  induction history using List.reverseRecOn with
  | nil => rfl
  | append_singleton history node ih =>
    have header := familyFor_isSome (sectionsOf history) node.type
    rw [sectionsOf_concat,grow,List.filter_append]
    split
    · rename_i family own
      rw [own] at header
      simp [ih,← header]
    · rename_i own
      rw [own] at header
      rw [List.filter_cons_of_neg (by simp [← header]),List.filter_nil,List.append_nil]
      split
      · rw [map_changeLast_eq Section.header (add node) _ fun _ => rfl,ih]
      · exact ih

theorem typed {history : List Node} {part : Section} (member : part ∈ sectionsOf history) :
    part.family.type = part.header.type := by
  have all : ∀ history : List Node,
      (sectionsOf history).map (fun s => s.family.type) = (sectionsOf history).map fun s => s.header.type := by
    intro history
    induction history using List.reverseRecOn with
    | nil => rfl
    | append_singleton history node ih =>
      rw [sectionsOf_concat,grow]
      split
      · rename_i family own
        simp [ih,familyFor_type own]
      · split
        · rw [map_changeLast_eq (fun s => s.family.type) (add node) _ fun _ => rfl,
            map_changeLast_eq (fun s => s.header.type) (add node) _ fun _ => rfl,ih]
        · exact ih
  exact List.map_inj_left.mp (all history) part member

theorem had_iff {history : List Node} {type : NodeType} (header : type.isHeader = true) :
    Had type history ↔ ∃ part ∈ sectionsOf history, part.family.type = type := by
  have there : Had type history ↔ ∃ node ∈ history.filter (fun node => node.type.isHeader), node.type = type := by
    constructor
    · rintro ⟨node,member,rfl⟩
      exact ⟨node,List.mem_filter.mpr ⟨member,header⟩,rfl⟩
    · rintro ⟨node,member,own⟩
      exact ⟨node,(List.mem_filter.mp member).1,own⟩
  rw [there,← headers_eq]
  constructor
  · rintro ⟨node,member,own⟩
    obtain ⟨part,inside,rfl⟩ := List.mem_map.mp member
    exact ⟨part,inside,(typed inside).trans own⟩
  · rintro ⟨part,inside,own⟩
    exact ⟨part.header,List.mem_map_of_mem inside,(typed inside).symm.trans own⟩

end Section

def Section.content (part : Section) : Node × List Node := (part.header,part.children)
def Container.content (container : Container) : Node × List Node := (container.node,container.children)

-- A document is what the accepted nodes amount to, and the container that is
-- open in it is the last of their sections.
structure Agrees (history : List Node) (layout : Layout) (opened : Option Family) : Prop where
  language : layout.language = history.filter fun node => node.type = .language
  imports : layout.imports = history.filter fun node => node.type = .importPath
  containers : ∀ family, (layout.containers family).map Container.content =
    ((Section.sectionsOf history).filter fun part => part.family = family).map Section.content
  opened : opened = (Section.open? history).map Section.family

namespace Agrees

variable {history : List Node} {layout : Layout} {opened : Option Family}

theorem length_eq (agrees : Agrees history layout opened) (family : Family) :
    (layout.containers family).length =
      ((Section.sectionsOf history).filter fun part => part.family = family).length := by
  simpa using congrArg List.length (agrees.containers family)

theorem empty_iff (agrees : Agrees history layout opened) (family : Family) :
    layout.containers family = [] ↔ ∀ part ∈ Section.sectionsOf history, part.family ≠ family := by
  rw [← List.length_eq_zero_iff,agrees.length_eq,List.length_eq_zero_iff]
  simp [List.filter_eq_nil_iff]

-- The only family of a type is empty as long as no header of the type was
-- accepted.
theorem had_iff (agrees : Agrees history layout opened) (family : Family) (single : family.isSingle = true) :
    Had family.type history ↔ layout.containers family ≠ [] := by
  rw [Section.had_iff family.type_header,ne_eq,agrees.empty_iff]
  push Not
  constructor
  · rintro ⟨part,member,own⟩
    exact ⟨part,member,Family.single_eq single own⟩
  · rintro ⟨part,member,own⟩
    exact ⟨part,member,by rw [own]⟩

theorem open_last (agrees : Agrees history layout opened) {part : Section}
    (last : Section.open? history = some part) :
    ∃ container, layout.last? part.family = some container ∧ container.content = part.content := by
  have own := agrees.containers part.family
  obtain ⟨front,split⟩ : ∃ front, Section.sectionsOf history = front ++ [part] := by
    obtain ⟨front,split⟩ := List.getLast?_eq_some_iff.mp last
    exact ⟨front,split⟩
  rw [split,List.filter_append,List.filter_cons_of_pos (by simp),List.filter_nil] at own
  have ends := congrArg List.getLast? own
  simp only [List.map_append,List.map_cons,List.map_nil,List.getLast?_append,List.getLast?_map] at ends
  rw [Layout.last?]
  cases held : (layout.containers part.family).getLast? with
  | none => simp [held] at ends
  | some container => exact ⟨container,rfl,by simpa [held] using ends⟩

theorem opened_iff (agrees : Agrees history layout opened) (family : Family) :
    opened = some family ↔ ∃ part, Section.open? history = some part ∧ part.family = family := by
  rw [agrees.opened]
  cases Section.open? history <;> simp

end Agrees

theorem Family.takesSteps_type (family : Family) : family.type.takesSteps = family.takesSteps := by
  cases family <;> rfl

theorem Section.open_typed {history : List Node} {part : Section} (last : Section.open? history = some part) :
    part.family.type = part.header.type :=
  typed (List.mem_of_getLast? last)

namespace Agrees

variable {history : List Node} {layout : Layout} {opened : Option Family} {node : Node}

theorem scenarios_eq (agrees : Agrees history layout opened) :
    (layout.containers .scenario).length = Section.scenarios (Section.sectionsOf history) :=
  agrees.length_eq .scenario

theorem had_feature (agrees : Agrees history layout opened) : Had .feature history ↔ layout.hasFeature :=
  agrees.had_iff .feature rfl

theorem had_scenario (agrees : Agrees history layout opened) :
    Had .scenario history ↔ layout.containers .scenario ≠ [] :=
  agrees.had_iff .scenario rfl

theorem parts_iff (agrees : Agrees history layout opened) (i : Nat) :
    (∀ part ∈ Section.sectionsOf history, part.family.scenario? ≠ some i) ↔
      layout.containers (.variantBackground i) = [] ∧ layout.containers (.variant i) = [] := by
  rw [agrees.empty_iff,agrees.empty_iff]
  constructor
  · intro none
    refine ⟨fun part member own => none part member ?_,fun part member own => none part member ?_⟩ <;>
      rw [own] <;> rfl
  · rintro ⟨backgrounds,variants⟩ part member own
    cases family : part.family <;> rw [family] at own <;> cases own
    · exact backgrounds part member family
    · exact variants part member family

theorem definition_iff (agrees : Agrees history layout opened) (kind : DefinitionKind) :
    (opened = some (.block kind) ∧ ∃ block, layout.last? (.block kind) = some block ∧
      ∀ item ∈ block.children, item.name? ≠ some (node.name?.getD [])) ↔
    ∃ part, Section.open? history = some part ∧ part.header.type = .block kind ∧
      ∀ item ∈ part.children, item.name? ≠ some (node.name?.getD []) := by
  rw [agrees.opened_iff]
  constructor
  · rintro ⟨⟨part,last,own⟩,block,held,fresh⟩
    obtain ⟨container,there,content⟩ := agrees.open_last last
    rw [own,held] at there
    cases there
    have children : block.children = part.children := congrArg Prod.snd content
    exact ⟨part,last,by rw [← Section.open_typed last,own]; rfl,children ▸ fresh⟩
  · rintro ⟨part,last,type,fresh⟩
    have own : part.family = .block kind := Family.single_eq rfl ((Section.open_typed last).trans type)
    obtain ⟨container,there,content⟩ := agrees.open_last last
    rw [own] at there
    have children : container.children = part.children := congrArg Prod.snd content
    exact ⟨⟨part,last,own⟩,container,there,children ▸ fresh⟩

theorem step_iff (agrees : Agrees history layout opened) (kind : StepKind) :
    (∃ family container, opened = some family ∧ family.takesSteps = true ∧
      layout.last? family = some container ∧ (kind.continues = true → container.children ≠ [])) ↔
    ∃ part, Section.open? history = some part ∧ part.header.type.takesSteps = true ∧
      (kind.continues = true → part.children ≠ []) := by
  constructor
  · rintro ⟨family,container,own,takes,held,follows⟩
    obtain ⟨part,last,rfl⟩ := (agrees.opened_iff family).mp own
    obtain ⟨found,there,content⟩ := agrees.open_last last
    rw [held] at there
    cases there
    have children : container.children = part.children := congrArg Prod.snd content
    exact ⟨part,last,by rw [← Section.open_typed last,Family.takesSteps_type,takes],children ▸ follows⟩
  · rintro ⟨part,last,takes,follows⟩
    obtain ⟨container,held,content⟩ := agrees.open_last last
    have children : container.children = part.children := congrArg Prod.snd content
    rw [← Section.open_typed last,Family.takesSteps_type] at takes
    exact ⟨part.family,container,(agrees.opened_iff _).mpr ⟨part,last,rfl⟩,takes,held,children ▸ follows⟩

theorem joined_iff (agrees : Agrees history layout opened) (type : NodeType) :
    (∃ family, opened = some family ∧ layout.containers family ≠ [] ∧ family.type = type) ↔
      ∃ part, Section.open? history = some part ∧ part.header.type = type := by
  constructor
  · rintro ⟨family,own,_,named⟩
    obtain ⟨part,last,rfl⟩ := (agrees.opened_iff family).mp own
    exact ⟨part,last,(Section.open_typed last).symm.trans named⟩
  · rintro ⟨part,last,named⟩
    obtain ⟨container,held,_⟩ := agrees.open_last last
    refine ⟨part.family,(agrees.opened_iff _).mpr ⟨part,last,rfl⟩,?_,(Section.open_typed last).trans named⟩
    intro empty
    simp [Layout.last?,empty] at held

theorem joined_single (agrees : Agrees history layout opened) (family : Family) (single : family.isSingle = true) :
    (opened = some family ∧ layout.containers family ≠ []) ↔
      ∃ part, Section.open? history = some part ∧ part.header.type = family.type := by
  rw [← agrees.joined_iff]
  constructor
  · rintro ⟨own,filled⟩
    exact ⟨family,own,filled,rfl⟩
  · rintro ⟨other,own,filled,named⟩
    obtain rfl := Family.single_eq single named
    exact ⟨own,filled⟩

-- What a document admits is what the rules allow after the nodes in it.
theorem admits_iff (agrees : Agrees history layout opened) : layout.Admits opened node ↔ Allowed history node := by
  unfold Layout.Admits Allowed
  cases type : node.type with
  | language => simp [agrees.language,Had,List.filter_eq_nil_iff]
  | importPath => simp [agrees.imports]
  | feature => simp only [agrees.had_feature,Layout.hasFeature,ne_eq,not_not]
  | background =>
    have background : Had .background history ↔ layout.containers .background ≠ [] :=
      agrees.had_iff .background rfl
    simp only [agrees.had_feature,background,agrees.had_scenario,ne_eq,not_not]
  | scenario => exact agrees.had_feature.symm
  | variantBackground =>
    simp only [agrees.had_scenario,agrees.parts_iff,Layout.lastScenario,agrees.scenarios_eq]
  | variant => exact agrees.had_scenario.symm
  | block kind =>
    have block : Had (.block kind) history ↔ layout.containers (.block kind) ≠ [] :=
      agrees.had_iff (.block kind) rfl
    simp only [block,ne_eq,not_not]
  | event kind =>
    have event : Had (.event kind) history ↔ layout.containers (.event kind) ≠ [] :=
      agrees.had_iff (.event kind) rfl
    simp only [agrees.had_feature,event,ne_eq,not_not]
  | definition kind => exact agrees.definition_iff kind
  | tableRow => exact agrees.joined_single .table rfl
  | databaseProperty => exact agrees.joined_single .database rfl
  | uiProperty =>
    refine Iff.trans ?_ (agrees.joined_iff .uiElement)
    constructor
    · rintro ⟨_,own,filled⟩
      exact ⟨_,own,filled,rfl⟩
    · rintro ⟨family,own,filled,named⟩
      cases family <;> cases named
      exact ⟨_,own,filled⟩
  | step kind => exact agrees.step_iff kind
  | testCase | table | database | uiElement | tag | text | longString => simp only

end Agrees

-- What an accepted node does, by its type: declarations and imports have their
-- own lists, headers open a family and children join the open one.
inductive Site.Kind (site : Site) (type : NodeType) : Prop where
  | declares (own : type = .language) (effect : site.effect type = .declares)
  | includes (own : type = .importPath) (effect : site.effect type = .includes)
  | opens {family : Family} (own : site.doc.familyOf? type = some family) (effect : site.effect type = .opens family)
  | joins {family : Family} (child : type.isChild = true) (own : site.family? = some family)
      (effect : site.effect type = .joins family)

theorem Site.kind {site : Site} {node : Node} (placed : node.type.isPlaced = true)
    (admits : site.doc.layout.Admits site.family? node) : site.Kind node.type := by
  cases type : node.type with
  | tag | text | longString => simp [type,NodeType.isPlaced] at placed
  | language => exact .declares rfl rfl
  | importPath => exact .includes rfl rfl
  | definition | tableRow | databaseProperty | uiProperty | step =>
    cases opened : site.family? with
    | none => simp [Layout.Admits,type,opened] at admits
    | some family => exact .joins rfl opened (by simp [effect,Document.familyOf?,opened])
  | _ => exact .opens rfl rfl

theorem NodeType.child_not_header {type : NodeType} (child : type.isChild = true) : type.isHeader = false := by
  cases type <;> first | rfl | cases child

namespace Agrees

variable {history : List Node} {layout : Layout} {opened : Option Family} {node : Node} {tags description : List Node}

theorem familyOf?_eq {site : Site} (agrees : Agrees history site.doc.layout site.family?) (type : NodeType) :
    site.doc.familyOf? type = Section.familyFor (Section.sectionsOf history) type := by
  have count : site.doc.scenarios.length = Section.scenarios (Section.sectionsOf history) :=
    (Document.scenarios_length _).trans agrees.scenarios_eq
  have feature : site.doc.feature.isSome = (Section.sectionsOf history).any fun part => part.family = .feature := by
    have empty := agrees.empty_iff .feature
    rw [Bool.eq_iff_iff,← Document.hasFeature_iff,Layout.hasFeature,ne_eq,empty]
    simp
  cases type <;> simp [Document.familyOf?,Section.familyFor,count,feature]

theorem aside (agrees : Agrees history layout opened) (header : node.type.isHeader = false)
    (child : node.type.isChild = false) {next : Layout} (containers : next.containers = layout.containers)
    (language : next.language = (history ++ [node]).filter fun n => n.type = .language)
    (imports : next.imports = (history ++ [node]).filter fun n => n.type = .importPath) :
    Agrees (history ++ [node]) next opened := by
  have same : Section.sectionsOf (history ++ [node]) = Section.sectionsOf history := by
    simp [Section.sectionsOf_concat,Section.grow,Section.familyFor_none _ header,child]
  refine ⟨language,imports,?_,?_⟩
  · rw [containers,same]; exact agrees.containers
  · rw [Section.open?,same]; exact agrees.opened

theorem declares (agrees : Agrees history layout opened) (own : node.type = .language) :
    Agrees (history ++ [node]) (layout.after node tags description .declares) opened := by
  refine agrees.aside (by rw [own]; rfl) (by rw [own]; rfl) rfl ?_ ?_
  · simp [Layout.after,agrees.language,own]
  · simp [Layout.after,agrees.imports,own]

theorem includes (agrees : Agrees history layout opened) (own : node.type = .importPath) :
    Agrees (history ++ [node]) (layout.after node tags description .includes) opened := by
  refine agrees.aside (by rw [own]; rfl) (by rw [own]; rfl) rfl ?_ ?_
  · simp [Layout.after,agrees.language,own]
  · simp [Layout.after,agrees.imports,own]

theorem filter_aside (header : node.type.isHeader = true ∨ node.type.isChild = true) {type : NodeType}
    (aside : type.isHeader = false ∧ type.isChild = false) :
    (history ++ [node]).filter (fun n => n.type = type) = history.filter fun n => n.type = type := by
  have apart : node.type ≠ type := by
    rintro rfl
    simp [aside] at header
  simp [apart]

theorem opens (agrees : Agrees history layout opened) {family : Family}
    (own : Section.familyFor (Section.sectionsOf history) node.type = some family) :
    Agrees (history ++ [node]) (layout.after node tags description (.opens family)) (some family) := by
  have header : node.type.isHeader = true := by
    rw [← Section.familyFor_isSome (Section.sectionsOf history),own]
    rfl
  have more : Section.sectionsOf (history ++ [node]) = Section.sectionsOf history ++ [⟨family,node,[]⟩] := by
    rw [Section.sectionsOf_concat,Section.grow,own]
  refine ⟨?_,?_,?_,?_⟩
  · rw [filter_aside (.inl header) ⟨rfl,rfl⟩]; exact agrees.language
  · rw [filter_aside (.inl header) ⟨rfl,rfl⟩]; exact agrees.imports
  · intro other
    rw [more,List.filter_append,List.map_append,← agrees.containers other]
    by_cases same : other = family
    · subst same
      simp [Layout.after,Layout.change,Container.content,Container.header,Section.content]
    · simp [Layout.after,Layout.change,same,Ne.symm same]
  · simp [Section.open?,more]

theorem joins (agrees : Agrees history layout opened) (child : node.type.isChild = true) {family : Family}
    (own : opened = some family) :
    Agrees (history ++ [node]) (layout.after node tags description (.joins family)) opened := by
  obtain ⟨part,last,rfl⟩ := (agrees.opened_iff family).mp own
  obtain ⟨front,split⟩ := List.getLast?_eq_some_iff.mp last
  have none := Section.familyFor_none (Section.sectionsOf history) (NodeType.child_not_header child)
  have grown : Section.sectionsOf (history ++ [node]) = front ++ [part.add node] := by
    rw [Section.sectionsOf_concat,Section.grow,none]
    simp only [child,if_true]
    rw [split,changeLast_concat]
  refine ⟨?_,?_,?_,?_⟩
  · rw [filter_aside (.inr child) ⟨rfl,rfl⟩]; exact agrees.language
  · rw [filter_aside (.inr child) ⟨rfl,rfl⟩]; exact agrees.imports
  · intro other
    have held := agrees.containers other
    rw [split,List.filter_append] at held
    rw [grown,List.filter_append]
    by_cases same : other = part.family
    · subst same
      have square : ∀ c : Container, (c.add node).content = (c.content.1,c.content.2 ++ [node]) := fun _ => rfl
      simp only [Layout.after,Layout.change,Function.update_self]
      rw [map_changeLast Container.content _ (fun c => (c.1,c.2 ++ [node])) _ square,held]
      simp [changeLast_concat,Section.content,Section.add]
    · simpa [Layout.after,Layout.change,same,Ne.symm same,Section.add] using held
  · simpa [Section.open?,grown,Section.add] using own

theorem step {site next : Site} (agrees : Agrees history site.doc.layout site.family?)
    (placed : node.type.isPlaced = true) (ok : site.place node tags description = .ok next) :
    Agrees (history ++ [node]) next.doc.layout next.family? := by
  have kind := Site.kind placed (Site.place_ok_iff.mp ⟨next,ok⟩)
  rw [Site.place_layout ok,Site.place_family ok]
  cases kind with
  | declares own effect => rw [effect]; exact agrees.declares own
  | includes own effect => rw [effect]; exact agrees.includes own
  | opens own effect => rw [effect]; exact agrees.opens (agrees.familyOf?_eq _ ▸ own)
  | joins child own effect => rw [effect]; exact agrees.joins child own

theorem start : Agrees [] Document.empty.layout (Site.start .empty).family? := by
  refine ⟨rfl,rfl,?_,rfl⟩
  intro family
  cases family with
  | uiElement inFeature => cases inFeature <;> rfl
  | _ => rfl

end Agrees

def Section.spotFor (sections : List Section) (type : NodeType) : Option Spot :=
  match type with
  | .language => some .language
  | .importPath => some .imports
  | type =>
    match familyFor sections type with
    | some family => some (.headers family)
    | none => sections.getLast?.map fun opened =>
      .children opened.family ((sections.filter fun part => part.family = opened.family).length - 1)

theorem Agrees.spot_eq {history : List Node} {site next : Site} {node : Node} {tags description : List Node}
    (agrees : Agrees history site.doc.layout site.family?) (placed : node.type.isPlaced = true)
    (ok : site.place node tags description = .ok next) :
    site.doc.layout.spot? (site.effect node.type) =
      Section.spotFor (Section.sectionsOf history) node.type := by
  have kind := Site.kind placed (Site.place_ok_iff.mp ⟨next,ok⟩)
  cases kind with
  | declares own effect => rw [effect,own]; rfl
  | includes own effect => rw [effect,own]; rfl
  | @opens family own effect =>
    rw [agrees.familyOf?_eq] at own
    rw [effect]
    cases type : node.type <;> rw [type] at own <;> first | (cases own; done) | simp [Layout.spot?,Section.spotFor,own]
  | @joins family child own effect =>
    obtain ⟨part,last,rfl⟩ := (agrees.opened_iff family).mp own
    have none := Section.familyFor_none (Section.sectionsOf history) (NodeType.child_not_header child)
    rw [Section.open?] at last
    rw [effect,Layout.spot?,agrees.length_eq]
    cases type : node.type <;> rw [type] at none child <;>
      first | (cases child; done) | simp [Section.spotFor,none,last]

-- A verdict follows the rules if the node is accepted exactly where they allow
-- it, and then put where the open container is.
def Visit.Follows (history : List Node) (visit : Visit) : Prop :=
  (visit.spot?.isSome = true ↔ Allowed history visit.node) ∧
  ∀ spot, visit.spot? = some spot → Section.spotFor (Section.sectionsOf history) visit.node.type = some spot

theorem Visit.follows_cons {history : List Node} {first : Visit} {log : List Visit} (now : first.Follows history)
    (later : ∀ before visit rest, log = before ++ visit :: rest →
      visit.Follows (history ++ accepted [first] ++ accepted before)) :
    ∀ before visit rest, first :: log = before ++ visit :: rest → visit.Follows (history ++ accepted before) := by
  intro before visit rest split
  cases before with
  | nil =>
    cases split
    simpa [accepted] using now
  | cons other before =>
    rw [List.cons_append,List.cons.injEq] at split
    obtain ⟨rfl,split⟩ := split
    have parts : accepted (first :: before) = accepted [first] ++ accepted before := by
      simp only [accepted,← List.map_append,← List.filter_append,List.singleton_append]
    rw [parts,← List.append_assoc]
    exact later before visit rest split

namespace Parsing

theorem Trace.follows {parsing final : Parsing} {log : List Visit} (trace : Trace parsing log final)
    {history : List Node} (agrees : Agrees history parsing.site.doc.layout parsing.site.family?) :
    (∀ before visit rest, log = before ++ visit :: rest → visit.Follows (history ++ Visit.accepted before)) ∧
      Agrees (history ++ Visit.accepted log) final.site.doc.layout final.site.family? := by
  induction trace generalizing history with
  | ended done =>
    refine ⟨?_,by simpa [Visit.accepted] using agrees⟩
    intro before visit rest split
    simp at split
  | passed next skipped rest ih => exact ih agrees
  | @accepted parsing final node cursor site spot log next placed ok at_ rest ih =>
    obtain ⟨follows,ends⟩ := ih (agrees.step placed ok)
    refine ⟨Visit.follows_cons ⟨?_,?_⟩ follows,by simpa [Visit.accepted,Visit.spot?] using ends⟩
    · have allowed := agrees.admits_iff.mp (Site.place_ok_iff.mp ⟨site,ok⟩)
      simpa [Visit.spot?] using allowed
    · intro spot' own
      cases own
      rw [← at_]
      exact (agrees.spot_eq placed ok).symm
  | @refused parsing final node cursor fault log next placed error rest ih =>
    obtain ⟨follows,ends⟩ := ih agrees
    have refused : ¬Allowed history node := by
      intro allowed
      obtain ⟨site,ok⟩ : ∃ site, parsing.site.place node cursor.precedingTags (cursor.takeRun .text).1 = .ok site :=
        Site.place_ok_iff.mpr (agrees.admits_iff.mpr allowed)
      rw [error] at ok
      cases ok
    refine ⟨Visit.follows_cons ⟨?_,fun spot own => by cases own⟩ ?_,by simpa [Visit.accepted,Visit.spot?] using ends⟩
    · simpa [Visit.spot?] using refused
    · simpa [Visit.accepted,Visit.spot?] using follows

end Parsing

-- From an empty document each node is accepted exactly where the placement rules
-- allow it after the nodes accepted before, and the document is what the accepted
-- nodes amount to.
theorem parse_follows_rules (nodes : List Node) : ∃ log final,
    Parsing.Trace (.start nodes .empty []) log final ∧ final.result = parse false nodes .empty [] ∧
    log.map Visit.node = nodes.filter (fun node => node.type.isPlaced) ∧
    (∀ before visit rest, log = before ++ visit :: rest → visit.Follows (Visit.accepted before)) ∧
    Agrees (Visit.accepted log) (parse false nodes .empty []).doc.layout final.site.family? := by
  obtain ⟨log,trace⟩ := Parsing.run_trace (.start nodes .empty [])
  obtain ⟨follows,agrees⟩ := trace.follows Agrees.start
  simp only [List.nil_append] at follows agrees
  exact ⟨log,_,trace,rfl,trace.nodes,follows,agrees⟩

end ScenarioLang
