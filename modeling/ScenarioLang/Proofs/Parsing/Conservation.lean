import Mathlib.Data.List.Nodup
import Mathlib.Data.List.Perm.Basic
import ScenarioLang.Proofs.Parsing.Admission

namespace ScenarioLang

-- A place in a document where nodes are kept: the declared language, the list of
-- imports, the headers of a family, or the children of one of its containers.
inductive Spot where
  | language | imports | headers (family : Family) | children (family : Family) (index : Nat)
  deriving DecidableEq, Repr

def Container.nodes (container : Container) : List Node := container.node :: container.children

namespace Layout

def nodesAt (layout : Layout) : Spot → List Node
  | .language => layout.language
  | .imports => layout.imports
  | .headers family => (layout.containers family).map Container.node
  | .children family index => ((layout.containers family)[index]?.map Container.children).getD []

def spot? (layout : Layout) : Effect → Option Spot
  | .nothing => none
  | .declares => some .language
  | .includes => some .imports
  | .opens family => some (.headers family)
  | .joins family => some (.children family ((layout.containers family).length - 1))

def Keeps (before after : Layout) : Prop :=
  ∀ (family : Family) (index : Nat) (container : Container),
    (before.containers family)[index]? = some container →
    ∃ kept : Container, (after.containers family)[index]? = some kept ∧ kept.node = container.node ∧
      kept.tags = container.tags ∧ kept.description = container.description

theorem Keeps.refl (layout : Layout) : layout.Keeps layout :=
  fun _ _ container found => ⟨container,found,rfl,rfl,rfl⟩

theorem Keeps.trans {a b c : Layout} (first : a.Keeps b) (second : b.Keeps c) : a.Keeps c := by
  intro family index container found
  obtain ⟨middle,there,node,tags,description⟩ := first family index container found
  obtain ⟨kept,last,node',tags',description'⟩ := second family index middle there
  exact ⟨kept,last,node'.trans node,tags'.trans tags,description'.trans description⟩

variable {layout : Layout} {node : Node} {tags description : List Node}

theorem keeps_after (effect : Effect) : layout.Keeps (layout.after node tags description effect) := by
  intro family index container found
  have inside := (List.getElem?_eq_some_iff.mp found).1
  cases effect with
  | nothing | declares | includes => exact ⟨container,found,rfl,rfl,rfl⟩
  | opens own =>
    by_cases same : family = own
    · subst same
      refine ⟨container,?_,rfl,rfl,rfl⟩
      simp only [after,change,Function.update_self]
      rw [List.getElem?_append_left inside,found]
    · exact ⟨container,by simpa [after,change,Function.update_of_ne same] using found,rfl,rfl,rfl⟩
  | joins own =>
    by_cases same : family = own
    · subst same
      simp only [after,change,Function.update_self,getElem?_changeLast,found,Option.map_some]
      split
      · exact ⟨_,rfl,rfl,rfl,rfl⟩
      · exact ⟨container,rfl,rfl,rfl,rfl⟩
    · exact ⟨container,by simpa [after,change,Function.update_of_ne same] using found,rfl,rfl,rfl⟩

theorem nodesAt_after {effect : Effect} {own : Spot} (at_ : layout.spot? effect = some own)
    (filled : ∀ family, effect = .joins family → layout.containers family ≠ []) (spot : Spot) :
    (layout.after node tags description effect).nodesAt spot =
      layout.nodesAt spot ++ if spot = own then [node] else [] := by
  cases effect with
  | nothing => cases at_
  | declares => cases at_; cases spot <;> simp [after,nodesAt]
  | includes => cases at_; cases spot <;> simp [after,nodesAt]
  | opens family =>
    cases at_
    cases spot with
    | language | imports => simp [after,change,nodesAt]
    | headers other =>
      by_cases same : other = family
      · subst same; simp [after,change,nodesAt,Container.header]
      · simp [after,change,nodesAt,same]
    | children other index =>
      by_cases same : other = family
      · subst same
        rcases Nat.lt_trichotomy index (layout.containers other).length with inside | new | beyond
        · simp [after,change,nodesAt,List.getElem?_append_left inside]
        · simp [after,change,nodesAt,new,Container.header]
        · have outside : (layout.containers other)[index]? = none := List.getElem?_eq_none (by omega)
          have stays : ¬ index < (layout.containers other).length + 1 := by omega
          simp [after,change,nodesAt,outside,stays]
      · simp [after,change,nodesAt,same]
  | joins family =>
    have some := filled family rfl
    have positive : (layout.containers family).length ≠ 0 := by simpa using some
    cases at_
    cases spot with
    | language | imports => simp [after,change,nodesAt]
    | headers other =>
      by_cases same : other = family
      · subst same
        have headers := map_changeLast_eq Container.node (Container.add node) (layout.containers other) fun _ => rfl
        simp [after,change,nodesAt,headers]
      · simp [after,change,nodesAt,same]
    | children other index =>
      by_cases same : other = family
      · subst same
        by_cases last : index = (layout.containers other).length - 1
        · have inside : index < (layout.containers other).length := by omega
          simp [after,change,nodesAt,getElem?_changeLast,← last,List.getElem?_eq_getElem inside,Container.add]
        · simp [after,change,nodesAt,getElem?_changeLast,last]
      · simp [after,change,nodesAt,same]

end Layout

structure Visit where
  node : Node
  verdict : Except PlacementFault Spot

namespace Visit

def spot? (visit : Visit) : Option Spot :=
  match visit.verdict with
  | .ok spot => some spot
  | .error _ => none

def error? (visit : Visit) : Option SyntacticError :=
  match visit.verdict with
  | .ok _ => none
  | .error fault => some ⟨fault,visit.node.location⟩

def accepted (log : List Visit) : List Node := (log.filter fun visit => visit.spot?.isSome).map node

def acceptedAt (spot : Spot) (log : List Visit) : List Node :=
  (log.filter fun visit => visit.spot? = some spot).map node

def errors (log : List Visit) : List SyntacticError := log.filterMap error?

end Visit

namespace Parsing

-- A parse that does not stop on errors, with what became of each node. A
-- refused node changes neither the site nor the place in the nodes.
inductive Trace : Parsing → List Visit → Parsing → Prop where
  | ended {parsing : Parsing} (done : parsing.cursor.next? = none) : Trace parsing [] parsing
  | passed {parsing final : Parsing} {node : Node} {cursor : Cursor} {log : List Visit}
      (next : parsing.cursor.next? = some (node,cursor)) (skipped : node.type.isPlaced = false)
      (rest : Trace ({ parsing with cursor := cursor }.ignore node.type) log final) : Trace parsing log final
  | accepted {parsing final : Parsing} {node : Node} {cursor : Cursor} {site : Site} {spot : Spot}
      {log : List Visit}
      (next : parsing.cursor.next? = some (node,cursor)) (placed : node.type.isPlaced = true)
      (ok : parsing.site.place node cursor.precedingTags (cursor.takeRun .text).1 = .ok site)
      (at_ : parsing.site.doc.layout.spot? (parsing.site.effect node.type) = some spot)
      (rest : Trace { parsing with
        site := site, cursor := if node.type.isDescribed then (cursor.takeRun .text).2 else cursor } log final) :
      Trace parsing (⟨node,.ok spot⟩ :: log) final
  | refused {parsing final : Parsing} {node : Node} {cursor : Cursor} {fault : PlacementFault} {log : List Visit}
      (next : parsing.cursor.next? = some (node,cursor)) (placed : node.type.isPlaced = true)
      (error : parsing.site.place node cursor.precedingTags (cursor.takeRun .text).1 = .error fault)
      (rest : Trace { parsing with
        cursor := cursor, errors := parsing.errors ++ [⟨fault,node.location⟩] } log final) :
      Trace parsing (⟨node,.error fault⟩ :: log) final

end Parsing

theorem Site.place_spot {site next : Site} {node : Node} {tags description : List Node}
    (placed : node.type.isPlaced = true) (ok : site.place node tags description = .ok next) :
    ∃ spot, site.doc.layout.spot? (site.effect node.type) = some spot := by
  have admits := place_ok_iff.mp ⟨next,ok⟩
  cases type : node.type with
  | tag | text | longString => simp [type,NodeType.isPlaced] at placed
  | definition | tableRow | databaseProperty | uiProperty | step =>
    cases opened : site.family? with
    | none => simp [Layout.Admits,type,opened] at admits
    | some family => exact ⟨_,by simp [effect,Document.familyOf?,opened,Layout.spot?]; rfl⟩
  | _ => exact ⟨_,rfl⟩

namespace Parsing

section

variable {parsing : Parsing} {stopOnError : Bool} {node : Node} {cursor : Cursor}

theorem run_ended (ended : parsing.cursor.next? = none) : parsing.run stopOnError = parsing := by
  rw [run]
  split
  · rfl
  · rename_i more
    rw [ended] at more
    cases more

theorem run_next (next : parsing.cursor.next? = some (node,cursor)) :
    parsing.run stopOnError =
      if node.type.isPlaced then
        if stopOnError && !(({ parsing with cursor := cursor }.placeNode node).errors.isEmpty) then
          { parsing with cursor := cursor }.placeNode node
        else ({ parsing with cursor := cursor }.placeNode node).run stopOnError
      else ({ parsing with cursor := cursor }.ignore node.type).run stopOnError := by
  rw [run]
  split
  · rename_i ended
    rw [next] at ended
    cases ended
  · rename_i same
    rw [next] at same
    cases same
    rfl

end

theorem run_trace (parsing : Parsing) : ∃ log, Trace parsing log (parsing.run false) := by
  fun_induction Parsing.run false parsing with
  | case1 parsing done => exact ⟨[],.ended done⟩
  | case2 parsing node cursor next moved placed result stops => simp at stops
  | case3 parsing node cursor next moved placed result goesOn ih =>
    obtain ⟨log,trace⟩ := ih
    simp only [result,moved,placeNode] at trace ⊢
    cases verdict : parsing.site.place node cursor.precedingTags (cursor.takeRun .text).1 with
    | ok site =>
      obtain ⟨spot,at_⟩ := Site.place_spot placed verdict
      simp only [verdict] at trace ⊢
      exact ⟨_,.accepted next placed verdict at_ trace⟩
    | error fault =>
      simp only [verdict] at trace ⊢
      exact ⟨_,.refused next placed verdict trace⟩
  | case4 parsing node cursor next moved skipped ih =>
    obtain ⟨log,trace⟩ := ih
    exact ⟨log,.passed next (by simpa using skipped) trace⟩

end Parsing

theorem Cursor.next?_ahead {cursor passed : Cursor} {node : Node} (next : cursor.next? = some (node,passed)) :
    cursor.ahead = node :: passed.ahead := by
  obtain ⟨behind,ahead⟩ := cursor
  cases ahead with
  | nil => cases next
  | cons first rest => cases next; rfl

theorem Cursor.next?_none {cursor : Cursor} (done : cursor.next? = none) : cursor.ahead = [] := by
  obtain ⟨behind,ahead⟩ := cursor
  cases ahead with
  | nil => rfl
  | cons first rest => cases done

theorem Cursor.takeRun_placed (cursor : Cursor) :
    (cursor.takeRun .text).2.ahead.filter (fun node => node.type.isPlaced) =
      cursor.ahead.filter fun node => node.type.isPlaced := by
  conv => rhs; rw [← List.takeWhile_append_dropWhile (p := fun node => decide (node.type = .text)) (l := cursor.ahead)]
  rw [List.filter_append]
  have none : (cursor.ahead.takeWhile fun node => decide (node.type = .text)).filter
      (fun node => node.type.isPlaced) = [] := by
    rw [List.filter_eq_nil_iff]
    intro node inside
    have text := List.all_eq_true.mp List.all_takeWhile node inside
    simp [of_decide_eq_true text,NodeType.isPlaced]
  rw [none]
  rfl

namespace Parsing

variable {parsing final : Parsing} {log : List Visit}

theorem Trace.nodes (trace : Trace parsing log final) :
    log.map Visit.node = parsing.cursor.ahead.filter fun node => node.type.isPlaced := by
  induction trace with
  | ended done => simp [Cursor.next?_none done]
  | passed next skipped rest ih => rw [Cursor.next?_ahead next]; simpa [ignore,skipped] using ih
  | accepted next placed ok at_ rest ih =>
    rw [Cursor.next?_ahead next,List.map_cons,ih]
    dsimp only
    split
    · rw [Cursor.takeRun_placed]; simp [placed]
    · simp [placed]
  | refused next placed error rest ih => rw [Cursor.next?_ahead next]; simp [placed,ih]

theorem Trace.errors (trace : Trace parsing log final) : final.errors = parsing.errors ++ Visit.errors log := by
  induction trace with
  | ended done => simp [Visit.errors]
  | passed next skipped rest ih => exact ih
  | accepted next placed ok at_ rest ih => rw [ih]; rfl
  | refused next placed error rest ih => rw [ih]; simp [Visit.errors,Visit.error?]

theorem run_origin (stopOnError : Bool) (parsing : Parsing) :
    (parsing.run stopOnError).site.doc.fileInfo = parsing.site.doc.fileInfo := by
  have kept : ∀ (moved : Parsing) (node : Node), (moved.placeNode node).site.doc.fileInfo = moved.site.doc.fileInfo := by
    intro moved node
    simp only [placeNode]
    split
    · rename_i site ok
      exact (Site.place_frame ok).2
    · rfl
  fun_induction Parsing.run stopOnError parsing with
  | case1 parsing done => rfl
  | case2 parsing node cursor next moved placed result stops => exact kept moved node
  | case3 parsing node cursor next moved placed result goesOn ih => exact ih.trans (kept moved node)
  | case4 parsing node cursor next moved skipped ih => exact ih

theorem Trace.keeps (trace : Trace parsing log final) :
    parsing.site.doc.layout.Keeps final.site.doc.layout := by
  induction trace with
  | ended done => exact Layout.Keeps.refl _
  | passed next skipped rest ih => exact ih
  | accepted next placed ok at_ rest ih =>
    refine Layout.Keeps.trans ?_ ih
    rw [Site.place_layout ok]
    exact Layout.keeps_after _
  | refused next placed error rest ih => exact ih

theorem Trace.nodesAt (trace : Trace parsing log final) (spot : Spot) :
    final.site.doc.layout.nodesAt spot = parsing.site.doc.layout.nodesAt spot ++ Visit.acceptedAt spot log := by
  induction trace with
  | ended done => simp [Visit.acceptedAt]
  | passed next skipped rest ih => exact ih
  | @accepted parsing final node cursor site own log next placed ok at_ rest ih =>
    have filled : ∀ family, parsing.site.effect node.type = .joins family →
        parsing.site.doc.layout.containers family ≠ [] :=
      fun family joins => Site.joins_filled (Site.place_ok_iff.mp ⟨site,ok⟩) joins
    rw [ih]
    dsimp only
    rw [Site.place_layout ok,Layout.nodesAt_after at_ filled,List.append_assoc]
    congr 1
    by_cases same : spot = own
    · simp [Visit.acceptedAt,Visit.spot?,same]
    · simp [Visit.acceptedAt,Visit.spot?,same,Ne.symm same]
  | refused next placed error rest ih => simpa [Visit.acceptedAt,Visit.spot?] using ih

end Parsing

def Family.scenario? : Family → Option Nat
  | .variantBackground i | .variant i => some i
  | _ => none

namespace Layout

def families (layout : Layout) : List Family :=
  [.feature,.background,.scenario,.testCase,.uiElement true,.uiElement false,.database,.table] ++
  [.block .constant,.block .regex] ++ EventKind.all.map .event ++
  (List.range (layout.containers .scenario).length).flatMap fun i => [.variantBackground i,.variant i]

def held (layout : Layout) (family : Family) : List Node := (layout.containers family).flatMap Container.nodes

def nodes (layout : Layout) : List Node :=
  layout.language ++ layout.imports ++ layout.families.flatMap layout.held

theorem mem_families {layout : Layout} {family : Family} :
    family ∈ layout.families ↔ ∀ i, family.scenario? = some i → i < (layout.containers .scenario).length := by
  cases family with
  | uiElement inFeature => cases inFeature <;> simp [families,Family.scenario?]
  | block kind => cases kind <;> simp [families,Family.scenario?]
  | event kind => cases kind <;> simp [families,Family.scenario?,EventKind.all]
  | _ => simp [families,Family.scenario?]

theorem families_nodup (layout : Layout) : layout.families.Nodup := by
  have parts : ((List.range (layout.containers .scenario).length).flatMap
      fun i => [Family.variantBackground i,Family.variant i]).Nodup := by
    rw [List.nodup_flatMap]
    refine ⟨fun i _ => by simp,List.nodup_range.imp ?_⟩
    intro i j apart
    simp [Function.onFun,List.disjoint_left,apart]
  refine List.nodup_append.mpr ⟨by decide,parts,?_⟩
  intro family fixed other part same
  subst same
  obtain ⟨i,_,own⟩ := List.mem_flatMap.mp part
  revert fixed
  rcases List.mem_pair.mp own with rfl | rfl <;> simp [EventKind.all]

end Layout

theorem flatMap_added [DecidableEq ι] {before after : ι → List α} {target : ι} {a : α} {l : List ι}
    (nodup : l.Nodup) (inside : target ∈ l) (added : (after target).Perm (before target ++ [a]))
    (kept : ∀ i, i ≠ target → after i = before i) : (l.flatMap after).Perm (l.flatMap before ++ [a]) := by
  obtain ⟨front,back,rfl⟩ := List.append_of_mem inside
  obtain ⟨_,⟨absentBack,_⟩,apart⟩ := by simpa [List.nodup_append] using nodup
  have same : ∀ part : List ι, target ∉ part → part.flatMap after = part.flatMap before := by
    intro part absent
    refine List.flatMap_congr fun i member => kept i ?_
    rintro rfl
    exact absent member
  have absentFront : target ∉ front := fun member => (apart target member).1 rfl
  simp only [List.flatMap_append,List.flatMap_cons,same front absentFront,same back absentBack,List.append_assoc]
  apply List.Perm.append_left _
  apply (added.append_right _).trans
  simp only [List.append_assoc]
  exact List.Perm.append_left _ List.perm_append_comm

namespace Layout

variable {layout : Layout} {node : Node} {tags description : List Node}

theorem held_opens (family : Family) :
    (layout.after node tags description (.opens family)).held family = layout.held family ++ [node] := by
  simp [held,after,change,Container.nodes,Container.header]

theorem held_joins (family : Family) (filled : layout.containers family ≠ []) :
    (layout.after node tags description (.joins family)).held family = layout.held family ++ [node] := by
  obtain ⟨front,last,own⟩ : ∃ front last, layout.containers family = front ++ [last] :=
    ⟨_,_,(List.dropLast_concat_getLast filled).symm⟩
  simp [held,after,change,own,changeLast_concat,Container.nodes,Container.add]

theorem held_other {effect : Effect} {family : Family} (opens : effect ≠ .opens family)
    (joins : effect ≠ .joins family) :
    (layout.after node tags description effect).held family = layout.held family := by
  cases effect with
  | opens own =>
    have apart : family ≠ own := fun same => opens (by rw [same])
    simp [held,after,change,apart]
  | joins own =>
    have apart : family ≠ own := fun same => joins (by rw [same])
    simp [held,after,change,apart]
  | nothing | declares | includes => rfl

-- A container that is opened or joined has its node more, and no other list of
-- containers changes.
theorem heldOf_after {effect : Effect} {target : Family} (touches : effect = .opens target ∨ effect = .joins target)
    (inside : target ∈ layout.families) (filled : effect = .joins target → layout.containers target ≠ []) :
    (layout.families.flatMap (layout.after node tags description effect).held).Perm
      (layout.families.flatMap layout.held ++ [node]) := by
  refine flatMap_added (families_nodup layout) inside (List.Perm.of_eq ?_) ?_
  · rcases touches with rfl | rfl
    · exact held_opens target
    · exact held_joins target (filled rfl)
  · intro family apart
    rcases touches with rfl | rfl
    · exact held_other (by simpa using Ne.symm apart) (by simp)
    · exact held_other (by simp) (by simpa using Ne.symm apart)

theorem families_after (effect : Effect)
    (bounded : ∀ family, family ∉ layout.families → layout.containers family = []) :
    ((layout.after node tags description effect).families.flatMap
      (layout.after node tags description effect).held) =
    layout.families.flatMap (layout.after node tags description effect).held := by
  by_cases scenario : effect = .opens .scenario
  · subst scenario
    have fresh : ∀ family : Family, family.scenario? = some (layout.containers .scenario).length →
        (layout.after node tags description (.opens .scenario)).held family = [] := by
      intro family own
      have outside : family ∉ layout.families := fun inside => by
        have := mem_families.mp inside _ own
        omega
      have apart : Effect.opens .scenario ≠ .opens family := by
        intro same
        cases same
        cases own
      rw [held_other apart (by simp),held,bounded family outside]
      rfl
    have more : (layout.after node tags description (.opens .scenario)).families = layout.families ++
        [.variantBackground (layout.containers .scenario).length,.variant (layout.containers .scenario).length] := by
      simp [families,after,change,List.range_succ]
    rw [more,List.flatMap_append]
    simp [fresh (.variantBackground _) rfl,fresh (.variant _) rfl]
  · have same : (layout.after node tags description effect).families = layout.families := by
      simp only [families,Site.after_scenarios scenario]
    rw [same]

end Layout

theorem Document.bounded (doc : Document) (family : Family) (outside : family ∉ doc.layout.families) :
    doc.layout.containers family = [] := by
  rw [Layout.mem_families] at outside
  obtain ⟨i,inside⟩ := Classical.not_forall.mp outside
  obtain ⟨own,beyond⟩ := Classical.not_imp.mp inside
  rw [← scenarios_length,Nat.not_lt] at beyond
  cases family <;> cases own <;> simp [layout,containers,List.getElem?_eq_none beyond]

theorem Document.filled_inside (doc : Document) {family : Family} (filled : doc.layout.containers family ≠ []) :
    family ∈ doc.layout.families := by
  by_contra outside
  exact filled (doc.bounded family outside)

namespace Site

variable {site next : Site} {node : Node} {tags description : List Node}

theorem opens_inside {family : Family} (admits : site.doc.layout.Admits site.family? node)
    (opens : site.effect node.type = .opens family) : family ∈ site.doc.layout.families := by
  rw [Layout.mem_families]
  intro i own
  rw [← Document.scenarios_length]
  have last : site.doc.layout.containers .scenario ≠ [] → site.doc.scenarios.length - 1 < site.doc.scenarios.length := by
    intro filled
    have : site.doc.scenarios.length ≠ 0 := by
      rw [Document.scenarios_length]
      simpa using filled
    omega
  cases type : node.type with
  | variantBackground =>
    simp only [Layout.Admits,type] at admits
    simp only [effect,Document.familyOf?,type,Effect.opens.injEq] at opens
    subst opens
    cases own
    exact last admits.1
  | variant =>
    simp only [Layout.Admits,type] at admits
    simp only [effect,Document.familyOf?,type,Effect.opens.injEq] at opens
    subst opens
    cases own
    exact last admits
  | definition | tableRow | databaseProperty | uiProperty | step =>
    cases opened : site.family? <;> simp [effect,Document.familyOf?,type,opened] at opens
  | _ =>
    simp only [effect,Document.familyOf?,type,Effect.opens.injEq,reduceCtorEq] at opens
    try (subst opens; cases own)

theorem place_nodes (placed : node.type.isPlaced = true) (ok : site.place node tags description = .ok next) :
    next.doc.layout.nodes.Perm (site.doc.layout.nodes ++ [node]) := by
  have admits := place_ok_iff.mp ⟨next,ok⟩
  obtain ⟨spot,at_⟩ := place_spot placed ok
  rw [place_layout ok,Layout.nodes,Layout.families_after _ site.doc.bounded]
  cases effect : site.effect node.type with
  | nothing => rw [effect] at at_; cases at_
  | declares =>
    simp only [Layout.after,Layout.nodes,List.append_assoc]
    refine List.Perm.append_left _ (List.perm_append_comm.trans ?_)
    simp only [List.append_assoc]
    exact List.Perm.refl _
  | includes =>
    simp only [Layout.after,Layout.nodes,List.append_assoc]
    refine List.Perm.append_left _ (List.Perm.append_left _ List.perm_append_comm)
  | opens family =>
    have added : (site.doc.layout.families.flatMap
        (site.doc.layout.after node tags description (.opens family)).held).Perm
        (site.doc.layout.families.flatMap site.doc.layout.held ++ [node]) :=
      Layout.heldOf_after (.inl rfl) (opens_inside admits effect) (by simp)
    simp only [Layout.nodes,List.append_assoc]
    exact List.Perm.append_left _ (List.Perm.append_left _ added)
  | joins family =>
    have filled := joins_filled admits effect
    have added : (site.doc.layout.families.flatMap
        (site.doc.layout.after node tags description (.joins family)).held).Perm
        (site.doc.layout.families.flatMap site.doc.layout.held ++ [node]) :=
      Layout.heldOf_after (.inr rfl) (site.doc.filled_inside filled) fun _ => filled
    simp only [Layout.nodes,List.append_assoc]
    exact List.Perm.append_left _ (List.Perm.append_left _ added)

end Site

theorem Parsing.Trace.permutes {parsing final : Parsing} {log : List Visit} (trace : Trace parsing log final) :
    final.site.doc.layout.nodes.Perm (parsing.site.doc.layout.nodes ++ Visit.accepted log) := by
  induction trace with
  | ended done => simp [Visit.accepted]
  | passed next skipped rest ih => exact ih
  | accepted next placed ok at_ rest ih =>
    refine ih.trans (((Site.place_nodes placed ok).append_right _).trans (List.Perm.of_eq ?_))
    simp [Visit.accepted,Visit.spot?]
  | refused next placed error rest ih => simpa [Visit.accepted,Visit.spot?] using ih

theorem Visit.length_log (log : List Visit) : log.length = (accepted log).length + (errors log).length := by
  induction log with
  | nil => rfl
  | cons visit rest ih =>
    cases verdict : visit.verdict <;> simp [accepted,errors,spot?,error?,verdict] at ih ⊢ <;> omega

-- What a parse without stops makes of its nodes: each is put at one spot or
-- refused with one error, and what was there stays as it was.
structure Conserves (nodes : List Node) (doc : Document) (errors : List SyntacticError) (parsed : Parsed)
    (log : List Visit) : Prop where
  visited : log.map Visit.node = nodes.filter fun node => node.type.isPlaced
  refused : parsed.errors = errors ++ Visit.errors log
  added : ∀ spot, parsed.doc.layout.nodesAt spot = doc.layout.nodesAt spot ++ Visit.acceptedAt spot log
  kept : doc.layout.Keeps parsed.doc.layout
  origin : parsed.doc.fileInfo = doc.fileInfo
  whole : parsed.doc.layout.nodes.Perm (doc.layout.nodes ++ Visit.accepted log)
  counted : doc.layout.nodes.length + errors.length + (nodes.filter fun node => node.type.isPlaced).length =
    parsed.doc.layout.nodes.length + parsed.errors.length

-- A node that is refused leaves the document, the scope and the place in the
-- nodes as they were: the trace says so.
theorem parse_conserves (nodes : List Node) (doc : Document) (errors : List SyntacticError) :
    ∃ log final, Parsing.Trace (.start nodes doc errors) log final ∧
      final.result = parse false nodes doc errors ∧
      Conserves nodes doc errors (parse false nodes doc errors) log := by
  obtain ⟨log,trace⟩ := Parsing.run_trace (.start nodes doc errors)
  refine ⟨log,_,trace,rfl,?_⟩
  have visited := trace.nodes
  have refused := trace.errors
  have whole := trace.permutes
  refine ⟨visited,refused,trace.nodesAt,trace.keeps,Parsing.run_origin _ _,whole,?_⟩
  have count := Visit.length_log log
  have placed := congrArg List.length visited
  have size := whole.length_eq
  have found := congrArg List.length refused
  simp only [List.length_append,List.length_map] at placed size found
  change _ = ((Parsing.start nodes doc errors).run false).site.doc.layout.nodes.length +
    ((Parsing.start nodes doc errors).run false).errors.length
  rw [size,found]
  change _ + _ + (List.filter _ (Parsing.start nodes doc errors).cursor.ahead).length = _
  rw [← placed,count]
  change _ = doc.layout.nodes.length + _ + (errors.length + _)
  omega

end ScenarioLang
