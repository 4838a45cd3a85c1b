import Mathlib.Data.List.DropRight
import ScenarioLang.Proofs.Parsing.Reached

namespace ScenarioLang

def tagsBefore (nodes : List Node) (position : Nat) : List Node :=
  (nodes.take position).rtakeWhile fun node => node.type = .tag

def textBehind (nodes : List Node) (position : Nat) : List Node :=
  (nodes.drop (position + 1)).takeWhile fun node => node.type = .text

-- The positions of what the header at a position owns: the tags of the run before it and the
-- text of the run behind it, as far as a header of its type has them.
def ownedBy (nodes : List Node) (position : Nat) (node : Node) : List Nat :=
  let tags := (tagsBefore nodes position).length
  let text := (textBehind nodes position).length
  (if node.type.isTagged then List.range' (position - tags) tags else []) ++
    if node.type.isDescribed then List.range' (position + 1) text else []

theorem Site.effect_opens_iff {site : Site} {type : NodeType} {family : Family} :
    site.effect type = .opens family ↔ site.doc.familyOf? type = some family := by
  cases type with
  | definition | tableRow | databaseProperty | uiProperty | step =>
    cases opened : site.family? <;> simp [Site.effect,Document.familyOf?,opened]
  | _ => simp [Site.effect,Document.familyOf?]

theorem Layout.container_after {layout : Layout} {node : Node} {tags description : List Node} {effect : Effect}
    {family : Family} {index : Nat} {container : Container}
    (found : ((layout.after node tags description effect).containers family)[index]? = some container) :
    (effect = .opens family ∧ index = (layout.containers family).length) ∨
      ∃ old, (layout.containers family)[index]? = some old ∧ old.tags = container.tags ∧
        old.description = container.description := by
  cases effect with
  | nothing | declares | includes => exact .inr ⟨container,found,rfl,rfl⟩
  | opens own =>
    by_cases same : family = own
    · subst same
      simp only [after,change,Function.update_self] at found
      have bound := (List.getElem?_eq_some_iff.mp found).1
      rw [List.length_append,List.length_singleton] at bound
      rcases Nat.lt_or_ge index (layout.containers family).length with inside | beyond
      · rw [List.getElem?_append_left inside] at found
        exact .inr ⟨container,found,rfl,rfl⟩
      · exact .inl ⟨rfl,by omega⟩
    · simp only [after,change,Function.update_of_ne same] at found
      exact .inr ⟨container,found,rfl,rfl⟩
  | joins own =>
    by_cases same : family = own
    · subst same
      simp only [after,change,Function.update_self,getElem?_changeLast] at found
      split at found
      · obtain ⟨old,there,rfl⟩ := Option.map_eq_some_iff.mp found
        exact .inr ⟨old,there,rfl,rfl⟩
      · exact .inr ⟨container,found,rfl,rfl⟩
    · simp only [after,change,Function.update_of_ne same] at found
      exact .inr ⟨container,found,rfl,rfl⟩

theorem map_stretch (front stretch rest : List α) :
    (List.range' front.length stretch.length).map ((front ++ stretch ++ rest)[·]?) = stretch.map some := by
  rw [List.range'_eq_map_range,List.map_map]
  refine List.ext_getElem (by simp) fun i inside _ => ?_
  have bound : i < stretch.length := by simpa using inside
  simp only [List.getElem_map,List.getElem_range,Function.comp_apply]
  rw [List.append_assoc,List.getElem?_append_right (Nat.le_add_right _ _),Nat.add_sub_cancel_left,
    List.getElem?_append_left bound,List.getElem?_eq_getElem bound]

section
variable {nodes : List Node} {position later place : Nat} {node other : Node}

theorem length_tagsBefore_le (nodes : List Node) (position : Nat) : (tagsBefore nodes position).length ≤ position :=
  Nat.le_trans (List.rtakeWhile_suffix _ _).length_le (List.length_take_le _ _)

theorem tagsBefore_places (inside : position ≤ nodes.length) :
    (List.range' (position - (tagsBefore nodes position).length) (tagsBefore nodes position).length).map (nodes[·]?) =
      (tagsBefore nodes position).map some := by
  obtain ⟨front,split⟩ : ∃ front, front ++ tagsBefore nodes position = nodes.take position :=
    List.rtakeWhile_suffix _ _
  have length := congrArg List.length split
  rw [List.length_append,List.length_take,Nat.min_eq_left inside] at length
  have start : position - (tagsBefore nodes position).length = front.length := by omega
  have whole : nodes = front ++ tagsBefore nodes position ++ nodes.drop position := by
    rw [split,List.take_append_drop]
  have places := map_stretch front (tagsBefore nodes position) (nodes.drop position)
  rwa [← whole,← start] at places

theorem textBehind_places (inside : position < nodes.length) :
    (List.range' (position + 1) (textBehind nodes position).length).map (nodes[·]?) =
      (textBehind nodes position).map some := by
  obtain ⟨rest,split⟩ : ∃ rest, textBehind nodes position ++ rest = nodes.drop (position + 1) :=
    List.takeWhile_prefix _
  have whole : nodes = nodes.take (position + 1) ++ textBehind nodes position ++ rest := by
    rw [List.append_assoc,split,List.take_append_drop]
  have start : position + 1 = (nodes.take (position + 1)).length := by
    rw [List.length_take,Nat.min_eq_left inside]
  have places := map_stretch (nodes.take (position + 1)) (textBehind nodes position) rest
  rwa [← whole,← start] at places

theorem run_place {places : List Nat} {run : List Node} (shown : places.map (nodes[·]?) = run.map some)
    (member : place ∈ places) : ∃ node ∈ run, nodes[place]? = some node := by
  have there : nodes[place]? ∈ run.map some := shown ▸ List.mem_map_of_mem member
  obtain ⟨node,inside,same⟩ := List.mem_map.mp there
  exact ⟨node,inside,same.symm⟩

theorem tag_place (inside : position ≤ nodes.length)
    (member : place ∈ List.range' (position - (tagsBefore nodes position).length) (tagsBefore nodes position).length) :
    ∃ tag, nodes[place]? = some tag ∧ tag.type = .tag := by
  obtain ⟨tag,run,there⟩ := run_place (tagsBefore_places inside) member
  have typed := List.mem_rtakeWhile_imp run
  exact ⟨tag,there,of_decide_eq_true typed⟩

theorem text_place (inside : position < nodes.length)
    (member : place ∈ List.range' (position + 1) (textBehind nodes position).length) :
    ∃ text, nodes[place]? = some text ∧ text.type = .text := by
  obtain ⟨text,run,there⟩ := run_place (textBehind_places inside) member
  have typed := List.mem_takeWhile_imp run
  exact ⟨text,there,of_decide_eq_true typed⟩

theorem mem_ownedBy (member : place ∈ ownedBy nodes position node) :
    place ∈ List.range' (position - (tagsBefore nodes position).length) (tagsBefore nodes position).length ∨
      place ∈ List.range' (position + 1) (textBehind nodes position).length := by
  rw [ownedBy,List.mem_append] at member
  refine member.imp (fun tags => ?_) fun text => ?_
  · split at tags
    · exact tags
    · cases tags
  · split at text
    · exact text
    · cases text

theorem ownedBy_apart (first : nodes[position]? = some node) (placed : node.type.isPlaced = true)
    (second : nodes[later]? = some other) (also : other.type.isPlaced = true) (earlier : position < later)
    (mine : place ∈ ownedBy nodes position node) : place ∉ ownedBy nodes later other := by
  intro yours
  have inside : later < nodes.length := (List.getElem?_eq_some_iff.mp second).1
  have low := length_tagsBefore_le nodes position
  have high := length_tagsBefore_le nodes later
  rcases mem_ownedBy mine with tags | text <;> rcases mem_ownedBy yours with tags' | text'
  · have between : position ∈ List.range' (later - (tagsBefore nodes later).length) (tagsBefore nodes later).length := by
      rw [List.mem_range'_1] at tags tags' ⊢
      omega
    obtain ⟨tag,there,type⟩ := tag_place (Nat.le_of_lt inside) between
    obtain rfl := Option.some.inj (first.symm.trans there)
    rw [type] at placed
    cases placed
  · rw [List.mem_range'_1] at tags text'
    omega
  · obtain ⟨text,there,type⟩ := text_place (by omega) text
    obtain ⟨tag,again,other_type⟩ := tag_place (Nat.le_of_lt inside) tags'
    obtain rfl := Option.some.inj (there.symm.trans again)
    rw [type] at other_type
    cases other_type
  · have between : later ∈ List.range' (position + 1) (textBehind nodes position).length := by
      rw [List.mem_range'_1] at text text' ⊢
      omega
    obtain ⟨text,there,type⟩ := text_place (by omega) between
    obtain rfl := Option.some.inj (second.symm.trans there)
    rw [type] at also
    cases also

end

namespace Parsing

variable {first parsing next : Parsing} {nodes : List Node} {doc : Document} {errors : List SyntacticError}
  {node : Node} {position index : Nat} {family : Family}

def Accepts (first : Parsing) (position : Nat) (node : Node) : Prop :=
  ∃ parsing cursor site, first.Meets parsing node cursor ∧ parsing.cursor.position = position ∧
    parsing.verdict node cursor = .ok site

def Opens (first : Parsing) (position : Nat) (node : Node) (family : Family) (index : Nat) : Prop :=
  ∃ parsing cursor site, first.Meets parsing node cursor ∧ parsing.cursor.position = position ∧
    parsing.verdict node cursor = .ok site ∧ parsing.site.doc.familyOf? node.type = some family ∧
      (parsing.site.doc.layout.containers family).length = index

theorem Step.opens {cursor : Cursor} {site : Site} (meets : first.Meets parsing node cursor)
    (ok : parsing.verdict node cursor = .ok site) (own : parsing.site.doc.familyOf? node.type = some family) :
    ∃ next, parsing.Step next ∧ next.site.doc.layout.containers family = parsing.site.doc.layout.containers family ++
      [.header node cursor.precedingTags (cursor.takeRun .text).1] := by
  refine ⟨_,.accepted meets.next meets.placed ok,?_⟩
  dsimp only
  rw [Site.place_layout ok,Site.effect_opens_iff.mpr own]
  exact Function.update_self _ _ _

theorem Reaches.containers (reaches : first.Reaches parsing) (family : Family) (index : Nat) (container : Container)
    (found : (parsing.site.doc.layout.containers family)[index]? = some container) :
    (∃ position node, first.Opens position node family index) ∨
      ∃ old, (first.site.doc.layout.containers family)[index]? = some old ∧ old.tags = container.tags ∧
        old.description = container.description := by
  induction reaches generalizing container with
  | refl => exact .inr ⟨container,found,rfl,rfl⟩
  | @tail middle next on step ih =>
    cases step with
    | passed | refused => exact ih container found
    | @accepted node cursor site ahead placed ok =>
      dsimp only at found
      rw [Site.place_layout ok] at found
      rcases Layout.container_after found with ⟨opens,rfl⟩ | ⟨before,there,tags,description⟩
      · exact .inl ⟨_,node,middle,cursor,site,⟨on,ahead,placed⟩,rfl,ok,Site.effect_opens_iff.mp opens,rfl⟩
      · rw [← tags,← description]
        exact ih before there

theorem Opens.at (opens : (start nodes doc errors).Opens position node family index) :
    nodes[position]? = some node ∧ node.type.isPlaced = true := by
  obtain ⟨parsing,cursor,site,meets,rfl,_⟩ := opens
  obtain ⟨front,rest,rfl,place,_⟩ := meets.split
  exact ⟨by simp [place,Cursor.position],meets.placed⟩

theorem Opens.earlier {later place : Nat} {other : Node} (opens : first.Opens position node family index)
    (also : first.Opens later other family place) (earlier : position < later) : index < place := by
  obtain ⟨parsing,cursor,site,meets,rfl,ok,own,rfl⟩ := opens
  obtain ⟨further,_,_,met,rfl,_,_,rfl⟩ := also
  obtain ⟨next,step,opened⟩ := Step.opens meets ok own
  obtain ⟨after,again,on⟩ := meets.reaches.before met.reaches earlier
  obtain rfl := step.unique again
  obtain ⟨kept,there,_⟩ := on.keeps family (parsing.site.doc.layout.containers family).length _
    (by rw [opened,List.getElem?_concat_length])
  exact (List.getElem?_eq_some_iff.mp there).1

theorem Opens.unique {place : Nat} {other : Node} {second : Family} (opens : first.Opens position node family index)
    (also : first.Opens position other second place) : family = second ∧ index = place := by
  obtain ⟨parsing,cursor,site,meets,rfl,_,own,rfl⟩ := opens
  obtain ⟨again,_,_,met,same,_,joins,rfl⟩ := also
  obtain rfl := meets.reaches.unique met.reaches same.symm
  obtain ⟨rfl,rfl⟩ := Prod.mk.inj (Option.some.inj (meets.next.symm.trans met.next))
  obtain rfl := Option.some.inj (own.symm.trans joins)
  exact ⟨rfl,rfl⟩

theorem Opens.held (opens : (start nodes doc errors).Opens position node family index) : ∃ container,
    ((parse false nodes doc errors).doc.layout.containers family)[index]? = some container ∧
      container.node = node ∧
      container.tags = (if node.type.isTagged then tagsBefore nodes position else []) ∧
      container.description = (if node.type.isDescribed then textBehind nodes position else []) := by
  obtain ⟨parsing,cursor,site,meets,rfl,ok,own,rfl⟩ := opens
  obtain ⟨next,step,opened⟩ := Step.opens meets ok own
  have final : (start nodes doc errors).run false = next.run false :=
    meets.reaches.run_eq.trans (step.run_eq false (.inl rfl))
  obtain ⟨kept,there,header,tags,description⟩ := (reaches_end next).keeps family
    (parsing.site.doc.layout.containers family).length _ (by rw [opened,List.getElem?_concat_length])
  rw [← final] at there
  refine ⟨kept,there,header,tags.trans ?_,description.trans ?_⟩
  all_goals
    obtain ⟨front,rest,rfl,place,rfl⟩ := meets.split
    have count : parsing.cursor.position = front.length := by simp [place,Cursor.position]
    rw [count]
  · have before : (front ++ node :: rest).take front.length = front := List.take_left
    rw [tagsBefore,before]
    rfl
  · have behind : (front ++ node :: rest).drop (front.length + 1) = rest := by simp
    rw [textBehind,behind]
    rfl

end Parsing

-- Who owns the tags and texts of a node list in the document that was made of it.
structure Attached (nodes : List Node) (doc : Document) (errors : List SyntacticError) (parsed : Parsed) : Prop where
  opened : ∀ position node, (Parsing.start nodes doc errors).Accepts position node → node.type.isTagged = true →
    ∃ family index, (Parsing.start nodes doc errors).Opens position node family index
  held : ∀ position node family index, (Parsing.start nodes doc errors).Opens position node family index →
    ∃ container, (parsed.doc.layout.containers family)[index]? = some container ∧ container.node = node ∧
      container.tags = (if node.type.isTagged then tagsBefore nodes position else []) ∧
      container.description = (if node.type.isDescribed then textBehind nodes position else []) ∧
      (ownedBy nodes position node).map (nodes[·]?) = (container.tags ++ container.description).map some
  -- Containers that no node opened are old ones, and nothing was attached to them.
  others : ∀ family index container, (parsed.doc.layout.containers family)[index]? = some container →
    (∃ position node, (Parsing.start nodes doc errors).Opens position node family index) ∨
      ∃ old, (doc.layout.containers family)[index]? = some old ∧ old.tags = container.tags ∧
        old.description = container.description
  apart : ∀ position node family index later other second place,
    (Parsing.start nodes doc errors).Opens position node family index →
    (Parsing.start nodes doc errors).Opens later other second place →
    (position = later ↔ family = second ∧ index = place)
  single : ∀ position node family index later other second place,
    (Parsing.start nodes doc errors).Opens position node family index →
    (Parsing.start nodes doc errors).Opens later other second place →
    position ≠ later → (ownedBy nodes position node).Disjoint (ownedBy nodes later other)

-- Every accepted header has the tags right before it and, where its type is described, the
-- text right behind it, as far as they go. No node is owned by two headers, and what lies
-- in none of these runs is in no container.
theorem parse_attaches (nodes : List Node) (doc : Document) (errors : List SyntacticError) :
    Attached nodes doc errors (parse false nodes doc errors) := by
  refine ⟨?_,?_,?_,?_,?_⟩
  · rintro _ node ⟨parsing,cursor,site,meets,rfl,ok⟩ tagged
    obtain ⟨family,own⟩ : ∃ family, parsing.site.doc.familyOf? node.type = some family := by
      cases type : node.type <;> rw [type] at tagged <;> cases tagged <;> exact ⟨_,rfl⟩
    exact ⟨family,_,parsing,cursor,site,meets,rfl,ok,own,rfl⟩
  · intro position node family index opens
    have inside := (List.getElem?_eq_some_iff.mp opens.at.1).1
    obtain ⟨container,there,header,tags,description⟩ := opens.held
    refine ⟨container,there,header,tags,description,?_⟩
    rw [ownedBy,List.map_append,List.map_append,tags,description]
    congr 1
    · split
      · exact tagsBefore_places (Nat.le_of_lt inside)
      · rfl
    · split
      · exact textBehind_places inside
      · rfl
  · exact fun family index container found => (Parsing.reaches_end _).containers family index container found
  · intro position node family index later other second place opens also
    constructor
    · rintro rfl
      exact opens.unique also
    · rintro ⟨rfl,rfl⟩
      rcases Nat.lt_trichotomy position later with before | same | behind
      · exact absurd (opens.earlier also before) (Nat.lt_irrefl _)
      · exact same
      · exact absurd (also.earlier opens behind) (Nat.lt_irrefl _)
  · intro position node family index later other second place opens also apart owned mine yours
    obtain ⟨first,placed⟩ := opens.at
    obtain ⟨last,also⟩ := also.at
    rcases Nat.lt_or_gt_of_ne apart with before | behind
    · exact ownedBy_apart first placed last also before mine yours
    · exact ownedBy_apart last also first placed behind yours mine

example :
    let nodes : List Node := [⟨.tag,⟨1,1⟩,"@a".toList,.empty⟩,⟨.feature,⟨2,1⟩,"Feature: b".toList,.empty⟩,
      ⟨.text,⟨3,1⟩,"c".toList,.empty⟩,⟨.tag,⟨4,1⟩,"@d".toList,.empty⟩,⟨.variant,⟨5,1⟩,"Variant: e".toList,.empty⟩,
      ⟨.text,⟨6,1⟩,"f".toList,.empty⟩]
    (parse false nodes .empty []).doc.feature.map (fun feature => (feature.tags,feature.description)) =
      some (nodes.take 1,(nodes.drop 2).take 1) := by cbv

end ScenarioLang
