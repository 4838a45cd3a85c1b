import Mathlib.Data.List.DropRight
import ScenarioLang.Proofs.Line.Item
import ScenarioLang.Proofs.Parsing.Reached
import ScenarioLang.Proofs.Parsing.Rules

namespace ScenarioLang

theorem Layout.change_change (layout : Layout) (family : Family) (first second : List Container → List Container) :
    (layout.change family first).change family second = layout.change family (second ∘ first) := by
  simp only [change,Function.update_self,Function.update_idem]
  rfl

namespace ListKind

variable {kind : ListKind}

theorem header_placed (kind : ListKind) : kind.header.isPlaced = true ∧ kind.header.isDescribed = false := by
  cases kind <;> exact ⟨rfl,rfl⟩

theorem item_placed (kind : ListKind) : kind.item.isPlaced = true ∧ kind.item.isDescribed = false := by
  cases kind <;> exact ⟨rfl,rfl⟩

end ListKind

namespace Site

variable {site next : Site} {kind : ListKind} {layout : Layout} {family : Family} {container : Container} {node : Node}
  {tags description : List Node}

structure Lists (site : Site) (kind : ListKind) (layout : Layout) (family : Family) (container : Container) : Prop where
  own : family.type = kind.header
  opened : site.family? = some family
  added : site.doc.layout = layout.change family (· ++ [container])

theorem Lists.last (lists : site.Lists kind layout family container) :
    site.doc.layout.containers family = layout.containers family ++ [container] := by
  rw [lists.added]
  exact Function.update_self _ _ _

theorem Lists.effect (lists : site.Lists kind layout family container) : site.effect kind.item = .joins family := by
  cases kind <;> simp [Site.effect,ListKind.item,Document.familyOf?,lists.opened]

theorem lists_header (typed : node.type = kind.header) (ok : site.place node tags description = .ok next) :
    ∃ family, site.doc.familyOf? kind.header = some family ∧
      next.Lists kind site.doc.layout family (.header node tags []) := by
  obtain ⟨family,joins,own⟩ : ∃ family, site.doc.familyOf? kind.header = some family ∧ family.type = kind.header := by
    cases kind <;> exact ⟨_,rfl,rfl⟩
  have opens : site.effect node.type = .opens family := by
    rw [typed]
    cases kind <;> cases joins <;> rfl
  have bare : Container.header node tags description = .header node tags [] := by
    simp [Container.header,typed,kind.header_placed.2]
  refine ⟨family,joins,own,?_,?_⟩
  · rw [place_family ok,opens]
  · rw [place_layout ok,opens,Layout.after,bare]

theorem Lists.place (lists : site.Lists kind layout family container) (typed : node.type = kind.item)
    (fresh : ∀ definition, kind = .definitions definition →
      ∀ item ∈ container.children, item.name? ≠ some (node.name?.getD []))
    (tags description : List Node) :
    ∃ next, site.place node tags description = .ok next ∧ next.Lists kind layout family (container.add node) := by
  have admits : site.doc.layout.Admits site.family? node := by
    have filled : site.doc.layout.containers family ≠ [] := by simp [lists.last]
    have last : site.doc.layout.last? family = some container := by simp [Layout.last?,lists.last]
    have own := lists.own
    unfold Layout.Admits
    rw [typed,lists.opened]
    cases kind with
    | database => cases family <;> cases own; exact ⟨rfl,filled⟩
    | uiElement => cases family <;> cases own; exact ⟨_,rfl,filled⟩
    | table => cases family <;> cases own; exact ⟨rfl,filled⟩
    | definitions definition => cases family <;> cases own; exact ⟨rfl,container,last,fresh definition rfl⟩
  obtain ⟨next,ok⟩ := place_ok_iff.mpr admits
  have joins : site.effect node.type = .joins family := by rw [typed,lists.effect]
  refine ⟨next,ok,lists.own,?_,?_⟩
  · rw [place_family ok,joins]
    exact lists.opened
  · rw [place_layout ok,joins,Layout.after,lists.added,Layout.change_change]
    exact congrArg (layout.change family) (funext fun _ => changeLast_concat _ _ _)

end Site

namespace Parsing

variable {parsing : Parsing} {kind : ListKind} {layout : Layout} {family : Family} {container : Container}

def Apart (kind : ListKind) (nodes : List Node) : Prop :=
  ∀ definition, kind = .definitions definition →
    (∀ node ∈ nodes, node.name?.isSome = true) ∧ (nodes.map Node.name?).Nodup

theorem run_items (lists : parsing.site.Lists kind layout family container)
    (typed : ∀ node ∈ parsing.cursor.ahead, node.type = kind.item)
    (apart : Apart kind (container.children ++ parsing.cursor.ahead)) :
    (parsing.run false).errors = parsing.errors ∧ (parsing.run false).ignored = parsing.ignored ∧
      (parsing.run false).site.Lists kind layout family
        { container with children := container.children ++ parsing.cursor.ahead } := by
  obtain ⟨⟨behind,ahead⟩,site,errors,ignored⟩ := parsing
  induction ahead generalizing behind site container with
  | nil =>
    rw [run_ended rfl]
    simpa using lists
  | cons node rest ih =>
    obtain ⟨first,others⟩ := List.forall_mem_cons.mp typed
    have fresh : ∀ definition, kind = .definitions definition →
        ∀ item ∈ container.children, item.name? ≠ some (node.name?.getD []) := by
      intro definition own item member
      obtain ⟨named,distinct⟩ := apart definition own
      obtain ⟨name,said⟩ := Option.isSome_iff_exists.mp (named node (by simp))
      rw [List.map_append,List.map_cons] at distinct
      have differ := List.disjoint_of_nodup_append distinct (List.mem_map_of_mem member)
      rw [said]
      intro same
      exact differ (by simp [same,said])
    have next : (Cursor.mk behind (node :: rest)).next? = some (node,⟨node :: behind,rest⟩) := rfl
    obtain ⟨reached,ok,after⟩ := lists.place first fresh (Cursor.mk (node :: behind) rest).precedingTags
      ((Cursor.mk (node :: behind) rest).takeRun .text).1
    have put : (Parsing.mk ⟨node :: behind,rest⟩ site errors ignored).placeNode node =
        ⟨⟨node :: behind,rest⟩,reached,errors,ignored⟩ := by
      simp only [placeNode,ok,first,kind.item_placed.2]
      rfl
    rw [run_next next,first,if_pos kind.item_placed.1,Bool.false_and,if_neg Bool.false_ne_true]
    have whole : (container.add node).children ++ rest = container.children ++ node :: rest := by simp [Container.add]
    rw [put]
    obtain ⟨faults,passed,done⟩ := ih reached (node :: behind) after others (whole ▸ apart)
    exact ⟨faults,passed,whole ▸ done⟩

section
variable {header : Node} {front rest : List Node}

theorem takeRun_closed (behind : List Node) (closed : ∀ first ∈ rest.head?, first.type ≠ .text) :
    (Cursor.takeRun .text ⟨behind,rest⟩).1 = [] := by
  cases rest with
  | nil => rfl
  | cons first others => simp [Cursor.takeRun,closed first rfl]

theorem run_header (typed : header.type = kind.header) (parsing : Parsing) :
    { parsing with cursor := ⟨front.reverse,header :: rest⟩ }.run false =
      ({ parsing with cursor := ⟨header :: front.reverse,rest⟩ }.placeNode header).run false := by
  have next : (Cursor.mk front.reverse (header :: rest)).next? = some (header,⟨header :: front.reverse,rest⟩) := rfl
  rw [run_next next,typed,if_pos kind.header_placed.1,Bool.false_and,if_neg Bool.false_ne_true]

theorem run_accepted {site : Site} (typed : header.type = kind.header)
    (closed : ∀ first ∈ rest.head?, first.type ≠ .text)
    (ok : parsing.site.place header (front.rtakeWhile fun node => node.type = .tag) [] = .ok site) :
    { parsing with cursor := ⟨front.reverse,header :: rest⟩ }.run false =
      { parsing with cursor := ⟨header :: front.reverse,rest⟩, site := site }.run false := by
  have tags : (Cursor.mk (header :: front.reverse) rest).precedingTags =
      front.rtakeWhile fun node => node.type = .tag := rfl
  rw [run_header typed]
  simp only [placeNode,takeRun_closed _ closed,tags,ok,typed,kind.header_placed.2]
  rfl

theorem run_refused {fault : PlacementFault} (typed : header.type = kind.header)
    (error : parsing.site.place header (front.rtakeWhile fun node => node.type = .tag) [] = .error fault) :
    ({ parsing with cursor := ⟨front.reverse,[header]⟩ }.run false).errors =
      parsing.errors ++ [⟨fault,header.location⟩] := by
  have tags : (Cursor.mk (header :: front.reverse) []).precedingTags =
      front.rtakeWhile fun node => node.type = .tag := rfl
  have plain : (Cursor.takeRun .text ⟨header :: front.reverse,[]⟩).1 = [] := rfl
  rw [run_header typed]
  simp only [placeNode,plain,tags,error]
  rw [run_ended rfl]

end

end Parsing

theorem parse_list {kind : ListKind} {front nodes : List Node} {header : Node} {doc : Document}
    {errors : List SyntacticError} (typed : header.type = kind.header)
    (accepted : (parse false (front ++ [header]) doc errors).errors = (parse false front doc errors).errors)
    (items : ∀ node ∈ nodes, node.type = kind.item) (apart : Parsing.Apart kind nodes) :
    let before := parse false front doc errors
    let after := parse false (front ++ header :: nodes) doc errors
    after.errors = before.errors ∧ after.ignored = before.ignored ∧
      ∃ family, before.doc.familyOf? kind.header = some family ∧
        after.doc.layout = before.doc.layout.change family (· ++
          [{ Container.header header (front.rtakeWhile fun node => node.type = .tag) [] with children := nodes }]) := by
  intro before after
  have solid : header.type ≠ .text := typed ▸ kind.header_plain.1
  have parsed : ∀ rest, parse false (front ++ header :: rest) doc errors =
      ({ (Parsing.start front doc errors).run false with cursor := ⟨front.reverse,header :: rest⟩ }.run false).result := by
    intro rest
    apply congrArg Parsing.result (Parsing.run_append front (header :: rest) doc errors ?_)
    intro first member
    cases member
    exact solid
  cases placed : ((Parsing.start front doc errors).run false).site.place header
    (front.rtakeWhile fun node => node.type = .tag) [] with
  | error fault =>
    have refused := Parsing.run_refused typed placed
    rw [parsed] at accepted
    exact absurd (refused.symm.trans accepted) (by simp [parse,Parsing.result])
  | ok site =>
    have closed : ∀ first ∈ nodes.head?, first.type ≠ .text := by
      intro first member
      rw [items first (List.mem_of_mem_head? member)]
      exact kind.item_plain.1
    obtain ⟨family,own,lists⟩ := Site.lists_header typed placed
    have run := Parsing.run_accepted typed closed placed
    obtain ⟨faults,passed,done⟩ :=
      @Parsing.run_items { (Parsing.start front doc errors).run false with
        cursor := ⟨header :: front.reverse,nodes⟩, site := site } _ _ _ _ lists items apart
    have whole : after = _ := (parsed nodes).trans (congrArg Parsing.result run)
    rw [whole]
    refine ⟨faults,?_,family,own,done.added⟩
    exact congrArg (fun types => NodeType.all.filter types.contains) passed

end ScenarioLang
