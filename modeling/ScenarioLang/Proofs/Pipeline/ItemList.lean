import ScenarioLang.Proofs.Lexer.ItemList
import ScenarioLang.Proofs.Lexer.Reset
import ScenarioLang.Proofs.Parsing.ItemList

namespace ScenarioLang

theorem ListKind.items_apart {kind : ListKind} {dictionary : Dictionary} {entries : List (Text × Nat)}
    {nodes : List Node} (items : List.Forall₂ (kind.ItemNode dictionary) entries nodes)
    (apart : ∀ definition, kind = .definitions definition →
      (entries.map fun entry => Line.quotedName entry.1).Nodup) : Parsing.Apart kind nodes := by
  intro definition own
  have names := items_named own items
  refine ⟨?_,?_⟩
  · intro node member
    have among : node.name? ∈ nodes.map Node.name? := List.mem_map_of_mem member
    rw [names] at among
    obtain ⟨name,_,said⟩ := List.mem_map.mp among
    rw [← said]
    rfl
  · rw [names]
    exact (apart definition own).map fun _ _ => Option.some.inj

-- A list is read as a list. With a built-in dictionary, outside a long string, every
-- item line below a header becomes one item, whatever else it looks like and whatever
-- is passed over between the items; and where the header is accepted, its list holds
-- the items in their order, and nothing else changes.
theorem lists_hold_their_items (setup : LexerSetup) (state : LexerState) (lasting : setup.stopOnError = false)
    (active : state.dictionary ∈ Dictionary.builtin) (outside : state.inLongString = false) (kind : ListKind)
    (line : Text) (number : Nat) (header : Node)
    (read : Line.reader state.dictionary kind.header line number = some (.ofNode header []))
    (body : List (Text × Nat))
    (lines : ∀ entry ∈ body, Line.isPassed state.dictionary entry.1 = true ∨ kind.IsItem state.dictionary entry.1)
    (apart : ∀ definition, kind = .definitions definition →
      ((body.filter fun entry => !Line.isPassed state.dictionary entry.1).map fun entry =>
        Line.quotedName entry.1).Nodup)
    (doc : Document) (errors : List SyntacticError)
    (accepted : (parse false (state.lexed.nodes ++ [header]) doc errors).errors =
      (parse false state.lexed.nodes doc errors).errors) :
    ∃ last nodes, state.addLines setup ((line,number) :: body) = .ok (state.reached last (header :: nodes)) ∧
      List.Forall₂ (kind.ItemNode state.dictionary)
        (body.filter fun entry => !Line.isPassed state.dictionary entry.1) nodes ∧
      let before := parse false state.lexed.nodes doc errors
      let after := parse false (state.reached last (header :: nodes)).lexed.nodes doc errors
      let tags := state.lexed.nodes.rtakeWhile fun node => node.type = .tag
      after.errors = before.errors ∧ after.ignored = before.ignored ∧
        ∃ family, before.doc.familyOf? kind.header = some family ∧
          after.doc.layout = before.doc.layout.change family (· ++
            [{ Container.header header tags [] with children := nodes }]) := by
  obtain ⟨last,nodes,lexed,items⟩ := LexerState.addLines_list lasting outside active read lines
  have typed : header.type = kind.header := Line.reader_type read header List.mem_cons_self
  exact ⟨last,nodes,lexed,items,
    parse_list typed accepted (ListKind.items_typed items) (ListKind.items_apart items apart)⟩

theorem lists_hold_their_items_constants :
    let setup : LexerSetup := ⟨Dictionary.builtinSource,Dictionary.english,false⟩
    let state := setup.initial.after setup [.line "Database: d".toList 1]
    let header : Node := ⟨.block .constant,⟨2,1⟩,"Constants:".toList,.empty⟩
    let body := [("- \"a\" is 5 # b".toList,3),([' '],4),("# - c".toList,5),(" -\"d\"  IS \"\\\"\"".toList,6)]
    ∃ last nodes, state.addLines setup (("Constants:".toList,2) :: body) = .ok (state.reached last (header :: nodes)) ∧
      nodes.length = 2 ∧
      let before := parse false state.lexed.nodes .empty []
      let after := parse false (state.reached last (header :: nodes)).lexed.nodes .empty []
      after.errors = before.errors ∧ after.doc.layout = before.doc.layout.change (.block .constant) (· ++
        [⟨header,[],[],nodes⟩]) := by
  intro setup state header body
  have ready : LexerSetup.start ['e','n'] Dictionary.builtinSource false = .ready setup := rfl
  have active := LexerState.builtin_active ready [.line "Database: d".toList 1]
  have first : (ListKind.definitions .constant).IsItem state.dictionary "- \"a\" is 5 # b".toList := by
    refine ⟨by decide,['a'],rfl,[' '],[' '],[' '],"is".toList,"is".toList,['5'],rfl,rfl,rfl,?_⟩
    exact ⟨List.cons_ne_nil _ _,List.mem_cons_self,rfl,.inr ⟨rfl,rfl⟩,rfl⟩
  have second : (ListKind.definitions .constant).IsItem state.dictionary " -\"d\"  IS \"\\\"\"".toList := by
    refine ⟨by decide,['d'],rfl,[],[' ',' '],[' '],"IS".toList,"is".toList,"\"\\\"\"".toList,rfl,rfl,rfl,?_⟩
    exact ⟨List.cons_ne_nil _ _,List.mem_cons_self,rfl,.inl ⟨"\\\"".toList,rfl,rfl⟩,rfl⟩
  have lines : ∀ entry ∈ body, Line.isPassed state.dictionary entry.1 = true ∨
      (ListKind.definitions .constant).IsItem state.dictionary entry.1 := by
    simp only [body,List.forall_mem_cons]
    exact ⟨.inr first,.inl (by decide),.inl (by decide),.inr second,List.forall_mem_nil _⟩
  obtain ⟨last,nodes,lexed,items,faults,_,family,own,layout⟩ :=
    lists_hold_their_items setup state rfl active (by decide) (.definitions .constant) "Constants:".toList 2
      header (by decide +kernel) body lines (fun _ _ => by decide +kernel) .empty [] (by decide +kernel)
  cases own
  refine ⟨last,nodes,lexed,?_,faults,layout⟩
  rw [← items.length_eq]
  decide

end ScenarioLang
