import ScenarioLang.Proofs.Lexer.Skipping
import ScenarioLang.Proofs.Line.Item

namespace ScenarioLang

namespace Line
open Text

variable {dictionary : Dictionary} {line : Text} {type : NodeType}

def isPassed (dictionary : Dictionary) (line : Text) : Bool := line.allBlank || isComment dictionary line

theorem opens_filled (set : distinct dictionary = true) (opens : Opens dictionary line type) : line.allBlank = false := by
  cases opens with
  | sign own head => exact head_filled head
  | keyword own member stands follows =>
    obtain ⟨c,head,_⟩ := keyword_head set own member stands
    exact head_filled head

end Line

namespace ListKind

variable {kind : ListKind} {dictionary : Dictionary} {entry : Text × Nat} {line : Text} {number : Nat} {node : Node}

theorem followers_header (kind : ListKind) : Line.followers kind.header = [kind.item] := by cases kind <;> rfl

theorem followers_item (kind : ListKind) : Line.followers kind.item = [kind.item] := by cases kind <;> rfl

theorem header_keyword (kind : ListKind) : ∃ keyword, kind.header.keyword? = some keyword := by
  cases kind <;> exact ⟨_,rfl⟩

theorem ItemNode.taken (set : Line.distinct dictionary = true) (made : kind.ItemNode dictionary entry node) :
    Line.isPassed dictionary entry.1 = false := by
  apply Bool.or_eq_false_iff.mpr
  refine ⟨Line.opens_filled set (Line.reader_opens made.read kind.item_plain.1),?_⟩
  rw [← Bool.not_eq_true]
  intro comment
  have refused := Line.comment_refused set comment kind.item entry.2
  rw [made.read] at refused
  cases refused

end ListKind

namespace LexerState

variable {setup : LexerSetup} {state : LexerState} {kind : ListKind} {line : Text} {number : Nat} {node : Node}
  {type : NodeType} {lines : List (Text × Nat)}

def reached (state : LexerState) (last : Option NodeType) (nodes : List Node) : LexerState :=
  { state with last := last, lexed := { state.lexed with nodes := state.lexed.nodes ++ nodes } }

theorem reached_self (state : LexerState) : state.reached state.last [] = state := by simp [reached]

theorem reached_reached (state : LexerState) (first second : Option NodeType) (nodes later : List Node) :
    (state.reached first nodes).reached second later = state.reached second (nodes ++ later) := by simp [reached]

theorem addLine_reads (lasting : setup.stopOnError = false) (outside : state.inLongString = false)
    (filled : line.allBlank = false) (first : state.firstReading line number = some (type,.ofNode node []))
    (unfenced : type ≠ .longString) (undeclared : type ≠ .language) :
    state.addLine setup line number = (.accepted,state.reached (some type) [node]) := by
  rw [addLine_one (by rw [lasting]; rfl) outside filled first rfl unfenced undeclared]
  simp [reached,Reading.followedBy,Reading.ofNode]

theorem addLine_header (lasting : setup.stopOnError = false) (outside : state.inLongString = false)
    (active : state.dictionary ∈ Dictionary.builtin)
    (read : Line.reader state.dictionary kind.header line number = some (.ofNode node [])) :
    state.addLine setup line number = (.accepted,state.reached (some kind.header) [node]) := by
  obtain ⟨plain,unfenced,undeclared⟩ := kind.header_plain
  have set := active_distinct active
  have opens := Line.reader_opens read plain
  obtain ⟨keyword,own⟩ := kind.header_keyword
  have head := opens.undashed set own
  apply addLine_reads lasting outside (Line.opens_filled set opens) _ unfenced undeclared
  rw [firstReading_words]
  exact (Line.suggested_plain set head state.suggestions_plain).trans (Line.priority_only set head plain read)

theorem addLine_item (lasting : setup.stopOnError = false) (outside : state.inLongString = false)
    (active : state.dictionary ∈ Dictionary.builtin) (guided : state.followers = [kind.item])
    (made : kind.ItemNode state.dictionary (line,number) node) :
    state.addLine setup line number = (.accepted,state.reached (some kind.item) [node]) := by
  obtain ⟨plain,unfenced,undeclared⟩ := kind.item_plain
  have filled := Line.opens_filled (active_distinct active) (Line.reader_opens made.read plain)
  apply addLine_reads lasting outside filled _ unfenced undeclared
  rw [firstReading_words,guided]
  exact (List.findSome?_cons).trans (by rw [made.read]; rfl)

theorem addLines_items (lasting : setup.stopOnError = false) (outside : state.inLongString = false)
    (active : state.dictionary ∈ Dictionary.builtin) (guided : state.followers = [kind.item])
    (body : ∀ entry ∈ lines, Line.isPassed state.dictionary entry.1 = true ∨ kind.IsItem state.dictionary entry.1) :
    ∃ last nodes, state.addLines setup lines = .ok (state.reached last nodes) ∧
      List.Forall₂ (kind.ItemNode state.dictionary)
        (lines.filter fun entry => !Line.isPassed state.dictionary entry.1) nodes := by
  induction lines generalizing state with
  | nil => exact ⟨state.last,[],congrArg Except.ok state.reached_self.symm,.nil⟩
  | cons entry rest ih =>
    obtain ⟨line,number⟩ := entry
    obtain ⟨first,others⟩ := List.forall_mem_cons.mp body
    rcases first with passed | item
    · have skipped : state.Skipped line := by
        rcases Bool.or_eq_true_iff.mp passed with blank | comment
        · exact .blank blank
        · exact .comment active outside comment
      rw [addLines_cons,addLine_skipped skipped,List.filter_cons_of_neg (by simpa using passed)]
      exact ih outside active guided others
    · obtain ⟨node,made⟩ := item.node active number
      have taken := made.taken (active_distinct active)
      obtain ⟨last,nodes,read,items⟩ := @ih (state.reached (some kind.item) [node]) outside active kind.followers_item others
      refine ⟨last,node :: nodes,?_,?_⟩
      · rw [addLines_cons,addLine_item lasting outside active guided made]
        rw [reached_reached] at read
        exact read
      · rw [List.filter_cons_of_pos (by simpa using taken)]
        exact .cons made items

theorem addLines_list (lasting : setup.stopOnError = false) (outside : state.inLongString = false)
    (active : state.dictionary ∈ Dictionary.builtin)
    (header : Line.reader state.dictionary kind.header line number = some (.ofNode node []))
    (body : ∀ entry ∈ lines, Line.isPassed state.dictionary entry.1 = true ∨ kind.IsItem state.dictionary entry.1) :
    ∃ last nodes, state.addLines setup ((line,number) :: lines) = .ok (state.reached last (node :: nodes)) ∧
      List.Forall₂ (kind.ItemNode state.dictionary)
        (lines.filter fun entry => !Line.isPassed state.dictionary entry.1) nodes := by
  obtain ⟨last,nodes,read,items⟩ :=
    @addLines_items setup (state.reached (some kind.header) [node]) kind lines lasting outside active
      kind.followers_header body
  refine ⟨last,nodes,?_,items⟩
  rw [addLines_cons,addLine_header lasting outside active header]
  rw [reached_reached] at read
  exact read

end LexerState
end ScenarioLang
