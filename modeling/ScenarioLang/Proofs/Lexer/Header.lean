import ScenarioLang.Proofs.Lexer.Followers
import ScenarioLang.Proofs.Line.Header

namespace ScenarioLang.LexerState
open Line Text

variable {state : LexerState}

theorem header_plain {type : NodeType} (header : type ∈ headers) :
    type ≠ .text ∧ type ≠ .longString ∧ type ≠ .language := by
  simp only [headers,List.mem_cons,List.not_mem_nil,or_false] at header
  rcases header with rfl | rfl | rfl | rfl | rfl | rfl | rfl <;> decide

theorem firstReading_heading (active : state.dictionary ∈ Dictionary.builtin) (heading : Heading state.dictionary)
    (number : Nat) : heading.line.allBlank = false ∧ state.firstReading heading.line number = some (heading.type,
      .ofNode (heading.node number) (Line.report (.ofContent heading.line number) heading.faults)) := by
  have set := active_distinct active
  have plain := (header_plain heading.header).1
  have read := heading.reader_heading active number
  have head := (reader_opens read plain).undashed set heading.opens
  refine ⟨?_,(state.firstReading_words _ number).trans
    ((suggested_plain set head state.suggestions_plain).trans (priority_only set head plain read))⟩
  obtain ⟨c,_,first,_⟩ := heading.spelled.head (heading.solid active _ (heading.tried active))
  apply head_filled (c := c)
  rw [heading.line_start active,first]
  rfl

-- Headers are read back in any state that reads them: one node of the type with the name
-- as it is written, a number for a variant that has one, and an error for a bad name and
-- for digits that make no number.
theorem headers_read_back (setup : LexerSetup) (active : state.dictionary ∈ Dictionary.builtin)
    (outside : state.inLongString = false) (goesOn : (setup.stopOnError && state.hasErrors) = false)
    (heading : Heading state.dictionary) (number : Nat) : ∃ node errors,
    state.addLine setup heading.line number =
      (.accepted,{ state with last := some heading.type, lexed := state.lexed.followedBy ⟨[node],errors,[]⟩ }) ∧
    node.type = heading.type ∧ node.location = .ofContent heading.line number ∧ node.content = trim heading.line ∧
    node.name? = some heading.name ∧
    node.number? = (if IsNumber heading.digits then some (decimal heading.digits) else none) ∧
    (∀ error ∈ errors, error.location = node.location) ∧
    errors.length = (if isName heading.name = true then 0 else 1) +
      (if heading.digits = [] ∨ IsNumber heading.digits then 0 else 1) := by
  obtain ⟨filled,first⟩ := firstReading_heading active heading number
  obtain ⟨_,unfenced,undeclared⟩ := header_plain heading.header
  refine ⟨_,_,addLine_one goesOn outside filled first rfl unfenced undeclared,rfl,rfl,rfl,?_,?_,report_location,?_⟩
  · exact heading.name_node number
  · exact heading.number_node number
  · rw [Line.report,List.length_map,heading.length_faults]

theorem headers_read_back_story :
    let setup : LexerSetup := ⟨Dictionary.builtinSource,Dictionary.portuguese,true⟩
    ∃ node errors, setup.initial.addLine setup "\tHISTÓRIA  de usuário :@x: 1".toList 3 =
      (.accepted,{ setup.initial with last := some .feature, lexed := ⟨[node],errors,[]⟩ }) ∧
    node.location = ⟨3,2⟩ ∧ node.name? = some "@x: 1".toList ∧ errors.length = 1 := by
  intro setup
  let spaces (count : Nat) : Text := List.replicate count ' '
  let heading : Heading Dictionary.portuguese := {
    type := .feature
    keyword := .feature
    own := "história de usuário".toList
    word := "HISTÓRIA".toList ++ (spaces 2 ++ ("de".toList ++ (spaces 1 ++ "usuário".toList)))
    digits := []
    name := "@x: 1".toList
    before := ⟨['\t'],by decide⟩
    ahead := ⟨spaces 1,by decide⟩
    inside := ⟨[],by decide⟩
    behind := ⟨[],by decide⟩
    after := ⟨[],by decide⟩
    header := by decide
    opens := rfl
    among := by decide
    spelled := .more ⟨spaces 2,by decide⟩ (by decide) (by decide)
      (.more ⟨spaces 1,by decide⟩ (by decide) (by decide) (.last (by decide)))
    numbered := nofun
    decimals := nofun
    trimmed := by decide
    unsigned := by decide
    single := by decide }
  have active : setup.initial.dictionary ∈ Dictionary.builtin := by
    simp [setup,LexerSetup.initial,Lexers.standard,Dictionary.builtin]
  obtain ⟨node,errors,added,_,location,_,name,_,_,count⟩ :=
    headers_read_back setup active rfl rfl heading 3
  exact ⟨node,errors,added,location,name,count⟩

end ScenarioLang.LexerState
