import ScenarioLang.Proofs.Lexer.Language
import ScenarioLang.Proofs.Line.Opening

namespace ScenarioLang

namespace Line

variable {dictionary : Dictionary} {types : List NodeType} {line : Text} {number : Nat} {type : NodeType}
  {reading : Reading}

theorem followers_plain (type : NodeType) : .text ∉ followers type := by
  cases type <;> first | decide | (rename_i kind; cases kind <;> decide)

theorem priority_last : priority = priority.dropLast ++ [.text] := rfl

theorem dropLast_plain : .text ∉ priority.dropLast := by decide

theorem mem_dropLast (plain : type ≠ .text) : type ∈ priority.dropLast := by
  have member := priority_whole type
  rw [priority_last,List.mem_append,List.mem_singleton] at member
  exact member.resolve_right plain

-- Where one type alone takes a line, the order in which types are tried is no matter.
theorem firstReading_alone (member : type ∈ types) (read : reader dictionary type line number = some reading)
    (alone : ∀ other ∈ types, other ≠ type → reader dictionary other line number = none) :
    firstReading dictionary types line number = some (type,reading) := by
  unfold firstReading
  induction types with
  | nil => cases member
  | cons first rest ih =>
    rw [List.findSome?_cons]
    by_cases own : first = type
    · rw [own,read]
      rfl
    · rw [alone first List.mem_cons_self own]
      exact ih ((List.mem_cons.mp member).resolve_left fun same => own same.symm)
        fun other inside => alone other (List.mem_cons_of_mem _ inside)

theorem firstReading_append (first rest : List NodeType) :
    firstReading dictionary (first ++ rest) line number =
      (firstReading dictionary first line number).or (firstReading dictionary rest line number) :=
  List.findSome?_append

theorem firstReading_mem (read : firstReading dictionary types line number = some (type,reading)) :
    type ∈ types ∧ reader dictionary type line number = some reading := by
  obtain ⟨tried,member,found⟩ := List.exists_of_findSome?_eq_some read
  obtain ⟨made,own,same⟩ := Option.map_eq_some_iff.mp found
  cases same
  exact ⟨member,own⟩

theorem firstReading_none (refused : firstReading dictionary types line number = none) (member : type ∈ types) :
    reader dictionary type line number = none :=
  Option.map_eq_none_iff.mp (List.findSome?_eq_none_iff.mp refused type member)

theorem priority_only (set : distinct dictionary = true) (item : (Text.trimStart line).head? ≠ some '-')
    (filled : type ≠ .text) (read : reader dictionary type line number = some reading) :
    firstReading dictionary priority line number = some (type,reading) := by
  have alone : ∀ other ∈ priority.dropLast, other ≠ type → reader dictionary other line number = none := by
    intro other inside apart
    rw [Option.eq_none_iff_forall_ne_some]
    intro second also
    have solid : other ≠ .text := fun same => dropLast_plain (same ▸ inside)
    exact apart (opens_unique set item (reader_opens also solid) (reader_opens read filled))
  have first := firstReading_alone (mem_dropLast filled) read alone
  rw [priority_last,firstReading_append,first]
  rfl

theorem suggested_plain (set : distinct dictionary = true) (item : (Text.trimStart line).head? ≠ some '-')
    (plain : .text ∉ types) :
    firstReading dictionary (types ++ priority) line number = firstReading dictionary priority line number := by
  rw [firstReading_append]
  cases early : firstReading dictionary types line number with
  | none => rfl
  | some found =>
    obtain ⟨type,reading⟩ := found
    obtain ⟨member,read⟩ := firstReading_mem early
    have filled : type ≠ .text := fun same => plain (same ▸ member)
    rw [priority_only set item filled read]
    rfl

theorem text_last (plain : .text ∉ types)
    (read : firstReading dictionary (types ++ priority) line number = some (.text,reading)) (filled : type ≠ .text) :
    reader dictionary type line number = none := by
  rw [priority_last,← List.append_assoc,firstReading_append] at read
  cases early : firstReading dictionary (types ++ priority.dropLast) line number with
  | none => exact firstReading_none early (List.mem_append_right _ (mem_dropLast filled))
  | some found =>
    rw [early] at read
    cases read
    obtain ⟨member,_⟩ := firstReading_mem early
    rcases List.mem_append.mp member with suggested | ordered
    · exact absurd suggested plain
    · exact absurd ordered dropLast_plain

theorem dash_item (set : distinct dictionary = true) (dash : (Text.trimStart line).head? = some '-')
    (single : '\n' ∉ line) (plain : .text ∉ types) :
    ∃ type reading, firstReading dictionary (types ++ priority) line number = some (type,reading) ∧ type ∈ items := by
  cases read : firstReading dictionary (types ++ priority) line number with
  | none =>
    have refused := firstReading_none read (List.mem_append_right types (priority_whole .uiProperty))
    have taken : (reader dictionary .uiProperty line number).isSome = true := item_taken dash single
    rw [refused] at taken
    cases taken
  | some found =>
    obtain ⟨type,reading⟩ := found
    refine ⟨type,reading,rfl,?_⟩
    by_cases text : type = .text
    · subst text
      have refused := text_last plain read (by decide : NodeType.uiProperty ≠ .text)
      have taken : (reader dictionary .uiProperty line number).isSome = true := item_taken dash single
      rw [refused] at taken
      cases taken
    · have opens := reader_opens (firstReading_mem read).2 text
      exact items_sign (opens.marked set dash (by decide)) rfl

end Line

theorem Dictionary.builtinSource_member {language : Text} {words : Dictionary}
    (found : builtinSource language = .found words) : words ∈ builtin := by
  obtain ⟨_,asked⟩ := builtin_found found
  exact List.mem_of_find?_eq_some asked

namespace LexerState

variable {setup : LexerSetup} {state : LexerState} {line : Text} {number : Nat}

def unguided (state : LexerState) : LexerState := { state with last := none }

theorem unguided_hasErrors (state : LexerState) : state.unguided.hasErrors = state.hasErrors := rfl
theorem unguided_inLongString (state : LexerState) : state.unguided.inLongString = state.inLongString := rfl

theorem suggestions_plain (state : LexerState) : .text ∉ state.followers := by
  unfold followers
  split
  · exact Line.followers_plain _
  · exact List.not_mem_nil

theorem builtin_active {language : Text} {stopOnError : Bool}
    (ready : LexerSetup.start language Dictionary.builtinSource stopOnError = .ready setup)
    (history : List LexerAction) : (setup.initial.after setup history).dictionary ∈ Dictionary.builtin := by
  have tongue := after_inTongue (LexerSetup.start_settled .builtin ready) (initial_inTongue setup) history
  obtain ⟨base,found,rfl⟩ := LexerSetup.start_ready ready
  unfold InTongue LexerSetup.dictionaryFor at tongue
  split at tongue
  · exact Lookup.found.inj tongue ▸ Dictionary.builtinSource_member found
  · exact Dictionary.builtinSource_member tongue

theorem active_distinct (active : state.dictionary ∈ Dictionary.builtin) : Line.distinct state.dictionary = true :=
  List.all_eq_true.mp Line.builtin_distinct state.dictionary active

theorem addLine_unguided (outside : state.inLongString = false)
    (same : state.firstReading line number = state.unguided.firstReading line number) :
    state.addLine setup line number = state.unguided.addLine setup line number ∨
    (state.addLine setup line number = (.refused,state) ∧
      state.unguided.addLine setup line number = (.refused,state.unguided)) := by
  unfold addLine
  rw [unguided_hasErrors,unguided_inLongString,← same]
  by_cases skipped : (setup.stopOnError && state.hasErrors || line.allBlank) = true
  · rw [if_pos skipped,if_pos skipped]
    exact .inr ⟨rfl,rfl⟩
  · rw [if_neg skipped,if_neg skipped]
    rw [outside,if_neg Bool.false_ne_true,if_neg Bool.false_ne_true]
    split
    · exact .inr ⟨rfl,rfl⟩
    · exact .inl rfl

theorem addLine_read {added : List Node} {node : Node} (outside : state.inLongString = false)
    (nodes : (state.addLine setup line number).2.lexed.nodes = state.lexed.nodes ++ added) (member : node ∈ added) :
    ∃ reading, state.firstReading line number = some (node.type,reading) := by
  have none : state.lexed.nodes ≠ state.lexed.nodes ++ added := by
    intro same
    rw [List.self_eq_append_right.mp same] at member
    cases member
  unfold addLine at nodes
  split at nodes
  · exact absurd nodes none
  · rw [if_neg (Bool.eq_false_iff.mp outside)] at nodes
    split at nodes
    · exact absurd nodes none
    · rename_i type reading found
      obtain ⟨kept,faults,lexed,less,_⟩ :=
        keep_adds setup ({ state with last := some type }.report reading.errors reading.warnings) reading.nodes
      rw [lexed] at nodes
      obtain rfl := List.append_cancel_left nodes
      refine ⟨reading,?_⟩
      rw [found,Line.reader_type (LexerState.firstReading_reads found) node (less.subset member)]

theorem keep_plain {node : Node} (unfenced : node.type ≠ .longString) (undeclared : node.type ≠ .language) :
    state.keep setup [node] = (.accepted,state.push node) := by
  have entered : state.enter setup node = some state := by
    unfold enter
    split
    · rename_i own; exact absurd own unfenced
    · rename_i own; exact absurd own undeclared
    · rfl
  rw [keep,entered]
  rfl

theorem addLine_one {type : NodeType} {reading : Reading} {node : Node}
    (goesOn : (setup.stopOnError && state.hasErrors) = false) (outside : state.inLongString = false)
    (filled : line.allBlank = false) (first : state.firstReading line number = some (type,reading))
    (only : reading.nodes = [node]) (unfenced : type ≠ .longString) (undeclared : type ≠ .language) :
    state.addLine setup line number =
      (.accepted,{ state with last := some type, lexed := state.lexed.followedBy reading }) := by
  have own : node.type = type := Line.reader_type (LexerState.firstReading_reads first) node (only ▸ List.mem_cons_self)
  unfold addLine
  rw [goesOn,filled,Bool.or_self,if_neg Bool.false_ne_true,if_neg (Bool.eq_false_iff.mp outside),first]
  simp only [only]
  rw [keep_plain (own ▸ unfenced) (own ▸ undeclared)]
  simp [report,push,Reading.followedBy,only]

theorem addLine_dash (set : Line.distinct state.dictionary = true) (outside : state.inLongString = false)
    (goesOn : (setup.stopOnError && state.hasErrors) = false) (dash : (Text.trimStart line).head? = some '-')
    (single : '\n' ∉ line) : ∃ node, node.type ∈ Line.items ∧ state.winner line number = some node.type ∧
      (state.addLine setup line number).1 = .accepted ∧
      (state.addLine setup line number).2.lexed.nodes = state.lexed.nodes ++ [node] := by
  obtain ⟨type,reading,first,item⟩ : ∃ type reading, state.firstReading line number = some (type,reading) ∧
      type ∈ Line.items := by
    rw [firstReading_words]
    exact Line.dash_item set dash single state.suggestions_plain
  have read := LexerState.firstReading_reads first
  have one : reading.nodes.length = 1 := by
    have counted := (Line.reader_located read).2
    have plain : ¬some type = some NodeType.tag := by
      intro tag
      rw [Option.some.inj tag] at item
      exact absurd item (by decide)
    rwa [Reading.Counted,if_neg plain] at counted
  obtain ⟨node,only⟩ := List.length_eq_one_iff.mp one
  have own : node.type = type := Line.reader_type read node (only ▸ List.mem_singleton_self node)
  have filled : line.allBlank = false := Text.head_filled dash
  have unfenced : type ≠ .longString := fun same => absurd (same ▸ item) (by decide)
  have undeclared : type ≠ .language := fun same => absurd (same ▸ item) (by decide)
  have taken := addLine_one goesOn outside filled first only unfenced undeclared
  refine ⟨node,own ▸ item,?_,by rw [taken],by rw [taken,← only]; rfl⟩
  rw [winner,outside,if_neg Bool.false_ne_true,first,own]
  rfl

-- The types that usually come next only tell items apart. With a built-in dictionary
-- any other line is read as if nothing came before it, and a dash always opens an
-- item. With any dictionary, text is what no other reader takes.
theorem followers_decide_items_only :
    (∀ language stopOnError setup, LexerSetup.start language Dictionary.builtinSource stopOnError = .ready setup →
      ∀ history, (setup.initial.after setup history).dictionary ∈ Dictionary.builtin) ∧
    (∀ (setup : LexerSetup) (state : LexerState), state.dictionary ∈ Dictionary.builtin →
      state.inLongString = false → ∀ (line : Text) (number : Nat),
      ((Text.trimStart line).head? ≠ some '-' →
        state.firstReading line number = Line.firstReading state.dictionary Line.priority line number ∧
        (state.addLine setup line number = state.unguided.addLine setup line number ∨
          (state.addLine setup line number = (.refused,state) ∧
            state.unguided.addLine setup line number = (.refused,state.unguided)))) ∧
      ((Text.trimStart line).head? = some '-' → '\n' ∉ line → (setup.stopOnError && state.hasErrors) = false →
        ∃ node, node.type ∈ Line.items ∧ state.winner line number = some node.type ∧
          (state.addLine setup line number).1 = .accepted ∧
          (state.addLine setup line number).2.lexed.nodes = state.lexed.nodes ++ [node])) ∧
    ∀ (setup : LexerSetup) (state : LexerState), state.inLongString = false →
      ∀ (line : Text) (number : Nat) (added : List Node),
      (state.addLine setup line number).2.lexed.nodes = state.lexed.nodes ++ added →
      ∀ node ∈ added, node.type = .text →
        ∀ type, type ≠ .text → Line.reader state.dictionary type line number = none := by
  refine ⟨fun _ _ _ ready history => builtin_active ready history,?_,?_⟩
  · intro setup state active outside line number
    have set := active_distinct active
    refine ⟨fun item => ?_,fun dash single goesOn => addLine_dash set outside goesOn dash single⟩
    have guided : state.firstReading line number = Line.firstReading state.dictionary Line.priority line number :=
      (state.firstReading_words line number).trans (Line.suggested_plain set item state.suggestions_plain)
    exact ⟨guided,addLine_unguided outside (guided.trans (state.unguided.firstReading_words line number).symm)⟩
  · intro setup state outside line number added nodes node member own type filled
    obtain ⟨reading,found⟩ := addLine_read outside nodes member
    rw [own,firstReading_words] at found
    exact Line.text_last state.suggestions_plain found filled

theorem followers_decide_items_only_portuguese : ∃ setup,
    LexerSetup.start ['e','n'] Dictionary.builtinSource false = .ready setup ∧
    let state := setup.initial.after setup [.line "#language: pt".toList 1,.line "Constantes:".toList 2]
    state.language = ['p','t'] ∧ state.last = some (.block .constant) ∧
    state.firstReading "E  algo".toList 3 = Line.firstReading state.dictionary Line.priority "E  algo".toList 3 ∧
    (∃ type ∈ Line.items, state.winner "  - x".toList 3 = some type) ∧
    ∀ type, type ≠ .text → Line.reader state.dictionary type "algo".toList 3 = none := by
  let setup : LexerSetup := ⟨Dictionary.builtinSource,Dictionary.english,false⟩
  have ready : LexerSetup.start ['e','n'] Dictionary.builtinSource false = .ready setup := rfl
  obtain ⟨active,ordered,remaining⟩ := followers_decide_items_only
  have known := active _ _ _ ready [.line "#language: pt".toList 1,.line "Constantes:".toList 2]
  refine ⟨setup,ready,by decide,by decide,?_,?_,?_⟩
  · exact ((ordered setup _ known (by decide) "E  algo".toList 3).1 (by decide)).1
  · obtain ⟨node,item,won,_⟩ := (ordered setup _ known (by decide) "  - x".toList 3).2 (by decide)
      (by decide) (by decide)
    exact ⟨node.type,item,won⟩
  · exact remaining setup _ (by decide) "algo".toList 3 [Line.rawText "algo".toList 3] (by decide)
      _ List.mem_cons_self rfl

end LexerState
end ScenarioLang
