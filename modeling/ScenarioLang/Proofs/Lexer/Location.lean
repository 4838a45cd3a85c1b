import ScenarioLang.Proofs.Lexer
import ScenarioLang.Proofs.Line.Location

namespace ScenarioLang

namespace Reading

variable {line : Text} {number : Nat} {reading : Reading}

def followedBy (before after : Reading) : Reading :=
  ⟨before.nodes ++ after.nodes,before.errors ++ after.errors,before.warnings ++ after.warnings⟩

theorem followedBy_empty (reading : Reading) : reading.followedBy .empty = reading := by
  simp [followedBy,empty]

theorem Placed.nothing (line : Text) (number : Nat) : Placed line number .empty :=
  ⟨List.forall_mem_nil _,List.Pairwise.nil,List.forall_mem_nil _,List.forall_mem_nil _⟩

theorem Placed.cut {kept : List Node} {faults : List LexicalError} (placed : reading.Placed line number)
    (less : kept <+: reading.nodes)
    (among : ∀ error ∈ faults, ∃ node ∈ reading.nodes, error.location = node.location) :
    Placed line number ⟨kept,reading.errors ++ faults,reading.warnings⟩ := by
  refine ⟨?_,placed.order.sublist less.sublist,?_,placed.warnings⟩
  · exact fun node member => placed.nodes node (less.subset member)
  · intro error member
    rcases List.mem_append.mp member with own | later
    · exact placed.errors error own
    · obtain ⟨node,inside,same⟩ := among error later
      exact same ▸ (placed.nodes node inside).points

end Reading

namespace LexerState

variable {setup : LexerSetup} {state next : LexerState} {line : Text} {number : Nat}

-- The type under which a line is read. In a long string no reader competes for
-- it.
def winner (state : LexerState) (line : Text) (number : Nat) : Option NodeType :=
  if state.inLongString then none else (state.firstReading line number).map fun found => found.1

theorem enter_adds {node : Node} (entered : state.enter setup node = some next) :
    ∃ faults, next.lexed = state.lexed.followedBy ⟨[],faults,[]⟩ ∧
      ∀ error ∈ faults, node.type = .language ∧ error.location = node.location := by
  have same : state.lexed = state.lexed.followedBy ⟨[],[],[]⟩ := (Reading.followedBy_empty _).symm
  unfold enter at entered
  split at entered
  · cases entered; exact ⟨[],same,List.forall_mem_nil _⟩
  · rename_i language
    split at entered
    · unfold switch at entered
      split at entered
      · cases entered; exact ⟨[],same,List.forall_mem_nil _⟩
      · split at entered
        · cases entered; exact ⟨[],same,List.forall_mem_nil _⟩
        · rename_i code _ _ _ error _
          cases entered
          refine ⟨[⟨.unsupportedLanguage code error,node.location⟩],by simp [report,Reading.followedBy],?_⟩
          intro error member
          rw [List.mem_singleton.mp member]
          exact ⟨language,rfl⟩
        · cases entered
    · cases entered; exact ⟨[],same,List.forall_mem_nil _⟩
  · cases entered; exact ⟨[],same,List.forall_mem_nil _⟩

-- The nodes of a line are kept in order, up to a crash. A language line may add an
-- error at its node.
theorem keep_adds (setup : LexerSetup) (state : LexerState) (nodes : List Node) : ∃ kept faults,
    (state.keep setup nodes).2.lexed = state.lexed.followedBy ⟨kept,faults,[]⟩ ∧ kept <+: nodes ∧
    ((state.keep setup nodes).1 = .accepted → kept = nodes) ∧
    ∀ error ∈ faults, ∃ node ∈ nodes, node.type = .language ∧ error.location = node.location := by
  induction nodes generalizing state with
  | nil =>
    refine ⟨[],[],(Reading.followedBy_empty _).symm,List.prefix_refl _,fun _ => rfl,?_⟩
    exact List.forall_mem_nil _
  | cons node rest ih =>
    rw [keep]
    split
    · rename_i entered reached
      obtain ⟨own,added,said⟩ := enter_adds reached
      obtain ⟨kept,faults,lexed,less,all,among⟩ := ih (entered.push node)
      refine ⟨node :: kept,own ++ faults,?_,List.cons_prefix_cons.mpr ⟨rfl,less⟩,?_,?_⟩
      · rw [lexed]
        simp [push,added,Reading.followedBy]
      · exact fun accepted => congrArg (node :: ·) (all accepted)
      · intro error member
        rcases List.mem_append.mp member with here | later
        · exact ⟨node,List.mem_cons_self,said error here⟩
        · obtain ⟨other,inside,same⟩ := among error later
          exact ⟨other,List.mem_cons_of_mem _ inside,same⟩
    · refine ⟨[],[],(Reading.followedBy_empty _).symm,List.nil_prefix,?_,List.forall_mem_nil _⟩
      intro accepted
      cases accepted

theorem keep_taken (setup : LexerSetup) (state : LexerState) (nodes : List Node) :
    (state.keep setup nodes).1 ≠ .refused := by
  induction nodes generalizing state with
  | nil => simp [keep]
  | cons node rest ih =>
    rw [keep]
    split
    · exact ih _
    · simp

theorem addLine_refused (refused : (state.addLine setup line number).1 = .refused) :
    (state.addLine setup line number).2 = state := by
  unfold addLine at refused ⊢
  split at refused
  · rename_i skipped; rw [if_pos skipped]
  · rename_i goesOn
    rw [if_neg goesOn]
    split at refused
    · cases refused
    · rename_i outside
      rw [if_neg outside]
      split at refused
      · rfl
      · exact absurd refused (keep_taken _ _ _)

theorem addRaw_adds (state : LexerState) (number : Nat) (filled : line.trimStart ≠ []) : ∃ added,
    (state.addRaw line number).lexed = state.lexed.followedBy added ∧ added.Placed line number ∧
    added.nodes.length = 1 := by
  unfold addRaw
  split
  · rename_i reading read
    have whole := Line.readDelimiter_whole read
    refine ⟨⟨reading.nodes,[],[]⟩,by simp [Reading.followedBy],?_,?_⟩
    · exact ⟨whole.placed.nodes,whole.placed.order,List.forall_mem_nil _,List.forall_mem_nil _⟩
    · obtain ⟨node,only,_⟩ := whole.node
      rw [only]
      rfl
  · have whole : (Reading.ofNode (Line.rawText line number) []).Whole line number :=
      Reading.whole_start (by decide) (List.prefix_refl line) filled (List.forall_mem_nil _) (List.forall_mem_nil _)
    exact ⟨.ofNode (Line.rawText line number) [],by simp [push,Reading.followedBy,Reading.ofNode],whole.placed,rfl⟩

theorem addLine_adds (setup : LexerSetup) (state : LexerState) (line : Text) (number : Nat) : ∃ added,
    (state.addLine setup line number).2.lexed = state.lexed.followedBy added ∧ added.Placed line number ∧
    ((state.addLine setup line number).1 = .accepted → added.Counted line (state.winner line number)) := by
  unfold addLine
  split
  · exact ⟨.empty,(Reading.followedBy_empty _).symm,.nothing line number,by simp⟩
  · rename_i goesOn
    have filled : line.trimStart ≠ [] :=
      Text.trimStart_solid (Bool.or_eq_false_iff.mp (Bool.eq_false_iff.mpr goesOn)).2
    split
    · rename_i inside
      obtain ⟨added,lexed,placed,one⟩ := addRaw_adds state number filled
      refine ⟨added,lexed,placed,fun _ => ?_⟩
      rw [winner,if_pos inside]
      exact one
    · rename_i outside
      split
      · exact ⟨.empty,(Reading.followedBy_empty _).symm,.nothing line number,by simp⟩
      · rename_i type reading found
        have read := LexerState.firstReading_reads found
        obtain ⟨placed,counted⟩ := Line.reader_located read
        obtain ⟨kept,faults,lexed,less,all,among⟩ :=
          keep_adds setup ({ state with last := some type }.report reading.errors reading.warnings) reading.nodes
        refine ⟨⟨kept,reading.errors ++ faults,reading.warnings⟩,?_,?_,?_⟩
        · rw [lexed]
          simp [report,Reading.followedBy]
        · exact placed.cut less fun error member =>
            let ⟨node,inside,_,same⟩ := among error member
            ⟨node,inside,same⟩
        · intro accepted
          rw [winner,if_neg outside,found]
          obtain rfl := all accepted
          by_cases tag : type = .tag
          · have quiet : faults = [] := by
              refine List.eq_nil_iff_forall_not_mem.mpr fun error member => ?_
              obtain ⟨node,inside,language,_⟩ := among error member
              rw [Line.reader_type read node inside,tag] at language
              cases language
            rw [quiet,List.append_nil]
            exact counted
          · have plain : ¬some type = some NodeType.tag := fun same => tag (Option.some.inj same)
            rw [Reading.Counted,if_neg plain] at counted
            exact (if_neg plain).mpr counted

structure Ahead (state : LexerState) (lines : List (Text × Nat)) : Prop where
  order : state.lexed.nodes.Pairwise fun first second => first.location.Before second.location
  later : ∀ node ∈ state.lexed.nodes, ∀ line ∈ lines, node.location.line < line.2

theorem addLine_ahead {rest : List (Text × Nat)} (rising : ∀ other ∈ rest, number < other.2)
    (ahead : state.Ahead ((line,number) :: rest)) : (state.addLine setup line number).2.Ahead rest := by
  obtain ⟨added,lexed,placed,_⟩ := addLine_adds setup state line number
  have nodes : (state.addLine setup line number).2.lexed.nodes = state.lexed.nodes ++ added.nodes := by
    rw [lexed]
    rfl
  have here : ∀ node ∈ added.nodes, node.location.line = number :=
    fun node member => (placed.nodes node member).ofLine
  refine ⟨?_,?_⟩
  · rw [nodes,List.pairwise_append]
    refine ⟨ahead.order,placed.order,fun first old second new => .inl ?_⟩
    rw [here second new]
    exact ahead.later first old _ List.mem_cons_self
  · intro node member other further
    rw [nodes] at member
    rcases List.mem_append.mp member with old | new
    · exact ahead.later node old other (List.mem_cons_of_mem _ further)
    · rw [here node new]
      exact rising other further

theorem addLines_ahead {lines : List (Text × Nat)} (rising : lines.Pairwise fun first second => first.2 < second.2)
    (ahead : state.Ahead lines)
    (read : state.addLines setup lines = .ok next ∨ state.addLines setup lines = .error next) : next.Ahead [] := by
  induction lines generalizing state with
  | nil =>
    rcases read with read | read
    · cases read; exact ahead
    · cases read
  | cons head rest ih =>
    obtain ⟨line,number⟩ := head
    obtain ⟨before,rising⟩ := List.pairwise_cons.mp rising
    have after : (state.addLine setup line number).2.Ahead rest := addLine_ahead before ahead
    rw [addLines] at read
    split at read
    · rename_i crashed broken
      rw [broken] at after
      rcases read with read | read
      · cases read
      · cases read
        exact ⟨after.order,fun _ _ => List.forall_mem_nil _⟩
    · rename_i outcome reached _ same
      rw [same] at after
      exact ih rising after read

-- A refused line changes nothing. What an accepted line adds stands in that line
-- where it says, one node for the line or one entry for each tag. So in a file
-- the nodes follow each other as the text does.
theorem addLine_located (setup : LexerSetup) (state : LexerState) (line : Text) (number : Nat) :
    let reached := state.addLine setup line number
    (reached.1 = .refused → reached.2 = state) ∧
    (reached.1 = .accepted → ∃ added, reached.2.lexed = state.lexed.followedBy added ∧
      added.Placed line number ∧ added.Counted line (state.winner line number)) ∧
    ∀ lines, (lines.Pairwise fun first second => first.2 < second.2) →
      ∀ final,
        setup.initial.addLines setup lines = .ok final ∨ setup.initial.addLines setup lines = .error final →
        final.lexed.nodes.Pairwise fun first second => first.location.Before second.location := by
  refine ⟨addLine_refused,?_,?_⟩
  · intro accepted
    obtain ⟨added,lexed,placed,counted⟩ := addLine_adds setup state line number
    exact ⟨added,lexed,placed,counted accepted⟩
  · intro lines rising final read
    have ahead : setup.initial.Ahead lines := ⟨List.Pairwise.nil,List.forall_mem_nil _⟩
    exact (addLines_ahead rising ahead read).order

theorem addLine_located_tags :
    let setup : LexerSetup := ⟨Dictionary.builtinSource,Dictionary.english,false⟩
    let tags := "\t@one @2 @two # tags".toList
    (setup.initial.addLine setup [' '] 3).2 = setup.initial ∧
    (∃ added, (setup.initial.addLine setup tags 3).2.lexed = setup.initial.lexed.followedBy added ∧
      added.Placed tags 3 ∧ added.nodes.length + added.errors.length = 3) ∧
    ∃ final, setup.initial.addLines setup [(tags,3),("Feature: a".toList,4)] = .ok final ∧
      final.lexed.nodes.Pairwise fun first second => first.location.Before second.location := by
  intro setup tags
  obtain ⟨_,adds,runs⟩ := addLine_located setup setup.initial tags 3
  refine ⟨(addLine_located setup setup.initial [' '] 3).1 (by decide),?_,?_⟩
  · have accepted : (setup.initial.addLine setup tags 3).1 = .accepted := by decide
    have winner : setup.initial.winner tags 3 = some .tag := by decide
    have count : Line.separators (Text.trim (Text.uncommented tags)) = 2 := by decide
    obtain ⟨added,lexed,placed,counted⟩ := adds accepted
    rw [winner,Reading.Counted,if_pos rfl,count] at counted
    exact ⟨added,lexed,placed,counted⟩
  · have going : (setup.initial.addLines setup [(tags,3),("Feature: a".toList,4)]).isOk = true := by decide
    cases read : setup.initial.addLines setup [(tags,3),("Feature: a".toList,4)] with
    | ok final => exact ⟨final,rfl,runs _ (by decide) final (.inl read)⟩
    | error => rw [read] at going; cases going

end LexerState
end ScenarioLang
