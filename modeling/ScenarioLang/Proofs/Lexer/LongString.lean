import Mathlib.Algebra.Ring.Parity
import ScenarioLang.Proofs.Lexer.Followers
import ScenarioLang.Proofs.Lexer.Frame
import ScenarioLang.Proofs.Lexer.Stopping

namespace ScenarioLang

def Dictionary.Unquoted (dictionary : Dictionary) : Prop :=
  ∀ keyword, ∀ word ∈ dictionary.words keyword, '"' ∉ word

theorem Keyword.all_whole (keyword : Keyword) : keyword ∈ Keyword.all := by
  cases keyword <;> first | decide | (rename_i kind; cases kind <;> decide)

theorem Dictionary.builtin_unquoted {dictionary : Dictionary} (active : dictionary ∈ builtin) : dictionary.Unquoted := by
  have plain : (builtin.all fun dictionary => Keyword.all.all fun keyword =>
      (dictionary.words keyword).all fun word => word.all fun c => c ≠ '"') = true := by decide
  intro keyword word member inside
  have words := List.all_eq_true.mp (List.all_eq_true.mp plain dictionary active) keyword keyword.all_whole
  have unquoted := List.all_eq_true.mp (List.all_eq_true.mp words word member) '"' inside
  exact of_decide_eq_true unquoted rfl

namespace Line
open Text

variable {dictionary : Dictionary} {type : NodeType} {line : Text}

def isDelimiter (line : Text) : Bool := (readDelimiter line 0).isSome

def fence (line : Text) (number : Nat) : Node := ⟨.longString,Location.ofContent line number,delimiter,.empty⟩

theorem readDelimiter_isSome (line : Text) (number : Nat) : (readDelimiter line number).isSome = isDelimiter line :=
  reader_unnumbered ⟨[],fun _ => []⟩ .longString line number 0

theorem readDelimiter_fence {number : Nat} {reading : Reading} (read : readDelimiter line number = some reading) :
    reading = .ofNode (fence line number) [] := by
  simp only [readDelimiter] at read
  obtain ⟨rest,_,read⟩ := Option.bind_eq_some_iff.mp read
  split at read
  · exact (Option.some.inj read).symm
  · obtain ⟨_,_,made⟩ := Option.map_eq_some_iff.mp read
    exact made.symm
  · cases read

theorem readDelimiter_taken (found : isDelimiter line = true) (number : Nat) :
    readDelimiter line number = some (.ofNode (fence line number) []) := by
  obtain ⟨reading,read⟩ := Option.isSome_iff_exists.mp ((readDelimiter_isSome line number).trans found)
  rw [read,readDelimiter_fence read]

theorem readDelimiter_refused (plain : isDelimiter line = false) (number : Nat) : readDelimiter line number = none :=
  Option.not_isSome_iff_eq_none.mp (by rw [readDelimiter_isSome,plain]; exact Bool.false_ne_true)

theorem delimiter_head (found : isDelimiter line = true) : (trimStart line).head? = some '"' := by
  obtain ⟨rest,quotes,_⟩ := Option.bind_eq_some_iff.mp (readDelimiter_taken found 0)
  rw [after_append quotes]
  rfl

theorem delimiter_filled (found : isDelimiter line = true) : line.allBlank = false := head_filled (delimiter_head found)

-- With words without quotes, what starts with a quote is a delimiter or text.
theorem quote_unread (unquoted : dictionary.Unquoted) (head : (trimStart line).head? = some '"')
    (filled : type ≠ .text) (other : type ≠ .longString) (number : Nat) : reader dictionary type line number = none := by
  rw [Option.eq_none_iff_forall_ne_some]
  intro reading read
  cases reader_opens read filled with
  | keyword own member stands follows =>
    obtain ⟨piece,inside,d,within,c,start,same⟩ :=
      Words.afterPieces_start (fun _ => run_filled) (Words.tried_filled member) stands
    have first := uncommented_head (uncommented_starts line) start
    rw [head] at first
    cases first
    obtain rfl : d = '"' := by
      apply Unicode.eq_of_fold (same.symm.trans (Words.fold_mark (by decide)))
      · decide
      · decide
    obtain ⟨written,among,all⟩ := Words.tried_written member inside
    exact absurd (all within) (unquoted _ written among)
  | sign own start =>
    rw [head] at start
    cases start
    exact other (sign_unique own rfl (by decide))

theorem followers_unfenced (type : NodeType) : .longString ∉ followers type := by
  cases type <;> first | decide | (rename_i kind; cases kind <;> decide)

end Line

namespace LexerState
open Line

variable {setup : LexerSetup} {state : LexerState} {line : Text} {lines later : List (Text × Nat)}

theorem suggestions_unfenced (state : LexerState) : .longString ∉ state.followers := by
  unfold followers
  split
  · exact followers_unfenced _
  · exact List.not_mem_nil

theorem firstReading_delimiter (unquoted : state.dictionary.Unquoted) (found : isDelimiter line = true) (number : Nat) :
    state.firstReading line number = some (.longString,.ofNode (fence line number) []) := by
  have suggested : Line.firstReading state.dictionary state.followers line number = none := by
    apply List.findSome?_eq_none_iff.mpr
    intro type member
    have plain : type ≠ .text := fun same => state.suggestions_plain (same ▸ member)
    have other : type ≠ .longString := fun same => state.suggestions_unfenced (same ▸ member)
    rw [quote_unread unquoted (delimiter_head found) plain other number]
    rfl
  have first : reader state.dictionary .longString line number = some (.ofNode (fence line number) []) :=
    readDelimiter_taken found number
  rw [firstReading_words,firstReading_append,suggested,Option.none_or]
  exact List.findSome?_cons_of_isSome (by rw [first]; rfl) |>.trans (by rw [first]; rfl)

theorem addLine_opens (outside : state.inLongString = false) (goesOn : (setup.stopOnError && state.hasErrors) = false)
    (unquoted : state.dictionary.Unquoted) (found : isDelimiter line = true) (number : Nat) :
    state.addLine setup line number =
      (.accepted,{ state with inLongString := true, last := some .longString }.push (fence line number)) := by
  unfold addLine
  rw [goesOn,delimiter_filled found,outside,firstReading_delimiter unquoted found number]
  simp [keep,enter,Reading.ofNode,fence,report,push]

theorem addLine_closes (inside : state.inLongString = true) (goesOn : (setup.stopOnError && state.hasErrors) = false)
    (found : isDelimiter line = true) (number : Nat) :
    state.addLine setup line number =
      (.accepted,{ state with inLongString := false, last := some .longString }.push (fence line number)) := by
  unfold addLine
  rw [goesOn,delimiter_filled found,inside]
  simp [addRaw,readDelimiter_taken found,Reading.ofNode,push]

theorem addLine_raw (inside : state.inLongString = true) (plain : isDelimiter line = false) (number : Nat) :
    state.addLine setup line number =
      if setup.stopOnError && state.hasErrors || line.allBlank then (.refused,state)
      else (.accepted,state.push (rawText line number)) := by
  unfold addLine
  rw [inside,if_pos rfl,addRaw,readDelimiter_refused plain number]

def fences (nodes : List Node) : Nat := nodes.countP fun node => node.type = .longString

-- The mode of a lexer with these nodes, read from these lines. Between delimiters
-- there is nothing but lines as they were.
structure Fenced (inside : Bool) (nodes : List Node) (lines : List (Text × Nat)) : Prop where
  mode : inside = true ↔ Odd (fences nodes)
  raw : ∀ i node, nodes[i]? = some node → Odd (fences (nodes.take i)) → node.type ≠ .longString →
    ∃ entry ∈ lines, isDelimiter entry.1 = false ∧ node = rawText entry.1 entry.2

variable {inside : Bool} {nodes added : List Node}

theorem fenced_initial : Fenced false [] [] := by
  refine ⟨by decide,fun i node found => ?_⟩
  cases found

theorem Fenced.mono (fenced : Fenced inside nodes lines) (more : lines ⊆ later) : Fenced inside nodes later := by
  refine ⟨fenced.mode,fun i node found odd plain => ?_⟩
  obtain ⟨entry,member,same⟩ := fenced.raw i node found odd plain
  exact ⟨entry,more member,same⟩

theorem fences_snoc (nodes : List Node) (node : Node) :
    fences (nodes ++ [node]) = fences nodes + if node.type = .longString then 1 else 0 := by
  simp [fences,List.countP_append,List.countP_cons]

theorem Fenced.snoc {node : Node} (fenced : Fenced inside nodes lines) (turns : Bool)
    (own : turns = (if node.type = .longString then !inside else inside))
    (line : inside = true → node.type ≠ .longString →
      ∃ entry ∈ lines, isDelimiter entry.1 = false ∧ node = rawText entry.1 entry.2) :
    Fenced turns (nodes ++ [node]) lines := by
  constructor
  · rw [own,fences_snoc]
    split
    · rw [Nat.odd_add_one,← fenced.mode,Bool.not_eq_true',Bool.not_eq_true]
    · exact fenced.mode
  · intro i other found odd plain
    rcases Nat.lt_or_ge i nodes.length with old | new
    · rw [List.getElem?_append_left old] at found
      rw [List.take_append_of_le_length (Nat.le_of_lt old)] at odd
      exact fenced.raw i other found odd plain
    · rw [List.getElem?_append_right new] at found
      obtain ⟨bound,same⟩ := List.getElem?_eq_some_iff.mp found
      have here : i = nodes.length := by
        rw [List.length_singleton] at bound
        omega
      subst here
      rw [List.take_left] at odd
      simp only [Nat.sub_self,List.getElem_cons_zero] at same
      subst same
      exact line (fenced.mode.mpr odd) plain

theorem Fenced.plain (fenced : Fenced false nodes lines) (other : ∀ node ∈ added, node.type ≠ .longString) :
    Fenced false (nodes ++ added) lines := by
  induction added generalizing nodes with
  | nil => rwa [List.append_nil]
  | cons node rest ih =>
    obtain ⟨first,others⟩ := List.forall_mem_cons.mp other
    have next := fenced.snoc false (if_neg first).symm fun inside => Bool.noConfusion inside
    rw [List.append_cons]
    exact ih next others

variable {number : Nat} {next : LexerState}

theorem enter_mode {node : Node} (entered : state.enter setup node = some next) (other : node.type ≠ .longString) :
    next.inLongString = state.inLongString := by
  unfold enter at entered
  split at entered
  · rename_i own
    exact absurd own other
  · split at entered
    · unfold switch at entered
      split at entered
      · cases entered
        rfl
      · split at entered <;> cases entered <;> rfl
    · cases entered
      rfl
  · cases entered
    rfl

theorem keep_mode (other : ∀ node ∈ nodes, node.type ≠ .longString) :
    (state.keep setup nodes).2.inLongString = state.inLongString := by
  induction nodes generalizing state with
  | nil => rfl
  | cons node rest ih =>
    obtain ⟨first,others⟩ := List.forall_mem_cons.mp other
    rw [keep]
    split
    · rename_i entered reached
      have stays : (entered.push node).inLongString = entered.inLongString := rfl
      exact (ih others).trans (stays.trans (enter_mode reached first))
    · rfl

theorem keep_fenced (outside : state.inLongString = false) (fenced : Fenced false state.lexed.nodes lines)
    (other : ∀ node ∈ nodes, node.type ≠ .longString) :
    Fenced (state.keep setup nodes).2.inLongString (state.keep setup nodes).2.lexed.nodes lines := by
  obtain ⟨kept,_,lexed,less,_⟩ := keep_adds setup state nodes
  rw [keep_mode other,outside,lexed]
  exact fenced.plain fun node member => other node (less.subset member)

theorem keep_fence (state : LexerState) (line : Text) (number : Nat) :
    state.keep setup [fence line number] = (.accepted,{ state with inLongString := true }.push (fence line number)) := rfl

theorem addLine_fenced (fenced : Fenced state.inLongString state.lexed.nodes lines) (line : Text) (number : Nat) :
    Fenced (state.addLine setup line number).2.inLongString (state.addLine setup line number).2.lexed.nodes
      (lines ++ [(line,number)]) := by
  have fenced := fenced.mono (List.subset_append_left lines [(line,number)])
  unfold addLine
  split
  · exact fenced
  cases inside : state.inLongString with
  | true =>
    rw [inside] at fenced
    rw [if_pos rfl]
    unfold addRaw
    split
    · rename_i reading read
      rw [readDelimiter_fence read]
      exact fenced.snoc false rfl fun _ other => absurd rfl other
    · rename_i refused
      have plain : isDelimiter line = false := by
        rw [← readDelimiter_isSome line number,refused]
        rfl
      have own : (line,number) ∈ lines ++ [(line,number)] := List.mem_append_right _ List.mem_cons_self
      exact fenced.snoc state.inLongString inside fun _ _ => ⟨(line,number),own,plain,rfl⟩
  | false =>
    rw [inside] at fenced
    rw [if_neg Bool.false_ne_true]
    split
    · exact inside ▸ fenced
    · rename_i type reading first
      have read := LexerState.firstReading_reads first
      by_cases delimits : type = .longString
      · subst delimits
        obtain rfl := readDelimiter_fence read
        rw [Reading.ofNode,keep_fence]
        exact fenced.snoc true rfl fun inside => Bool.noConfusion inside
      · have other : ∀ node ∈ reading.nodes, node.type ≠ .longString :=
          fun node member => (reader_type read node member).trans_ne delimits
        exact keep_fenced rfl fenced other

def gathered (lines : List (Text × Nat)) : LexerAction → List (Text × Nat)
  | .line text number => lines ++ [(text,number)]
  | _ => []

def sinceReturn (history : List LexerAction) : List (Text × Nat) := history.foldl gathered []

theorem after_fenced (fenced : Fenced state.inLongString state.lexed.nodes lines) (history : List LexerAction) :
    Fenced (state.after setup history).inLongString (state.after setup history).lexed.nodes
      (history.foldl gathered lines) := by
  induction history generalizing state lines with
  | nil => exact fenced
  | cons action rest ih =>
    apply ih
    cases action with
    | line text number => exact addLine_fenced fenced text number
    | _ => exact fenced_initial

structure Unmoved (before after : LexerState) : Prop where
  errors : after.lexed.errors = before.lexed.errors
  warnings : after.lexed.warnings = before.lexed.warnings
  language : after.language = before.language
  dictionary : after.dictionary = before.dictionary
  last : after.last = before.last
  mode : after.inLongString = before.inLongString

theorem addLine_unmoved (inside : state.inLongString = true) (plain : isDelimiter line = false) (number : Nat) :
    state.Unmoved (state.addLine setup line number).2 := by
  rw [addLine_raw inside plain]
  split
  · exact ⟨rfl,rfl,rfl,rfl,rfl,rfl⟩
  · exact ⟨rfl,rfl,rfl,rfl,rfl,rfl⟩

theorem addLines_stopped (stopped : (setup.stopOnError && state.hasErrors) = true) (lines : List (Text × Nat)) :
    state.addLines setup lines = .ok state := by
  induction lines with
  | nil => rfl
  | cons head rest ih =>
    obtain ⟨line,number⟩ := head
    rw [addLines_cons,addLine_stopped stopped]
    exact ih

def behind (front : List Node) (state : LexerState) : LexerState := state.following ⟨front,[],[]⟩

theorem addLines_body (inside : state.inLongString = true) {body : List (Text × Nat)}
    (plain : ∀ entry ∈ body, isDelimiter entry.1 = false) : ∃ texts,
    (∀ node ∈ texts, ∃ entry ∈ body, node = rawText entry.1 entry.2) ∧
    state.addLines setup body =
      .ok { state with lexed := ⟨state.lexed.nodes ++ texts,state.lexed.errors,state.lexed.warnings⟩ } := by
  induction body generalizing state with
  | nil => exact ⟨[],List.forall_mem_nil _,by rw [List.append_nil]; rfl⟩
  | cons head rest ih =>
    obtain ⟨line,number⟩ := head
    obtain ⟨first,others⟩ := List.forall_mem_cons.mp plain
    rw [addLines_cons,addLine_raw inside first]
    split
    · obtain ⟨texts,made,read⟩ := ih inside others
      refine ⟨texts,fun node member => ?_,read⟩
      obtain ⟨entry,among,same⟩ := made node member
      exact ⟨entry,List.mem_cons_of_mem _ among,same⟩
    · have stays : (state.push (rawText line number)).inLongString = true := inside
      obtain ⟨texts,made,read⟩ := ih stays others
      refine ⟨rawText line number :: texts,fun node member => ?_,?_⟩
      · rcases List.mem_cons.mp member with rfl | later
        · exact ⟨(line,number),List.mem_cons_self,rfl⟩
        · obtain ⟨entry,among,same⟩ := made node later
          exact ⟨entry,List.mem_cons_of_mem _ among,same⟩
      · rw [if_neg LineOutcome.noConfusion,read]
        simp [push]

def closed (state : LexerState) (line : Text) (number : Nat) : LexerState :=
  { state with
    inLongString := false, last := some .longString,
    lexed := ⟨[fence line number],state.lexed.errors,state.lexed.warnings⟩ }

theorem addLines_long {opening closing : Text} {m n : Nat} {body : List (Text × Nat)}
    (outside : state.inLongString = false) (goesOn : (setup.stopOnError && state.hasErrors) = false)
    (unquoted : state.dictionary.Unquoted) (opens : isDelimiter opening = true) (closes : isDelimiter closing = true)
    (plain : ∀ entry ∈ body, isDelimiter entry.1 = false) (rest : List (Text × Nat)) : ∃ texts,
    (∀ node ∈ texts, ∃ entry ∈ body, node = rawText entry.1 entry.2) ∧
    let front := state.lexed.nodes ++ fence opening m :: texts
    state.addLines setup ((opening,m) :: body ++ (closing,n) :: rest) =
      (((state.closed closing n).addLines setup rest).map (behind front)).mapError (behind front) := by
  let opened := { state with inLongString := true, last := some .longString }.push (fence opening m)
  obtain ⟨texts,made,through⟩ : ∃ texts, (∀ node ∈ texts, ∃ entry ∈ body, node = rawText entry.1 entry.2) ∧
    opened.addLines setup body =
      .ok { opened with lexed := ⟨opened.lexed.nodes ++ texts,opened.lexed.errors,opened.lexed.warnings⟩ } :=
    addLines_body rfl plain
  let filled : LexerState :=
    { opened with lexed := ⟨opened.lexed.nodes ++ texts,opened.lexed.errors,opened.lexed.warnings⟩ }
  have stays : (setup.stopOnError && filled.hasErrors) = false := goesOn
  have ends := addLine_closes (rfl : filled.inLongString = true) stays closes n
  refine ⟨texts,made,?_⟩
  rw [List.cons_append,addLines_cons,addLine_opens outside goesOn unquoted opens,if_neg LineOutcome.noConfusion,
    addLines_append,through]
  refine Eq.trans ?_ (following_addLines (.inr rfl) _ rest)
  refine (addLines_cons filled closing n rest).trans ?_
  rw [ends,if_neg LineOutcome.noConfusion]
  simp [closed,following,Reading.followedBy,push,filled,opened]

theorem numbered_long (pre body post : List Text) (opening closing : Text) :
    Text.numbered (pre ++ opening :: body ++ closing :: post) =
      Text.numbered pre ++ ((opening,pre.length + 1) :: body.zipIdx (pre.length + 2) ++
        (closing,pre.length + body.length + 2) :: post.zipIdx (pre.length + body.length + 3)) := by
  have closes : pre.length + 1 + 1 + body.length = pre.length + body.length + 2 := by omega
  simp [Text.numbered,List.zipIdx_append,List.zipIdx_cons,Nat.add_comm 1,closes]

-- What stands in a long string is kept as it is and does nothing.
theorem long_strings_opaque :
    (∀ (setup : LexerSetup) (history : List LexerAction),
      let state := setup.initial.after setup history
      (state.inLongString = true ↔ Odd (fences state.lexed.nodes)) ∧
      ∀ i node, state.lexed.nodes[i]? = some node → Odd (fences (state.lexed.nodes.take i)) →
        node.type ≠ .longString →
        ∃ entry ∈ sinceReturn history, isDelimiter entry.1 = false ∧ node = rawText entry.1 entry.2) ∧
    (∀ (setup : LexerSetup) (state : LexerState) (line : Text) (number : Nat), state.inLongString = true →
      isDelimiter line = false → state.Unmoved (state.addLine setup line number).2) ∧
    ∀ (setup : LexerSetup) (pre post : List Text) (opening closing : Text) (state : LexerState),
      setup.initial.addLines setup (Text.numbered pre) = .ok state → state.inLongString = false →
      state.dictionary.Unquoted → isDelimiter opening = true → isDelimiter closing = true →
      ∀ count, ∃ (front : List Node) (final : Except LexerState LexerState),
        ∀ body : List Text, body.length = count → (∀ line ∈ body, isDelimiter line = false) →
        ∃ texts, (∀ node ∈ texts, ∃ entry ∈ body.zipIdx (pre.length + 2), node = rawText entry.1 entry.2) ∧
          setup.initial.addLines setup (Text.numbered (pre ++ opening :: body ++ closing :: post)) =
            (final.map (behind (front ++ texts))).mapError (behind (front ++ texts)) := by
  refine ⟨?_,fun setup state line number inside plain => addLine_unmoved inside plain number,?_⟩
  · intro setup history state
    have fenced : Fenced state.inLongString state.lexed.nodes (sinceReturn history) :=
      after_fenced fenced_initial history
    exact ⟨fenced.mode,fenced.raw⟩
  · intro setup pre post opening closing state reached outside unquoted opens closes count
    cases goesOn : setup.stopOnError && state.hasErrors with
    | true =>
      let bare := { state with lexed := ⟨[],state.lexed.errors,state.lexed.warnings⟩ }
      refine ⟨state.lexed.nodes,.ok bare,fun body _ _ => ⟨[],List.forall_mem_nil _,?_⟩⟩
      rw [numbered_long,addLines_append,reached]
      refine (addLines_stopped goesOn _).trans ?_
      simp [bare,behind,following,Reading.followedBy,Except.map,Except.mapError]
    | false =>
      refine ⟨state.lexed.nodes ++ [fence opening (pre.length + 1)],
        (state.closed closing (pre.length + count + 2)).addLines setup (post.zipIdx (pre.length + count + 3)),?_⟩
      intro body length plain
      subst length
      have inner : ∀ entry ∈ body.zipIdx (pre.length + 2), isDelimiter entry.1 = false :=
        fun entry member => plain entry.1 (List.fst_mem_of_mem_zipIdx member)
      obtain ⟨texts,made,read⟩ := addLines_long (m := pre.length + 1) (n := pre.length + body.length + 2) outside goesOn
        unquoted opens closes inner (post.zipIdx (pre.length + body.length + 3))
      refine ⟨texts,made,?_⟩
      rw [numbered_long,addLines_append,reached,List.append_assoc]
      exact read

theorem long_strings_opaque_comment :
    let setup : LexerSetup := ⟨Dictionary.builtinSource,Dictionary.english,false⟩
    let history : List LexerAction := [.reset,.line delimiter 1,.line " # Feature: a".toList 2]
    let state := setup.initial.after setup history
    (∃ node, state.lexed.nodes[1]? = some node ∧
      ∃ entry ∈ sinceReturn history, isDelimiter entry.1 = false ∧ node = rawText entry.1 entry.2) ∧
    state.Unmoved (state.addLine setup "#language: pt".toList 3).2 ∧
    ∃ (front : List Node) (final : Except LexerState LexerState),
      ∀ body ∈ [["#language: pt".toList],["\"\"\" a".toList]],
      ∃ texts, (∀ node ∈ texts, ∃ entry ∈ body.zipIdx 2, node = rawText entry.1 entry.2) ∧
        setup.initial.addLines setup (Text.numbered ([] ++ delimiter :: body ++ delimiter :: ["Scenario: a".toList])) =
          (final.map (behind (front ++ texts))).mapError (behind (front ++ texts)) := by
  intro setup history state
  obtain ⟨reached,leaves,runs⟩ := long_strings_opaque
  have unquoted : Dictionary.english.Unquoted := Dictionary.builtin_unquoted List.mem_cons_self
  have delimits : isDelimiter delimiter = true := by decide
  refine ⟨?_,?_,?_⟩
  · have node : (state.lexed.nodes[1]?).map Node.type = some .text := by decide
    obtain ⟨node,found,text⟩ := Option.map_eq_some_iff.mp node
    have odd : fences (state.lexed.nodes.take 1) = 1 := by decide
    exact ⟨node,found,(reached setup history).2 1 node found (odd ▸ odd_one) (by rw [text]; decide)⟩
  · exact leaves setup state "#language: pt".toList 3 (by decide) (by decide)
  · obtain ⟨front,final,same⟩ := runs setup [] ["Scenario: a".toList] delimiter delimiter setup.initial rfl rfl unquoted
      delimits delimits 1
    have plain : ∀ body ∈ [["#language: pt".toList],["\"\"\" a".toList]],
        body.length = 1 ∧ ∀ line ∈ body, isDelimiter line = false := by decide
    exact ⟨front,final,fun body member => same body (plain body member).1 (plain body member).2⟩

end LexerState
end ScenarioLang
