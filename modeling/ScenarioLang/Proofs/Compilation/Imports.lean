import ScenarioLang.Proofs.Compilation.Outcome
import ScenarioLang.Proofs.Lexer.Location

namespace ScenarioLang

def Node.isImport (node : Node) : Bool := node.type = .importPath

theorem Site.effect_includes {site : Site} {type : NodeType} (includes : site.effect type = .includes) :
    type = .importPath := by
  cases type <;> cases opened : site.family? <;>
    first | rfl | simp [effect,Document.familyOf?,opened] at includes

theorem Site.place_imports_le {site next : Site} {node : Node} {tags description : List Node}
    (ok : site.place node tags description = .ok next) :
    next.doc.imports.length ≤ site.doc.imports.length + [node].countP Node.isImport := by
  have same : next.doc.imports = (site.doc.layout.after node tags description (site.effect node.type)).imports :=
    congrArg Layout.imports (place_layout ok)
  rw [same]
  cases effect : site.effect node.type with
  | includes =>
    have own : node.isImport = true := decide_eq_true (effect_includes effect)
    simp [Layout.after,Document.layout,own]
  | _ => exact Nat.le_add_right _ _

theorem Parsing.run_imports_le (stopOnError : Bool) (parsing : Parsing) :
    (parsing.run stopOnError).site.doc.imports.length ≤
      parsing.site.doc.imports.length + parsing.cursor.ahead.countP Node.isImport := by
  have places : ∀ (moved : Parsing) (node : Node), (moved.placeNode node).site.doc.imports.length +
      (moved.placeNode node).cursor.ahead.countP Node.isImport ≤
      moved.site.doc.imports.length + (node :: moved.cursor.ahead).countP Node.isImport := by
    intro moved node
    have split : (node :: moved.cursor.ahead).countP Node.isImport =
        [node].countP Node.isImport + moved.cursor.ahead.countP Node.isImport :=
      @List.countP_append _ Node.isImport [node] moved.cursor.ahead
    rw [split]
    simp only [placeNode]
    split
    · rename_i site ok
      have added := Site.place_imports_le ok
      have fewer : (if node.type.isDescribed then (moved.cursor.takeRun .text).2 else moved.cursor).ahead.countP
          Node.isImport ≤ moved.cursor.ahead.countP Node.isImport := by
        split
        · exact (List.dropWhile_sublist _).countP_le
        · exact Nat.le_refl _
      dsimp only
      omega
    · dsimp only
      omega
  fun_induction Parsing.run stopOnError parsing with
  | case1 parsing done => exact Nat.le_add_right _ _
  | case2 parsing node cursor next moved placed result stops =>
    rw [Cursor.next?_ahead next]
    exact Nat.le_trans (Nat.le_add_right _ _) (places moved node)
  | case3 parsing node cursor next moved placed result goesOn ih =>
    rw [Cursor.next?_ahead next]
    exact Nat.le_trans ih (places moved node)
  | case4 parsing node cursor next moved skipped ih =>
    rw [Cursor.next?_ahead next]
    refine Nat.le_trans ih ?_
    exact Nat.add_le_add_left (List.sublist_cons_self _ _).countP_le _

theorem parse_imports_le (stopOnError : Bool) (nodes : List Node) (doc : Document) (errors : List SyntacticError) :
    (parse stopOnError nodes doc errors).doc.imports.length ≤ doc.imports.length + nodes.countP Node.isImport :=
  Parsing.run_imports_le stopOnError (.start nodes doc errors)

namespace LexerState

def importCount (state : LexerState) : Nat := state.lexed.nodes.countP Node.isImport

variable {setup : LexerSetup} {state : LexerState}

theorem keep_imports (nodes : List Node) :
    (keep setup state nodes).2.importCount ≤ state.importCount + nodes.countP Node.isImport := by
  obtain ⟨kept,faults,lexed,less,_⟩ := keep_adds setup state nodes
  rw [importCount,lexed,Reading.followedBy,List.countP_append]
  exact Nat.add_le_add_left less.sublist.countP_le _

theorem reading_imports {dictionary : Dictionary} {type : NodeType} {line : Text} {number : Nat} {reading : Reading}
    (read : Line.reader dictionary type line number = some reading) : reading.nodes.countP Node.isImport ≤ 1 := by
  by_cases own : type = .importPath
  · subst own
    simp only [Line.reader,NodeLexer.ofDictionary,NodeLexer.read,Line.readImport] at read
    obtain ⟨written,_,made⟩ := Option.bind_eq_some_iff.mp read
    cases made
    exact List.countP_le_length
  · have none : reading.nodes.countP Node.isImport = 0 := by
      apply List.countP_eq_zero.mpr
      intro node member
      simpa [Node.isImport,Line.reader_type read node member] using own
    omega

theorem addLine_imports (line : Text) (number : Nat) :
    (state.addLine setup line number).2.importCount ≤ state.importCount + 1 := by
  unfold addLine
  split
  · exact Nat.le_add_right _ _
  · split
    · unfold addRaw
      split
      · rename_i reading read
        have delimiter : Line.reader setup.base .longString line number = some reading := read
        have few := reading_imports delimiter
        simp only [importCount,List.countP_append]
        omega
      · simp [importCount,push,Line.rawText,Node.isImport]
    · split
      · exact Nat.le_add_right _ _
      · rename_i type reading found
        have few := reading_imports (LexerState.firstReading_reads found)
        exact Nat.le_trans (keep_imports reading.nodes) (Nat.add_le_add_left few _)

theorem addLines_imports {lines : List (Text × Nat)} {next : LexerState}
    (read : state.addLines setup lines = .ok next) : next.importCount ≤ state.importCount + lines.length := by
  induction lines generalizing state with
  | nil => cases read; exact Nat.le_refl _
  | cons line rest ih =>
    obtain ⟨line,number⟩ := line
    have one : (state.addLine setup line number).2.importCount ≤ state.importCount + 1 :=
      addLine_imports line number
    rw [addLines] at read
    split at read
    · cases read
    · rename_i outcome reached going same
      have more := ih read
      rw [same] at one
      change reached.importCount ≤ state.importCount + 1 at one
      simp only [List.length_cons]
      omega

end LexerState

theorem Text.length_cutAfter (separator : Text) (skip : Nat) (t : Text) :
    (cutAfter separator skip t).length ≤ t.length + 1 := by
  fun_induction cutAfter separator skip t with
  | case1 => simp
  | case2 skip c rest ih => simp only [List.length_cons]; omega
  | case3 c rest found ih =>
    have more : ([] :: cutAfter separator (separator.length - 1) rest).length ≤ (c :: rest).length + 1 :=
      Nat.succ_le_succ ih
    exact more
  | case4 c rest missing ih =>
    have kept : (joinHead c (cutAfter separator 0 rest)).length ≤ (c :: rest).length + 1 := by
      cases parts : cutAfter separator 0 rest with
      | nil => simp [joinHead]
      | cons first others => rw [parts] at ih; simpa [joinHead] using Nat.le_succ_of_le ih
    exact kept

theorem Pipeline.length_linesOf (content lineBreak : Text) :
    (linesOf content lineBreak).length ≤ content.length + 1 := by
  simp only [linesOf,Text.numbered,List.length_zipIdx,List.length_map]
  exact Text.length_cutAfter _ _ _

theorem Pipeline.process_imports {recognizer : Recognizer σ}
    (keeps : ∀ language doc state, (recognizer.recognize language doc state).1.imports = doc.imports)
    (setup : LexerSetup) (path : Path) (content lineBreak : Text) (problems : ProblemMap) (state : σ) :
    ((ofSetup setup).process recognizer path content lineBreak problems state).1.imports.length ≤
      content.length + 1 := by
  simp only [process,ofSetup]
  split
  · exact Nat.zero_le _
  · rename_i lexer read
    rw [parseLexed,apply_keeps Document.imports keeps]
    have parsed : (parse setup.stopOnError lexer.lexed.nodes (.ofFile ⟨path,Hash.ofText content⟩) []).doc.imports.length ≤
        0 + lexer.importCount := parse_imports_le _ _ _ _
    have lexed : lexer.importCount ≤ 0 + (linesOf content lineBreak).length := LexerState.addLines_imports read
    have cut := length_linesOf content lineBreak
    exact Nat.le_trans parsed (by omega)

theorem Run.length_withoutMark (content : Text) : (withoutMark content).length ≤ content.length := by
  unfold withoutMark
  split
  · exact Nat.le_succ _
  · exact Nat.le_refl _

def Stored.lines : Stored → Nat
  | .text content => content.length + 1
  | _ => 0

theorem Compiler.length_imports {compiler : Compiler Unit} (regular : compiler.Regular) (path : Path) :
    (compiler.imports path).length ≤ (compiler.store.read path).lines := by
  obtain ⟨base,ready⟩ := regular.ready
  cases stored : compiler.store.read path with
  | text content =>
    have made := Pipeline.process_imports (fun language doc state => (regular.keeps language doc state).2)
      ⟨compiler.source,base,compiler.options.stopOnError⟩ path (Run.withoutMark content) compiler.options.lineBreak
      .empty ()
    have mark := Run.length_withoutMark content
    simp only [imports,outcome_text (ready _) stored,Run.importsOf,List.length_map,Stored.lines]
    refine Nat.le_trans (List.length_filterMap_le _ _) (Nat.le_trans made ?_)
    exact Nat.succ_le_succ mark
  | unreadable reason =>
    simp only [imports,outcome_unreadable stored]
    exact Nat.zero_le _
  | crashing =>
    simp only [imports,outcome_crashing stored]
    exact Nat.zero_le _

end ScenarioLang
