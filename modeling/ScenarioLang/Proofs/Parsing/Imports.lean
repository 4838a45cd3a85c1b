import ScenarioLang.Proofs.Parsing.WellFormed
import ScenarioLang.Proofs.Path.Distinct

namespace ScenarioLang

namespace Visit

variable {log front back : List Visit} {visit : Visit} {value : Text}

theorem accepted_subset (log : List Visit) : accepted log ⊆ log.map node := by
  intro node member
  obtain ⟨visit,inside,own⟩ := List.mem_map.mp member
  exact own ▸ List.mem_map_of_mem (List.mem_filter.mp inside).1

-- Of the imports of one value the first is accepted, so that a value that was met is
-- one that was accepted.
theorem import_accepted (follows : ∀ before visit rest, log = before ++ visit :: rest → visit.Follows (accepted before))
    (split : log = front ++ back) {earlier : Node} (member : earlier ∈ front.map node)
    (own : earlier.type = .importPath) (written : earlier.value? = some value) :
    ∃ other ∈ accepted front, other.type = .importPath ∧ other.value? = some value := by
  obtain ⟨visit,inside,rfl⟩ := List.mem_map.mp member
  obtain ⟨before,rest,rfl⟩ := List.append_of_mem inside
  have verdict := (follows before visit (rest ++ back) (by simp [split])).1
  have parts : accepted (before ++ visit :: rest) = accepted before ++ accepted (visit :: rest) := by simp [accepted]
  rw [parts]
  by_cases taken : visit.spot?.isSome = true
  · refine ⟨visit.node,List.mem_append_right _ (List.mem_map_of_mem ?_),own,written⟩
    exact List.mem_filter.mpr ⟨List.mem_cons_self,taken⟩
  · have refused := mt verdict.mpr taken
    simp only [Allowed,own,written,Option.getD_some] at refused
    push Not at refused
    obtain ⟨other,there,type,same⟩ := refused
    exact ⟨other,List.mem_append_left _ there,type,same⟩

theorem import_fresh (follows : ∀ before visit rest, log = before ++ visit :: rest → visit.Follows (accepted before))
    (split : log = front ++ visit :: back) (own : visit.node.type = .importPath)
    (written : visit.node.value? = some value) : visit.spot?.isSome = true ↔
      ∀ earlier ∈ front.map node, earlier.type = .importPath → earlier.value? ≠ some value := by
  rw [(follows front visit back split).1]
  simp only [Allowed,own,written,Option.getD_some]
  constructor
  · intro allowed earlier member type same
    obtain ⟨other,there,type',same'⟩ := import_accepted follows split member type same
    exact allowed other there type' same'
  · exact fun fresh other there => fresh other (accepted_subset front there)

end Visit

namespace Parsing

theorem Trace.import_refused {parsing final : Parsing} {log : List Visit} (trace : Trace parsing log final) :
    ∀ visit ∈ log, visit.node.type = .importPath → ∀ fault, visit.verdict = .error fault →
      fault = .duplicateImport (visit.node.value?.getD []) := by
  induction trace with
  | ended done => exact fun visit member => by cases member
  | passed next skipped rest ih => exact ih
  | accepted next placed ok at_ rest ih =>
    refine List.forall_mem_cons.mpr ⟨?_,ih⟩
    intro own fault refused
    cases refused
  | @refused parsing final node cursor fault log next placed error rest ih =>
    refine List.forall_mem_cons.mpr ⟨?_,ih⟩
    intro own fault refused
    cases refused
    have type : node.type = .importPath := own
    simp only [Site.place,type,Site.placeImport] at error
    split at error
    · cases error
      rfl
    · cases error

end Parsing

theorem import_kept_or_told {nodes before after : List Node} {node : Node} {value : Text} (origin : Option FileInfo)
    (errors : List SyntacticError) (split : nodes = before ++ node :: after) (own : node.type = .importPath)
    (written : node.value? = some value) :
    let parsed := parse false nodes { Document.empty with fileInfo := origin } errors
    ((∃ earlier ∈ before, earlier.type = .importPath ∧ earlier.value? = some value) →
      ⟨.duplicateImport value,node.location⟩ ∈ parsed.errors) ∧
    ((∀ earlier ∈ before, earlier.type = .importPath → earlier.value? ≠ some value) → node ∈ parsed.doc.imports) := by
  intro parsed
  obtain ⟨log,trace⟩ := Parsing.run_trace (.start nodes { Document.empty with fileInfo := origin } errors)
  have follows := (trace.follows Agrees.start).1
  simp only [List.nil_append] at follows
  have placed : node.type.isPlaced = true := by rw [own]; rfl
  have visited : log.map Visit.node = nodes.filter fun node => node.type.isPlaced := trace.nodes
  rw [split,List.filter_append,List.filter_cons,if_pos placed] at visited
  obtain ⟨front,others,rfl,met,visited⟩ := List.map_eq_append_iff.mp visited
  obtain ⟨visit,back,rfl,rfl,_⟩ := List.map_eq_cons_iff.mp visited
  have fresh := Visit.import_fresh follows rfl own written
  have member : visit ∈ front ++ visit :: back := List.mem_append_right _ List.mem_cons_self
  rw [met] at fresh
  constructor
  · rintro ⟨earlier,inside,type,same⟩
    have refused : visit.spot?.isSome ≠ true := by
      intro taken
      refine fresh.mp taken earlier (List.mem_filter.mpr ⟨inside,?_⟩) type same
      rw [type]
      rfl
    cases verdict : visit.verdict with
    | ok spot => exact absurd (by simp [Visit.spot?,verdict]) refused
    | error fault =>
      have told := trace.import_refused visit member own fault verdict
      rw [written,Option.getD_some] at told
      have said : ⟨fault,visit.node.location⟩ ∈ Visit.errors (front ++ visit :: back) :=
        List.mem_filterMap.mpr ⟨visit,member,by simp [Visit.error?,verdict]⟩
      have all := trace.errors
      rw [← told]
      exact (congrArg _ all).mpr (List.mem_append_right _ said)
  · intro new
    have taken := fresh.mpr fun earlier inside => new earlier (List.mem_filter.mp inside).1
    obtain ⟨spot,at_⟩ := Option.isSome_iff_exists.mp taken
    have there := (follows front visit back rfl).2 spot at_
    simp only [Section.spotFor,own] at there
    obtain rfl := Option.some.inj there
    have kept := trace.nodesAt .imports
    have accepted : visit.node ∈ Visit.acceptedAt .imports (front ++ visit :: back) :=
      List.mem_map_of_mem (List.mem_filter.mpr ⟨member,by simpa using at_⟩)
    exact (congrArg _ kept).mpr (List.mem_append_right _ accepted)

theorem LexerState.read_regular {language : Text} {stopOnError : Bool} {setup : LexerSetup}
    (ready : LexerSetup.start language Dictionary.builtinSource stopOnError = .ready setup) (lines : List Text) :
    ∃ lexer, setup.initial.addLines setup (Text.numbered lines) = .ok lexer ∧ (∀ node ∈ lexer.lexed.nodes, node.Told) ∧
      ∀ origin errors,
        (Parsing.start lexer.lexed.nodes { Document.empty with fileInfo := origin } errors).Regular := by
  have total : ∀ language, setup.source language ≠ .crashed := by
    obtain ⟨base,_,rfl⟩ := LexerSetup.start_ready ready
    exact Dictionary.builtinSource_total
  obtain ⟨lexer,read⟩ := addLines_runs total setup.initial (Text.numbered lines)
  have rising := Text.numbered_rising lines
  have order := (addLines_ahead rising ⟨List.Pairwise.nil,List.forall_mem_nil _⟩ (.inl read)).order
  have told := addLines_told (List.forall_mem_nil _) read
  refine ⟨lexer,read,told,fun origin errors => ⟨Document.empty_regular origin,told,order,?_⟩⟩
  intro node _ family container member
  cases family with
  | uiElement inFeature => cases inFeature <;> cases member
  | _ => cases member

theorem Document.WellFormed.importValues_nodup {doc : Document} (formed : doc.WellFormed) :
    doc.importValues.length = doc.imports.length ∧ doc.importValues.Nodup := by
  have valued : ∀ node ∈ doc.imports, node.value?.isSome = true := by
    intro node member
    obtain ⟨value,written⟩ := (formed.imports node member).2
    rw [written]
    rfl
  refine ⟨List.filterMap_length_eq_length.mpr valued,List.pairwise_filterMap.mpr (formed.fresh.imp ?_)⟩
  intro first second apart value written value' written' same
  exact apart (by rw [written,written',same])

-- The values that a document imports are written in different ways, and the second
-- import of a value is reported. What they resolve to may still be the same: it differs
-- where what they fold to does, as it always does if there is one way to write them.
theorem imports_written_once {language : Text} {stopOnError : Bool} {setup : LexerSetup}
    (ready : LexerSetup.start language Dictionary.builtinSource stopOnError = .ready setup) (lines : List Text) :
    ∃ lexer, setup.initial.addLines setup (Text.numbered lines) = .ok lexer ∧
      (∀ stops origin errors,
        let doc := (parse stops lexer.lexed.nodes { Document.empty with fileInfo := origin } errors).doc
        doc.importValues.length = doc.imports.length ∧ doc.importValues.Nodup ∧
        ∀ importer : Path, doc.importValues.Pairwise fun first second =>
          (Path.Direct first → Path.Direct second → (Path.mk first).isAbsolute = (Path.mk second).isAbsolute →
            importer.resolveImport first ≠ importer.resolveImport second) ∧
          ((Path.written first).isAbsolute = (Path.written second).isAbsolute →
            (Path.written first).Level → (Path.written second).Level →
            (importer.resolveImport first = importer.resolveImport second ↔
              Path.normalize (Path.written first) = Path.normalize (Path.written second)))) ∧
      ∀ origin errors before node after, lexer.lexed.nodes = before ++ node :: after → node.type = .importPath →
        ∃ value, node.value? = some value ∧
          let parsed := parse false lexer.lexed.nodes { Document.empty with fileInfo := origin } errors
          ((∃ earlier ∈ before, earlier.type = .importPath ∧ earlier.value? = some value) →
            ⟨.duplicateImport value,node.location⟩ ∈ parsed.errors) ∧
          ((∀ earlier ∈ before, earlier.type = .importPath → earlier.value? ≠ some value) →
            node ∈ parsed.doc.imports) := by
  obtain ⟨lexer,read,told,regular⟩ := LexerState.read_regular ready lines
  refine ⟨lexer,read,?_,?_⟩
  · intro stops origin errors doc
    have formed : doc.WellFormed := Document.wellFormed ((regular origin errors).run stops)
    obtain ⟨count,distinct⟩ := formed.importValues_nodup
    refine ⟨count,distinct,fun importer => distinct.imp fun apart => ⟨?_,Path.resolveImport_eq_iff importer⟩⟩
    exact fun direct direct' rooted same => apart (Path.resolveImport_direct importer direct direct' rooted same)
  · intro origin errors before node after split own
    have member : node ∈ lexer.lexed.nodes := split ▸ List.mem_append_right _ List.mem_cons_self
    obtain ⟨value,written⟩ := (told node member).value own
    exact ⟨value,written,import_kept_or_told origin errors split own written⟩

def LexerSetup.english : LexerSetup := ⟨Dictionary.builtinSource,Dictionary.english,false⟩

def Node.ofImport (content value : Text) (line : Nat) : Node := ⟨.importPath,⟨line,1⟩,content,.value value⟩

theorem imports_written_once_repeated : ∃ lexer,
    LexerSetup.english.initial.addLines .english
      (Text.numbered ["import \"a\"".toList,"import \"b\"".toList,"import \"a\"".toList]) = .ok lexer ∧
    let parsed := parse false lexer.lexed.nodes .empty []
    ⟨.duplicateImport ['a'],⟨3,1⟩⟩ ∈ parsed.errors ∧
    parsed.doc.importValues.Pairwise fun first second =>
      Path.resolveImport ⟨"/x".toList⟩ first ≠ Path.resolveImport ⟨"/x".toList⟩ second := by
  let lines := ["import \"a\"".toList,"import \"b\"".toList,"import \"a\"".toList]
  have ready : LexerSetup.start ['e','n'] Dictionary.builtinSource false = .ready .english := rfl
  obtain ⟨lexer,read,resolved,kept⟩ := imports_written_once ready lines
  have nodes : (match LexerSetup.english.initial.addLines .english (Text.numbered lines) with
    | .ok lexer => lexer.lexed.nodes
    | .error _ => []) =
      [.ofImport "import \"a\"".toList ['a'] 1,.ofImport "import \"b\"".toList ['b'] 2] ++
        .ofImport "import \"a\"".toList ['a'] 3 :: [] := by decide
  rw [read] at nodes
  obtain ⟨value,written,told,_⟩ := kept none [] _ _ _ nodes rfl
  cases written
  refine ⟨lexer,read,told ⟨_,List.mem_cons_self,rfl,rfl⟩,?_⟩
  have values : (parse false lexer.lexed.nodes .empty []).doc.importValues = [['a'],['b']] := by
    simp only [nodes]
    decide +kernel
  have direct : ∀ value ∈ [['a'],['b']], Path.Direct value ∧ (Path.mk value).isAbsolute = false := by
    intro value member
    simp only [List.mem_cons,List.not_mem_nil,or_false] at member
    rcases member with rfl | rfl <;>
      exact ⟨⟨by decide,by unfold Path.Folded; decide,by unfold Path.Level; decide⟩,rfl⟩
  have apart : (parse false lexer.lexed.nodes .empty []).doc.importValues.Pairwise _ :=
    (resolved false none []).2.2 ⟨"/x".toList⟩
  rw [values] at apart ⊢
  refine apart.imp_of_mem fun member member' each => ?_
  exact each.1 (direct _ member).1 (direct _ member').1 ((direct _ member).2.trans (direct _ member').2.symm)

-- Two spellings of one path are two imports of one file, and none is reported.
theorem imports_resolved_twice : ∃ lexer,
    LexerSetup.english.initial.addLines .english
      (Text.numbered ["import \"a\"".toList,"import \"./a\"".toList]) = .ok lexer ∧
    let parsed := parse false lexer.lexed.nodes .empty []
    parsed.errors = [] ∧
      ¬parsed.doc.importValues.Pairwise fun first second =>
        Path.resolveImport ⟨"/x".toList⟩ first ≠ Path.resolveImport ⟨"/x".toList⟩ second := by
  let lines := ["import \"a\"".toList,"import \"./a\"".toList]
  have total : ∀ language, LexerSetup.english.source language ≠ .crashed := Dictionary.builtinSource_total
  obtain ⟨lexer,read⟩ := LexerState.addLines_runs total LexerSetup.english.initial (Text.numbered lines)
  have nodes : (match LexerSetup.english.initial.addLines .english (Text.numbered lines) with
    | .ok lexer => lexer.lexed.nodes
    | .error _ => []) =
      [.ofImport "import \"a\"".toList ['a'] 1,.ofImport "import \"./a\"".toList "./a".toList 2] := by
    decide
  rw [read] at nodes
  refine ⟨lexer,read,?_⟩
  simp only [nodes]
  decide +kernel

end ScenarioLang
