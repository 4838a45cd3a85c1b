import ScenarioLang.Dictionary.Source
import ScenarioLang.Proofs.Lexer.Location

namespace ScenarioLang

structure Node.Told (node : Node) : Prop where
  name : ∀ kind, node.type = .definition kind → ∃ name, node.name? = some name
  value : node.type = .importPath → ∃ value, node.value? = some value

theorem Node.told_plain {node : Node} (definition : ∀ kind, node.type ≠ .definition kind)
    (path : node.type ≠ .importPath) : node.Told :=
  ⟨fun kind own => absurd own (definition kind),fun own => absurd own path⟩

theorem Line.reader_told {dictionary : Dictionary} {type : NodeType} {line : Text} {number : Nat} {reading : Reading}
    (read : reader dictionary type line number = some reading) : ∀ node ∈ reading.nodes, node.Told := by
  intro node member
  have own := reader_type read node member
  cases type with
  | importPath =>
    simp only [reader,NodeLexer.ofDictionary,NodeLexer.read,readImport] at read
    obtain ⟨written,_,made⟩ := Option.bind_eq_some_iff.mp read
    cases made
    obtain rfl := List.mem_singleton.mp member
    refine ⟨fun kind named => ?_,fun _ => ⟨_,rfl⟩⟩
    cases named
  | definition kind =>
    obtain ⟨_,name,_,_,_,rfl⟩ := readDefinition_reads read
    obtain rfl := List.mem_singleton.mp member
    refine ⟨fun _ _ => ⟨name,rfl⟩,fun path => ?_⟩
    cases path
  | _ => exact Node.told_plain (by simp [own]) (by simp [own])

namespace LexerState

variable {setup : LexerSetup} {state next : LexerState} {line : Text} {number : Nat} {lines : List (Text × Nat)}

theorem addLine_told (told : ∀ node ∈ state.lexed.nodes, node.Told) :
    ∀ node ∈ (state.addLine setup line number).2.lexed.nodes, node.Told := by
  have more : ∀ nodes : List Node, (∀ node ∈ nodes, node.Told) → ∀ node ∈ state.lexed.nodes ++ nodes, node.Told := by
    intro nodes new node member
    rcases List.mem_append.mp member with old | added
    · exact told node old
    · exact new node added
  unfold addLine
  split
  · exact told
  · split
    · unfold addRaw
      split
      · rename_i reading read
        have delimiter : Line.reader state.dictionary .longString line number = some reading := read
        exact more reading.nodes (Line.reader_told delimiter)
      · apply more
        intro node member
        obtain rfl := List.mem_singleton.mp member
        exact Node.told_plain nofun nofun
    · split
      · exact told
      · rename_i type reading found
        obtain ⟨kept,faults,lexed,less,_⟩ :=
          keep_adds setup ({ state with last := some type }.report reading.errors reading.warnings) reading.nodes
        rw [lexed]
        apply more
        exact fun node member => Line.reader_told (LexerState.firstReading_reads found) node (less.subset member)

theorem addLines_told (told : ∀ node ∈ state.lexed.nodes, node.Told) (read : state.addLines setup lines = .ok next) :
    ∀ node ∈ next.lexed.nodes, node.Told := by
  induction lines generalizing state with
  | nil => cases read; exact told
  | cons head rest ih =>
    obtain ⟨line,number⟩ := head
    have after : ∀ node ∈ (state.addLine setup line number).2.lexed.nodes, node.Told := addLine_told told
    rw [addLines] at read
    split at read
    · cases read
    · rename_i outcome reached _ same
      rw [same] at after
      exact ih after read

theorem keep_runs (total : ∀ language, setup.source language ≠ .crashed) (nodes : List Node) :
    (state.keep setup nodes).1 = .accepted := by
  induction nodes generalizing state with
  | nil => rfl
  | cons node rest ih =>
    have entered : (state.enter setup node).isSome = true := by
      unfold enter
      split
      · rfl
      · split
        · unfold switch
          split
          · rfl
          · split
            · rfl
            · rfl
            · rename_i crashed
              exact absurd crashed (total _)
        · rfl
      · rfl
    obtain ⟨next,reached⟩ := Option.isSome_iff_exists.mp entered
    rw [keep,reached]
    exact ih

theorem addLine_runs (total : ∀ language, setup.source language ≠ .crashed) (state : LexerState) (line : Text)
    (number : Nat) : (state.addLine setup line number).1 ≠ .crashed := by
  unfold addLine
  split
  · simp
  · split
    · simp
    · split
      · simp
      · rw [keep_runs total]
        simp

theorem addLines_runs (total : ∀ language, setup.source language ≠ .crashed) (state : LexerState)
    (lines : List (Text × Nat)) : ∃ next, state.addLines setup lines = .ok next := by
  induction lines generalizing state with
  | nil => exact ⟨state,rfl⟩
  | cons head rest ih =>
    obtain ⟨line,number⟩ := head
    rw [addLines]
    split
    · rename_i broken crashed
      have whole := addLine_runs total state line number
      rw [crashed] at whole
      exact absurd rfl whole
    · exact ih _

end LexerState

theorem Dictionary.builtinSource_total (language : Text) : builtinSource language ≠ .crashed := by
  unfold builtinSource
  split <;> simp

theorem Text.numbered_rising (lines : List Text) : (numbered lines).Pairwise fun first second => first.2 < second.2 := by
  apply List.pairwise_map.mp
  rw [numbered,List.zipIdx_map_snd]
  exact List.pairwise_lt_range'

end ScenarioLang
