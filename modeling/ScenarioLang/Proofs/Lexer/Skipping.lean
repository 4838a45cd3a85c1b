import Mathlib.Logic.Relation
import ScenarioLang.Pipeline
import ScenarioLang.Proofs.Lexer.Followers
import ScenarioLang.Proofs.Lexer.Nodes
import ScenarioLang.Proofs.Parsing.Renumbering

namespace ScenarioLang

namespace Line
open Text

variable {dictionary : Dictionary} {line : Text} {number : Nat}

def declares (dictionary : Dictionary) (line : Text) : Bool := (reader dictionary .language line 0).isSome

def isComment (dictionary : Dictionary) (line : Text) : Bool :=
  (trimStart line).head? = some '#' && !declares dictionary line

-- Only a language declaration opens with a number sign, and text does not.
theorem comment_refused (set : distinct dictionary = true) (comment : isComment dictionary line = true)
    (type : NodeType) (number : Nat) : reader dictionary type line number = none := by
  obtain ⟨head,undeclared⟩ := Bool.and_eq_true_iff.mp comment
  have head : (trimStart line).head? = some '#' := of_decide_eq_true head
  by_cases text : type = .text
  · subst text
    simp [reader,NodeLexer.ofDictionary,NodeLexer.read,readText,head]
  rw [Option.eq_none_iff_forall_ne_some]
  intro reading read
  have own := (reader_opens read text).marked set head (by decide)
  obtain rfl : type = .language := sign_unique own rfl (by decide)
  have declared : declares dictionary line = true := by
    rw [declares,reader_unnumbered _ .language line 0 number,read]
    rfl
  rw [declared] at undeclared
  cases undeclared

theorem filled_taken (filled : line.allBlank = false) (plain : isComment dictionary line = false) (number : Nat) :
    ∃ type, (reader dictionary type line number).isSome = true := by
  obtain ⟨c,rest,start,_⟩ := trimStart_filled (trimStart_solid filled)
  have head : (trimStart line).head? = some c := by rw [start]; rfl
  by_cases sign : c = '#'
  · refine ⟨.language,?_⟩
    rw [reader_unnumbered _ .language line number 0]
    simpa [isComment,head,sign,declares] using plain
  · refine ⟨.text,?_⟩
    have kept := uncommented_filled head sign
    have solid : trim (uncommented line) ≠ [] := by
      intro none
      have filled : trimStart (uncommented line) ≠ [] := by
        intro none
        rw [none] at kept
        cases kept
      obtain ⟨d,more,trimmed,_⟩ := trim_head filled
      rw [none] at trimmed
      cases trimmed
    simp [reader,NodeLexer.ofDictionary,NodeLexer.read,readText,head,sign,solid]

end Line

namespace LexerState

variable {setup : LexerSetup} {state : LexerState} {line : Text} {number : Nat}

-- A line that is passed over where it stands. In a long string only blank lines are.
inductive Skipped (state : LexerState) (line : Text) : Prop where
  | blank (blank : line.allBlank = true)
  | comment (active : state.dictionary ∈ Dictionary.builtin) (outside : state.inLongString = false)
      (comment : Line.isComment state.dictionary line = true)

theorem comment_unread (active : state.dictionary ∈ Dictionary.builtin)
    (comment : Line.isComment state.dictionary line = true) (number : Nat) : state.firstReading line number = none := by
  rw [firstReading_words]
  apply List.findSome?_eq_none_iff.mpr
  intro type _
  rw [Line.comment_refused (active_distinct active) comment type number]
  rfl

theorem addLine_skipped (skipped : state.Skipped line) (number : Nat) :
    state.addLine setup line number = (.refused,state) := by
  unfold addLine
  split
  · rfl
  · rename_i goesOn
    cases skipped with
    | blank blank => exact absurd (by rw [blank,Bool.or_true]) goesOn
    | comment active outside comment =>
      rw [outside,if_neg Bool.false_ne_true,comment_unread active comment number]

theorem addLine_taken (outside : state.inLongString = false) (goesOn : (setup.stopOnError && state.hasErrors) = false)
    (filled : line.allBlank = false) (plain : Line.isComment state.dictionary line = false) (number : Nat) :
    (state.addLine setup line number).1 ≠ .refused := by
  obtain ⟨type,taken⟩ := Line.filled_taken filled plain number
  unfold addLine
  rw [goesOn,filled,outside]
  simp only [Bool.or_self,Bool.false_eq_true,if_false]
  split
  · rename_i unread
    have member : type ∈ state.followers ++ Line.priority := List.mem_append_right _ (Line.priority_whole type)
    rw [firstReading_words] at unread
    rw [Line.firstReading_none unread member] at taken
    cases taken
  · exact keep_taken _ _ _

theorem refused_iff (active : state.dictionary ∈ Dictionary.builtin) (outside : state.inLongString = false)
    (goesOn : (setup.stopOnError && state.hasErrors) = false) : (state.addLine setup line number).1 = .refused ↔
    line.allBlank = true ∨ Line.isComment state.dictionary line = true := by
  constructor
  · intro refused
    by_contra other
    obtain ⟨filled,plain⟩ := not_or.mp other
    exact addLine_taken outside goesOn (Bool.eq_false_iff.mpr filled) (Bool.eq_false_iff.mpr plain) number refused
  · rintro (blank | comment)
    · rw [addLine_skipped (.blank blank)]
    · rw [addLine_skipped (.comment active outside comment)]

theorem addLines_skipped {lines : List (Text × Nat)} (skipped : ∀ line ∈ lines, state.Skipped line.1) :
    state.addLines setup lines = .ok state := by
  induction lines with
  | nil => rfl
  | cons head rest ih =>
    obtain ⟨line,number⟩ := head
    obtain ⟨first,others⟩ := List.forall_mem_cons.mp skipped
    rw [addLines_cons,addLine_skipped first]
    exact ih others

end LexerState

def Text.shifted (behind count number : Nat) : Nat := if number ≤ behind then number else number + count

theorem Text.numbered_before (before : List Text) (count : Nat) :
    (numbered before).map (Prod.map id (shifted before.length count)) = numbered before := by
  have same : ∀ entry ∈ numbered before, Prod.map id (shifted before.length count) entry = id entry := by
    rintro ⟨line,number⟩ member
    have bound : number < 1 + before.length := List.snd_lt_add_of_mem_zipIdx member
    simp only [Prod.map_apply,id,shifted,if_pos (show number ≤ before.length by omega)]
  rw [List.map_congr_left same,List.map_id]

theorem Text.numbered_behind (before after : List Text) (count : Nat) :
    (after.zipIdx (1 + before.length)).map (Prod.map id (shifted before.length count)) =
      after.zipIdx (1 + before.length + count) := by
  have moved : ∀ entry ∈ after.zipIdx (1 + before.length),
      Prod.map id (shifted before.length count) entry = Prod.map id (· + count) entry := by
    rintro ⟨line,number⟩ member
    have bound : 1 + before.length ≤ number := List.le_snd_of_mem_zipIdx member
    simp only [Prod.map_apply,shifted,if_neg (show ¬number ≤ before.length by omega)]
  rw [List.map_congr_left moved,List.map_snd_add_zipIdx_eq_zipIdx,Nat.add_comm]

-- What was read of some lines and what was made of it. Nothing is made of what was
-- read before the lexer broke down.
structure Digest where
  crashed : Bool
  lexed : Reading
  parsed : Parsed

def LexerSetup.digest (setup : LexerSetup) (stopOnError : Bool) (info : FileInfo) (lines : List Text) : Digest :=
  match setup.initial.addLines setup (Text.numbered lines) with
  | .error broken => ⟨true,broken.lexed,⟨.ofFile info,[],[]⟩⟩
  | .ok final => ⟨false,final.lexed,parse stopOnError final.lexed.nodes (.ofFile info) []⟩

namespace Digest

def renumber (f : Nat → Nat) (digest : Digest) : Digest :=
  ⟨digest.crashed,digest.lexed.renumber f,digest.parsed.renumber f⟩

def unplaced : Digest → Digest := renumber fun _ => 0

theorem unplaced_renumber (f : Nat → Nat) (digest : Digest) : (digest.renumber f).unplaced = digest.unplaced := by
  simp only [unplaced,renumber,Reading.renumber_renumber,Parsed.renumber_renumber]
  rfl

end Digest

namespace LexerSetup
open LexerState

variable {setup : LexerSetup} {before skipped after lines others : List Text}

theorem digest_insert (passed : ∀ state, setup.initial.addLines setup (Text.numbered before) = .ok state →
    ∀ line ∈ skipped, state.Skipped line) (stopOnError : Bool) (info : FileInfo) :
    setup.digest stopOnError info (before ++ skipped ++ after) =
      (setup.digest stopOnError info (before ++ after)).renumber (Text.shifted before.length skipped.length) := by
  let f := Text.shifted before.length skipped.length
  have lexed : setup.initial.addLines setup (Text.numbered (before ++ skipped ++ after)) =
      ((setup.initial.addLines setup (Text.numbered (before ++ after))).map (renumber f)).mapError (renumber f) := by
    have whole : Text.numbered (before ++ after) = Text.numbered before ++ after.zipIdx (1 + before.length) :=
      List.zipIdx_append
    have parts : Text.numbered (before ++ skipped ++ after) = Text.numbered before ++
        (skipped.zipIdx (1 + before.length) ++ after.zipIdx (1 + before.length + skipped.length)) := by
      rw [List.append_assoc]
      exact List.zipIdx_append.trans (congrArg (Text.numbered before ++ ·) List.zipIdx_append)
    rw [← addLines_renumber,whole,parts,List.map_append,Text.numbered_before,Text.numbered_behind]
    have same : setup.initial.renumber f = setup.initial := rfl
    rw [same,addLines_append,addLines_append]
    cases reached : setup.initial.addLines setup (Text.numbered before) with
    | error broken => rfl
    | ok state =>
      have through : state.addLines setup (skipped.zipIdx (1 + before.length)) = .ok state :=
        addLines_skipped fun entry member => passed state reached entry.1 (List.fst_mem_of_mem_zipIdx member)
      exact (addLines_append _ _).trans (by rw [through])
  unfold digest
  rw [lexed]
  cases setup.initial.addLines setup (Text.numbered (before ++ after)) with
  | ok final =>
    have parsed := parse_renumber (f := f) stopOnError final.lexed.nodes (.ofFile info) []
    exact congrArg (Digest.mk false _) parsed
  | error broken => rfl

inductive Inserts (setup : LexerSetup) : List Text → List Text → Prop where
  | line {before after : List Text} {line : Text}
      (passed : ∀ state, setup.initial.addLines setup (Text.numbered before) = .ok state → state.Skipped line) :
      Inserts setup (before ++ after) (before ++ [line] ++ after)

theorem Inserts.unplaced (inserts : setup.Inserts lines others) (stopOnError : Bool) (info : FileInfo) :
    (setup.digest stopOnError info lines).unplaced = (setup.digest stopOnError info others).unplaced := by
  cases inserts with
  | line passed =>
    apply Eq.symm
    apply (congrArg Digest.unplaced (digest_insert ?_ stopOnError info)).trans
    · exact Digest.unplaced_renumber _ _
    · exact fun state reached => List.forall_mem_singleton.mpr (passed state reached)

end LexerSetup

namespace LexerState

-- Outside long strings, blank lines and comments are the only lines that are passed
-- over. Wherever they stand, nothing but the numbers of lines tells whether they are
-- there, and blank lines may even stand in a long string.
theorem skipped_lines_invisible :
    (∀ (setup : LexerSetup) (state : LexerState), state.dictionary ∈ Dictionary.builtin →
      state.inLongString = false → (setup.stopOnError && state.hasErrors) = false → ∀ (line : Text) (number : Nat),
      ((state.addLine setup line number).1 = .refused ↔
        line.allBlank = true ∨ Line.isComment state.dictionary line = true) ∧
      ((∀ language, setup.source language ≠ .crashed) → ((state.addLine setup line number).1 ≠ .accepted ↔
        line.allBlank = true ∨ Line.isComment state.dictionary line = true))) ∧
    ∀ (setup : LexerSetup) (stopOnError : Bool) (info : FileInfo),
      (∀ before skipped after : List Text,
        (∀ state, setup.initial.addLines setup (Text.numbered before) = .ok state →
          ∀ line ∈ skipped, state.Skipped line) →
        setup.digest stopOnError info (before ++ skipped ++ after) =
          (setup.digest stopOnError info (before ++ after)).renumber (Text.shifted before.length skipped.length)) ∧
      ∀ lines others, Relation.EqvGen setup.Inserts lines others →
        (setup.digest stopOnError info lines).unplaced = (setup.digest stopOnError info others).unplaced := by
  refine ⟨?_,fun setup stopOnError info => ⟨?_,?_⟩⟩
  · intro setup state active outside goesOn line number
    have refused : (state.addLine setup line number).1 = .refused ↔
        line.allBlank = true ∨ Line.isComment state.dictionary line = true := refused_iff active outside goesOn
    refine ⟨refused,fun total => Iff.trans ?_ refused⟩
    have runs := addLine_runs total state line number
    cases outcome : (state.addLine setup line number).1 with
    | accepted => simp
    | refused => simp
    | crashed => exact absurd outcome runs
  · exact fun before skipped after passed => LexerSetup.digest_insert passed stopOnError info
  · intro lines others chain
    induction chain with
    | rel _ _ inserts => exact inserts.unplaced stopOnError info
    | refl => rfl
    | symm _ _ _ ih => exact ih.symm
    | trans _ _ _ _ _ first second => exact first.trans second

theorem skipped_lines_invisible_feature :
    let setup : LexerSetup := ⟨Dictionary.builtinSource,Dictionary.english,false⟩
    let info : FileInfo := ⟨⟨"/a".toList⟩,[]⟩
    let comment := " # Given # \"b\" | @c".toList
    (setup.initial.addLine setup comment 1).1 = .refused ∧
    setup.digest false info ([] ++ [comment,['\t']] ++ ["Feature: a".toList]) =
      (setup.digest false info ([] ++ ["Feature: a".toList])).renumber (Text.shifted 0 2) ∧
    (setup.digest false info ["\"\"\"".toList,[' '],"a".toList]).unplaced =
      (setup.digest false info ["\"\"\"".toList,"a".toList]).unplaced := by
  intro setup info comment
  obtain ⟨refuses,invisible⟩ := skipped_lines_invisible
  have active : Dictionary.english ∈ Dictionary.builtin := List.mem_cons_self
  have opens : Line.isComment Dictionary.english comment = true := by decide
  refine ⟨?_,?_,?_⟩
  · exact (refuses setup setup.initial active rfl rfl comment 1).1.mpr (.inr opens)
  · apply (invisible setup false info).1
    intro state reached line member
    cases reached
    rcases List.mem_cons.mp member with rfl | member
    · exact .comment active rfl opens
    · rw [List.mem_singleton.mp member]
      exact .blank (by decide)
  · have inserts : setup.Inserts (["\"\"\"".toList] ++ ["a".toList]) (["\"\"\"".toList] ++ [[' ']] ++ ["a".toList]) :=
      .line fun state reached => .blank (by decide)
    exact (invisible setup false info).2 _ _ (.symm _ _ (.rel _ _ inserts))

end LexerState
end ScenarioLang
