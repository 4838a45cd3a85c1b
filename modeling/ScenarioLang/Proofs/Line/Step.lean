import ScenarioLang.Dictionary.Builtin
import ScenarioLang.Line
import ScenarioLang.Proofs.Text.Pattern

namespace ScenarioLang.Line
open Text Words

variable {dictionary : Dictionary} {kind : StepKind} {line t rest value : Text} {number : Nat} {reading : Reading}

structure Stands (word t keyword rest : Text) : Prop where
  whole : t = keyword ++ rest
  covers : Covers word.runs keyword
  ends : ∃ c, rest.head? = some c ∧ endsKeyword c = true

theorem afterStepWord_iff (single : '\n' ∉ rest) : afterStepWord rest = some value ↔
    (∃ c, rest.head? = some c ∧ endsKeyword c = true) ∧ value = rest.dropWhile endsKeyword := by
  cases rest with
  | nil => simp [afterStepWord]
  | cons c behind =>
    have clean : '\n' ∉ (c :: behind).dropWhile endsKeyword := fun member =>
      single ((List.dropWhile_sublist endsKeyword).subset member)
    have line : oneLine ((c :: behind).dropWhile endsKeyword) = some ((c :: behind).dropWhile endsKeyword) := by
      simp [oneLine,clean]
    rw [afterStepWord,line]
    cases ends : endsKeyword c with
    | true =>
      constructor
      · intro found
        cases found
        exact ⟨⟨c,rfl,ends⟩,rfl⟩
      · intro ⟨_,same⟩
        rw [same]
        rfl
    | false => simp [ends]

theorem Stands.opens {word keyword : Text} (stands : Stands word t keyword rest) (single : '\n' ∉ t) :
    afterStepWord rest = some (rest.dropWhile endsKeyword) := by
  apply (afterStepWord_iff ?_).mpr
  · exact ⟨stands.ends,rfl⟩
  · intro member
    apply single
    rw [stands.whole]
    exact List.mem_append_right keyword member

theorem content_single (single : '\n' ∉ line) : '\n' ∉ trimStart (uncommented line) := by
  intro member
  apply single
  exact (uncommented_starts line).subset ((List.dropWhile_sublist Unicode.isBlank).subset member)

def stepReading (kind : StepKind) (line : Text) (number : Nat) (keyword rest : Text) : Reading :=
  let value := trim (rest.dropWhile endsKeyword)
  ⟨[⟨.step kind,.ofContent line number,trim (uncommented line),.step keyword value⟩],[],
    if value = [] then [⟨.step kind,.ofContent line number⟩] else []⟩

theorem stepReading_keyword {keyword keyword' rest' : Text}
    (same : stepReading kind line number keyword rest = stepReading kind line number keyword' rest') : keyword = keyword' := by
  have data := congrArg (fun reading => reading.nodes.map Node.data) same
  simp only [stepReading,List.map_singleton,List.cons.injEq,NodeData.step.injEq] at data
  exact data.1.1

theorem readStep_capture (kind : StepKind) (pattern : KeywordPattern) (line : Text) (number : Nat) :
    readStep (.step kind) pattern line number =
      (capture pattern.words (trimStart (uncommented line)) fun keyword rest =>
        (afterStepWord rest).map fun value => (keyword,trim value)).map fun (keyword,value) =>
      ⟨[⟨.step kind,.ofContent line number,trim (uncommented line),.step keyword value⟩],[],
        if value = [] then [⟨.step kind,.ofContent line number⟩] else []⟩ := by
  rw [readStep,KeywordPattern.captureWith_words,Option.map_eq_bind]
  rfl

-- A step opens with one of its words, and a word that is captured covers no less than any
-- other word that stands there, unless it is written with more blanks than it needs. Words
-- are tried by their length as they are written, and a run of blanks in them stands for
-- any other.
theorem longest_keyword_wins (dictionary : Dictionary) (kind : StepKind) (line : Text) (number : Nat)
    (single : '\n' ∉ line) :
    (reader dictionary (.step kind) line number = none ↔ ∀ word ∈ dictionary.words (.step kind),
      ∀ keyword rest, ¬ Stands word (trimStart (uncommented line)) keyword rest) ∧
    ∀ reading, reader dictionary (.step kind) line number = some reading →
      ∃ word ∈ dictionary.words (.step kind), ∃ keyword rest,
        Stands word (trimStart (uncommented line)) keyword rest ∧ reading = stepReading kind line number keyword rest ∧
        ∀ other ∈ dictionary.words (.step kind), ∀ wider behind,
          Stands other (trimStart (uncommented line)) wider behind →
            (trim other).length ≤ (trim word).length ∧ (Tight word → wider.length ≤ keyword.length) := by
  have clean := content_single single
  change (readStep (.step kind) _ line number = none ↔ _) ∧ ∀ reading, readStep (.step kind) _ line number = some reading → _
  simp only [readStep_capture,KeywordPattern.ofDictionary_words,Option.map_eq_none_iff,Option.map_eq_some_iff]
  generalize trimStart (uncommented line) = t at clean
  constructor
  · rw [capture_none_iff]
    constructor
    · intro refused word member keyword rest stands
      have none := refused word member keyword rest stands.whole stands.covers
      rw [stands.opens clean] at none
      cases none
    · intro absent word member keyword rest whole covers
      apply Option.eq_none_iff_forall_ne_some.mpr
      intro value given
      obtain ⟨found,after,_⟩ := Option.map_eq_some_iff.mp given
      have behind : '\n' ∉ rest := fun inside => clean (whole ▸ List.mem_append_right keyword inside)
      exact absent word member keyword rest ⟨whole,covers,((afterStepWord_iff behind).mp after).1⟩
  · intro reading ⟨_,captured,made⟩
    obtain ⟨word,member,keyword,rest,whole,covers,accepted,longest⟩ := capture_longest captured
    obtain ⟨value,after,rfl⟩ := Option.map_eq_some_iff.mp accepted
    have behind : '\n' ∉ rest := fun inside => clean (whole ▸ List.mem_append_right keyword inside)
    obtain ⟨ends,rfl⟩ := (afterStepWord_iff behind).mp after
    refine ⟨word,member,keyword,rest,⟨whole,covers,ends⟩,made.symm,?_⟩
    intro other also wider further stands
    have less := longest other also wider further stands.whole stands.covers (by rw [stands.opens clean]; simp)
    exact ⟨less,fun tight => covers.longest stands.covers whole stands.whole tight less⟩

theorem longest_keyword_wins_portuguese :
    let line := "\tDADO  que,, a lua # b".toList
    '\n' ∉ line ∧ reader .portuguese (.step .given) line 3 =
      some (stepReading .given line 3 "DADO  que".toList ",, a lua ".toList) ∧
    ∀ other ∈ Dictionary.portuguese.words (.step .given), ∀ wider behind,
      Stands other (trimStart (uncommented line)) wider behind → wider.length ≤ 9 := by
  intro line
  have single : '\n' ∉ line := by decide
  have read : reader .portuguese (.step .given) line 3 =
      some (stepReading .given line 3 "DADO  que".toList ",, a lua ".toList) := by decide
  obtain ⟨word,member,keyword,rest,_,same,longest⟩ :=
    (longest_keyword_wins .portuguese .given line 3 single).2 _ read
  have tight : ∀ word ∈ Dictionary.portuguese.words (.step .given), (trim word).length = (spaced word.runs).length := by
    decide
  have own : "DADO  que".toList = keyword := stepReading_keyword same
  refine ⟨single,read,?_⟩
  intro other also wider behind stands
  have less := (longest other also wider behind stands).2 (tight word member)
  rwa [← own] at less

-- Blanks to spare put a word before a longer one.
theorem longest_keyword_loses :
    let words := ["dado     que".toList,"dado que si".toList]
    let dictionary : Dictionary := ⟨"zz".toList,fun _ => words⟩
    let line := "dado que si gana".toList
    '\n' ∉ line ∧ (reader dictionary (.step .given) line 1).isSome = true ∧
    ¬ ∃ word ∈ words, ∃ keyword rest, Stands word (trimStart (uncommented line)) keyword rest ∧
      reader dictionary (.step .given) line 1 = some (stepReading .given line 1 keyword rest) ∧
      ∀ other ∈ words, ∀ wider behind, Stands other (trimStart (uncommented line)) wider behind →
        wider.length ≤ keyword.length := by
  intro words dictionary line
  have read : reader dictionary (.step .given) line 1 =
      some (stepReading .given line 1 "dado que".toList " si gana".toList) := by decide
  refine ⟨by decide,by rw [read]; rfl,?_⟩
  intro ⟨word,member,keyword,rest,_,same,longest⟩
  have own : "dado que".toList = keyword := stepReading_keyword (Option.some.inj (read.symm.trans same))
  have stands : Stands "dado que si".toList (trimStart (uncommented line)) "dado que si".toList " gana".toList :=
    ⟨by decide,⟨by decide,by decide,by decide⟩,' ',by decide,by decide⟩
  have less := longest "dado que si".toList (by simp [words]) _ _ stands
  rw [← own] at less
  exact absurd less (by decide)

end ScenarioLang.Line
