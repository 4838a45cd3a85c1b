import ScenarioLang.Proofs.Lexer.Reset
import ScenarioLang.Proofs.Unicode.AsciiCase

namespace ScenarioLang

namespace Dictionary
open Text

inductive Stored : DictionarySource → Prop where
  | builtin : Stored builtinSource
  | folder (tree : FileTree) (folder : Path) : Stored (folderSource tree folder)

variable {source : DictionarySource} {language other : Text} {base words : Dictionary}

theorem Stored.provided (stored : Stored source) : Provided source := by
  cases stored with
  | builtin => exact .builtin
  | folder tree folder => exact .folder tree folder

theorem Stored.settled (stored : Stored source) (first : source language = .found base)
    (letters : ∀ c ∈ base.language, Line.isCodeChar c = true) : source base.language = .found base := by
  cases stored with
  | builtin => exact builtin_settled first letters
  | folder tree folder => exact folder_settled first letters

theorem trim_toLower (t : Text) : (trim t).map Char.toLower = trim (t.map Char.toLower) := by
  have blind : Unicode.isBlank ∘ Char.toLower = Unicode.isBlank :=
    funext (Unicode.toLower_blind Unicode.isBlank (by decide))
  simp only [trim,trimEnd,trimStart,← List.map_reverse,List.dropWhile_map,blind]

theorem sameAsciiCase_symm {s t : Text} (same : sameAsciiCase s t = true) : sameAsciiCase t s = true :=
  decide_eq_true (of_decide_eq_true same).symm

theorem letters_sameCase {s t : Text} (same : sameAsciiCase s t = true) (letters : ∀ c ∈ s, Line.isCodeChar c = true) :
    ∀ c ∈ t, Line.isCodeChar c = true := by
  intro c member
  obtain ⟨d,inside,lowered⟩ := List.mem_map.mp
    (of_decide_eq_true same ▸ List.mem_map_of_mem member : c.toLower ∈ s.map Char.toLower)
  rw [← Unicode.view_sameCase Line.isCodeChar (by decide) lowered]
  exact letters d inside

theorem candidates_sameCase (same : sameAsciiCase language other = true) : candidates language = candidates other := by
  have lowered : (trim language).map Char.toLower = (trim other).map Char.toLower := by
    rw [trim_toLower,trim_toLower,of_decide_eq_true same]
  have code : normalCode language = normalCode other := by
    rw [normalCode,normalCode,Unicode.lowercase,Unicode.lowercase,Unicode.lowercaseAfter_sameCase rfl lowered]
  rw [candidates,candidates,code]

theorem Stored.sameCase (stored : Stored source) (same : sameAsciiCase language other = true)
    (found : source language = .found words) : source other = .found words := by
  have asked := candidates_sameCase same
  have builtin : ∀ words, builtinSource language = .found words → builtinSource other = .found words := by
    intro words found
    unfold builtinSource at found ⊢
    rw [← asked]
    split at found
    · exact found
    · cases found
  cases stored with
  | builtin => exact builtin words found
  | folder tree folder =>
    unfold folderSource at found ⊢
    rw [← asked]
    split at found
    · exact found
    · exact builtin words found

end Dictionary

-- The words under the name of a language: those of the start under the name of the
-- start, else what the source gives.
def LexerSetup.dictionaryFor (setup : LexerSetup) (language : Text) : Lookup :=
  if language = setup.base.language then .found setup.base else setup.source language

namespace LexerState

variable {setup : LexerSetup} {state next : LexerState} {source : DictionarySource} {language : Text}
  {stopOnError : Bool}

def InTongue (setup : LexerSetup) (state : LexerState) : Prop :=
  setup.dictionaryFor state.language = .found state.dictionary

theorem initial_inTongue (setup : LexerSetup) : InTongue setup setup.initial := if_pos rfl

theorem InTongue.bound (tongue : InTongue setup state) : Bound setup state := by
  intro own
  unfold InTongue LexerSetup.dictionaryFor at tongue
  rw [if_pos own] at tongue
  exact (Lookup.found.inj tongue).symm

theorem Turns.inTongue (settled : setup.Settled) (turns : Turns setup state next) (tongue : InTongue setup state) :
    InTongue setup next := by
  have bound := turns.bound settled tongue.bound
  unfold InTongue LexerSetup.dictionaryFor at tongue ⊢
  by_cases own : next.language = setup.base.language
  · rw [if_pos own,bound own]
  · rw [if_neg own]
    rcases turns with ⟨language,dictionary⟩ | ⟨found,_⟩
    · rw [language] at own ⊢
      rw [dictionary]
      rwa [if_neg own] at tongue
    · exact found

theorem act_inTongue (settled : setup.Settled) (tongue : InTongue setup state) (action : LexerAction) :
    InTongue setup (state.act setup action).2 := by
  cases back : action.returns with
  | true =>
    rw [act_returns back tongue.bound]
    exact initial_inTongue setup
  | false =>
    cases action with
    | line text number => exact (addLine_turns text number).inTongue settled tongue
    | _ => cases back

theorem after_inTongue (settled : setup.Settled) (tongue : InTongue setup state) (actions : List LexerAction) :
    InTongue setup (state.after setup actions) := by
  induction actions generalizing state with
  | nil => exact tongue
  | cons action rest ih => exact ih (act_inTongue settled tongue action)

end LexerState
end ScenarioLang
