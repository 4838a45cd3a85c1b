import ScenarioLang.Proofs.Line.Item
import ScenarioLang.Proofs.Text.Comment
import ScenarioLang.Proofs.Unicode.AsciiCase

namespace ScenarioLang

namespace Words

variable {words : List Text} {word t rest : Text}

theorem afterPiece_suffix {piece : Text} (found : afterPiece piece t = some rest) : rest <:+ t := by
  obtain ⟨covered,rfl,_⟩ := afterPiece_folds found
  exact List.suffix_append covered rest

theorem afterPieces_suffix {pieces : List Text} (found : afterPieces pieces t = some rest) : rest <:+ t := by
  fun_induction afterPieces pieces t with
  | case1 => cases found; exact List.suffix_rfl
  | case2 t piece => exact afterPiece_suffix found
  | case3 t piece others _ ih =>
    obtain ⟨first,cut,found⟩ := Option.bind_eq_some_iff.mp found
    obtain ⟨second,blanks,found⟩ := Option.bind_eq_some_iff.mp found
    obtain ⟨_,rfl⟩ := afterBlanks_eq blanks
    exact ((ih _ found).trans (List.dropWhile_suffix _)).trans (afterPiece_suffix cut)

end Words

namespace Line
open Text Unicode

-- A declaration of a language with the word that every dictionary knows, in any letter
-- case, and blanks wherever they may stand.
structure Declaration where
  before : Blanks
  inside : Blanks
  word : Text
  ahead : Blanks
  behind : Blanks
  code : Text
  rest : Blanks
  spelled : sameAsciiCase word universalLanguageWord = true
  named : code ≠ []
  letters : ∀ c ∈ code, isCodeChar c = true

namespace Declaration

variable {declaration : Declaration} {c : Char} {number : Nat}

def keyword (declaration : Declaration) : Text := declaration.word ++ declaration.ahead.1

def value (declaration : Declaration) : Text := declaration.behind.1 ++ (declaration.code ++ declaration.rest.1)

def content (declaration : Declaration) : Text :=
  '#' :: (declaration.inside.1 ++ (declaration.keyword ++ ':' :: (declaration.behind.1 ++ declaration.code)))

def line (declaration : Declaration) : Text :=
  declaration.before.1 ++ (declaration.content ++ declaration.rest.1)

def node (declaration : Declaration) (number : Nat) : Node :=
  ⟨.language,.ofContent declaration.line number,declaration.content,.value declaration.code⟩

theorem word_lowered (declaration : Declaration) : declaration.word.map Char.toLower = universalLanguageWord :=
  (of_decide_eq_true declaration.spelled).trans (by decide)

theorem keyword_bare (solid : isBlank c = false) (other : c.toLower ∉ universalLanguageWord) : c ∉ declaration.keyword := by
  intro member
  rcases List.mem_append.mp member with within | blank
  · exact other (declaration.word_lowered ▸ List.mem_map_of_mem within)
  · exact declaration.ahead.bare solid blank

theorem value_bare (solid : isBlank c = false) (other : isCodeChar c = false) : c ∉ declaration.value := by
  intro member
  rcases List.mem_append.mp member with blank | member
  · exact declaration.behind.bare solid blank
  rcases List.mem_append.mp member with within | blank
  · rw [declaration.letters c within] at other
    cases other
  · exact declaration.rest.bare solid blank

theorem content_rest (declaration : Declaration) : declaration.content ++ declaration.rest.1 =
    '#' :: (declaration.inside.1 ++ (declaration.keyword ++ ':' :: declaration.value)) := by
  simp [content,value]

theorem code_ends (declaration : Declaration) : declaration.code <:+ declaration.content :=
  ⟨'#' :: (declaration.inside.1 ++ (declaration.keyword ++ ':' :: declaration.behind.1)),by simp [content]⟩

theorem ends (declaration : Declaration) :
    ∃ start last, declaration.content = start ++ [last] ∧ isCodeChar last = true := by
  obtain ⟨front,whole⟩ := declaration.code_ends
  obtain none | ⟨start,last,split⟩ := List.eq_nil_or_concat' declaration.code
  · exact absurd none declaration.named
  · refine ⟨front ++ start,last,?_,declaration.letters last ?_⟩
    · rw [← whole,split,List.append_assoc]
    · rw [split]
      exact List.mem_append_right _ List.mem_cons_self

theorem trimEnd_content (declaration : Declaration) {tail : Text} (blank : tail.allBlank = true) :
    trimEnd (declaration.content ++ tail) = declaration.content := by
  obtain ⟨start,last,split,letter⟩ := declaration.ends
  rw [trimEnd_blank blank,split,trimEnd_ends (codeChar_not_blank letter)]

theorem trimStart_content (declaration : Declaration) (tail : Text) :
    trimStart (declaration.before.1 ++ (declaration.content ++ tail)) = declaration.content ++ tail := by
  rw [trimStart_blank declaration.before.2]
  exact trimStart_stays hash_solid _

theorem line_head (declaration : Declaration) : (trimStart declaration.line).head? = some '#' := by
  rw [line,trimStart_content]
  rfl

theorem line_uncommented (declaration : Declaration) : uncommented declaration.line = declaration.before.1 := by
  have last : ∀ c, isCodeChar c = false → (trimEnd (declaration.inside.1 ++
      (declaration.keyword ++ ':' :: declaration.value))).getLast? ≠ some c := by
    intro c other same
    obtain ⟨start,last,split,letter⟩ := declaration.ends
    have kept := declaration.trimEnd_content declaration.rest.2
    rw [declaration.content_rest,trimEnd_solid hash_solid] at kept
    have whole : declaration.content.getLast? = some c := by rw [← kept,List.getLast?_cons,same]; rfl
    rw [split,List.getLast?_concat] at whole
    cases whole
    rw [other] at letter
    cases letter
  rw [line,content_rest]
  apply uncommented_sign
  · intro bracket
    exact declaration.before.bare (by decide) (List.mem_of_getLast? bracket)
  · simp only [List.mem_append,List.mem_cons,not_or]
    exact ⟨declaration.inside.bare hash_solid,keyword_bare hash_solid (by decide),by decide,
      value_bare hash_solid (by decide)⟩
  · exact last '"' (by decide)
  · exact last '>' (by decide)

theorem languageCode_value (declaration : Declaration) :
    languageCode (trimStart declaration.value) = some (declaration.code,declaration.rest.1) := by
  have start : trimStart declaration.value = declaration.code ++ declaration.rest.1 := by
    rw [value,trimStart_blank declaration.behind.2]
    cases split : declaration.code with
    | nil => exact absurd split declaration.named
    | cons c more =>
      rw [List.cons_append,trimStart_stays]
      exact codeChar_not_blank (declaration.letters c (split ▸ List.mem_cons_self))
  have apart := declaration.rest.head_apart [] (fun _ letter => codeChar_not_blank letter) nofun
  rw [List.append_nil] at apart
  obtain ⟨taken,left⟩ := cut_run declaration.letters apart
  have blank : trimStart declaration.rest.1 = [] := trimStart_nil_iff.mpr declaration.rest.2
  rw [start,languageCode,taken,left]
  simp only [declaration.named,if_false,blank]

theorem keyword_starts (declaration : Declaration) (t : Text) :
    trimStart (declaration.inside.1 ++ (declaration.keyword ++ t)) = declaration.keyword ++ t := by
  obtain ⟨c,more,split,first,_⟩ := List.map_eq_cons_iff.mp declaration.word_lowered
  have solid : isBlank c = false :=
    (view_sameCase isBlank (by decide) (first.trans (by decide : 'l' = 'l'.toLower))).trans (by decide)
  rw [trimStart_blank declaration.inside.2,keyword,split]
  exact trimStart_stays solid _

theorem word_stands (declaration : Declaration) (t : Text) :
    Words.afterWord universalLanguageWord (declaration.word ++ t) = some t := by
  have single : universalLanguageWord.runs = [universalLanguageWord] := by decide
  have folds : declaration.word.map fold = universalLanguageWord.map fold := by
    have blind : fold ∘ Char.toLower = fold := funext (toLower_blind fold (by decide))
    rw [← declaration.word_lowered,List.map_map,blind]
  rw [Words.afterWord,single]
  exact Words.afterPiece_covered folds t

theorem universal_tried {words : List Text} (member : universalLanguageWord ∈ words) :
    universalLanguageWord ∈ Words.tried words := by
  have trimmed : trim universalLanguageWord = universalLanguageWord := by decide
  exact Words.mem_tried.mpr ⟨List.mem_map.mpr ⟨_,member,trimmed⟩,by decide⟩

-- A word that a colon follows ends before the only colon there is.
theorem only_colon {rest behind : Text} (suffix : behind <:+ declaration.keyword ++ ':' :: declaration.value)
    (colon : trimStart behind = ':' :: rest) : rest = declaration.value := by
  have bare : ':' ∉ declaration.keyword := keyword_bare colon_solid (by decide)
  have only : ':' ∉ declaration.value := value_bare colon_solid (by decide)
  obtain ⟨covered,whole⟩ := (colon ▸ List.dropWhile_suffix isBlank : ':' :: rest <:+ behind).trans suffix
  exact ((List.append_cons_inj_of_notMem bare only).mp whole.symm).2.2.symm

theorem word_reaches (declaration : Declaration) :
    Words.afterWord universalLanguageWord (declaration.keyword ++ ':' :: declaration.value) =
      some (declaration.ahead.1 ++ ':' :: declaration.value) := by
  rw [keyword,List.append_assoc]
  exact declaration.word_stands _

theorem trim_cut (declaration : Declaration) :
    trim (declaration.line.take (declaration.line.length - declaration.rest.1.length)) = declaration.content := by
  have parts : declaration.line = (declaration.before.1 ++ declaration.content) ++ declaration.rest.1 := by
    rw [line,List.append_assoc]
  have trimmed : trimEnd (declaration.content ++ []) = declaration.content := declaration.trimEnd_content rfl
  rw [parts,List.length_append,Nat.add_sub_cancel,List.take_left]
  rw [← List.append_nil (_ ++ _),List.append_assoc,trim,trimStart_content,trimmed]

theorem readLanguage_declares (declaration : Declaration) {pattern : KeywordPattern}
    (universal : universalLanguageWord ∈ pattern.words) (number : Nat) :
    readLanguage pattern declaration.line number = some (.ofNode (declaration.node number) []) := by
  simp only [readLanguage,KeywordPattern.captureWith_words]
  split
  · rename_i declared start
    rw [line,trimStart_content,content_rest] at start
    cases start
    rw [declaration.keyword_starts]
    refine Option.bind_eq_some_iff.mpr ⟨(declaration.code,declaration.rest.1),?_,?_⟩
    · apply Words.capture_agreed (universal_tried universal) declaration.word_reaches
      · intro _
        rw [trimStart_blank declaration.ahead.2,trimStart_stays colon_solid]
        exact declaration.languageCode_value
      · intro _ _ _ behind found after given
        split at given
        · rename_i rest colon
          rw [only_colon (Words.afterPieces_suffix after) colon,declaration.languageCode_value] at given
          exact (Option.some.inj given).symm
        · cases given
    · dsimp only
      rw [declaration.trim_cut]
      rfl
  · rename_i other
    rw [line,trimStart_content] at other
    exact absurd rfl (other _)

-- No other type takes it. A keyword would have to stand in front of the number sign.
theorem reader_declares (declaration : Declaration) (dictionary : Dictionary) (type : NodeType) (number : Nat) :
    reader dictionary type declaration.line number =
      if type = .language then some (.ofNode (declaration.node number) []) else none := by
  split
  · rename_i own
    rw [own]
    exact declaration.readLanguage_declares (List.mem_append_right _ (List.mem_singleton_self _)) number
  · rename_i other
    by_cases text : type = .text
    · subst text
      simp [reader,NodeLexer.ofDictionary,NodeLexer.read,readText,declaration.line_head]
    rw [Option.eq_none_iff_forall_ne_some]
    intro reading read
    cases reader_opens read text with
    | keyword own member stands follows =>
      rw [declaration.line_uncommented,trimStart_nil_iff.mpr declaration.before.2] at stands
      obtain ⟨_,_,_,_,c,head,_⟩ :=
        Words.afterPieces_start (fun _ => run_filled) (Words.tried_filled member) stands
      cases head
    | sign own head =>
      rw [declaration.line_head] at head
      cases head
      exact other (sign_unique own rfl (by decide))

end Declaration

end Line
end ScenarioLang
