import ScenarioLang.Dictionary.Source
import ScenarioLang.Proofs.Unicode.Lowercase

namespace ScenarioLang.Dictionary
open Text

-- The sources a compiler is given: the built-in languages, a folder in front of
-- them, any other that has one dictionary for each name, or one of these that
-- breaks down on some languages.
inductive Provided : DictionarySource → Prop where
  | builtin : Provided builtinSource
  | folder (tree : FileTree) (folder : Path) : Provided (folderSource tree folder)
  | other {source : DictionarySource} (named : ∀ language base again, source language = .found base →
      source base.language = .found again → again = base) : Provided source
  | crashing {source : DictionarySource} (languages : List Text) (provided : Provided source) :
      Provided (crashingOn languages source)

theorem normalCode_lowered (language : Text) : ∀ c ∈ normalCode language, Unicode.Lowered c ∧ c ≠ '_' := by
  intro c member
  obtain ⟨d,inside,rfl⟩ := List.mem_map.mp member
  by_cases underscore : d = '_'
  · rw [if_pos underscore]
    exact ⟨Unicode.lowered_fixed (by decide) (by decide),by decide⟩
  · rw [if_neg underscore]
    exact ⟨Unicode.lowercase_lowered _ d inside,underscore⟩

theorem candidate_lowered {language code : Text} (candidate : code ∈ candidates language) :
    ∀ c ∈ code, Unicode.Lowered c ∧ c ≠ '_' := by
  have whole := normalCode_lowered language
  simp only [candidates] at candidate
  split at candidate
  · simp only [List.mem_cons,List.not_mem_nil,or_false] at candidate
    rcases candidate with rfl | rfl
    · exact whole
    · exact fun c member => whole c ((List.takeWhile_sublist _).subset member)
  · simp only [List.mem_cons,List.not_mem_nil,or_false] at candidate
    exact candidate ▸ whole

theorem trim_code {code : Text} (letters : ∀ c ∈ code, Line.isCodeChar c = true) : trim code = code := by
  have solid : ∀ c ∈ code, Unicode.isBlank c = false := fun c member =>
    Unicode.codeChar_not_blank (letters c member)
  have start : ∀ t : Text, (∀ c ∈ t, Unicode.isBlank c = false) → t.dropWhile Unicode.isBlank = t := by
    intro t none
    cases t with
    | nil => rfl
    | cons c rest => rw [List.dropWhile_cons,none c List.mem_cons_self]; rfl
  rw [trim,trimStart,start code solid,trimEnd,start _ fun c member => solid c (List.mem_reverse.mp member),
    List.reverse_reverse]

theorem normalCode_candidate {language code : Text} (candidate : code ∈ candidates language)
    (letters : ∀ c ∈ code, Line.isCodeChar c = true) : normalCode code = code := by
  have lowered := candidate_lowered candidate
  rw [normalCode,trim_code letters,Unicode.lowercase_fixed fun c member => (lowered c member).1]
  calc code.map (fun c => if c = '_' then '-' else c)
    _ = code.map id := List.map_congr_left fun c member => if_neg (lowered c member).2
    _ = code := List.map_id code

theorem candidates_head {language code : Text} (candidate : code ∈ candidates language)
    (letters : ∀ c ∈ code, Line.isCodeChar c = true) : ∃ rest, candidates code = code :: rest := by
  rw [candidates,normalCode_candidate candidate letters]
  split
  · exact ⟨_,rfl⟩
  · exact ⟨_,rfl⟩

theorem ofCode_language {code : Text} {dictionary : Dictionary} (found : ofCode? code = some dictionary) :
    dictionary.language = code := by
  simpa using List.find?_some found

theorem ofFile_language {tree : FileTree} {folder : Path} {code : Text} {dictionary : Dictionary}
    (found : ofFile? tree folder code = some (.found dictionary)) : dictionary.language = code := by
  simp only [ofFile?] at found
  split at found
  · split at found
    · simp at found
    · split at found
      · rename_i read
        simp only [Option.some.injEq,Lookup.found.injEq] at found
        obtain ⟨entries,_,made⟩ := Option.map_eq_some_iff.mp read
        rw [← found,← made]
        rfl
      · simp at found
  · cases found

theorem builtin_found {language : Text} {base : Dictionary} (found : builtinSource language = .found base) :
    base.language ∈ candidates language ∧ ofCode? base.language = some base := by
  have asked : (candidates language).findSome? ofCode? = some base := by
    simp only [builtinSource] at found
    split at found
    · rename_i answer
      cases found
      exact answer
    · cases found
  obtain ⟨candidate,member,answer⟩ := List.exists_of_findSome?_eq_some asked
  rw [ofCode_language answer]
  exact ⟨member,answer⟩

theorem builtin_whole {code : Text} {dictionary : Dictionary} (found : ofCode? code = some dictionary) :
    code.contains '-' = false := by
  rw [← ofCode_language found]
  have member : dictionary ∈ builtin := List.mem_of_find?_eq_some found
  simp only [builtin,List.mem_cons,List.not_mem_nil,or_false] at member
  rcases member with rfl | rfl | rfl <;> decide

theorem builtin_settled {language : Text} {base : Dictionary} (first : builtinSource language = .found base)
    (letters : ∀ c ∈ base.language, Line.isCodeChar c = true) : builtinSource base.language = .found base := by
  obtain ⟨member,found⟩ := builtin_found first
  obtain ⟨rest,split⟩ := candidates_head member letters
  simp [builtinSource,split,found]

theorem folder_settled {tree : FileTree} {folder : Path} {language : Text} {base : Dictionary}
    (first : folderSource tree folder language = .found base)
    (letters : ∀ c ∈ base.language, Line.isCodeChar c = true) :
    folderSource tree folder base.language = .found base := by
  simp only [folderSource] at first
  split at first
  · rename_i answer asked
    cases first
    obtain ⟨candidate,member,found⟩ := List.exists_of_findSome?_eq_some asked
    have own := ofFile_language found
    rw [← own] at member found
    obtain ⟨rest,split⟩ := candidates_head member letters
    simp [folderSource,split,found]
  · -- No file stands for the language, so none stands for the code it led to.
    rename_i unfiled
    obtain ⟨member,found⟩ := builtin_found first
    have none := List.findSome?_eq_none_iff.mp unfiled _ member
    have single : candidates base.language = [base.language] := by
      rw [candidates,normalCode_candidate member letters]
      simp only [builtin_whole found,Bool.false_eq_true,if_false]
    simp only [folderSource,single,List.findSome?_cons,none,List.findSome?_nil]
    exact builtin_settled first letters

-- Asked for the code of a dictionary it has given, a source gives the same one.
theorem settled {source : DictionarySource} (provided : Provided source) {language : Text} {base other : Dictionary}
    (first : source language = .found base) (again : source base.language = .found other)
    (letters : ∀ c ∈ base.language, Line.isCodeChar c = true) : other = base := by
  induction provided with
  | builtin =>
    rw [builtin_settled first letters] at again
    cases again
    rfl
  | folder tree folder =>
    rw [folder_settled first letters] at again
    cases again
    rfl
  | other named => exact named language base other first again
  | crashing languages provided ih =>
    simp only [crashingOn] at first again
    split at first
    · cases first
    · split at again
      · cases again
      · exact ih first again

end ScenarioLang.Dictionary
