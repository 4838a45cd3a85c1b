import ScenarioLang.KeywordPattern
import ScenarioLang.Proofs.Text.Capture

namespace ScenarioLang

namespace Branch
open Words Unicode Text

variable {piece t : Text} {pieces : List Text} {parts : Branch}

def letters (piece : Text) : Branch := piece.map PatternPart.letter

def ofPieces (pieces : List Text) : Branch := [.blanks].intercalate (pieces.map letters)

theorem ofPieces_single (piece : Text) : ofPieces [piece] = letters piece := List.intercalate_singleton

theorem ofPieces_more (piece next : Text) (pieces : List Text) :
    ofPieces (piece :: next :: pieces) = letters piece ++ ([.blanks] ++ ofPieces (next :: pieces)) := by
  rw [ofPieces,List.map_cons,List.map_cons,List.intercalate_cons_cons,List.append_assoc]
  rfl

theorem lead_lead (parts others : Branch) (branches : List Branch) :
    lead parts (lead others branches) = lead (parts ++ others) branches := by
  cases branches with
  | nil => rfl
  | cons first rest => exact congrArg (· :: rest) (List.append_assoc parts others first).symm

theorem map_lead (parts others : Branch) (branches : Option (List Branch)) :
    (branches.map (lead others)).map (lead parts) = branches.map (lead (parts ++ others)) := by
  rw [Option.map_map]
  exact congrArg (Option.map · branches) (funext (lead_lead parts others))

-- Escaped or not, a character of a word is read as that character.
theorem read_character (c : Char) (rest : Text) :
    read ((if isOperator c then ['\\',c] else [c]) ++ rest) = (read rest).map (lead [.letter c]) := by
  cases operator : isOperator c with
  | true =>
    have other : c ≠ 's' := by
      rintro rfl
      exact absurd operator (by decide)
    have step := read.eq_4 c rest fun tail same _ => other same
    rw [operator,if_pos rfl] at step
    exact step
  | false =>
    have apart : ∀ sign, isOperator sign = true → c ≠ sign := by
      rintro sign own rfl
      rw [operator] at own
      cases own
    have bar := apart '|' (by decide)
    have slash := apart '\\' (by decide)
    have step := read.eq_5 c rest bar (fun tail same _ => slash same) fun d tail same _ => slash same
    rw [operator,if_neg Bool.false_ne_true] at step
    exact step

theorem read_escaped (filled : piece ≠ []) (rest : Text) :
    read (escaped piece ++ rest) = (read rest).map (lead (letters piece)) := by
  induction piece with
  | nil => exact absurd rfl filled
  | cons c piece ih =>
    rw [escaped,List.flatMap_cons,List.append_assoc,read_character]
    cases piece with
    | nil => rfl
    | cons d piece =>
      rw [← escaped,ih (List.cons_ne_nil d piece),map_lead]
      rfl

theorem read_pieces (solid : ∀ piece ∈ pieces, piece ≠ []) (some : pieces ≠ []) (rest : Text) :
    read ("\\s+".toList.intercalate (pieces.map escaped) ++ rest) = (read rest).map (lead (ofPieces pieces)) := by
  induction pieces with
  | nil => exact absurd rfl some
  | cons piece pieces ih =>
    obtain ⟨filled,later⟩ := List.forall_mem_cons.mp solid
    cases pieces with
    | nil =>
      rw [List.map_singleton,List.intercalate_singleton,ofPieces_single]
      exact read_escaped filled rest
    | cons next pieces =>
      have blanks : ∀ behind, read ("\\s+".toList ++ behind) = (read behind).map (lead [.blanks]) := fun _ => rfl
      rw [List.map_cons,List.map_cons,List.intercalate_cons_cons,List.append_assoc,List.append_assoc,
        read_escaped filled,blanks,← List.map_cons,ih later (List.cons_ne_nil next pieces),map_lead,map_lead,
        ofPieces_more,List.append_assoc]

theorem read_alternation {words : List Text} (filled : ∀ word ∈ words, word.runs ≠ []) (some : words ≠ []) :
    read (['|'].intercalate (words.map fun word => "\\s+".toList.intercalate (word.runs.map escaped))) =
      .some (words.map fun word => ofPieces word.runs) := by
  have written : ∀ word ∈ words, ∀ rest, read ("\\s+".toList.intercalate (word.runs.map escaped) ++ rest) =
      (read rest).map (lead (ofPieces word.runs)) :=
    fun word member rest => read_pieces (fun piece inside => run_filled inside) (filled word member) rest
  induction words with
  | nil => exact absurd rfl some
  | cons word words ih =>
    obtain ⟨own,later⟩ := List.forall_mem_cons.mp written
    cases words with
    | nil =>
      have last := own []
      rw [List.append_nil] at last
      rw [List.map_singleton,List.intercalate_singleton,last]
      simp [read,lead]
    | cons next words =>
      have tail := ih (List.forall_mem_cons.mp filled).2 (List.cons_ne_nil next words) later
      have bar : ∀ behind, read (['|'] ++ behind) = (read behind).map ([] :: ·) := fun _ => rfl
      rw [List.map_cons] at tail
      rw [List.map_cons,List.map_cons,List.intercalate_cons_cons,List.append_assoc,own,bar,tail]
      simp [lead]

theorem follow_letters (piece t : Text) (accept : Text → Option α) : follow (letters piece ++ parts) t accept =
    (afterPiece piece t).bind fun rest => follow parts rest accept := by
  induction piece generalizing t with
  | nil => rfl
  | cons c piece ih =>
    cases t with
    | nil => rfl
    | cons d t =>
      have step : follow (letters (c :: piece) ++ parts) (d :: t) accept =
        if fold c = fold d then follow (letters piece ++ parts) t accept else none := rfl
      rw [step,afterPiece]
      split
      · exact ih t
      · rfl

-- Where the rest of a branch starts with no blank, a run of blanks is passed over whole.
theorem follow_dropWhile {accept : Text → Option α}
    (solid : ∀ c t, isBlank c = true → follow parts (c :: t) accept = none) (t : Text) :
    (follow (.blanks :: parts) t accept <|> follow parts t accept) = follow parts (t.dropWhile isBlank) accept := by
  induction t with
  | nil => rfl
  | cons c t ih =>
    have step : follow (.blanks :: parts) (c :: t) accept =
      if isBlank c then follow (.blanks :: parts) t accept <|> follow parts t accept else none := rfl
    rw [step,List.dropWhile_cons]
    cases blank : isBlank c with
    | true => simp [ih,solid c t blank]
    | false => simp

theorem follow_blanks {accept : Text → Option α}
    (solid : ∀ c t, isBlank c = true → follow parts (c :: t) accept = none) (t : Text) :
    follow (.blanks :: parts) t accept = (afterBlanks t).bind fun rest => follow parts rest accept := by
  cases t with
  | nil => rfl
  | cons c t =>
    have step : follow (.blanks :: parts) (c :: t) accept =
      if isBlank c then follow (.blanks :: parts) t accept <|> follow parts t accept else none := rfl
    rw [step,follow_dropWhile solid,afterBlanks]
    split <;> rfl

theorem follow_solid (filled : piece ≠ []) (solid : ∀ c ∈ piece, isBlank c = false) (accept : Text → Option α)
    (c : Char) (t : Text) (blank : isBlank c = true) : follow (letters piece ++ parts) (c :: t) accept = none := by
  obtain ⟨first,piece,rfl⟩ := List.exists_cons_of_ne_nil filled
  have apart : fold first ≠ fold c := by
    intro same
    have plain : ∀ d ∈ [first], isBlank d = false := by simpa using solid first List.mem_cons_self
    have folds : [c].map fold = [first].map fold := by simp [same]
    have clean := solid_folded plain folds c List.mem_cons_self
    rw [blank] at clean
    cases clean
  exact if_neg apart

theorem follow_pieces (solid : ∀ piece ∈ pieces, piece ≠ [] ∧ ∀ c ∈ piece, isBlank c = false) (some : pieces ≠ [])
    (t : Text) (accept : Text → Option α) :
    follow (ofPieces pieces) t accept = (afterPieces pieces t).bind accept := by
  induction pieces generalizing t with
  | nil => exact absurd rfl some
  | cons piece pieces ih =>
    have later := (List.forall_mem_cons.mp solid).2
    cases pieces with
    | nil =>
      have last : letters piece = letters piece ++ [] := (List.append_nil _).symm
      rw [ofPieces_single,last,follow_letters,afterPieces]
      exact Option.bind_congr fun rest _ => follow.eq_1 rest accept
    | cons next pieces =>
      obtain ⟨filled,plain⟩ := (List.forall_mem_cons.mp later).1
      have clean : ∀ c t, isBlank c = true → follow (ofPieces (next :: pieces)) (c :: t) accept = none := by
        intro c t blank
        cases pieces with
        | nil =>
          rw [ofPieces_single,← List.append_nil (letters next)]
          exact follow_solid filled plain accept c t blank
        | cons third pieces =>
          rw [ofPieces_more]
          exact follow_solid filled plain accept c t blank
      rw [ofPieces_more,follow_letters,List.singleton_append]
      simp only [follow_blanks clean,ih later (List.cons_ne_nil _ _),afterPieces,Option.bind_eq_bind,Option.bind_assoc]

end Branch

namespace Words
open Text

variable {words : List Text} {word t : Text}

theorem covers_iff : Covers word.runs t ↔
    word.allBlank = false ∧ trim t = t ∧ folded t.runs = folded (trim word).runs := by
  rw [runs_trim]
  constructor
  · intro covers
    refine ⟨?_,covers.trimmed,covers.pieces⟩
    rw [← Bool.not_eq_true,← runs_nil_iff]
    exact covers.some
  · rintro ⟨filled,trimmed,same⟩
    refine ⟨?_,trimmed,same⟩
    rintro rfl
    have none : word.runs = [] := List.map_eq_nil_iff.mp same.symm
    rw [runs_nil_iff.mp none] at filled
    cases filled

theorem alternation_eq (words : List Text) : alternation words =
    if tried words = [] then none
    else some (['|'].intercalate ((tried words).map fun word => "\\s+".toList.intercalate (word.runs.map escaped))) := by
  unfold alternation
  split
  · rename_i none
    rw [if_pos none]
  · rename_i some
    rw [if_neg some]

end Words

namespace KeywordPattern
open Words Text

@[simp] theorem ofDictionary_words (keyword : Keyword) (dictionary : Dictionary) :
    (ofDictionary keyword dictionary).words = dictionary.words keyword := rfl

theorem branches_setWords (pattern : KeywordPattern) (words : List Text) : (pattern.setWords words).branches =
    if tried words = [] then none else some ((tried words).map fun word => Branch.ofPieces word.runs) := by
  simp only [setWords,alternation_eq]
  split
  · rfl
  · rename_i some
    exact Branch.read_alternation (fun word member => tried_filled member) some

-- What the pattern captures is what the words themselves do.
theorem captureWith_words (pattern : KeywordPattern) (t : Text) (accept : Text → Text → Option α) :
    pattern.captureWith t accept = Words.capture pattern.words t accept := by
  rw [captureWith,pattern.compiled,Words.capture,alternation_eq]
  split
  · rename_i none
    rw [none]
    rfl
  · rename_i some
    rw [Option.bind_some,Branch.read_alternation (fun word member => tried_filled member) some,Option.bind_some,
      List.findSome?_map]
    rw [← List.head?_filterMap,← List.head?_filterMap]
    refine congrArg List.head? (List.filterMap_congr fun word member => ?_)
    exact Branch.follow_pieces (fun piece inside => ⟨run_filled inside,run_solid inside⟩) (tried_filled member) t _

theorem captures_iff (pattern : KeywordPattern) (words : List Text) (t found : Text) :
    (pattern.setWords words).captures t = some found ↔ found = t ∧ ∃ word ∈ words, Covers word.runs t := by
  rw [captures,captureWith_words]
  constructor
  · intro taken
    obtain ⟨word,member,covered,rest,rfl,covers,accepted,_⟩ := capture_longest taken
    split at accepted
    · rename_i ended
      cases accepted
      rw [ended,List.append_nil]
      exact ⟨rfl,word,member,covers⟩
    · cases accepted
  · rintro ⟨rfl,word,member,covers⟩
    cases taken : Words.capture (pattern.setWords words).words found
        fun covered rest => if rest = [] then some covered else none with
    | none =>
      have refused := capture_none_iff.mp taken word member found [] (List.append_nil found).symm covers
      cases refused
    | some value =>
      obtain ⟨_,_,covered,rest,rfl,_,accepted,_⟩ := capture_longest taken
      split at accepted
      · rename_i ended
        cases accepted
        rw [ended,List.append_nil]
      · cases accepted

-- A pattern matches its words and nothing else. It is read as the characters of the words
-- it tries, with blanks where these have some, so that no character means anything but
-- itself. Neither the order of the words nor what the pattern held before counts.
theorem matches_its_words (pattern : KeywordPattern) (words : List Text) :
    (∀ t found : Text, (pattern.setWords words).captures t = some found ↔ found = t ∧
      ∃ word ∈ words, word.allBlank = false ∧ trim t = t ∧ folded t.runs = folded (trim word).runs) ∧
    ((∀ t, (pattern.setWords words).captures t = none) ↔ ∀ word ∈ words, word.allBlank = true) ∧
    (∀ others : List Text, (∀ word, word ∈ others ↔ word ∈ words) →
      (pattern.setWords others).captures = (pattern.setWords words).captures) ∧
    (pattern.setWords words).branches =
      (if tried words = [] then none else some ((tried words).map fun word => Branch.ofPieces word.runs)) ∧
    (∀ t, (pattern.setWords words).captures t =
      capture words t fun covered rest => if rest = [] then some covered else none) ∧
    (∀ old, (pattern.setWords old).setWords words = pattern.setWords words) ∧
    ∀ dictionary, pattern.rebind dictionary = ofDictionary pattern.keyword dictionary := by
  refine ⟨?_,?_,?_,branches_setWords pattern words,fun t => captureWith_words _ t _,fun old => rfl,fun dictionary => rfl⟩
  · intro t found
    simp only [captures_iff,covers_iff]
  · constructor
    · intro none word member
      by_contra filled
      have taken := (captures_iff pattern words (trim word) (trim word)).mpr
        ⟨rfl,word,member,.own (Bool.eq_false_iff.mpr filled)⟩
      rw [none] at taken
      cases taken
    · intro blank t
      apply Option.eq_none_iff_forall_ne_some.mpr
      intro found taken
      obtain ⟨_,word,member,covers⟩ := (captures_iff pattern words t found).mp taken
      have filled := (covers_iff.mp covers).1
      rw [blank word member] at filled
      cases filled
  · intro others same
    funext t
    apply Option.ext
    intro found
    simp only [captures_iff,same]

theorem matches_its_words_dotted : let pattern : KeywordPattern := .ofDictionary (.step .given) ⟨[],fun _ => []⟩
    let words := ["a.b  c".toList,[' '],['x']]
    (pattern.setWords [['x'],"a.b  c".toList,[' '],['x']]).captures "A.B\tc".toList =
      (pattern.setWords words).captures "A.B\tc".toList ∧
    (pattern.setWords words).captures "A.B\tc".toList = some "A.B\tc".toList := by
  intro pattern words
  obtain ⟨matched,_,unordered,_⟩ := matches_its_words pattern words
  refine ⟨congrFun (unordered _ fun word => ?_) _,(matched _ _).mpr ⟨rfl,"a.b  c".toList,?_⟩⟩
  · simp only [words,List.mem_cons]
    tauto
  · decide

end KeywordPattern
end ScenarioLang
