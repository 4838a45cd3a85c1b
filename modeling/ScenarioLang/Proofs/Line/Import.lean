import ScenarioLang.Line
import ScenarioLang.Proofs.Text.Comment
import ScenarioLang.Proofs.Text.Pattern
import ScenarioLang.Proofs.Text.Quoted

namespace ScenarioLang.Line
open Text Unicode

variable {dictionary : Dictionary} {t rest quote value : Text} {words : List Text} {reading : Reading} {number : Nat}

theorem quote_alone (c : Char) (same : fold c = fold '"') : c = '"' :=
  eq_of_fold (same.trans (by decide)) (by decide) (by decide)

-- An import with its blanks: a word of the dictionary in some letter case, and the path
-- in quotes. No escape is open where the second quote stands. Blanks around a word in
-- the dictionary are among those around the keyword.
structure WrittenImport (dictionary : Dictionary) where
  word : Text
  keyword : Text
  path : Text
  before : Blanks
  between : Blanks
  after : Gap
  among : word ∈ dictionary.words .importPath
  covers : Words.Covers word.runs keyword
  writable : Path.isWritable path = true
  closed : slashes path % 2 = 0

def WrittenImport.quotes (written : WrittenImport dictionary) : Text :=
  '"' :: (written.path ++ '"' :: written.after.1)

def WrittenImport.line (written : WrittenImport dictionary) : Text :=
  written.before.1 ++ (written.keyword ++ (written.between.1 ++ written.quotes))

def takeQuoted (rest : Text) : Option Text :=
  match trimStart rest with
  | '"' :: quote => oneLine ('"' :: quote)
  | _ => none

theorem takeQuoted_iff {taken : Text} : takeQuoted rest = some taken ↔
    trimStart rest = taken ∧ taken.head? = some '"' ∧ '\n' ∉ taken := by
  unfold takeQuoted
  split
  · rename_i quote start
    simp only [oneLine,start]
    constructor
    · intro found
      split at found
      · cases found
      · rename_i clean
        cases found
        exact ⟨rfl,rfl,by simpa using clean⟩
    · intro ⟨same,_,clean⟩
      subst same
      rw [if_neg (by simpa using clean)]
  · rename_i other
    refine iff_of_false (by simp) ?_
    intro ⟨same,head,_⟩
    obtain ⟨quote,start⟩ := List.head?_eq_some_iff.mp head
    exact other quote (same.trans start)

theorem readImport_capture (pattern : KeywordPattern) (line : Text) (number : Nat) : readImport pattern line number =
    (Words.capture pattern.words (trimStart (uncommented line)) fun _ rest => takeQuoted rest).map fun taken =>
      .ofNode ⟨.importPath,.ofContent line number,trim (uncommented line),.value (quotedPath .importPath (trimEnd taken)).1⟩
        (report (.ofContent line number) (quotedPath .importPath (trimEnd taken)).2) := by
  rw [readImport,KeywordPattern.captureWith_words,Option.map_eq_bind]
  rfl

theorem writable_chars (writable : Path.isWritable value = true) : '"' ∉ value ∧ '\n' ∉ value := by
  simp only [Path.isWritable,Bool.and_eq_true] at writable
  have plain := List.all_eq_true.mp writable.1.2
  constructor
  · exact fun member => absurd (plain _ member) (by decide)
  · exact fun member => absurd (plain _ member) (by decide)

theorem quotedPath_written (writable : Path.isWritable value = true) (closed : slashes value % 2 = 0) :
    quotedPath .importPath ('"' :: (value ++ ['"'])) = (value,[]) := by
  have escaped := (wellEscaped_even (writable_chars writable).1).mpr closed
  have read : quoted ('"' :: (value ++ ['"'])) = some (value,[]) := quoted_escaped escaped []
  simp [quotedPath,read,allBlank,writable]

theorem quotedPath_faultless (trimmed : trimEnd t = t) (none : (quotedPath .importPath t).2 = []) :
    ∃ path, (quotedPath .importPath t).1 = path ∧ t = '"' :: (path ++ ['"']) ∧ Path.isWritable path = true ∧
      slashes path % 2 = 0 := by
  unfold quotedPath at none ⊢
  cases read : quoted t with
  | none => simp [read] at none
  | some parts =>
    obtain ⟨path,rest⟩ := parts
    simp only [read] at none ⊢
    obtain ⟨behind,own⟩ := List.append_eq_nil_iff.mp none
    have writable : Path.isWritable path = true := by
      by_contra bad
      simp [bad] at own
    have blank : rest.allBlank = true := by
      by_contra filled
      simp [filled] at behind
    cases t with
    | nil => cases read
    | cons c inner =>
      unfold quoted at read
      split at read
      · rename_i same
        cases same
        obtain ⟨whole,escaped⟩ := toClosingQuote_closed read
        refine ⟨path,rfl,?_,writable,(wellEscaped_even (writable_chars writable).1).mp escaped⟩
        -- Blanks behind the quote would have been trimmed.
        have parts : '"' :: inner = ('"' :: path ++ ['"']) ++ rest := by simp [whole]
        rw [parts,trimEnd_blank blank,trimEnd_ends quote_solid] at trimmed
        rw [parts,← trimmed]
        rfl
      · cases read

namespace WrittenImport

variable (written : WrittenImport dictionary)

theorem quotes_single : '\n' ∉ written.quotes := by
  have path := (writable_chars written.writable).2
  simp [quotes,path,written.after.2.2]

theorem trimEnd_quotes : trimEnd written.quotes = '"' :: (written.path ++ ['"']) := by
  have parts : written.quotes = ('"' :: written.path ++ ['"']) ++ written.after.1 := by simp [quotes]
  rw [parts,trimEnd_blank written.after.2.1,trimEnd_ends quote_solid]
  rfl

theorem uncomments : uncommented written.line = written.line := by
  apply uncommented_closed
  have parts : written.line = (written.before.1 ++ (written.keyword ++ (written.between.1 ++ '"' :: written.path)) ++
      ['"']) ++ written.after.1 := by simp [line,quotes]
  rw [parts,trimEnd_blank written.after.2.1,trimEnd_ends quote_solid,List.getLast?_concat]

theorem start : trimStart written.line = written.keyword ++ (written.between.1 ++ written.quotes) := by
  obtain ⟨c,more,keyword⟩ := List.exists_cons_of_ne_nil written.covers.filled
  have solid := (trimmed_iff.mp written.covers.trimmed).1 c (by rw [keyword]; rfl)
  rw [line,trimStart_blank written.before.2,keyword]
  exact trimStart_stays solid _

theorem taken : takeQuoted (written.between.1 ++ written.quotes) = some written.quotes := by
  apply takeQuoted_iff.mpr
  rw [trimStart_blank written.between.2]
  exact ⟨trimStart_stays quote_solid _,rfl,written.quotes_single⟩

-- Behind a word without a quote the first quote of the line comes.
theorem captured (bare : ∀ word ∈ dictionary.words .importPath, '"' ∉ word) :
    Words.capture (dictionary.words .importPath) (written.keyword ++ (written.between.1 ++ written.quotes))
      (fun _ rest => takeQuoted rest) = some written.quotes := by
  have first : ∀ word ∈ dictionary.words .importPath, ∀ covered rest taken, Words.Covers word.runs covered →
      takeQuoted rest = some taken → (covered ++ rest).dropWhile (· ≠ '"') = taken := by
    intro word member covered rest taken covers found
    have clean := covers.bare (bare word member) quote_alone quote_solid
    obtain ⟨blanks,ahead⟩ := blanks_ahead rest
    obtain ⟨rfl,head,_⟩ := takeQuoted_iff.mp found
    obtain ⟨quote,start⟩ := List.head?_eq_some_iff.mp head
    have apart : '"' ∉ blanks.1 := blanks.bare quote_solid
    have passed : ∀ c ∈ covered ++ blanks.1, decide (c ≠ '"') = true := by
      intro c inside
      rw [decide_eq_true_eq]
      rintro rfl
      rcases List.mem_append.mp inside with inside | inside
      · exact clean inside
      · exact apart inside
    rw [ahead,← List.append_assoc,List.dropWhile_append_of_pos passed,trimStart_blank blanks.2,trimStart_trimStart,start]
    rfl
  have own := written.covers.stands (written.between.1 ++ written.quotes)
  have member := written.covers.tried written.among
  apply Words.capture_agreed member (by rw [Words.afterWord,runs_trim]; exact own) fun _ => written.taken
  intro other among _ behind found after given
  obtain ⟨word,inside,_,exact⟩ := Words.tried_stands among
  obtain ⟨covered,whole,covers⟩ := (exact behind).mp after
  have here := first word inside covered behind found covers given
  have there := first written.word written.among _ _ _ written.covers written.taken
  rw [← here,← whole,there]

theorem read (bare : ∀ word ∈ dictionary.words .importPath, '"' ∉ word) (number : Nat) :
    readImport (.ofDictionary .importPath dictionary) written.line number = some
      (.ofNode ⟨.importPath,.ofContent written.line number,trim written.line,.value written.path⟩ []) := by
  rw [readImport_capture,KeywordPattern.ofDictionary_words,written.uncomments,written.start,written.captured bare,Option.map_some,written.trimEnd_quotes,
    quotedPath_written written.writable written.closed]
  rfl

end WrittenImport

theorem readImport_written {line : Text} (read : readImport (.ofDictionary .importPath dictionary) line number = some reading)
    (faultless : reading.errors = []) : ∃ written : WrittenImport dictionary, uncommented line = written.line ∧
      reading = .ofNode ⟨.importPath,.ofContent line number,trim (uncommented line),.value written.path⟩ [] := by
  rw [readImport_capture] at read
  obtain ⟨taken,captured,rfl⟩ := Option.map_eq_some_iff.mp read
  have none : (quotedPath .importPath (trimEnd taken)).2 = [] := List.map_eq_nil_iff.mp faultless
  have twice : trimEnd (trimEnd taken) = trimEnd taken := List.rdropWhile_idempotent Unicode.isBlank _
  obtain ⟨path,value,quotes,writable,closed⟩ := quotedPath_faultless twice none
  obtain ⟨word,among,keyword,rest,whole,covers,accepted,_⟩ := Words.capture_longest captured
  obtain ⟨start,head,single⟩ := takeQuoted_iff.mp accepted
  obtain ⟨before,ahead⟩ := blanks_ahead (uncommented line)
  obtain ⟨between,inside⟩ := blanks_ahead rest
  obtain ⟨after,behind,blank⟩ := trimEnd_split taken
  have clean : '\n' ∉ after := fun member => single (behind ▸ List.mem_append_right _ member)
  refine ⟨⟨word,keyword,path,before,between,⟨after,blank,clean⟩,among,covers,writable,closed⟩,?_,?_⟩
  · have parts : taken = '"' :: (path ++ '"' :: after) := by
      rw [quotes] at behind
      rw [behind]
      simp
    rw [ahead,whole,inside,start,parts]
    rfl
  · rw [value,none]
    rfl

-- Imports are read as they are written, whatever else the dictionary has for words, and
-- nothing but an import is read as one without an error.
theorem imports_read_back :
    (∀ dictionary : Dictionary, (∀ word ∈ dictionary.words .importPath, '"' ∉ word) →
      ∀ (written : WrittenImport dictionary) (number : Nat), reader dictionary .importPath written.line number = some
        (.ofNode ⟨.importPath,.ofContent written.line number,trim written.line,.value written.path⟩ [])) ∧
    ∀ (dictionary : Dictionary) (line : Text) (number : Nat) (reading : Reading),
      reader dictionary .importPath line number = some reading → reading.errors = [] →
      ∃ written : WrittenImport dictionary, uncommented line = written.line ∧
        reading = .ofNode ⟨.importPath,.ofContent line number,trim (uncommented line),.value written.path⟩ [] :=
  ⟨fun _ bare written number => written.read bare number,fun _ _ _ _ read faultless => readImport_written read faultless⟩

theorem imports_read_back_drive :
    let dictionary : Dictionary := ⟨"zz".toList,fun _ => ["imp".toList," imp#ort  a ".toList]⟩
    let line := "\t imp#ort  a \"C:\\x #1 (b)\\\\\" ".toList
    let path := "C:\\x #1 (b)\\\\".toList
    (∀ word ∈ dictionary.words .importPath, '"' ∉ word) ∧
    reader dictionary .importPath line 2 = some (.ofNode ⟨.importPath,⟨2,3⟩,trim line,.value path⟩ []) ∧
    ∃ written : WrittenImport dictionary, uncommented line = written.line ∧ written.path = path := by
  intro dictionary line path
  have bare : ∀ word ∈ dictionary.words .importPath, '"' ∉ word := by decide
  obtain ⟨reads,written⟩ := imports_read_back
  have read := reads dictionary bare {
    word := " imp#ort  a ".toList
    keyword := trim " imp#ort  a ".toList
    path := path
    before := ⟨['\t',' '],by decide⟩
    between := ⟨[' '],by decide⟩
    after := ⟨[' '],by decide⟩
    among := by decide
    covers := .own (by decide)
    writable := by decide
    closed := by decide } 2
  obtain ⟨import',same,own⟩ := written dictionary line 2 _ read rfl
  have value : path = import'.path := by
    have data := congrArg (fun reading => reading.nodes.map Node.data) own
    simp only [Reading.ofNode,List.map_singleton,List.cons.injEq,NodeData.value.injEq] at data
    exact data.1
  exact ⟨bare,read,import',same,value.symm⟩

end ScenarioLang.Line
