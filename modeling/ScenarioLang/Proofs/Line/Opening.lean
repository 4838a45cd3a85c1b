import ScenarioLang.Dictionary.Builtin
import ScenarioLang.Proofs.Line
import ScenarioLang.Proofs.Line.Location
import ScenarioLang.Proofs.Text.Words

namespace ScenarioLang

namespace NodeType

def keyword? : NodeType → Option Keyword
  | importPath => some .importPath
  | feature => some .feature
  | background => some .background
  | variantBackground => some .variantBackground
  | scenario => some .scenario
  | variant => some .variant
  | testCase => some .testCase
  | block kind => some (.block kind)
  | table => some .table
  | database => some .database
  | uiElement => some .uiElement
  | event kind => some (.event kind)
  | step kind => some (.step kind)
  | _ => none

def sign? : NodeType → Option Char
  | language => some '#'
  | tag => some '@'
  | tableRow => some '|'
  | longString => some '"'
  | definition _ | uiProperty | databaseProperty => some '-'
  | _ => none

end NodeType

namespace Line
open Text Words

variable {dictionary : Dictionary} {type other : NodeType} {line : Text} {number again : Nat} {reading second : Reading}

-- What has to follow the keyword of a type. Only a step may go on with a word.
def Follows (type : NodeType) (rest : Text) : Prop :=
  Ends rest ∧ (GoesOn rest → type.isStep = true)

inductive Opens (dictionary : Dictionary) (line : Text) (type : NodeType) : Prop where
  | keyword {keyword : Keyword} {word rest : Text} (own : type.keyword? = some keyword)
      (member : word ∈ tried (dictionary.words keyword))
      (stands : afterWord word (trimStart (uncommented line)) = some rest) (follows : Follows type rest)
  | sign {c : Char} (own : type.sign? = some c) (first : (trimStart line).head? = some c)

theorem uncommented_head {part : Text} (taken : part <+: line) {c : Char} (head : (trimStart part).head? = some c) :
    (trimStart line).head? = some c := by
  have filled : trimStart part ≠ [] := by
    intro none
    rw [none] at head
    cases head
  obtain ⟨behind,whole⟩ := (trimStart_start taken filled).1
  rw [← whole,List.head?_append,head]
  rfl

theorem follows_mark {rest : Text} {c : Char} (head : (trimStart rest).head? = some c) (mark : isMark c = true) :
    Follows type rest := by
  refine ⟨fun d first => ?_,fun goesOn => ?_⟩
  · cases rest with
    | nil => cases first
    | cons e rest =>
      cases first
      cases blank : Unicode.isBlank d with
      | true => simp [isMark,blank]
      | false =>
        rw [trimStart_cons,blank] at head
        cases head
        exact mark
  · obtain ⟨d,first,plain⟩ := goesOn
    rw [head] at first
    cases first
    rw [mark] at plain
    cases plain

theorem afterColon_head {t rest : Text} (found : afterColon t = some rest) : (trimStart t).head? = some ':' := by
  unfold afterColon at found
  split at found
  · rename_i start
    rw [start]
    rfl
  · cases found

theorem numberAndRest_head {t : Text} {found : Option Text × Text} (read : numberAndRest t = some found) :
    ∃ c, (trimStart t).head? = some c ∧ isMark c = true := by
  simp only [numberAndRest] at read
  split at read
  · obtain ⟨rest,colon,_⟩ := Option.map_eq_some_iff.mp read
    exact ⟨':',afterColon_head colon,by decide⟩
  · rename_i digits
    cases start : trimStart t with
    | nil => simp [start] at digits
    | cons c rest =>
      refine ⟨c,rfl,?_⟩
      rw [start,List.takeWhile_cons] at digits
      split at digits
      · rename_i digit
        simp [isMark,digit]
      · exact absurd rfl digits

theorem afterStepWord_ends {rest value : Text} (found : afterStepWord rest = some value) : Ends rest := by
  unfold afterStepWord at found
  split at found
  · cases found
  · rename_i c others
    split at found
    · rename_i ends
      intro d first
      cases first
      rw [endsKeyword,Bool.or_eq_true] at ends
      rcases ends with blank | comma
      · simp [isMark,blank]
      · rw [of_decide_eq_true comma]
        decide
    · cases found

theorem capture_opens {α : Type} {keyword : Keyword} {accept : Text → Text → Option α} {value : α}
    (own : type.keyword? = some keyword)
    (captured : (KeywordPattern.ofDictionary keyword dictionary).captureWith (trimStart (uncommented line)) accept = some value)
    (follows : ∀ covered rest, accept covered rest = some value → Follows type rest) : Opens dictionary line type := by
  rw [KeywordPattern.captureWith_words] at captured
  obtain ⟨word,member,covered,rest,stands,accepted⟩ := Words.capture_word captured
  exact .keyword own member stands (follows covered rest accepted)

theorem reader_opens (read : reader dictionary type line number = some reading) (filled : type ≠ .text) :
    Opens dictionary line type := by
  have part := uncommented_starts line
  cases type with
  | language =>
    simp only [reader,NodeLexer.ofDictionary,NodeLexer.updateWords,NodeLexer.read,readLanguage] at read
    split at read
    · rename_i start
      exact .sign rfl (by rw [start]; rfl)
    · cases read
  | importPath =>
    simp only [reader,NodeLexer.ofDictionary,NodeLexer.read,readImport] at read
    obtain ⟨written,captured,_⟩ := Option.bind_eq_some_iff.mp read
    refine capture_opens rfl captured fun covered rest accepted => ?_
    split at accepted
    · rename_i start
      exact follows_mark (by rw [start]; rfl) (by decide)
    · cases accepted
  | tag =>
    simp only [reader,NodeLexer.ofDictionary,NodeLexer.read,readTags] at read
    split at read
    · rename_i start
      have head : (trimStart (trimEnd (uncommented line))).head? = some '@' := by rw [start]; rfl
      exact .sign rfl (uncommented_head ((trimEnd_starts _).trans part) head)
    · cases read
  | feature | scenario | testCase | table | database | uiElement =>
    simp only [reader,NodeLexer.ofDictionary,NodeLexer.read,readNamed] at read
    obtain ⟨value,captured,_⟩ := Option.bind_eq_some_iff.mp read
    exact capture_opens rfl captured fun covered rest accepted =>
      follows_mark (afterColon_head accepted) (by decide)
  | background | variantBackground | block | event =>
    simp only [reader,NodeLexer.ofDictionary,NodeLexer.read,readBlock] at read
    obtain ⟨value,captured,_⟩ := Option.bind_eq_some_iff.mp read
    refine capture_opens rfl captured fun covered rest accepted => ?_
    split at accepted
    · rename_i start
      exact follows_mark (by rw [start]; rfl) (by decide)
    · cases accepted
  | variant =>
    simp only [reader,NodeLexer.ofDictionary,NodeLexer.read,readNumbered] at read
    obtain ⟨found,captured,_⟩ := Option.bind_eq_some_iff.mp read
    refine capture_opens rfl captured fun covered rest accepted => ?_
    obtain ⟨c,head,mark⟩ := numberAndRest_head accepted
    exact follows_mark head mark
  | definition kind =>
    obtain ⟨_,_,_,_,start,_⟩ := readDefinition_reads read
    exact .sign rfl (uncommented_head part (by rw [start]; rfl))
  | tableRow =>
    simp only [reader,NodeLexer.ofDictionary,NodeLexer.read,readTableRow] at read
    split at read
    · rename_i bars
      simp only [Bool.and_eq_true,decide_eq_true_eq] at bars
      have head : (trimStart (uncommented line)).head? = some '|' := by
        obtain ⟨behind,whole⟩ := trim_starts (uncommented line)
        rw [← whole,List.head?_append,bars.1.1]
        rfl
      exact .sign rfl (uncommented_head part head)
    · cases read
  | databaseProperty | uiProperty =>
    simp only [reader,NodeLexer.ofDictionary,NodeLexer.read,readItem] at read
    split at read
    · rename_i start
      exact .sign rfl (uncommented_head part (by rw [start]; rfl))
    · cases read
  | step kind =>
    simp only [reader,NodeLexer.ofDictionary,NodeLexer.read,readStep] at read
    obtain ⟨found,captured,_⟩ := Option.bind_eq_some_iff.mp read
    refine capture_opens rfl captured fun covered rest accepted => ?_
    obtain ⟨value,after,_⟩ := Option.map_eq_some_iff.mp accepted
    exact ⟨afterStepWord_ends after,fun _ => rfl⟩
  | text => exact absurd rfl filled
  | longString =>
    simp only [reader,NodeLexer.ofDictionary,NodeLexer.read,readDelimiter] at read
    obtain ⟨rest,quotes,_⟩ := Option.bind_eq_some_iff.mp read
    exact .sign rfl (by rw [after_append quotes]; rfl)

theorem sign_mark {c : Char} (own : type.sign? = some c) : isMark c = true := by
  have signs : "#@|\"-".toList.all isMark = true := by decide
  apply List.all_eq_true.mp signs
  cases type <;> simp only [NodeType.sign?,Option.some.injEq,reduceCtorEq] at own <;> subst own <;> decide

theorem sign_unique {c : Char} (own : type.sign? = some c) (also : other.sign? = some c) (plain : c ≠ '-') :
    type = other := by
  cases type <;> simp only [NodeType.sign?,Option.some.injEq,reduceCtorEq] at own <;> subst own <;>
    cases other <;> first | rfl | exact absurd rfl plain | simp [NodeType.sign?] at also

theorem keyword_unsigned {keyword : Keyword} (own : type.keyword? = some keyword) : type.sign? = none := by
  cases type <;> first | rfl | cases own

def openings (dictionary : Dictionary) (type : NodeType) : List (List Text) :=
  (type.keyword?.toList.flatMap fun keyword => tried (dictionary.words keyword)).map fun word => folded word.runs

-- Words without marks in them, by which no line is of two types. A step keyword must
-- not even be the start of another opening.
def distinct (dictionary : Dictionary) : Bool :=
  priority.all fun type =>
    (type.keyword?.toList.all fun keyword => (tried (dictionary.words keyword)).all fun word =>
      word.runs.all fun piece => !piece.isEmpty && piece.all fun c => !isMark (Unicode.fold c)) &&
    priority.all fun other => type = other ||
      (openings dictionary type).all fun first => (openings dictionary other).all fun second =>
        first ≠ second && !(type.isStep && first.isPrefixOf second)

-- One language at a time, so that no single evaluation grows large.
theorem english_distinct : distinct Dictionary.english = true := by decide
theorem portuguese_distinct : distinct Dictionary.portuguese = true := by decide
theorem spanish_distinct : distinct Dictionary.spanish = true := by decide

theorem builtin_distinct : Dictionary.builtin.all distinct = true := by
  simp only [Dictionary.builtin,List.all_cons,List.all_nil,english_distinct,portuguese_distinct,spanish_distinct,
    Bool.and_true]

theorem distinct_solid {keyword : Keyword} {word : Text} (set : distinct dictionary = true)
    (own : type.keyword? = some keyword) (member : word ∈ tried (dictionary.words keyword)) : Solid word.runs := by
  have part := (Bool.and_eq_true_iff.mp (List.all_eq_true.mp set type (priority_whole type))).1
  rw [own,Option.toList_some,List.all_cons,List.all_nil,Bool.and_true] at part
  intro piece inside
  have kept := List.all_eq_true.mp (List.all_eq_true.mp part word member) piece inside
  obtain ⟨filled,plain⟩ := Bool.and_eq_true_iff.mp kept
  refine ⟨by simpa using filled,fun c within => ?_⟩
  simpa using List.all_eq_true.mp plain c within

theorem distinct_apart {keyword another : Keyword} {word next : Text} (set : distinct dictionary = true)
    (own : type.keyword? = some keyword) (also : other.keyword? = some another)
    (member : word ∈ tried (dictionary.words keyword)) (inside : next ∈ tried (dictionary.words another))
    (apart : type ≠ other) : folded word.runs ≠ folded next.runs ∧
      (type.isStep = true → ¬folded word.runs <+: folded next.runs) := by
  have pairs := (Bool.and_eq_true_iff.mp (List.all_eq_true.mp set type (priority_whole type))).2
  have pair := List.all_eq_true.mp pairs other (priority_whole other)
  rw [Bool.or_eq_true,decide_eq_true_eq] at pair
  have first : folded word.runs ∈ openings dictionary type :=
    List.mem_map_of_mem (List.mem_flatMap.mpr ⟨keyword,by rw [own]; exact List.mem_cons_self,member⟩)
  have second : folded next.runs ∈ openings dictionary other :=
    List.mem_map_of_mem (List.mem_flatMap.mpr ⟨another,by rw [also]; exact List.mem_cons_self,inside⟩)
  have kept := List.all_eq_true.mp (List.all_eq_true.mp (pair.resolve_left apart) _ first) _ second
  obtain ⟨differ,start⟩ := Bool.and_eq_true_iff.mp kept
  refine ⟨of_decide_eq_true differ,fun step less => ?_⟩
  rw [step,Bool.true_and,List.isPrefixOf_iff_prefix.mpr less] at start
  cases start

theorem keyword_head {keyword : Keyword} {word rest : Text} (set : distinct dictionary = true)
    (own : type.keyword? = some keyword) (member : word ∈ tried (dictionary.words keyword))
    (stands : afterWord word (trimStart (uncommented line)) = some rest) :
    ∃ c, (trimStart line).head? = some c ∧ isMark c = false := by
  obtain ⟨c,head,plain⟩ := afterPieces_head (distinct_solid set own member) (tried_filled member) stands
  exact ⟨c,uncommented_head (uncommented_starts line) head,plain⟩

-- Where a mark comes first it is the sign of the type, as keywords start with none.
theorem Opens.marked {c : Char} (set : distinct dictionary = true) (opens : Opens dictionary line type)
    (head : (trimStart line).head? = some c) (mark : isMark c = true) : type.sign? = some c := by
  cases opens with
  | sign own same => rw [own,← same,head]
  | keyword own member stands follows =>
    obtain ⟨d,start,plain⟩ := keyword_head set own member stands
    rw [head] at start
    cases start
    rw [mark] at plain
    cases plain

theorem Opens.undashed {keyword : Keyword} (set : distinct dictionary = true) (own : type.keyword? = some keyword)
    (opens : Opens dictionary line type) : (trimStart line).head? ≠ some '-' := by
  intro dash
  have sign := opens.marked set dash (by decide)
  rw [keyword_unsigned own] at sign
  cases sign

theorem opens_unique (set : distinct dictionary = true) (item : (trimStart line).head? ≠ some '-')
    (first : Opens dictionary line type) (second : Opens dictionary line other) : type = other := by
  cases first with
  | sign own head => exact sign_unique own (second.marked set head (sign_mark own)) fun dash => item (dash ▸ head)
  | keyword own member stands follows =>
    cases second with
    | sign also head =>
      have none := (Opens.keyword own member stands follows).marked set head (sign_mark also)
      rw [keyword_unsigned own] at none
      cases none
    | keyword also inside there goes =>
      by_contra apart
      obtain ⟨differ,start⟩ := distinct_apart set own also member inside apart
      obtain ⟨_,begin⟩ := distinct_apart set also own inside member (Ne.symm apart)
      rcases afterPieces_compare (distinct_solid set own member) (distinct_solid set also inside)
        (tried_filled member) (tried_filled inside) stands there follows.1 goes.1 with same | ⟨less,on⟩ | ⟨more,on⟩
      · exact differ same
      · exact start (follows.2 on) less
      · exact begin (goes.2 on) more

def items : List NodeType := [.definition .constant, .definition .regex, .uiProperty, .databaseProperty]

theorem items_sign {c : Char} (own : type.sign? = some c) (item : c = '-') : type ∈ items := by
  subst item
  cases type <;> first | decide | (rename_i kind; cases kind <;> decide) | cases own

theorem uncommented_filled {c : Char} (head : (trimStart line).head? = some c) (plain : c ≠ '#') :
    (trimStart (uncommented line)).head? = some c := by
  have filled : trimStart (uncommented line) ≠ [] := by
    unfold uncommented
    intro none
    split at none
    · rw [none] at head; cases head
    · rw [none] at head; cases head
    · split at none
      · rw [none] at head; cases head
      · rename_i mark before found
        split at none
        · rw [none] at head; cases head
        · have sign : mark = '#' := by
            have stop := List.head?_dropWhile_not (fun c => decide (c ≠ '#')) line.reverse
            rw [found] at stop
            simpa using stop
          have parts := List.takeWhile_append_dropWhile (p := fun c => decide (c ≠ '#')) (l := line.reverse)
          rw [found] at parts
          have whole : line = before.reverse ++ '#' :: (line.reverse.takeWhile fun c => decide (c ≠ '#')).reverse := by
            have turned := congrArg List.reverse parts
            rw [List.reverse_append,List.reverse_reverse,List.reverse_cons,List.append_assoc,sign] at turned
            exact turned.symm
          have blank : ∀ d ∈ before.reverse, Unicode.isBlank d = true := List.dropWhile_eq_nil_iff.mp none
          rw [whole,trimStart,List.dropWhile_append_of_pos blank] at head
          cases head
          exact plain rfl
  obtain ⟨d,rest,start,_⟩ := trimStart_filled filled
  have same : (trimStart line).head? = some d := uncommented_head (uncommented_starts line) (by rw [start]; rfl)
  rw [head] at same
  rw [start,same]
  rfl

theorem item_taken (dash : (trimStart line).head? = some '-') (single : '\n' ∉ line) :
    (reader dictionary .uiProperty line number).isSome = true := by
  have head := uncommented_filled dash (by decide)
  simp only [reader,NodeLexer.ofDictionary,NodeLexer.read,readItem]
  split
  · rename_i rest start
    have inside : (trimStart rest) <:+: line := by
      have tail : trimStart rest <:+ trimStart (uncommented line) :=
        (List.dropWhile_suffix _).trans (start ▸ List.suffix_cons '-' rest)
      exact ((tail.trans (List.dropWhile_suffix _)).isInfix).trans (uncommented_starts line).isInfix
    have clean : '\n' ∉ trimStart rest := fun there => single (inside.subset there)
    simp [oneLine,clean]
  · rename_i other
    cases start : trimStart (uncommented line) with
    | nil => rw [start] at head; cases head
    | cons c rest =>
      rw [start] at head
      cases head
      exact absurd start (other rest)

end Line
end ScenarioLang
