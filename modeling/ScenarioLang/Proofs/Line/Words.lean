import ScenarioLang.Proofs.Line.Definition
import ScenarioLang.Proofs.Line.Import

namespace ScenarioLang

namespace Words
open Unicode Text

variable {pieces : List Text} {words : List Text} {word rest : Text} {accept : Text → Text → Option α}

theorem covers_spaced (solid : ∀ piece ∈ pieces, piece ≠ [] ∧ ∀ c ∈ piece, isBlank c = false)
    (some : pieces ≠ []) : Covers pieces (spaced pieces) := by
  induction pieces with
  | nil => exact absurd rfl some
  | cons piece pieces ih =>
    obtain ⟨⟨filled,plain⟩,others⟩ := List.forall_mem_cons.mp solid
    cases pieces with
    | nil =>
      rw [spaced,List.intercalate_singleton]
      exact .single filled plain rfl
    | cons next pieces =>
      rw [spaced,List.intercalate_cons_cons,List.append_assoc]
      exact .more filled plain rfl ⟨[' '],by decide⟩ (List.cons_ne_nil _ _) (ih others (List.cons_ne_nil next pieces))

theorem runs_spaced (solid : ∀ piece ∈ pieces, piece ≠ [] ∧ ∀ c ∈ piece, isBlank c = false) :
    runs (spaced pieces) = pieces := by
  induction pieces with
  | nil => rfl
  | cons piece pieces ih =>
    obtain ⟨⟨filled,plain⟩,others⟩ := List.forall_mem_cons.mp solid
    cases pieces with
    | nil => rw [spaced,List.intercalate_singleton,runs_solid filled plain]
    | cons next pieces =>
      rw [spaced,List.intercalate_cons_cons,List.append_assoc,List.singleton_append,runs_around (by decide),
        runs_solid filled plain]
      exact congrArg (piece :: ·) (ih others)

theorem Covers.plain (filled : word.allBlank = false) : Covers word.runs (spaced word.runs) := by
  refine covers_spaced (fun piece member => ⟨run_filled member,run_solid member⟩) ?_
  rw [ne_eq,runs_nil_iff,filled]
  exact Bool.false_ne_true

theorem capture_plain (member : word ∈ words) (filled : word.allBlank = false)
    (taken : (accept (spaced word.runs) rest).isSome = true) :
    (capture words (spaced word.runs ++ rest) accept).isSome = true := by
  rw [Option.isSome_iff_ne_none] at taken ⊢
  exact fun none => taken (capture_none_iff.mp none word member _ rest rfl (.plain filled))

theorem spaced_unsigned (filled : word.allBlank = false) (unsigned : '#' ∉ word) : '#' ∉ spaced word.runs :=
  (Covers.plain filled).bare unsigned (fun _ same => eq_of_fold (same.trans (by decide)) (by decide) (by decide))
    (by decide)

theorem getLast?_trimmed {t : Text} (trimmed : trim t = t) : t.getLast? = (runs t).flatten.getLast? := by
  rw [flatten_runs]
  cases last : t.getLast? with
  | none => rw [List.getLast?_eq_none_iff.mp last]; rfl
  | some c =>
    obtain ⟨front,rfl⟩ := List.getLast?_eq_some_iff.mp last
    have solid := (trimmed_iff.mp trimmed).2 c last
    simp [solid]

theorem getLast?_spaced (filled : word.allBlank = false) : (spaced word.runs).getLast? = (trim word).getLast? := by
  rw [getLast?_trimmed (Covers.plain filled).trimmed,getLast?_trimmed (trim_trim word),runs_trim,
    runs_spaced fun piece member => ⟨run_filled member,run_solid member⟩]

def Closed (word : Text) : Prop := (trim word).getLast?.any isWordChar = true

end Words

def NodeType.worded? : NodeType → Option Keyword
  | .language => some .language
  | .definition _ => some .is
  | type => type.keyword?

namespace Line
open Unicode Text Words

variable {dictionary : Dictionary} {type : NodeType} {keyword : Keyword} {words : List Text} {word rest behind : Text}

def frame : NodeType → Text × Text
  | .language => (['#'],": en".toList)
  | .importPath => ([]," \"a\"".toList)
  | .step _ => ([]," x".toList)
  | .definition _ => ("- \"n\" ".toList," \"v\"".toList)
  | .background | .variantBackground | .block _ | .event _ => ([],[':'])
  | _ => ([],": X".toList)

def plainest (type : NodeType) (word : Text) : Text := (frame type).1 ++ (spaced word.runs ++ (frame type).2)

theorem trimStart_plain (filled : word.allBlank = false) (behind : Text) :
    trimStart (spaced word.runs ++ behind) = spaced word.runs ++ behind := by
  have covers := Covers.plain filled
  obtain ⟨c,rest,start⟩ := List.exists_cons_of_ne_nil covers.filled
  have solid := (trimmed_iff.mp covers.trimmed).1 c (by rw [start]; rfl)
  rw [start,List.cons_append,trimStart_stays solid]

theorem content_plain (filled : word.allBlank = false) (unsigned : '#' ∉ word) (plain : '#' ∉ behind) :
    trimStart (uncommented (spaced word.runs ++ behind)) = spaced word.runs ++ behind := by
  have none : '#' ∉ spaced word.runs ++ behind := by
    rw [List.mem_append,not_or]
    exact ⟨spaced_unsigned filled unsigned,plain⟩
  rw [uncommented_unsigned none,trimStart_plain filled]

theorem isSome_then {x : Option α} {f : α → Option β} (heard : x.isSome = true)
    (all : ∀ value, (f value).isSome = true) : (x >>= f).isSome = true := by
  obtain ⟨value,same⟩ := Option.isSome_iff_exists.mp heard
  rw [same]
  exact all value

section
variable {pattern : KeywordPattern} (member : word ∈ pattern.words) (filled : word.allBlank = false)
  (unsigned : '#' ∉ word) (number : Nat)
include member filled unsigned

theorem readNamed_worded (type : NodeType) :
    (readNamed type pattern (spaced word.runs ++ ": X".toList) number).isSome = true := by
  have colon : (afterColon ": X".toList).isSome = true := by decide
  rw [readNamed,KeywordPattern.captureWith_words,content_plain filled unsigned (by decide)]
  exact isSome_then (capture_plain member filled colon) fun _ => rfl

theorem readNumbered_worded (type : NodeType) :
    (readNumbered type pattern (spaced word.runs ++ ": X".toList) number).isSome = true := by
  have colon : (numberAndRest ": X".toList).isSome = true := by decide
  rw [readNumbered,KeywordPattern.captureWith_words,content_plain filled unsigned (by decide)]
  exact isSome_then (capture_plain member filled colon) fun _ => rfl

theorem readBlock_worded (type : NodeType) : (readBlock type pattern (spaced word.runs ++ [':']) number).isSome = true := by
  rw [readBlock,KeywordPattern.captureWith_words,content_plain filled unsigned (by decide)]
  exact isSome_then (capture_plain member filled (by decide)) fun _ => rfl

theorem readStep_worded (type : NodeType) :
    (readStep type pattern (spaced word.runs ++ " x".toList) number).isSome = true := by
  rw [readStep,KeywordPattern.captureWith_words,content_plain filled unsigned (by decide)]
  exact isSome_then (capture_plain member filled (by rw [Option.isSome_map]; decide)) fun _ => rfl

theorem readImport_worded : (readImport pattern (spaced word.runs ++ " \"a\"".toList) number).isSome = true := by
  have quote : (takeQuoted " \"a\"".toList).isSome = true := by decide
  rw [readImport_capture,content_plain filled unsigned (by decide),Option.isSome_map]
  exact capture_plain member filled quote

omit unsigned in
theorem readLanguage_worded : (readLanguage pattern ('#' :: (spaced word.runs ++ ": en".toList)) number).isSome = true := by
  rw [readLanguage,trimStart_stays hash_solid]
  simp only [KeywordPattern.captureWith_words,trimStart_plain filled]
  exact isSome_then (capture_plain member filled (by decide)) fun _ => rfl

end

def takeDefined (word rest : Text) : Option Text :=
  if isWordEdge word.getLast? rest.head? then oneLine (trimStart rest) else none

theorem takeDefined_iff {taken : Text} : takeDefined word rest = some taken ↔
    isWordEdge word.getLast? rest.head? = true ∧ '\n' ∉ trimStart rest ∧ trimStart rest = taken := by
  simp [takeDefined,oneLine]

def plainValue : Text := " \"v\"".toList

-- A word that is heard in a plain definition: a word edge is behind it, and the words no
-- shorter than it that stand in its place reach no further and no less far.
structure Heard (words : List Text) (word : Text) : Prop where
  closed : Closed word
  first : ∀ other ∈ words, ∀ covered rest, spaced word.runs ++ plainValue = covered ++ rest →
    Covers other.runs covered → isWordEdge covered.getLast? rest.head? = true →
    (trim word).length ≤ (trim other).length → covered = spaced word.runs

theorem edge_plain (filled : word.allBlank = false) :
    isWordEdge (spaced word.runs).getLast? plainValue.head? = true ↔ Closed word := by
  have blank : plainValue.head?.any isWordChar = false := by decide
  rw [getLast?_spaced filled,Closed,isWordEdge,blank,Bool.bne_false]

theorem readDefinition_worded (filled : word.allBlank = false) (unsigned : '#' ∉ word) (kind : DefinitionKind)
    (pattern : KeywordPattern) (number : Nat) :
    (readDefinition kind pattern (plainest (.definition kind) word) number).isSome = true ↔
      ∃ written, capture pattern.words (spaced word.runs ++ plainValue) takeDefined = some written ∧
        (definitionValue kind (trim written)).isSome = true := by
  have none : '#' ∉ plainest (.definition kind) word := by
    change '#' ∉ "- \"n\" ".toList ++ (spaced word.runs ++ plainValue)
    rw [List.mem_append,List.mem_append,not_or,not_or]
    exact ⟨by decide,spaced_unsigned filled unsigned,by decide⟩
  have content : trimStart (uncommented (plainest (.definition kind) word)) =
      '-' :: (" \"n\" ".toList ++ (spaced word.runs ++ plainValue)) := by
    rw [uncommented_unsigned none]
    exact trimStart_stays dash_solid _
  have name : quoted (trimStart (" \"n\" ".toList ++ (spaced word.runs ++ plainValue))) =
      some (['n'],' ' :: (spaced word.runs ++ plainValue)) := by
    have blank : isBlank ' ' = true := by decide
    have escaped : wellEscaped ['n'] = true := by decide
    have start : trimStart (" \"n\" ".toList ++ (spaced word.runs ++ plainValue)) =
        '"' :: (['n'] ++ '"' :: ' ' :: (spaced word.runs ++ plainValue)) := by
      change trimStart (' ' :: '"' :: _) = _
      rw [trimStart_cons,if_pos blank,trimStart_stays quote_solid]
      rfl
    rw [start,quoted_escaped escaped]
  have behind : trimStart (' ' :: (spaced word.runs ++ plainValue)) = spaced word.runs ++ plainValue := by
    exact (trimStart_blank space_blank _).trans (trimStart_plain filled _)
  have parts : definitionParts pattern (plainest (.definition kind) word) =
      (capture pattern.words (spaced word.runs ++ plainValue) takeDefined).map fun written => (['n'],written) := by
    rw [definitionParts,content]
    simp only [name,behind,Option.bind_eq_bind,Option.bind_some,Option.map_eq_bind]
    rfl
  rw [readDefinition_parts,parts]
  cases capture pattern.words (spaced word.runs ++ plainValue) takeDefined with
  | none => simp
  | some written => simp

theorem takeDefined_plain (filled : word.allBlank = false) (closed : Closed word) :
    takeDefined (spaced word.runs) plainValue = some "\"v\"".toList := by
  rw [takeDefined_iff]
  exact ⟨(edge_plain filled).mpr closed,by decide,by decide⟩

theorem readDefinition_heard {pattern : KeywordPattern} (member : word ∈ pattern.words)
    (filled : word.allBlank = false) (unsigned : '#' ∉ word) (heard : Heard pattern.words word)
    (kind : DefinitionKind) (number : Nat) : (readDefinition kind pattern (plainest (.definition kind) word) number).isSome = true := by
  rw [readDefinition_worded filled unsigned]
  have own := takeDefined_plain filled heard.closed
  have some := capture_plain member filled (by rw [own]; rfl : (takeDefined (spaced word.runs) plainValue).isSome = true)
  obtain ⟨written,captured⟩ := Option.isSome_iff_exists.mp some
  refine ⟨written,captured,?_⟩
  obtain ⟨other,among,covered,rest,whole,covers,taken,longest⟩ := capture_longest captured
  have refused : takeDefined (spaced word.runs) plainValue ≠ none := by rw [own]; exact Option.some_ne_none _
  have less := longest word member _ _ rfl (.plain filled) refused
  have same := heard.first other among covered rest whole covers (takeDefined_iff.mp taken).1 less
  subst same
  rw [← List.append_cancel_left whole,own] at taken
  cases taken
  cases kind <;> decide

theorem covered_ahead {covered : Text} (bare : '"' ∉ covered) (trimmed : trim covered = covered)
    {t : Text} (whole : t ++ plainValue = covered ++ rest) :
    ∃ more, t = covered ++ more ∧ rest = more ++ plainValue := by
  rcases List.append_eq_append_iff.mp whole with ⟨more,longer,value⟩ | ⟨more,shorter,behind⟩
  · cases more with
    | nil => exact ⟨[],by simpa using longer.symm,by simpa using value.symm⟩
    | cons c more =>
      exfalso
      have last := (trimmed_iff.mp trimmed).2
      cases more with
      | nil =>
        have blank : c = ' ' := (List.cons.inj value).1.symm
        have solid := last c (by rw [longer,List.getLast?_concat])
        rw [blank] at solid
        exact absurd solid (by decide)
      | cons d more =>
        have quote : d = '"' := (List.cons.inj (List.cons.inj value).2).1.symm
        exact bare (by simp [longer,quote])
  · exact ⟨more,shorter,behind⟩

theorem heard_tight (plain : ∀ other ∈ words, '"' ∉ other ∧ Tight other) (filled : word.allBlank = false)
    (closed : Closed word) : Heard words word := by
  refine ⟨closed,?_⟩
  intro other member covered rest whole covers _ less
  obtain ⟨bare,tight⟩ := plain other member
  obtain ⟨more,parts,_⟩ := covered_ahead (covers.bare bare quote_alone quote_solid) covers.trimmed whole
  cases more with
  | nil => rw [parts,List.append_nil]
  | cons c more =>
    have further : Covers word.runs (covered ++ c :: more) := parts ▸ .plain filled
    have longer := covers.reaches further (List.cons_ne_nil c more)
    have own := length_spaced_le word
    rw [Tight] at tight
    omega

theorem definitionValue_ahead {kind : DefinitionKind} {more : Text} (bare : '"' ∉ more) (filled : more.allBlank = false) :
    definitionValue kind (trim (trimStart (more ++ plainValue))) = none := by
  have solids := trimStart_solid filled
  obtain ⟨c,tail,start,solid⟩ := trimStart_filled solids
  have among : c ∈ trimStart more := by
    rw [start]
    exact List.mem_cons_self
  have apart : c ≠ '"' := by
    rintro rfl
    exact bare (List.dropWhile_subset isBlank among)
  have quote : '"' ∈ tail ++ plainValue := List.mem_append_right _ (by decide)
  have last : (c :: (tail ++ plainValue)).getLast? = some '"' := by
    change ((c :: tail) ++ (" \"v".toList ++ ['"'])).getLast? = _
    rw [← List.append_assoc,List.getLast?_concat]
  have unquoted : quoted (c :: (tail ++ plainValue)) = none := by
    simp [quoted,apart]
  have numeral : isNumeral (c :: (tail ++ plainValue)) = false := by
    by_contra numeral
    rw [Bool.not_eq_false] at numeral
    exact absurd (numeral_chars numeral '"' (List.mem_cons_of_mem c quote)) (by decide)
  rw [trimStart_append solids,start,List.cons_append,trim_ends rfl solid last quote_solid]
  simp [definitionValue,unquoted,numeral]

theorem readDefinition_tight {pattern : KeywordPattern} (member : word ∈ pattern.words)
    (plain : ∀ other ∈ pattern.words, '"' ∉ other ∧ Tight other) (filled : word.allBlank = false)
    (unsigned : '#' ∉ word) (kind : DefinitionKind) (number : Nat) :
    (readDefinition kind pattern (plainest (.definition kind) word) number).isSome = true ↔ Closed word := by
  constructor
  · intro read
    obtain ⟨written,captured,valued⟩ := (readDefinition_worded filled unsigned kind pattern number).mp read
    obtain ⟨other,among,covered,rest,whole,covers,taken,_⟩ := capture_longest captured
    obtain ⟨edge,_,start⟩ := takeDefined_iff.mp taken
    have bare := covers.bare (plain other among).1 quote_alone quote_solid
    obtain ⟨more,parts,behind⟩ := covered_ahead bare covers.trimmed whole
    have own := Covers.plain filled
    rw [parts] at own
    cases more with
    | nil =>
      rw [List.append_nil] at parts
      rw [behind,← parts] at edge
      exact (edge_plain filled).mp edge
    | cons c more =>
      exfalso
      have inside : '"' ∉ c :: more := fun quote =>
        own.bare (plain word member).1 quote_alone quote_solid (List.mem_append_right _ quote)
      have filled := List.cons_ne_nil c more
      have ending := List.getLast?_eq_some_getLast filled
      have solid := (trimmed_iff.mp own.trimmed).2 _ (by rw [List.getLast?_append_of_ne_nil _ filled,ending])
      have unblank : Text.allBlank (c :: more) = false :=
        List.all_eq_false.mpr ⟨_,List.getLast_mem filled,by simp [solid]⟩
      rw [← start,behind,definitionValue_ahead inside unblank] at valued
      cases valued
  · exact fun closed => readDefinition_heard member filled unsigned (heard_tight plain filled closed) kind number

theorem reader_worded (own : type.worded? = some keyword) (apart : keyword ≠ .is)
    (member : word ∈ dictionary.words keyword) (filled : word.allBlank = false) (unsigned : '#' ∉ word) (number : Nat) :
    (reader dictionary type (plainest type word) number).isSome = true := by
  cases type with
  | language => cases own; exact readLanguage_worded (List.mem_append_left _ member) filled number
  | importPath => cases own; exact readImport_worded member filled unsigned number
  | variant => cases own; exact readNumbered_worded member filled unsigned number .variant
  | feature => cases own; exact readNamed_worded member filled unsigned number .feature
  | scenario => cases own; exact readNamed_worded member filled unsigned number .scenario
  | testCase => cases own; exact readNamed_worded member filled unsigned number .testCase
  | table => cases own; exact readNamed_worded member filled unsigned number .table
  | database => cases own; exact readNamed_worded member filled unsigned number .database
  | uiElement => cases own; exact readNamed_worded member filled unsigned number .uiElement
  | background => cases own; exact readBlock_worded member filled unsigned number .background
  | variantBackground => cases own; exact readBlock_worded member filled unsigned number .variantBackground
  | block kind => cases own; exact readBlock_worded member filled unsigned number (.block kind)
  | event kind => cases own; exact readBlock_worded member filled unsigned number (.event kind)
  | step kind => cases own; exact readStep_worded member filled unsigned number (.step kind)
  | definition kind => cases own; exact absurd rfl apart
  | tag | tableRow | databaseProperty | uiProperty | text | longString => cases own

-- No word of a dictionary is dead, that of definitions aside. One of those is heard where
-- no other listed word takes its place; without quotes and spare blanks among them, the
-- words that end in a letter, a digit or another character of words are the ones heard.
theorem words_heard {dictionary : Dictionary} {type : NodeType} {keyword : Keyword} {word : Text}
    (own : type.worded? = some keyword) (member : word ∈ dictionary.words keyword) (filled : word.allBlank = false)
    (unsigned : '#' ∉ word) (number : Nat) :
    (keyword ≠ .is → (reader dictionary type (plainest type word) number).isSome = true) ∧
    (keyword = .is → Heard (dictionary.words .is) word →
      (reader dictionary type (plainest type word) number).isSome = true) ∧
    (keyword = .is → (∀ other ∈ dictionary.words .is, '"' ∉ other ∧ Tight other) →
      ((reader dictionary type (plainest type word) number).isSome = true ↔ Closed word)) := by
  have defines : keyword = .is → ∃ kind, type = .definition kind := by
    rintro rfl
    cases type <;> cases own
    exact ⟨_,rfl⟩
  refine ⟨fun apart => reader_worded own apart member filled unsigned number,?_,?_⟩
  · intro is heard
    obtain ⟨kind,rfl⟩ := defines is
    exact readDefinition_heard (is ▸ member) filled unsigned heard kind number
  · intro is plain
    obtain ⟨kind,rfl⟩ := defines is
    exact readDefinition_tight (is ▸ member) plain filled unsigned kind number

theorem words_heard_signs :
    let step : Text := " a+  (b)? ".toList
    let words : List Text := ["vale por".toList,"vale".toList,['=']]
    let dictionary : Dictionary := ⟨"zz".toList,fun keyword => if keyword = .is then words else [['a'],step]⟩
    (step ∈ dictionary.words (.step .given) ∧ step.allBlank = false ∧ '#' ∉ step ∧
      (reader dictionary (.step .given) "a+ (b)? x".toList 1).isSome = true) ∧
    (Heard words "vale".toList ∧ (reader dictionary (.definition .regex) "- \"n\" vale \"v\"".toList 1).isSome = true) ∧
    ((∀ other ∈ words, '"' ∉ other ∧ Tight other) ∧
      (reader dictionary (.definition .constant) "- \"n\" vale por \"v\"".toList 1).isSome = true) := by
  intro step words dictionary
  have stepping : NodeType.worded? (.step .given) = some (.step .given) := rfl
  have defining : ∀ kind, NodeType.worded? (.definition kind) = some .is := fun _ => rfl
  have among : step ∈ dictionary.words (.step .given) := by decide
  have filled : step.allBlank = false := by decide
  have unsigned : '#' ∉ step := by decide
  have listed : dictionary.words .is = words := by decide
  have first : "vale por".toList ∈ dictionary.words .is := by decide
  have second : "vale".toList ∈ dictionary.words .is := by decide
  have tight : ∀ other ∈ words, '"' ∉ other ∧ Tight other := by
    unfold Tight
    decide
  have closed : Closed "vale por".toList ∧ Closed "vale".toList := by
    unfold Closed
    decide
  have heard : Heard words "vale".toList := heard_tight tight (by decide) closed.2
  obtain ⟨steps,_,_⟩ := words_heard stepping among filled unsigned 1
  obtain ⟨_,short,_⟩ := words_heard (defining .regex) second (by decide) (by decide) 1
  obtain ⟨_,_,long⟩ := words_heard (defining .constant) first (by decide) (by decide) 1
  rw [listed] at short long
  exact ⟨⟨among,filled,unsigned,steps (by decide)⟩,⟨heard,short rfl heard⟩,tight,(long rfl tight).mpr closed.1⟩

-- An equals sign is no word of definitions, and a listed quote hides a word beside it.
theorem words_unheard :
    let sign : Dictionary := ⟨"zz".toList,fun _ => [['=']]⟩
    let quote : Dictionary := ⟨"zz".toList,fun _ => ["is".toList,"is \"".toList]⟩
    ¬ (∀ (dictionary : Dictionary) (kind : DefinitionKind), ∀ word ∈ dictionary.words .is, word.allBlank = false →
      '#' ∉ word → (reader dictionary (.definition kind) (plainest (.definition kind) word) 1).isSome = true) ∧
    (∀ kind, reader sign (.definition kind) "- \"n\" = \"v\"".toList 1 = none) ∧
    ∀ kind, reader quote (.definition kind) "- \"n\" is \"v\"".toList 1 = none := by
  intro sign quote
  have equals : ∀ kind, reader sign (.definition kind) "- \"n\" = \"v\"".toList 1 = none := by
    rintro ⟨⟩ <;> decide
  refine ⟨?_,equals,by rintro ⟨⟩ <;> decide⟩
  intro all
  have heard := all sign .constant ['='] (by decide) (by decide) (by decide)
  have line : plainest (.definition .constant) ['='] = "- \"n\" = \"v\"".toList := by decide
  rw [line,equals] at heard
  cases heard

end Line
end ScenarioLang
