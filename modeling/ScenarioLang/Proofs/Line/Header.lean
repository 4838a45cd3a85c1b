import Mathlib.Data.Nat.Digits.Defs
import ScenarioLang.Proofs.Line.Item
import ScenarioLang.Proofs.Text.Comment
import ScenarioLang.Proofs.Text.Spelling

namespace ScenarioLang.Line
open Text Unicode

def headers : List NodeType := [.feature, .scenario, .variant, .testCase, .table, .database, .uiElement]

def decimal (digits : Text) : Nat := Nat.ofDigits 10 (digits.reverse.map fun c => c.toNat - '0'.toNat)

def IsNumber (digits : Text) : Prop :=
  digits ≠ [] ∧ (∀ c ∈ digits, isAsciiDigit c = true) ∧ decimal digits < 2 ^ 32

instance (digits : Text) : Decidable (IsNumber digits) := inferInstanceAs (Decidable (_ ∧ _))

-- A header with its blanks, the keyword in some letter case. Only a variant may have
-- digits behind it.
structure Heading (dictionary : Dictionary) where
  type : NodeType
  keyword : Keyword
  own : Text
  word : Text
  digits : Text
  name : Text
  before : Gap
  ahead : Gap
  inside : Gap
  behind : Gap
  after : Gap
  header : type ∈ headers
  opens : type.keyword? = some keyword
  among : own ∈ dictionary.words keyword
  spelled : Words.Spelled own.runs word
  numbered : digits ≠ [] → type = .variant
  decimals : ∀ c ∈ digits, isDigit c = true
  trimmed : trim name = name
  unsigned : '#' ∉ name
  single : '\n' ∉ name

namespace Heading

variable {dictionary : Dictionary} (heading : Heading dictionary)

def tail : Text := heading.inside.1 ++ ':' :: (heading.behind.1 ++ (heading.name ++ heading.after.1))

def rest : Text := heading.ahead.1 ++ (heading.digits ++ heading.tail)

def line : Text := heading.before.1 ++ (heading.word ++ heading.rest)

def data : NodeData :=
  if heading.type = .variant then .numberedName heading.name (number? heading.digits) else .name heading.name

def faults : List LexicalFault :=
  (if heading.digits = [] ∨ (number? heading.digits).isSome then [] else [.invalidNumber heading.type heading.digits]) ++
    nameFaults heading.type heading.name

def node (number : Nat) : Node :=
  ⟨heading.type,.ofContent heading.line number,trim heading.line,heading.data⟩

end Heading

theorem digitsValue_decimal (digits : Text) : digitsValue digits = decimal digits := by
  rw [decimal,Nat.ofDigits_eq_foldr,List.foldr_map,List.foldr_reverse,digitsValue]
  congr 1
  funext value c
  exact Nat.add_comm _ _

theorem number?_eq (digits : Text) : number? digits = if IsNumber digits then some (decimal digits) else none := by
  have same : (!digits.isEmpty && digits.all isAsciiDigit && decide (digitsValue digits < numberLimit)) = true ↔
      IsNumber digits := by
    simp only [Bool.and_eq_true,Bool.not_eq_true',List.isEmpty_eq_false_iff,List.all_eq_true,decide_eq_true_eq,
      digitsValue_decimal,and_assoc]
    rfl
  simp only [number?,same]
  rw [digitsValue_decimal]

theorem length_nameFaults (type : NodeType) (name : Text) :
    (nameFaults type name).length = if isName name = true then 0 else 1 := by
  unfold nameFaults
  split
  · rename_i none
    rw [none]
    rfl
  · split
    · rename_i other
      rw [if_neg (by simpa using other)]
      rfl
    · rename_i named
      rw [if_pos (by simpa using named)]
      rfl

theorem reader_named {dictionary : Dictionary} {type : NodeType} {keyword : Keyword} (header : type ∈ headers)
    (plain : type ≠ .variant) (own : type.keyword? = some keyword) :
    reader dictionary type = readNamed type (.ofDictionary keyword dictionary) := by
  simp only [headers,List.mem_cons,List.not_mem_nil,or_false] at header
  rcases header with rfl | rfl | rfl | rfl | rfl | rfl | rfl
  case inr.inr.inl => exact absurd rfl plain
  all_goals cases own; rfl

theorem builtin_trimmed : Dictionary.builtin.all (fun dictionary => headers.all fun type =>
    type.keyword?.toList.all fun keyword => (dictionary.words keyword).all fun word =>
      trim word = word && !word.isEmpty) = true := by decide

theorem afterColon_trims (t : Text) : afterColon (trimStart t) = afterColon t := by
  rw [afterColon,afterColon,trimStart_trimStart]

theorem numberAndRest_trims (t : Text) : numberAndRest (trimStart t) = numberAndRest t := by
  simp only [numberAndRest,afterColon_trims,trimStart_trimStart]

namespace Heading

variable {dictionary : Dictionary} (heading : Heading dictionary)

theorem tried (active : dictionary ∈ Dictionary.builtin) : heading.own ∈ Words.tried (dictionary.words heading.keyword) := by
  have set := List.all_eq_true.mp (List.all_eq_true.mp builtin_trimmed dictionary active) heading.type heading.header
  rw [heading.opens,Option.toList_some,List.all_cons,List.all_nil,Bool.and_true] at set
  have kept := List.all_eq_true.mp set heading.own heading.among
  simp only [Bool.and_eq_true,decide_eq_true_eq,Bool.not_eq_true',List.isEmpty_eq_false_iff] at kept
  exact Words.mem_tried.mpr ⟨List.mem_map.mpr ⟨_,heading.among,kept.1⟩,kept.2⟩

theorem solid (active : dictionary ∈ Dictionary.builtin) :
    ∀ word ∈ Words.tried (dictionary.words heading.keyword), Words.Solid word.runs :=
  fun _ member => distinct_solid (List.all_eq_true.mp builtin_distinct dictionary active) heading.opens member

theorem digits_plain (plain : heading.type ≠ .variant) : heading.digits = [] := by
  by_contra some
  exact plain (heading.numbered some)

theorem colon_undigit : isDigit ':' = false := by decide

theorem afterColon_tail : afterColon heading.tail = some (trimStart (heading.behind.1 ++ (heading.name ++ heading.after.1))) := by
  have clean : '\n' ∉ trimStart (heading.behind.1 ++ (heading.name ++ heading.after.1)) := by
    intro member
    have inside := (List.dropWhile_sublist isBlank).subset member
    simp [heading.behind.2.2,heading.single,heading.after.2.2] at inside
  rw [tail,afterColon,trimStart_blank heading.inside.2.1,trimStart_stays colon_solid]
  simp [oneLine,clean]

theorem name_trimmed : trim (trimStart (heading.behind.1 ++ (heading.name ++ heading.after.1))) = heading.name := by
  calc trim (trimStart (heading.behind.1 ++ (heading.name ++ heading.after.1)))
    _ = trim (heading.behind.1 ++ (heading.name ++ heading.after.1)) :=
      congrArg trimEnd (trimStart_trimStart _)
    _ = trim heading.name := trim_around heading.behind.blanks heading.after.blanks heading.name
    _ = heading.name := heading.trimmed

theorem tail_head : ∀ c, heading.tail.head? = some c → isDigit c = false := by
  exact heading.inside.blanks.head_apart _ (fun _ digit => isDigit_solid digit) fun c head =>
    Option.some.inj head ▸ colon_undigit

theorem numberAndRest_rest : numberAndRest heading.rest =
    (afterColon heading.tail).map fun value => (if heading.digits = [] then none else some heading.digits,value) := by
  rw [← numberAndRest_trims,rest,trimStart_blank heading.ahead.2.1,numberAndRest_trims]
  cases digits : heading.digits with
  | nil =>
    have none : (trimStart heading.tail).takeWhile isDigit = [] := by
      rw [tail,trimStart_blank heading.inside.2.1,trimStart_stays colon_solid,List.takeWhile_cons_of_neg (by simp [colon_undigit])]
    rw [List.nil_append,numberAndRest,none]
    rfl
  | cons d others =>
    have numeric : ∀ c ∈ d :: others, isDigit c = true := digits ▸ heading.decimals
    have start : trimStart (d :: others ++ heading.tail) = d :: others ++ heading.tail :=
      trimStart_stays (isDigit_solid (numeric d List.mem_cons_self)) _
    obtain ⟨taken,left⟩ := cut_run numeric heading.tail_head
    rw [numberAndRest,start,taken,left]
    rfl

theorem uncomments (active : dictionary ∈ Dictionary.builtin) : uncommented heading.line = heading.line := by
  have word : '#' ∉ heading.word :=
    heading.spelled.bare (heading.solid active _ (heading.tried active)) (by decide)
  have digits : '#' ∉ heading.digits := fun member => absurd (heading.decimals '#' member) (by decide)
  apply uncommented_unsigned
  simp [line,rest,tail,word,digits,heading.unsigned,Gap.unsigned]

theorem line_start (active : dictionary ∈ Dictionary.builtin) : trimStart heading.line = heading.word ++ heading.rest := by
  obtain ⟨c,more,start,plain⟩ := heading.spelled.head (heading.solid active _ (heading.tried active))
  rw [line,trimStart_blank heading.before.2.1,start]
  exact trimStart_stays (Words.unmarked_solid plain) _

theorem readNamed_heading (active : dictionary ∈ Dictionary.builtin) (bare : heading.digits = []) (number : Nat) :
    readNamed heading.type (.ofDictionary heading.keyword dictionary) heading.line number = some
      (.ofNode ⟨heading.type,.ofContent heading.line number,trim heading.line,.name heading.name⟩
        (report (.ofContent heading.line number) (nameFaults heading.type heading.name))) := by
  have found : afterColon heading.rest = some (trimStart (heading.behind.1 ++ (heading.name ++ heading.after.1))) := by
    rw [rest,bare,List.nil_append,← afterColon_trims,trimStart_blank heading.ahead.2.1,afterColon_trims]
    exact heading.afterColon_tail
  have captured := Words.capture_spelled (heading.solid active) (heading.tried active) heading.spelled afterColon_trims
    (fun t value given => ⟨':',afterColon_head given,by decide⟩) found
  simp only [readNamed,KeywordPattern.captureWith_words,KeywordPattern.ofDictionary_words,heading.uncomments active,heading.line_start active,captured,Option.bind_eq_bind,
    Option.bind_some,heading.name_trimmed]
  rfl

theorem readNumbered_heading (active : dictionary ∈ Dictionary.builtin) (number : Nat) :
    readNumbered heading.type (.ofDictionary heading.keyword dictionary) heading.line number = some
      (.ofNode ⟨heading.type,.ofContent heading.line number,trim heading.line,
          .numberedName heading.name (number? heading.digits)⟩
        (report (.ofContent heading.line number) heading.faults)) := by
  have found : numberAndRest heading.rest = some (if heading.digits = [] then none else some heading.digits,
      trimStart (heading.behind.1 ++ (heading.name ++ heading.after.1))) := by
    rw [heading.numberAndRest_rest,heading.afterColon_tail]
    rfl
  have captured := Words.capture_spelled (heading.solid active) (heading.tried active) heading.spelled numberAndRest_trims
    (fun t value given => numberAndRest_head given) found
  simp only [readNumbered,KeywordPattern.captureWith_words,KeywordPattern.ofDictionary_words,heading.uncomments active,heading.line_start active,captured,Option.bind_eq_bind,
    Option.bind_some,heading.name_trimmed,faults]
  cases digits : heading.digits with
  | nil => rfl
  | cons d others =>
    cases value : number? (d :: others) <;> simp [value]

theorem reader_heading (active : dictionary ∈ Dictionary.builtin) (number : Nat) :
    reader dictionary heading.type heading.line number = some
      (.ofNode (heading.node number) (report (.ofContent heading.line number) heading.faults)) := by
  by_cases variant : heading.type = .variant
  · have keyword : heading.keyword = .variant := by
      have own := heading.opens
      rw [variant] at own
      exact (Option.some.inj own).symm
    have read := heading.readNumbered_heading active number
    rw [node,data,if_pos variant]
    rw [variant,keyword] at read
    rw [variant]
    exact read
  · have bare := heading.digits_plain variant
    rw [reader_named heading.header variant heading.opens,heading.readNamed_heading active bare,node,data,
      if_neg variant,faults,if_pos (.inl bare)]
    rfl

theorem name_node (number : Nat) : (heading.node number).name? = some heading.name := by
  by_cases variant : heading.type = .variant
  · simp only [Node.name?,node,data,if_pos variant]
  · simp only [Node.name?,node,data,if_neg variant]

theorem number_node (number : Nat) : (heading.node number).number? =
    if IsNumber heading.digits then some (decimal heading.digits) else none := by
  rw [← number?_eq]
  by_cases variant : heading.type = .variant
  · simp only [Node.number?,node,data,if_pos variant]
  · simp only [Node.number?,node,data,if_neg variant]
    rw [heading.digits_plain variant]
    rfl

theorem length_faults : heading.faults.length = (if isName heading.name = true then 0 else 1) +
    (if heading.digits = [] ∨ IsNumber heading.digits then 0 else 1) := by
  have made : (number? heading.digits).isSome = true ↔ IsNumber heading.digits := by
    rw [number?_eq]
    split <;> simp [*]
  rw [faults,List.length_append,length_nameFaults,Nat.add_comm]
  simp only [made]
  congr 1
  split <;> rfl

end Heading
end ScenarioLang.Line
