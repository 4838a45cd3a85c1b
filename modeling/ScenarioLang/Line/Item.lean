import ScenarioLang.Line.Header
import ScenarioLang.Text.Literal
import ScenarioLang.Unicode.WordChar

namespace ScenarioLang.Line
open Text

def readItem (type : NodeType) : LineReader := fun line number => do
  let content := uncommented line
  match trimStart content with
  | '-' :: rest =>
    let value := trim (← oneLine (trimStart rest))
    let location := Location.ofContent line number
    let faults := if value = [] then [.emptyItem type] else []
    return .ofNode ⟨type,location,trim content,.value value⟩ (report location faults)
  | _ => none

def isBar (c : Char) : Bool := c = '|'

-- Pairs of neighbouring bars, the first character counted as following a bar
-- or not.
def touchingAfter : Bool → Text → Nat
  | _,[] => 0
  | afterBar,c :: rest => (if afterBar && isBar c then 1 else 0) + touchingAfter (isBar c) rest

def touching (t : Text) : Nat := touchingAfter false t

def spread : Text → Text
  | '|' :: '|' :: rest => '|' :: ' ' :: '|' :: spread rest
  | c :: rest => c :: spread rest
  | [] => []

theorem head?_spread (t : Text) : (spread t).head? = t.head? := by
  fun_cases spread t <;> simp

theorem touchingAfter_spread_le (t : Text) (afterBar : Bool) :
    touchingAfter afterBar (spread t) ≤ touchingAfter afterBar t := by
  fun_induction spread t generalizing afterBar with
  | case1 rest ih => have := ih true; cases afterBar <;> simp [touchingAfter,isBar] <;> omega
  | case2 c rest _ ih => have := ih (isBar c); simp only [touchingAfter]; omega
  | case3 => exact Nat.le_refl _

theorem touchingAfter_open (t : Text) (plain : t.head? ≠ some '|') :
    touchingAfter true t = touchingAfter false t := by
  cases t with
  | nil => rfl
  | cons c rest => simp_all [touchingAfter,isBar]

theorem touching_spread_lt (t : Text) (pair : touching t ≠ 0) : touching (spread t) < touching t := by
  unfold touching at *
  fun_induction spread t with
  | case1 rest ih =>
    have := touchingAfter_spread_le rest true
    simp [touchingAfter,isBar]; omega
  | case2 c rest single ih =>
    by_cases bar : c = '|'
    · subst bar
      have plain : rest.head? ≠ some '|' := by
        cases rest with
        | nil => simp
        | cons d rest => intro eq; simp at eq; subst eq; exact single rest rfl rfl
      have plain' : (spread rest).head? ≠ some '|' := by rwa [head?_spread]
      simp only [touchingAfter,isBar,decide_true,Bool.false_and,touchingAfter_open _ plain,
        touchingAfter_open _ plain'] at *
      have := ih (by simpa using pair)
      simpa using this
    · simp only [touchingAfter,isBar,bar,decide_false,Bool.false_and] at *
      have := ih (by simpa using pair)
      simpa using this
  | case3 => exact absurd rfl pair

-- An empty cell between two bars is given a space, until no two bars touch.
def separated (row : Text) : Text :=
  if touching row = 0 then row else separated (spread row)
termination_by touching row
decreasing_by exact touching_spread_lt _ (by assumption)

def cells (row : Text) : List Text :=
  (split isBar ((separated row).drop 1).dropLast).map trim

def readTableRow : LineReader := fun line number =>
  let content := trim (uncommented line)
  if content.head? = some '|' && content.getLast? = some '|' && 2 ≤ content.countP isBar then
    some (.ofNode ⟨.tableRow,Location.ofContent line number,content,.cells (cells content)⟩ [])
  else none

def delimiter : Text := "\"\"\"".toList

def readDelimiter : LineReader := fun line number => do
  let rest ← after delimiter (trimStart line)
  let node : Node := ⟨.longString,Location.ofContent line number,delimiter,.empty⟩
  match trimStart rest with
  | [] => return .ofNode node []
  | '#' :: comment => (oneLine comment).map fun _ => .ofNode node []
  | _ => none

def readText : LineReader := fun line number =>
  let content := trim (uncommented line)
  if (trimStart line).head? = some '#' || content = [] then none
  else some (.ofNode ⟨.text,Location.ofContent line number,content,.value content⟩ [])

def rawText (line : Text) (number : Nat) : Node :=
  ⟨.text,Location.ofContent line number,trim line,.value (trim line)⟩

-- Between two characters a word ends or begins when one of them is a word
-- character and the other is not. Both ends of the text count as no character.
def isWordEdge (before after : Option Char) : Bool :=
  before.any Unicode.isWordChar != after.any Unicode.isWordChar

def definitionValue (kind : DefinitionKind) (t : Text) : Option DefinitionValue :=
  match quoted t with
  | some (value,rest) => if allBlank rest then some (.text value) else none
  | none => if kind = .constant && isNumeral t then some (.number t) else none

def readDefinition (kind : DefinitionKind) (pattern : KeywordPattern) : LineReader := fun line number => do
  let content := uncommented line
  match trimStart content with
  | '-' :: item =>
    let (name,rest) ← quoted (trimStart item)
    let written ← pattern.captureWith (trimStart rest) fun word rest =>
      if isWordEdge word.getLast? rest.head? then oneLine (trimStart rest) else none
    let value ← definitionValue kind (trim written)
    let location := Location.ofContent line number
    let faults := if isName name then [] else [.invalidName (.definition kind) name]
    return .ofNode ⟨.definition kind,location,trim content,.definition name value⟩ (report location faults)
  | _ => none

end ScenarioLang.Line
