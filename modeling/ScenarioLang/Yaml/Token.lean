import ScenarioLang.Yaml.Directive
import ScenarioLang.Yaml.Scalar

namespace ScenarioLang.Yaml

inductive ScalarStyle where
  | plain | quoted | literal | folded
  deriving DecidableEq, Repr

inductive Token where
  | directive (declared : Directive)
  | documentStart | documentEnd
  | blockSequenceStart | blockMappingStart | blockEnd
  | flowSequenceStart | flowSequenceEnd | flowMappingStart | flowMappingEnd
  | blockEntry | flowEntry | key | value
  | alias (name : Text) | anchor (name : Text) | tag (written : Tag)
  | scalar (style : ScalarStyle) (content : Text)
  deriving DecidableEq, Repr

-- A token that turns out to be a key if a colon follows on its line. It must be
-- a key where a block mapping is open at its column.
structure KeyCandidate where
  required : Bool
  number : Nat
  index : Nat
  line : Nat
  column : Nat

-- Tokens so far with the newest first, their number, the open block indentations
-- with the innermost first (each one more than its column), and per flow level,
-- the innermost first, the token that may still become a key.
structure Scanner where
  place : Place
  newest : List Token
  count : Nat
  indents : List Nat
  keyAllowed : Bool
  candidates : List (Option KeyCandidate)

namespace Scanner

def start (t : Text) : Scanner := ⟨.ofText t,[],0,[],true,[none]⟩

def inFlow (s : Scanner) : Bool := 1 < s.candidates.length
def indent (s : Scanner) : Nat := s.indents.headD 0
def emit (s : Scanner) (token : Token) : Scanner :=
  { s with newest := token :: s.newest, count := s.count + 1 }
def moveTo (s : Scanner) (place : Place) : Scanner := { s with place := place }
def allowKey (s : Scanner) (allowed : Bool) : Scanner := { s with keyAllowed := allowed }

def insertAt (s : Scanner) (number : Nat) (token : Token) : Scanner :=
  let (newer,older) := s.newest.splitAt (s.count - number)
  { s with newest := newer ++ token :: older, count := s.count + 1 }

def unroll (s : Scanner) (width : Nat) : Scanner :=
  if s.inFlow then s
  else
    let left := s.indents.dropWhile (width < ·)
    (List.range (s.indents.length - left.length)).foldl (fun s _ => s.emit .blockEnd) { s with indents := left }

def roll (s : Scanner) (column number : Nat) (token : Token) : Scanner :=
  if !s.inFlow && s.indent < column + 1 then
    { s with indents := (column + 1) :: s.indents }.insertAt number token
  else s

def expire (place : Place) (candidate : Option KeyCandidate) : Option (Option KeyCandidate) :=
  match candidate with
  | none => some none
  | some key =>
    if key.line < place.line || key.index + 1024 < place.index then
      if key.required then none else some none
    else some (some key)

def expireAll (s : Scanner) : Option Scanner := do
  return { s with candidates := ← s.candidates.mapM (expire s.place) }

def dropCandidate (s : Scanner) : Option Scanner :=
  match s.candidates with
  | some key :: rest => if key.required then none else some { s with candidates := none :: rest }
  | _ => some s

def saveCandidate (s : Scanner) : Option Scanner :=
  if !s.keyAllowed then some s
  else do
    let s ← s.dropCandidate
    let key : KeyCandidate := ⟨!s.inFlow && s.indent = s.place.column + 1,s.count,
      s.place.index,s.place.line,s.place.column⟩
    return { s with candidates := some key :: s.candidates.tail }

-- Goes to the next token. Tabs separate tokens, but do not indent where a key
-- may start. A line break makes a key possible again. One byte order mark at the
-- start of each line is passed over, and counts as a column.
def skipToToken : Nat → Scanner → Scanner
  | 0,s => s
  | fuel + 1,s =>
    let place := if s.place.column = 0 && s.place.peek 0 = some '\uFEFF' then s.place.advance else s.place
    let place := place.passWhile fun c => c = ' ' || ((s.inFlow || !s.keyAllowed) && c = '\t')
    let place := if place.peek 0 = some '#' then place.passWhile fun c => !isBreak c else place
    if (place.peek 0).any isBreak then
      skipToToken fuel { s with place := place.passBreak.2, keyAllowed := s.keyAllowed || !s.inFlow }
    else s.moveTo place

def scanName (place : Place) : Option (Text × Place) :=
  let name := place.rest.takeWhile isWordChar
  let next := place.advanceBy name.length
  if name ≠ [] && (endsWord (next.peek 0) || (next.peek 0).any fun c => "?:,]\x7d%@`".toList.contains c)
  then some (name,next) else none

def scanValue (s : Scanner) : Option Scanner := do
  let s ← s.expireAll
  match s.candidates with
  | some key :: rest =>
    let s := { s with candidates := none :: rest }.insertAt key.number .key
    return ((s.roll key.column key.number .blockMappingStart).allowKey false).moveTo s.place.advance |>.emit .value
  | _ =>
    if s.inFlow then return ((s.allowKey false).moveTo s.place.advance).emit .value
    guard s.keyAllowed
    return (((s.roll s.place.column s.count .blockMappingStart).allowKey true).moveTo
      s.place.advance).emit .value

def openFlow (s : Scanner) (token : Token) : Option Scanner := do
  let s ← s.saveCandidate
  return (({ s with candidates := none :: s.candidates }.allowKey true).moveTo s.place.advance).emit token

def closeFlow (s : Scanner) (token : Token) : Option Scanner := do
  let s ← s.dropCandidate
  let candidates := if s.inFlow then s.candidates.tail else s.candidates
  return (({ s with candidates := candidates }.allowKey false).moveTo s.place.advance).emit token

def scanEntry (s : Scanner) : Option Scanner := do
  guard (s.inFlow || s.keyAllowed)
  let s ← (s.roll s.place.column s.count .blockSequenceStart).dropCandidate
  return ((s.allowKey true).moveTo s.place.advance).emit .blockEntry

def scanKey (s : Scanner) : Option Scanner := do
  guard (s.inFlow || s.keyAllowed)
  let s ← (s.roll s.place.column s.count .blockMappingStart).dropCandidate
  return ((s.allowKey !s.inFlow).moveTo s.place.advance).emit .key

def scanMarker (s : Scanner) (token : Token) : Option Scanner := do
  let s ← (s.unroll 0).dropCandidate
  return ((s.allowKey false).moveTo (s.place.advanceBy 3)).emit token

def isIndicator (c : Char) : Bool := "-?:,[]\x7b\x7d#&*!|>'\"%@`".toList.contains c

def startsPlain (s : Scanner) (c : Char) : Bool :=
  (!isIndicator c && !endsWord (some c)) ||
  (c = '-' && !(s.place.peek 1).any isSpaceOrTab) ||
  (!s.inFlow && (c = '?' || c = ':') && !endsWord (s.place.peek 1))

def scanBlockScalar (s : Scanner) (literal : Bool) : Option Scanner := do
  let s ← s.dropCandidate
  let (content,place) ← scanBlock literal s.indent s.place
  return ((s.allowKey true).moveTo place).emit (.scalar (if literal then .literal else .folded) content)

def scanQuotedScalar (s : Scanner) (single : Bool) : Option Scanner := do
  let s ← s.saveCandidate
  let (content,place) ← scanQuoted single s.place
  return ((s.allowKey false).moveTo place).emit (.scalar .quoted content)

def scanPlainScalar (s : Scanner) : Option Scanner := do
  let s ← s.saveCandidate
  let (content,broken,place) ← scanPlain s.inFlow s.indent s.place
  return ((s.allowKey broken).moveTo place).emit (.scalar .plain content)

def scanProperty (s : Scanner) (read : Place → Option (α × Place)) (token : α → Token) :
    Option Scanner := do
  let s ← s.saveCandidate
  let (written,place) ← read s.place
  return ((s.allowKey false).moveTo place).emit (token written)

def scanToken (s : Scanner) (c : Char) : Option Scanner :=
  if s.place.column = 0 && c = '%' then do
    let s ← (s.unroll 0).dropCandidate
    let (declared,place) ← scanDirective s.place
    return ((s.allowKey false).moveTo place).emit (.directive declared)
  else if s.place.atMarker "---".toList then s.scanMarker .documentStart
  else if s.place.atMarker "...".toList then s.scanMarker .documentEnd
  else if c = '[' then s.openFlow .flowSequenceStart
  else if c = '\x7b' then s.openFlow .flowMappingStart
  else if c = ']' then s.closeFlow .flowSequenceEnd
  else if c = '\x7d' then s.closeFlow .flowMappingEnd
  else if c = ',' then do
    let s ← s.dropCandidate
    return ((s.allowKey true).moveTo s.place.advance).emit .flowEntry
  else if c = '-' && endsWord (s.place.peek 1) then s.scanEntry
  else if c = '?' && (s.inFlow || endsWord (s.place.peek 1)) then s.scanKey
  else if c = ':' && (s.inFlow || endsWord (s.place.peek 1)) then s.scanValue
  else if c = '*' then s.scanProperty (fun place => scanName place.advance) .alias
  else if c = '&' then s.scanProperty (fun place => scanName place.advance) .anchor
  else if c = '!' then s.scanProperty (scanTag s.inFlow) .tag
  else if c = '|' && !s.inFlow then s.scanBlockScalar true
  else if c = '>' && !s.inFlow then s.scanBlockScalar false
  else if c = '\'' then s.scanQuotedScalar true
  else if c = '"' then s.scanQuotedScalar false
  else if s.startsPlain c then s.scanPlainScalar
  else none

-- Every token takes at least one character, so that the fuel stays above what is
-- left of the text.
def run : Nat → Scanner → Option Scanner
  | 0,s => some s
  | fuel + 1,s => do
    let s ← (skipToToken (fuel + 1) s).expireAll
    match s.place.peek 0 with
    | none => (s.unroll 0).dropCandidate
    | some c => run fuel (← (s.unroll (s.place.column + 1)).scanToken c)

end Scanner

def isAllowed (c : Char) : Bool :=
  c = '\t' || c = '\n' || c = '\r' || (' ' ≤ c && c ≤ '~') || c = '\u0085' ||
  ('\u00a0' ≤ c && c ≠ '\uFFFE' && c ≠ '\uFFFF')

def tokens (t : Text) : Option (List Token) := do
  guard (t.all isAllowed)
  return (← (Scanner.start t).run (t.length + 1)).newest.reverse

end ScenarioLang.Yaml
