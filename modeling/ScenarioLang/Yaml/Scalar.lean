import ScenarioLang.Text
import ScenarioLang.Yaml.Place

namespace ScenarioLang.Yaml

-- Blanks and breaks between two parts of a scalar: the blanks before the first
-- break, the first break, and the further ones.
structure Gap where
  blanks : Text
  broken : Bool
  first : Text
  further : Text

namespace Gap

def none : Gap := ⟨[],false,[],[]⟩

def folded (gap : Gap) : Text :=
  if gap.broken then
    if gap.first = ['\n'] then if gap.further = [] then [' '] else gap.further
    else gap.first ++ gap.further
  else gap.blanks

end Gap

def isBlankOrBreak (c : Char) : Bool := isSpaceOrTab c || isBreak c

def gapRest (tabsFrom : Nat) : Nat → Gap → Place → Option (Gap × Place)
  | 0,gap,place => some (gap,place)
  | fuel + 1,gap,place =>
    match place.rest with
    | [] => some (gap,place)
    | c :: _ =>
      if isSpaceOrTab c then
        if gap.broken && place.column < tabsFrom && c = '\t' then none
        else gapRest tabsFrom fuel (if gap.broken then gap else { gap with blanks := gap.blanks ++ [c] }) place.advance
      else if isBreak c then
        let (kept,place) := place.passBreak
        let gap := if gap.broken then { gap with further := gap.further ++ kept }
          else ⟨[],true,kept,[]⟩
        gapRest tabsFrom fuel gap place
      else some (gap,place)

def scanGap (tabsFrom : Nat) (gap : Gap) (place : Place) : Option (Gap × Place) :=
  gapRest tabsFrom ((place.rest.takeWhile isBlankOrBreak).length + 1) gap place

def isFlowIndicator (c : Char) : Bool := ",[]\x7b\x7d".toList.contains c

-- Whether a plain scalar ends at a character, given what follows it. In a flow
-- collection a colon right before an indicator is malformed.
def endsPlain (inFlow : Bool) (c : Char) (rest : Text) : Option Bool :=
  if inFlow && c = ':' && rest.head?.any (fun d => isFlowIndicator d || d = '?') then none
  else some ((c = ':' && endsWord rest.head?) || (inFlow && isFlowIndicator c))

def plainWord (inFlow : Bool) : Text → Option Text
  | [] => some []
  | c :: rest =>
    if isBlankOrBreak c then some []
    else do
      if ← endsPlain inFlow c rest then return []
      return c :: (← plainWord inFlow rest)

def plainRest (inFlow : Bool) (indent : Nat) : Nat → Gap → Place → Option (Text × Bool × Place)
  | 0,gap,place => some ([],gap.broken,place)
  | fuel + 1,gap,place =>
    if place.atDocumentMarker || place.peek 0 = some '#' then some ([],gap.broken,place)
    else do
      let word ← plainWord inFlow place.rest
      let after := place.advanceBy word.length
      let written := if word = [] then [] else gap.folded ++ word
      let pending := if word = [] then gap else .none
      if !(after.peek 0).any isBlankOrBreak then
        return (written,pending.broken,after)
      let (gap,next) ← scanGap indent pending after
      if !inFlow && next.column < indent then return (written,gap.broken,next)
      let (rest,broken,place) ← plainRest inFlow indent fuel gap next
      return (written ++ rest,broken,place)

def scanPlain (inFlow : Bool) (indent : Nat) (place : Place) : Option (Text × Bool × Place) :=
  plainRest inFlow indent (place.rest.length + 1) .none place

def escape? (c : Char) : Option (Char ⊕ Nat) :=
  match c with
  | '0' => some (.inl '\x00')
  | 'a' => some (.inl '\x07')
  | 'b' => some (.inl '\x08')
  | 't' => some (.inl '\t')
  | '\t' => some (.inl '\t')
  | 'n' => some (.inl '\n')
  | 'v' => some (.inl '\x0b')
  | 'f' => some (.inl '\x0c')
  | 'r' => some (.inl '\r')
  | 'e' => some (.inl '\x1b')
  | ' ' => some (.inl ' ')
  | '"' => some (.inl '"')
  | '/' => some (.inl '/')
  | '\\' => some (.inl '\\')
  | 'N' => some (.inl '\u0085')
  | '_' => some (.inl '\u00a0')
  | 'L' => some (.inl '\u2028')
  | 'P' => some (.inl '\u2029')
  | 'x' => some (.inr 2)
  | 'u' => some (.inr 4)
  | 'U' => some (.inr 8)
  | _ => none

def scanEscape (place : Place) : Option (Char × Place) := do
  match ← escape? (← place.peek 1) with
  | .inl c => return (c,place.advanceBy 2)
  | .inr count =>
    let digits := (place.rest.drop 2).take count
    guard (digits.length = count)
    let value ← hexValue digits
    guard (value.isValidChar)
    return (Char.ofNat value,place.advanceBy (2 + count))

-- A quoted scalar after its opening quote. A doubled quote in single quotes is
-- one quote; a backslash before a break in double quotes joins the lines.
def quotedRest (single : Bool) : Nat → Place → Option (Text × Place)
  | 0,_ => none
  | fuel + 1,place =>
    match place.rest with
    | [] => none
    | c :: rest =>
      if place.atDocumentMarker then none
      else if isBlankOrBreak c then do
        let (gap,place) ← scanGap 0 .none place
        let (content,place) ← quotedRest single fuel place
        return (gap.folded ++ content,place)
      else if single && c = '\'' && rest.head? = some '\'' then do
        let (content,place) ← quotedRest single fuel (place.advanceBy 2)
        return ('\'' :: content,place)
      else if c = (if single then '\'' else '"') then some ([],place.advance)
      else if !single && c = '\\' then
        if rest.head?.any isBreak then do
          let (gap,place) ← scanGap 0 ⟨[],true,[],[]⟩ place.advance.passBreak.2
          let (content,place) ← quotedRest single fuel place
          return (gap.folded ++ content,place)
        else do
          let (c,place) ← scanEscape place
          let (content,place) ← quotedRest single fuel place
          return (c :: content,place)
      else do
        let (content,place) ← quotedRest single fuel place.advance
        return (c :: content,place)

def scanQuoted (single : Bool) (place : Place) : Option (Text × Place) :=
  quotedRest single (place.rest.length + 1) place.advance

inductive Chomping where
  | strip | clip | keep
  deriving DecidableEq

def chomping? (c : Char) : Option Chomping :=
  if c = '+' then some .keep else if c = '-' then some .strip else none

def scanBlockHeader (place : Place) : Option (Chomping × Nat × Place) := do
  let digit? (place : Place) : Option (Nat × Place) :=
    match place.rest with
    | c :: _ =>
      if '0' ≤ c && c ≤ '9' then if c = '0' then none else some (c.toNat - '0'.toNat,place.advance)
      else some (0,place)
    | [] => some (0,place)
  match (place.peek 0).bind chomping? with
  | some chomping =>
    let (increment,place) ← digit? place.advance
    return (chomping,increment,place)
  | none =>
    let (increment,place) ← digit? place
    if increment = 0 then return (.clip,0,place)
    match (place.peek 0).bind chomping? with
    | some chomping => return (chomping,increment,place.advance)
    | none => return (.clip,increment,place)

def blockBreaksRest (indent : Nat) : Nat → Nat → Place → Option (Text × Nat × Place)
  | 0,deepest,place => some ([],deepest,place)
  | fuel + 1,deepest,place =>
    let spaces := (place.rest.takeWhile (· = ' ')).length
    let place := place.advanceBy (if indent = 0 then spaces else min spaces (indent - place.column))
    let deepest := max deepest place.column
    if (indent = 0 || place.column < indent) && place.peek 0 = some '\t' then none
    else if (place.peek 0).any isBreak then do
      let (kept,place) := place.passBreak
      let (breaks,deepest,place) ← blockBreaksRest indent fuel deepest place
      return (kept ++ breaks,deepest,place)
    else some ([],deepest,place)

-- Empty lines before a line of a block scalar. An indentation of zero is not
-- known yet; the deepest of the lines is reported for it.
def blockBreaks (indent : Nat) (place : Place) : Option (Text × Nat × Place) :=
  blockBreaksRest indent ((place.rest.takeWhile isBlankOrBreak).length + 1) 0 place

def blockLines (literal : Bool) (chomping : Chomping) (indent : Nat) :
    Nat → Bool → Text → Text → Place → Option (Text × Place)
  | 0,_,_,_,place => some ([],place)
  | fuel + 1,afterBlank,lastBreak,empties,place =>
    if place.column = indent && !place.rest.isEmpty then do
      let blank := (place.peek 0).any isSpaceOrTab
      let joined :=
        if !literal && lastBreak.head? = some '\n' && !afterBlank && !blank then
          (if empties = [] then [' '] else []) ++ empties
        else lastBreak ++ empties
      let content := place.rest.takeWhile fun c => !isBreak c
      let (kept,next) := (place.advanceBy content.length).passBreak
      let (empties,_,next) ← blockBreaks indent next
      let (rest,place) ← blockLines literal chomping indent fuel blank kept empties next
      return (joined ++ content ++ rest,place)
    else
      some ((if chomping = .strip then [] else lastBreak) ++ (if chomping = .keep then empties else []),place)

def scanBlock (literal : Bool) (parent : Nat) (place : Place) : Option (Text × Place) := do
  let (chomping,increment,place) ← scanBlockHeader place.advance
  let place := place.passWhile isSpaceOrTab
  let place := if place.peek 0 = some '#' then place.passWhile fun c => !isBreak c else place
  guard (endsLine (place.peek 0))
  let (_,place) := place.passBreak
  let fixed := if increment = 0 then 0 else (parent - 1) + increment
  let (empties,deepest,place) ← blockBreaks fixed place
  let indent := if fixed = 0 then max deepest (max parent 1) else fixed
  blockLines literal chomping indent (place.rest.length + 1) false [] empties place

end ScenarioLang.Yaml
