import ScenarioLang.Text

namespace ScenarioLang.Yaml

-- A place in a YAML text: what is still to be read, and how far it is from the
-- start of the text and of its line. Lines and columns count from zero here,
-- columns in characters and the index in bytes of UTF-8.
structure Place where
  rest : Text
  index : Nat
  line : Nat
  column : Nat

def isSpaceOrTab (c : Char) : Bool := c = ' ' || c = '\t'

def isBreak (c : Char) : Bool :=
  c = '\n' || c = '\r' || c = '\u0085' || c = '\u2028' || c = '\u2029'

def endsWord (c : Option Char) : Bool :=
  match c with
  | none => true
  | some c => isSpaceOrTab c || isBreak c

def endsLine (c : Option Char) : Bool :=
  match c with
  | none => true
  | some c => isBreak c

namespace Place

def ofText (t : Text) : Place := ⟨t,0,0,0⟩

def peek (place : Place) (ahead : Nat) : Option Char := place.rest[ahead]?

def advance (place : Place) : Place :=
  match place.rest with
  | [] => place
  | c :: rest => { place with rest := rest, index := place.index + c.utf8Size, column := place.column + 1 }

def advanceBy : Nat → Place → Place
  | 0,place => place
  | count + 1,place => advanceBy count place.advance

def passBreak (place : Place) : Text × Place :=
  match place.rest with
  | '\r' :: '\n' :: rest => (['\n'],⟨rest,place.index + 2,place.line + 1,0⟩)
  | c :: rest =>
    (if c = '\u2028' || c = '\u2029' then [c] else ['\n'],⟨rest,place.index + c.utf8Size,place.line + 1,0⟩)
  | [] => ([],place)

def passWhile (p : Char → Bool) (place : Place) : Place :=
  advanceBy (place.rest.takeWhile p).length place

def atMarker (marker : Text) (place : Place) : Bool :=
  place.column = 0 && (Text.after marker place.rest).isSome && endsWord (place.peek 3)

def atDocumentMarker (place : Place) : Bool :=
  place.atMarker "---".toList || place.atMarker "...".toList

end Place
end ScenarioLang.Yaml
