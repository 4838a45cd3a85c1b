import ScenarioLang.Line

namespace ScenarioLang

structure LexerSetup where
  source : DictionarySource
  base : Dictionary
  stopOnError : Bool

-- What was read of the current file so far, and how the next line is read: in
-- which language, inside a long string or not, and after which construct.
structure LexerState where
  language : Text
  lexers : Lexers
  lexed : Reading
  inLongString : Bool
  last : Option NodeType

-- A crash leaves the state as it was when the dictionary source broke down.
inductive LineOutcome where
  | accepted | refused | crashed
  deriving DecidableEq, Repr

namespace LexerSetup

inductive Start where
  | ready (setup : LexerSetup)
  | failed (error : DictionaryError)
  | crashed

def start (language : Text) (source : DictionarySource) (stopOnError : Bool) : Start :=
  match source language with
  | .found base => .ready ⟨source,base,stopOnError⟩
  | .failed error => .failed error
  | .crashed => .crashed

def initial (setup : LexerSetup) : LexerState :=
  ⟨setup.base.language,.standard setup.base,.empty,false,none⟩

end LexerSetup

namespace LexerState

abbrev dictionary (state : LexerState) : Dictionary := state.lexers.dictionary

def hasErrors (state : LexerState) : Bool := !state.lexed.errors.isEmpty

def push (state : LexerState) (node : Node) : LexerState :=
  { state with lexed := { state.lexed with nodes := state.lexed.nodes ++ [node] } }

def report (state : LexerState) (errors : List LexicalError) (warnings : List LexicalWarning) :
    LexerState :=
  { state with lexed := ⟨state.lexed.nodes,state.lexed.errors ++ errors,state.lexed.warnings ++ warnings⟩ }

def switch (setup : LexerSetup) (state : LexerState) (language : Text) (location : Location) :
    Option LexerState :=
  if Text.sameAsciiCase language state.language then some state
  else
    match setup.source language with
    | .found dictionary => some { state with language := language, lexers := state.lexers.bind dictionary }
    | .failed error => some (state.report [⟨.unsupportedLanguage language error,location⟩] [])
    | .crashed => none

def enter (setup : LexerSetup) (state : LexerState) (node : Node) : Option LexerState :=
  match node.type with
  | .longString => some { state with inLongString := true }
  | .language =>
    match node.value? with
    | some language => state.switch setup language node.location
    | none => some state
  | _ => some state

def keep (setup : LexerSetup) : LexerState → List Node → LineOutcome × LexerState
  | state,[] => (.accepted,state)
  | state,node :: rest =>
    match state.enter setup node with
    | some entered => keep setup (entered.push node) rest
    | none => (.crashed,state)

def followers (state : LexerState) : List NodeType :=
  match state.last with
  | some type => Line.followers type
  | none => []

def firstReading (state : LexerState) (line : Text) (number : Nat) : Option (NodeType × Reading) :=
  state.lexers.firstReading state.followers line number

def addRaw (state : LexerState) (line : Text) (number : Nat) : LexerState :=
  match Line.readDelimiter line number with
  | some reading =>
    { state with
      inLongString := false, last := some .longString,
      lexed := { state.lexed with nodes := state.lexed.nodes ++ reading.nodes } }
  | none => state.push (Line.rawText line number)

def addLine (setup : LexerSetup) (state : LexerState) (line : Text) (number : Nat) :
    LineOutcome × LexerState :=
  if (setup.stopOnError && state.hasErrors) || line.allBlank then (.refused,state)
  else if state.inLongString then (.accepted,state.addRaw line number)
  else
    match state.firstReading line number with
    | none => (.refused,state)
    | some (type,reading) =>
      ({ state with last := some type }.report reading.errors reading.warnings).keep setup reading.nodes

-- Back to the start of a file. The words are bound anew only when the language
-- has another name than at the start.
def reset (setup : LexerSetup) (state : LexerState) : LexerState :=
  { language := setup.base.language,
    lexers := if state.language = setup.base.language then state.lexers else state.lexers.bind setup.base,
    lexed := .empty, inLongString := false, last := none }

-- Also binds the words anew when nothing seems to have changed, as is needed
-- after a crash.
def recover (setup : LexerSetup) (state : LexerState) : LexerState :=
  { state.reset setup with
    language := setup.base.language, lexers := (state.reset setup).lexers.bind setup.base }

def finish (setup : LexerSetup) (state : LexerState) : Reading × LexerState :=
  (state.lexed,state.reset setup)

def addLines (setup : LexerSetup) : LexerState → List (Text × Nat) → Except LexerState LexerState
  | state,[] => .ok state
  | state,(line,number) :: rest =>
    match state.addLine setup line number with
    | (.crashed,state) => .error state
    | (_,state) => addLines setup state rest

end LexerState
end ScenarioLang
