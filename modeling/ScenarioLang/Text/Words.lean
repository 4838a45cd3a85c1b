import ScenarioLang.Text
import ScenarioLang.Unicode.CaseFold

namespace ScenarioLang.Words
open Unicode

def insertByLength (word : Text) : List Text → List Text
  | [] => [word]
  | other :: rest =>
    if other.length ≤ word.length then word :: other :: rest else other :: insertByLength word rest

def byLength (words : List Text) : List Text := words.foldr insertByLength []

def dropRepeats : List Text → List Text
  | [] => []
  | [word] => [word]
  | word :: next :: rest =>
    if word = next then dropRepeats (next :: rest) else word :: dropRepeats (next :: rest)

def tried (words : List Text) : List Text :=
  dropRepeats (byLength ((words.map Text.trim).filter fun word => !word.isEmpty))

def afterPiece : Text → Text → Option Text
  | [],t => some t
  | _ :: _,[] => none
  | c :: piece,d :: t => if fold c = fold d then afterPiece piece t else none

def afterBlanks : Text → Option Text
  | [] => none
  | c :: t => if isBlank c then some (t.dropWhile isBlank) else none

def afterPieces : List Text → Text → Option Text
  | [],t => some t
  | [piece],t => afterPiece piece t
  | piece :: rest,t => do afterPieces rest (← afterBlanks (← afterPiece piece t))

def afterWord (word t : Text) : Option Text := afterPieces word.runs t

-- Takes the first word that stands at the start and is accepted, given the
-- text it covers and what follows it.
def capture (words : List Text) (t : Text) (accept : Text → Text → Option α) : Option α :=
  (tried words).findSome? fun word => do
    let rest ← afterWord word t
    accept (t.take (t.length - rest.length)) rest

def isOperator (c : Char) : Bool :=
  "\\.+*?()|[]\x7b\x7d^$#&-~".toList.contains c

def escaped (piece : Text) : Text :=
  piece.flatMap fun c => if isOperator c then ['\\',c] else [c]

def alternation (words : List Text) : Option Text :=
  match tried words with
  | [] => none
  | usable => some (['|'].intercalate (usable.map fun word => "\\s+".toList.intercalate (word.runs.map escaped)))

end ScenarioLang.Words
