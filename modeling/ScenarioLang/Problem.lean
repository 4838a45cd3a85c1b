import ScenarioLang.Line.Reading
import ScenarioLang.Parsing.Placement

namespace ScenarioLang

inductive ProblemKind where
  | lexical | syntactic | io | dictionary | recognition | importing | semantic | internal
  deriving DecidableEq, Repr

def ProblemKind.all : List ProblemKind :=
  [.lexical, .syntactic, .io, .dictionary, .recognition, .importing, .semantic, .internal]

def ProblemKind.name : ProblemKind → String
  | lexical => "lexical"
  | syntactic => "syntactic"
  | io => "io"
  | dictionary => "dictionary"
  | recognition => "recognition"
  | importing => "import"
  | semantic => "semantic"
  | internal => "internal"

structure Problem where
  kind : ProblemKind
  message : String
  location : Option Location
  deriving DecidableEq, Repr

structure RecognitionError where
  language : Text
  reason : String
  deriving DecidableEq, Repr

def RecognitionError.message (error : RecognitionError) : String :=
  s!"sentence recognition failed for language \"{String.ofList error.language}\": {error.reason}"

def located (message : String) (location : Location) : String := s!"{message} ({location.display})"

namespace Problem

def unlocated (kind : ProblemKind) (message : String) : Problem := ⟨kind,message,none⟩
def lexical (message : String) (location : Location) : Problem := ⟨.lexical,message,some location⟩
def syntactic (message : String) (location : Location) : Problem := ⟨.syntactic,message,some location⟩

def ofLexicalError (error : LexicalError) : Problem := lexical error.message error.location
def ofLexicalWarning (warning : LexicalWarning) : Problem := lexical warning.message warning.location
def ofSyntacticError (error : SyntacticError) : Problem := syntactic error.message error.location
def ofDictionaryError (error : DictionaryError) : Problem := unlocated .dictionary error.message
def ofRecognitionError (error : RecognitionError) : Problem := unlocated .recognition error.message

def display (problem : Problem) : String :=
  let text := s!"[{problem.kind.name}] {problem.message}"
  match problem.location with
  | some location => located text location
  | none => text

end Problem
end ScenarioLang
