import ScenarioLang.Node
import ScenarioLang.Dictionary

namespace ScenarioLang

inductive LexicalFault where
  | missingName (type : NodeType)
  | invalidName (type : NodeType) (name : Text)
  | invalidNumber (type : NodeType) (digits : Text)
  | trailingContent (type : NodeType) (content : Text)
  | contentAfterValue (type : NodeType)
  | unclosedValue (type : NodeType)
  | invalidValue (type : NodeType) (value : Text)
  | emptyItem (type : NodeType)
  | invalidTag (written : Text)
  | unsupportedLanguage (language : Text) (reason : DictionaryError)
  deriving DecidableEq, Repr

def LexicalFault.message : LexicalFault → String
  | missingName type => s!"{type.name} has no name"
  | invalidName type name => s!"Invalid {type.name} name: \"{String.ofList name}\""
  | invalidNumber type digits => s!"Invalid {type.name} number: {String.ofList digits}"
  | trailingContent type content => s!"Unexpected content after {type.name}: \"{String.ofList content}\""
  | contentAfterValue type => s!"Unexpected content after the {type.name} value"
  | unclosedValue type => s!"Unclosed quoted {type.name} value"
  | invalidValue type value => s!"Invalid {type.name} value: \"{String.ofList value}\""
  | emptyItem type => s!"Empty {type.name}"
  | invalidTag written => s!"Invalid tag: \"{String.ofList written}\""
  | unsupportedLanguage language reason =>
    s!"Unsupported language \"{String.ofList language}\": {reason.message}"

structure LexicalError where
  fault : LexicalFault
  location : Location
  deriving DecidableEq, Repr

structure LexicalWarning where
  step : NodeType
  location : Location
  deriving DecidableEq, Repr

def LexicalError.message (error : LexicalError) : String := error.fault.message
def LexicalWarning.message (warning : LexicalWarning) : String :=
  s!"{warning.step.name} step has no content"

structure Reading where
  nodes : List Node
  errors : List LexicalError
  warnings : List LexicalWarning
  deriving DecidableEq, Repr

namespace Reading

def empty : Reading := ⟨[],[],[]⟩
def ofNode (node : Node) (errors : List LexicalError) : Reading := ⟨[node],errors,[]⟩

end Reading

abbrev LineReader := Text → Nat → Option Reading

end ScenarioLang
