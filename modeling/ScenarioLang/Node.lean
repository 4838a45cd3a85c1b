import ScenarioLang.Text
import ScenarioLang.NodeType

namespace ScenarioLang

-- Lines and columns count from one, columns in characters.
structure Location where
  line : Nat
  column : Nat
  deriving DecidableEq, Repr

namespace Location

def ofContent (line : Text) (number : Nat) : Location := ⟨number,line.indent + 1⟩

def display (position : Location) : String := s!"{position.line}:{position.column}"

end Location

inductive DefinitionValue where
  | text (value : Text)
  | number (value : Text)
  deriving DecidableEq, Repr

def DefinitionValue.written : DefinitionValue → Text
  | text value | number value => value

-- What a line says beyond its type. A tag without parentheses has no values; a
-- tag with empty parentheses has the empty list of values.
inductive NodeData where
  | empty
  | name (name : Text)
  | numberedName (name : Text) (number : Option Nat)
  | value (value : Text)
  | step (keyword value : Text)
  | tag (name : Text) (meaning : Option TagMeaning) (values : Option (List Text))
  | definition (name : Text) (value : DefinitionValue)
  | cells (cells : List Text)
  deriving DecidableEq, Repr

-- One recognized construct of one line. The content is the line without its
-- comment and without blanks around it.
structure Node where
  type : NodeType
  location : Location
  content : Text
  data : NodeData
  deriving DecidableEq, Repr

namespace Node

def name? (node : Node) : Option Text :=
  match node.data with
  | .name name | .numberedName name _ | .tag name _ _ | .definition name _ => some name
  | _ => none

def value? (node : Node) : Option Text :=
  match node.data with
  | .value value | .step _ value => some value
  | .definition _ value => some value.written
  | _ => none

def values? (node : Node) : Option (List Text) :=
  match node.data with
  | .tag _ _ values => values
  | _ => none

def cells? (node : Node) : Option (List Text) :=
  match node.data with
  | .cells cells => some cells
  | _ => none

def number? (node : Node) : Option Nat :=
  match node.data with
  | .numberedName _ number => number
  | _ => none

def tagMeaning? (node : Node) : Option TagMeaning :=
  match node.data with
  | .tag _ meaning _ => meaning
  | _ => none

end Node
end ScenarioLang
