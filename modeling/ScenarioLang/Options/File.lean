import ScenarioLang.FileTree
import ScenarioLang.Options
import ScenarioLang.Yaml.Node

namespace ScenarioLang.Options
open Yaml

inductive Key where
  | language | lineBreak | concurrency | stopOnError | dictionaryFolder
  deriving DecidableEq

def key? (name : Text) : Option Key :=
  if name = "language".toList then some .language
  else if name = "line-break".toList then some .lineBreak
  else if name = "concurrency".toList then some .concurrency
  else if name = "stop-on-first-error".toList then some .stopOnError
  else if name = "dictionary-dir".toList then some .dictionaryFolder
  else none

def text? : Yaml.Node → Option Text
  | .scalar _ _ _ content => some content
  | _ => none

def isNullWord (content : Text) : Bool :=
  ["null", "Null", "NULL", "~"].any fun word => word.toList = content

def optional? (read : Yaml.Node → Option α) (node : Yaml.Node) : Option (Option α) :=
  match node with
  | .scalar _ .plain tag content =>
    if tag = some (Yaml.Tag.core "null") then if isNullWord content then some none else none
    else if tag.isSome then (read node).map some
    else if content = [] || isNullWord content then some none
    else (read node).map some
  | _ => (read node).map some

def digitValue? (base : Nat) (c : Char) : Option Nat := do
  let value ← hexDigit? c
  guard (value < base)
  return value

def sizeLimit : Nat := Nat.pow 2 64

def inBase? (base : Nat) (digits : Text) : Option Nat := do
  guard !digits.isEmpty
  let value ← digits.foldlM (fun value c => (digitValue? base c).map fun d => base*value + d) 0
  guard (value < sizeLimit)
  return value

-- A number in decimal without leading zeros, or marked as another base. A plus
-- sign may stand before it.
def size? (content : Text) : Option Nat :=
  let digits := match content with
    | '+' :: rest => rest
    | _ => content
  match digits with
  | '0' :: 'x' :: rest => inBase? 16 rest
  | '0' :: 'o' :: rest => inBase? 8 rest
  | '0' :: 'b' :: rest => inBase? 2 rest
  | '0' :: _ :: _ => none
  | _ => inBase? 10 digits

def typed? (type : String) : Yaml.Node → Option Text
  | .scalar _ .plain _ content => some content
  | .scalar _ .literal tag content => if tag = some (Yaml.Tag.core type) then some content else none
  | _ => none

def number? (node : Yaml.Node) : Option Nat := do size? (← typed? "int" node)

def truthWord? (content : Text) : Option Bool :=
  if ["true", "True", "TRUE"].any fun word => word.toList = content then some true
  else if ["false", "False", "FALSE"].any fun word => word.toList = content then some false
  else none

def truth? (node : Yaml.Node) : Option Bool := do truthWord? (← typed? "bool" node)

def set (options : Options) (value : Yaml.Node) : Key → Option Options
  | .language => (text? value).map fun language => { options with language := language }
  | .lineBreak => (text? value).map fun lineBreak => { options with lineBreak := lineBreak }
  | .concurrency => (optional? number? value).map fun limit => { options with concurrency := limit }
  | .stopOnError => (truth? value).map fun stop => { options with stopOnError := stop }
  | .dictionaryFolder =>
    (optional? text? value).map fun folder => { options with dictionaryFolder := folder.map Path.mk }

-- Entries of a document in order, given the keys already set. No key is set
-- twice. Only the keys and the values of options have their aliases followed.
def setAll (document : Yaml.Document) : List Key → Options → List (Yaml.Node × Yaml.Node) → Option Options
  | _,options,[] => some options
  | seen,options,(name,value) :: rest => do
    match key? (← text? (← document.follow? name)) with
    | some key =>
      guard !seen.contains key
      setAll document (key :: seen) (← options.set (← document.follow? value) key) rest
    | none => setAll document seen options rest

def ofDocument? (document : Yaml.Document) : Option Options :=
  match document.root with
  | .scalar _ .plain _ [] => some standard
  | .mapping _ entries => setAll document [] standard entries
  | _ => none

def ofYaml? (t : Text) : Option Options :=
  if t.allBlank then some standard
  else do
    match ← Yaml.Document.ofText? t with
    | some document => ofDocument? document
    | none => return standard

inductive FileError where
  | unreadable (path : Path) (reason : String)
  | malformed

def FileError.message : FileError → String
  | unreadable path reason => s!"could not read configuration {String.ofList path.text}: {reason}"
  | malformed => "invalid configuration"

def ofFile (tree : FileTree) (path : Path) : Except FileError Options :=
  match tree.read path with
  | .error reason => .error (.unreadable path reason)
  | .ok text =>
    match ofYaml? text with
    | some options => .ok options
    | none => .error .malformed

end ScenarioLang.Options
