import ScenarioLang.KeywordPattern
import ScenarioLang.Line.Reading
import ScenarioLang.Path
import ScenarioLang.Text.Literal

namespace ScenarioLang.Line
open Text

def oneLine (t : Text) : Option Text := if t.contains '\n' then none else some t

def afterColon (t : Text) : Option Text :=
  match trimStart t with
  | ':' :: rest => oneLine (trimStart rest)
  | _ => none

def nameFaults (type : NodeType) (name : Text) : List LexicalFault :=
  if name = [] then [.missingName type]
  else if !isName name then [.invalidName type name]
  else []

def report (location : Location) (faults : List LexicalFault) : List LexicalError :=
  faults.map fun fault => ⟨fault,location⟩

def readNamed (type : NodeType) (pattern : KeywordPattern) : LineReader := fun line number => do
  let content := uncommented line
  let value ← pattern.captureWith (trimStart content) fun _ rest => afterColon rest
  let name := trim value
  let location := Location.ofContent line number
  return .ofNode ⟨type,location,trim content,.name name⟩ (report location (nameFaults type name))

def numberAndRest (t : Text) : Option (Option Text × Text) :=
  let digits := (trimStart t).takeWhile Unicode.isDigit
  if digits = [] then (afterColon t).map fun value => (none,value)
  else (afterColon ((trimStart t).dropWhile Unicode.isDigit)).map fun value => (some digits,value)

def readNumbered (type : NodeType) (pattern : KeywordPattern) : LineReader := fun line number => do
  let content := uncommented line
  let (digits,value) ← pattern.captureWith (trimStart content) fun _ rest => numberAndRest rest
  let name := trim value
  let location := Location.ofContent line number
  let numberFaults := match digits with
    | some digits => if (number? digits).isNone then [LexicalFault.invalidNumber type digits] else []
    | none => []
  return .ofNode ⟨type,location,trim content,.numberedName name (digits.bind number?)⟩
    (report location (numberFaults ++ nameFaults type name))

def readBlock (type : NodeType) (pattern : KeywordPattern) : LineReader := fun line number => do
  let content := uncommented line
  let value ← pattern.captureWith (trimStart content) fun _ rest =>
    match trimStart rest with
    | ':' :: trailing => oneLine trailing
    | _ => none
  let trailing := trim value
  let location := Location.ofContent line number
  let faults := if trailing = [] then [] else [.trailingContent type trailing]
  return .ofNode ⟨type,location,trim content,.empty⟩ (report location faults)

-- The quoted value of an import and what is wrong with it. Without a closing
-- quote everything behind the opening one is the value.
def quotedPath (type : NodeType) (written : Text) : Text × List LexicalFault :=
  let (value,faults) := match quoted written with
    | some (value,rest) => (value,if allBlank rest then [] else [LexicalFault.contentAfterValue type])
    | none => (written.drop 1,[LexicalFault.unclosedValue type])
  (value,faults ++ if Path.isWritable value then [] else [.invalidValue type value])

def readImport (pattern : KeywordPattern) : LineReader := fun line number => do
  let content := uncommented line
  let written ← pattern.captureWith (trimStart content) fun _ rest =>
    match trimStart rest with
    | '"' :: quote => oneLine ('"' :: quote)
    | _ => none
  let location := Location.ofContent line number
  let (value,faults) := quotedPath .importPath (trimEnd written)
  return .ofNode ⟨.importPath,location,trim content,.value value⟩ (report location faults)

def endsKeyword (c : Char) : Bool := Unicode.isBlank c || c = ','

def afterStepWord (rest : Text) : Option Text :=
  match rest with
  | [] => none
  | c :: _ => if endsKeyword c then oneLine (rest.dropWhile endsKeyword) else none

def readStep (type : NodeType) (pattern : KeywordPattern) : LineReader := fun line number => do
  let content := uncommented line
  let (keyword,value) ← pattern.captureWith (trimStart content) fun keyword rest =>
    (afterStepWord rest).map fun value => (keyword,trim value)
  let location := Location.ofContent line number
  return ⟨[⟨type,location,trim content,.step keyword value⟩],[],
    if value = [] then [⟨type,location⟩] else []⟩

-- Every dictionary knows this word for the language line, so that a file can
-- leave any language.
def universalLanguageWord : Text := "language".toList

-- Letters, numbers, underscores and hyphens, letter case aside. The combining
-- iota below is a mark, but in upper case it is the letter iota.
def isCodeChar (c : Char) : Bool :=
  Unicode.isLetter c || Unicode.isNumber c || c = '_' || c = '-' || c = '\u0345'

def languageCode (t : Text) : Option (Text × Text) :=
  let code := t.takeWhile isCodeChar
  let rest := t.dropWhile isCodeChar
  if code = [] then none
  else
    match trimStart rest with
    | [] => some (code,rest)
    | '#' :: comment => (oneLine comment).map fun _ => (code,rest)
    | _ => none

def readLanguage (pattern : KeywordPattern) : LineReader := fun line number => do
  match trimStart line with
  | '#' :: declaration =>
    let (code,rest) ← pattern.captureWith (trimStart declaration) fun _ rest =>
      match trimStart rest with
      | ':' :: rest => languageCode (trimStart rest)
      | _ => none
    return .ofNode ⟨.language,Location.ofContent line number,
      trim (line.take (line.length - rest.length)),.value code⟩ []
  | _ => none

end ScenarioLang.Line
