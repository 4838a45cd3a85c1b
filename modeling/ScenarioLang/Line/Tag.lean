import ScenarioLang.Line.Header
import ScenarioLang.Unicode.Lowercase

namespace ScenarioLang.Line
open Text

structure TagNames where
  meaning : TagMeaning
  names : List Text

namespace TagNames

def updateWords (tags : TagNames) (dictionary : Dictionary) : TagNames :=
  { tags with names := (dictionary.words (.tag tags.meaning)).map trim }

def ofDictionary (dictionary : Dictionary) (meaning : TagMeaning) : TagNames :=
  updateWords ⟨meaning,[]⟩ dictionary

def holds (tags : TagNames) (name : Text) : Bool :=
  tags.names.any fun own => Unicode.lowercase own = Unicode.lowercase name

end TagNames

def tagMeaning (reserved : List TagNames) (name : Text) : Option TagMeaning :=
  (reserved.find? fun tags => tags.holds name).map TagNames.meaning

def hasMeaning (words : TagMeaning → List Text) (name : Text) (meaning : TagMeaning) : Bool :=
  TagNames.holds ⟨meaning,(words meaning).map trim⟩ name

def isTagChar (c : Char) : Bool :=
  Unicode.isLetter c || Unicode.isNumber c || c = '_' || c = '-'

-- Values between parentheses are separated by commas. Empty ones keep their
-- place, but a blank list has none.
def tagValues (inner : Text) : List Text :=
  if trim inner = [] then [] else (split (· = ',') (trim inner)).map trim

def tagParts (body : Text) : Option (Text × Option (List Text)) :=
  match body with
  | [] => none
  | c :: _ =>
    if !Unicode.isLetter c then none
    else
      let name := body.takeWhile isTagChar
      match trimStart (body.dropWhile isTagChar) with
      | [] => some (name,none)
      | '(' :: rest =>
        if rest.getLast? = some ')' then
          (oneLine rest.dropLast).map fun inner => (name,some (tagValues inner))
        else none
      | _ => none

-- Cuts before every at sign that follows a space; the space is lost.
def tagPieces : Text → List Text
  | [] => [[]]
  | ' ' :: '@' :: rest => [] :: joinHead '@' (tagPieces rest)
  | c :: rest => joinHead c (tagPieces rest)

def placed : Nat → List Text → List (Nat × Text)
  | _,[] => []
  | column,piece :: rest => (column,piece) :: placed (column + piece.length + 1) rest

def readTag (reserved : List TagNames) (written : Text) (location : Location) :
    Except LexicalError Node :=
  let parts := match written with
    | '@' :: body => tagParts (trim body)
    | _ => none
  match parts with
  | some (name,values) => .ok ⟨.tag,location,written,.tag name (tagMeaning reserved name) values⟩
  | none => .error ⟨.invalidTag written,location⟩

def readTags (reserved : List TagNames) : LineReader := fun line number =>
  let content := trimEnd (uncommented line)
  match trimStart content with
  | '@' :: _ =>
    let pieces := placed (content.indent + 1) (tagPieces (trimStart content))
    let tags := pieces.map fun (column,piece) => readTag reserved (trim piece) ⟨number,column⟩
    some ⟨tags.filterMap fun tag => tag.toOption,
      tags.filterMap fun tag => match tag with | .ok _ => none | .error error => some error,[]⟩
  | _ => none

end ScenarioLang.Line
