import ScenarioLang.Dictionary.Builtin
import ScenarioLang.Dictionary.Table
import ScenarioLang.Path
import ScenarioLang.FileTree
import ScenarioLang.Unicode.Lowercase

namespace ScenarioLang.Dictionary
open Text

-- A code is looked for in lower case with hyphens, then without its region:
-- pt_BR is pt-br, then pt.
def normalCode (language : Text) : Text :=
  (Unicode.lowercase (trim language)).map fun c => if c = '_' then '-' else c

def candidates (language : Text) : List Text :=
  let code := normalCode language
  if code.contains '-' then [code, code.takeWhile (· ≠ '-')] else [code]

def ofCode? (code : Text) : Option Dictionary := builtin.find? (·.language = code)

def builtinSource : DictionarySource := fun language =>
  match (candidates language).findSome? ofCode? with
  | some dictionary => .found dictionary
  | none => .failed (.notFound language)

def ofFile? (tree : FileTree) (folder : Path) (code : Text) : Option Lookup :=
  let path := folder.join ⟨code ++ ".json".toList⟩
  match tree.locate path with
  | some (.bytes content) =>
    match decodeUtf8 content with
    | none => some (.failed (.unreadable path.text FileTree.undecodable))
    | some text =>
      match ofJson? code text with
      | some dictionary => some (.found dictionary)
      | none => some (.failed (.invalid code))
  | _ => none

-- Files of a folder stand before the built-in languages. The first candidate
-- that has a file decides, even if that file is no good.
def folderSource (tree : FileTree) (folder : Path) : DictionarySource := fun language =>
  match (candidates language).findSome? (ofFile? tree folder) with
  | some answer => answer
  | none => builtinSource language

def crashingOn (languages : List Text) (source : DictionarySource) : DictionarySource :=
  fun language => if languages.contains language then .crashed else source language

end ScenarioLang.Dictionary
