import ScenarioLang.Path

namespace ScenarioLang

inductive FileEntry where
  | folder
  | bytes (content : List UInt8)
  deriving DecidableEq, Repr

def decodeUtf8 (content : List UInt8) : Option Text :=
  (String.fromUTF8? ⟨content.toArray⟩).map String.toList

def encodeUtf8 (text : Text) : List UInt8 := (String.ofList text).toUTF8.toList

-- The files below the working folder by their names from there. Folders that
-- hold something exist without an entry of their own.
structure FileTree where
  entries : List (List Text × FileEntry)

namespace FileTree

def undecodable : String := "stream did not contain valid UTF-8"
def missing : String := "No such file or directory (os error 2)"
def isFolderReason : String := "Is a directory (os error 21)"
def nulReason : String := "file name contained an unexpected NUL byte"

def named (tree : FileTree) (names : List Text) : Option FileEntry :=
  match tree.entries.find? fun entry => entry.1 = names with
  | some (_,entry) => some entry
  | none =>
    if tree.entries.any fun entry => names.isPrefixOf entry.1 then some .folder else none

-- Walks from the working folder, which is not left: an absolute path, or one that
-- climbs above that folder, holds no file. Every component but the last must be a
-- folder.
def walk (tree : FileTree) : List Text → List Component → Option FileEntry
  | names,[] => if names = [] then some .folder else tree.named names
  | names,component :: rest =>
    match (if names = [] then some .folder else tree.named names) with
    | some .folder =>
      match component with
      | .name name => walk tree (names ++ [name]) rest
      | .here => walk tree names rest
      | .up => if names = [] then none else walk tree names.dropLast rest
      | .root => none
    | _ => none

def locate (tree : FileTree) (path : Path) : Option FileEntry :=
  if path.text = [] || path.text.contains '\x00' then none else tree.walk [] path.components

def absence (path : Path) : String :=
  if path.text.contains '\x00' then nulReason
  else if path.components ≠ [] && path.components.all (· = .up) then isFolderReason
  else missing

def read (tree : FileTree) (path : Path) : Except String Text :=
  match tree.locate path with
  | none => .error (absence path)
  | some .folder => .error isFolderReason
  | some (.bytes content) =>
    match decodeUtf8 content with
    | some text => .ok text
    | none => .error undecodable

end FileTree
end ScenarioLang
