import ScenarioLang.FileTree

namespace ScenarioLang

inductive Stored where
  | text (content : Text)
  | unreadable (reason : String)
  | crashing

structure FileStore where
  files : List (Path × Stored)
  absent : Path → String

namespace FileStore

def read (store : FileStore) (path : Path) : Stored :=
  match store.files.find? fun entry => entry.1.same path with
  | some (_,stored) => stored
  | none => .unreadable (store.absent path)

-- Texts kept in memory. Of two texts for one path the later counts.
def ofTexts (texts : List (Path × Text)) (crashing : List Path) : FileStore where
  files := crashing.map (fun path => (path,.crashing)) ++ texts.reverse.map fun (path,text) => (path,.text text)
  absent path := s!"no such file: {String.ofList path.text}"

def ofRead : Except String Text → Stored
  | .ok text => .text text
  | .error reason => .unreadable reason

def leading (names : List Text) : List (List Text) :=
  (List.range names.length).map fun count => names.take (count + 1)

def pathsOf (tree : FileTree) : List Path :=
  (tree.entries.flatMap fun entry => leading entry.1).map fun names => .ofComponents (names.map .name)

def ofTree (tree : FileTree) : FileStore where
  files := (pathsOf tree).map fun path => (path,ofRead (tree.read path))
  absent := FileTree.absence

end FileStore
end ScenarioLang
