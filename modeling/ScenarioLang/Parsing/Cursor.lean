import ScenarioLang.Node

namespace ScenarioLang

-- A place in the nodes of a file. The nodes read so far stand with the current
-- one first; those ahead stand in source order.
structure Cursor where
  behind : List Node
  ahead : List Node
  deriving DecidableEq, Repr

namespace Cursor

def ofNodes (nodes : List Node) : Cursor := ⟨[],nodes⟩

def next? (cursor : Cursor) : Option (Node × Cursor) :=
  match cursor.ahead with
  | [] => none
  | node :: rest => some (node,⟨node :: cursor.behind,rest⟩)

theorem next?_shorter {cursor passed : Cursor} {node : Node} (eq : cursor.next? = some (node,passed)) :
    passed.ahead.length < cursor.ahead.length := by
  unfold next? at eq
  split at eq
  · cases eq
  · rename_i ahead; cases eq; simp [ahead]

def peek? (cursor : Cursor) : Option Node := cursor.ahead.head?
def hasNext (cursor : Cursor) : Bool := !cursor.ahead.isEmpty

def consumed (cursor : Cursor) : List Node := cursor.behind.reverse

def precedingTags (cursor : Cursor) : List Node :=
  ((cursor.behind.drop 1).takeWhile fun node => node.type = .tag).reverse

def takeRun (type : NodeType) (cursor : Cursor) : List Node × Cursor :=
  let run := cursor.ahead.takeWhile fun node => node.type = type
  (run,⟨run.reverse ++ cursor.behind,cursor.ahead.dropWhile fun node => node.type = type⟩)

end Cursor
end ScenarioLang
