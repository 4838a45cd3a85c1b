import ScenarioLang.Parsing.Cursor
import ScenarioLang.Parsing.Placement

namespace ScenarioLang

structure Parsing where
  cursor : Cursor
  site : Site
  errors : List SyntacticError
  ignored : List NodeType

structure Parsed where
  doc : Document
  errors : List SyntacticError
  ignored : List NodeType

namespace Parsing

def start (nodes : List Node) (doc : Document) (errors : List SyntacticError) : Parsing :=
  ⟨.ofNodes nodes,.start doc,errors,[]⟩

-- One node, which the cursor has just passed. An accepted header takes the text
-- below it out of the way.
def placeNode (parsing : Parsing) (node : Node) : Parsing :=
  let (run,beyond) := parsing.cursor.takeRun .text
  match parsing.site.place node parsing.cursor.precedingTags run with
  | .ok site =>
    { parsing with site := site, cursor := if node.type.isDescribed then beyond else parsing.cursor }
  | .error fault => { parsing with errors := parsing.errors ++ [⟨fault,node.location⟩] }

def ignore (parsing : Parsing) (type : NodeType) : Parsing :=
  { parsing with ignored := if parsing.ignored.contains type then parsing.ignored else parsing.ignored ++ [type] }

theorem placeNode_ahead_le (parsing : Parsing) (node : Node) :
    (parsing.placeNode node).cursor.ahead.length ≤ parsing.cursor.ahead.length := by
  have short := (List.dropWhile_sublist (l := parsing.cursor.ahead)
    (fun node => decide (node.type = .text))).length_le
  unfold placeNode
  split
  rename_i run beyond eq
  cases eq
  split
  · by_cases described : node.type.isDescribed <;> simp [described]; exact short
  · exact Nat.le_refl _

def run (stopOnError : Bool) (parsing : Parsing) : Parsing :=
  match _passed : parsing.cursor.next? with
  | none => parsing
  | some (node,cursor) =>
    let moved := { parsing with cursor := cursor }
    if node.type.isPlaced then
      let placed := moved.placeNode node
      if stopOnError && !placed.errors.isEmpty then placed else run stopOnError placed
    else run stopOnError (moved.ignore node.type)
termination_by parsing.cursor.ahead.length
decreasing_by
  · exact Nat.lt_of_le_of_lt (placeNode_ahead_le _ _) (Cursor.next?_shorter _passed)
  · exact Cursor.next?_shorter _passed

def result (parsing : Parsing) : Parsed :=
  ⟨parsing.site.doc,parsing.errors,NodeType.all.filter parsing.ignored.contains⟩

end Parsing

def parse (stopOnError : Bool) (nodes : List Node) (doc : Document) (errors : List SyntacticError) : Parsed :=
  ((Parsing.start nodes doc errors).run stopOnError).result

end ScenarioLang
