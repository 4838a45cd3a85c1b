import Mathlib.Logic.Relation
import ScenarioLang.Proofs.Parsing.Conservation

namespace ScenarioLang

namespace Cursor

variable {cursor passed : Cursor} {node : Node} {rest : List Node}

def whole (cursor : Cursor) : List Node := cursor.behind.reverse ++ cursor.ahead

def position (cursor : Cursor) : Nat := cursor.behind.length

theorem next?_moves (next : cursor.next? = some (node,passed)) :
    passed.whole = cursor.whole ∧ passed.position = cursor.position + 1 := by
  obtain ⟨behind,ahead⟩ := cursor
  cases ahead with
  | nil => cases next
  | cons first others => cases next; exact ⟨by simp [whole],rfl⟩

theorem takeRun_moves (cursor : Cursor) (type : NodeType) :
    (cursor.takeRun type).2.whole = cursor.whole ∧ cursor.position ≤ (cursor.takeRun type).2.position := by
  constructor
  · simp only [takeRun,whole,List.reverse_append,List.reverse_reverse,List.append_assoc,
      List.takeWhile_append_dropWhile]
  · simp [takeRun,position]

def extend (cursor : Cursor) (rest : List Node) : Cursor := ⟨cursor.behind,cursor.ahead ++ rest⟩

theorem next?_extend (next : cursor.next? = some (node,passed)) :
    (cursor.extend rest).next? = some (node,passed.extend rest) := by
  obtain ⟨behind,ahead⟩ := cursor
  cases ahead with
  | nil => cases next
  | cons first others => cases next; rfl

theorem takeRun_extend (cursor : Cursor) (closed : ∀ first ∈ rest.head?, first.type ≠ .text) :
    (cursor.extend rest).takeRun .text = ((cursor.takeRun .text).1,(cursor.takeRun .text).2.extend rest) := by
  obtain ⟨behind,ahead⟩ := cursor
  have stop : (rest.takeWhile fun node => decide (node.type = .text)) = [] ∧
      (rest.dropWhile fun node => decide (node.type = .text)) = rest := by
    cases rest with
    | nil => exact ⟨rfl,rfl⟩
    | cons first others =>
      have plain := decide_eq_false (closed first rfl)
      exact ⟨List.takeWhile_cons_of_neg (by simp [plain]),List.dropWhile_cons_of_neg (by simp [plain])⟩
  have parts : ((ahead ++ rest).takeWhile fun node => decide (node.type = .text)) =
        (ahead.takeWhile fun node => decide (node.type = .text)) ∧
      ((ahead ++ rest).dropWhile fun node => decide (node.type = .text)) =
        (ahead.dropWhile fun node => decide (node.type = .text)) ++ rest := by
    induction ahead with
    | nil => exact stop
    | cons first others ih =>
      by_cases text : first.type = .text
      · simpa [text] using ih
      · simp [text]
  simp only [takeRun,extend,parts.1,parts.2]

end Cursor

namespace Parsing

-- What one node does to a parse that does not stop on errors: it is passed over, put into
-- the document, or refused.
inductive Step (parsing : Parsing) : Parsing → Prop where
  | passed {node : Node} {cursor : Cursor} (next : parsing.cursor.next? = some (node,cursor))
      (skipped : node.type.isPlaced = false) : Step parsing ({ parsing with cursor := cursor }.ignore node.type)
  | accepted {node : Node} {cursor : Cursor} {site : Site} (next : parsing.cursor.next? = some (node,cursor))
      (placed : node.type.isPlaced = true)
      (ok : parsing.site.place node cursor.precedingTags (cursor.takeRun .text).1 = .ok site) :
      Step parsing { parsing with
        site := site, cursor := if node.type.isDescribed then (cursor.takeRun .text).2 else cursor }
  | refused {node : Node} {cursor : Cursor} {fault : PlacementFault}
      (next : parsing.cursor.next? = some (node,cursor)) (placed : node.type.isPlaced = true)
      (error : parsing.site.place node cursor.precedingTags (cursor.takeRun .text).1 = .error fault) :
      Step parsing { parsing with cursor := cursor, errors := parsing.errors ++ [⟨fault,node.location⟩] }

def Reaches (first parsing : Parsing) : Prop := Relation.ReflTransGen Step first parsing

variable {first parsing next other final : Parsing} {rest : List Node} {log : List Visit}

theorem Step.run_eq (step : parsing.Step next) (stopOnError : Bool) (goesOn : stopOnError = false ∨ next.errors = []) :
    parsing.run stopOnError = next.run stopOnError := by
  have stays : ∀ {placed : Parsing}, placed.errors = next.errors → (stopOnError && !placed.errors.isEmpty) = false := by
    intro placed same
    rcases goesOn with off | none
    · rw [off,Bool.false_and]
    · simp [same,none]
  cases step with
  | passed ahead skipped => rw [run_next ahead,if_neg (by simp [skipped])]
  | accepted ahead placed ok =>
    rw [run_next ahead,if_pos placed]
    simp only [placeNode,ok]
    rw [stays rfl,if_neg Bool.false_ne_true]
  | refused ahead placed error =>
    rw [run_next ahead,if_pos placed]
    simp only [placeNode,error]
    rw [stays rfl,if_neg Bool.false_ne_true]

theorem Step.unique (step : parsing.Step next) (again : parsing.Step other) : next = other := by
  have computed : ∀ {next}, parsing.Step next → parsing.cursor.next?.map (fun ahead =>
      if ahead.1.type.isPlaced then { parsing with cursor := ahead.2 }.placeNode ahead.1
      else { parsing with cursor := ahead.2 }.ignore ahead.1.type) = some next := by
    intro next step
    cases step with
    | passed ahead skipped => simp [ahead,skipped]
    | accepted ahead placed ok => simp [ahead,placed,placeNode,ok]
    | refused ahead placed error => simp [ahead,placed,placeNode,error]
  exact Option.some.inj ((computed step).symm.trans (computed again))

theorem Step.moves (step : parsing.Step next) :
    next.cursor.whole = parsing.cursor.whole ∧ parsing.cursor.position < next.cursor.position := by
  cases step with
  | @passed node cursor ahead skipped =>
    obtain ⟨whole,position⟩ := Cursor.next?_moves ahead
    exact ⟨whole,by simp [ignore,position]⟩
  | @accepted node cursor site ahead placed ok =>
    obtain ⟨whole,position⟩ := Cursor.next?_moves ahead
    obtain ⟨taken,later⟩ := cursor.takeRun_moves .text
    dsimp only
    split
    · exact ⟨taken.trans whole,by omega⟩
    · exact ⟨whole,by omega⟩
  | @refused node cursor fault ahead placed error =>
    obtain ⟨whole,position⟩ := Cursor.next?_moves ahead
    exact ⟨whole,by simp [position]⟩

theorem Step.errors_prefix (step : parsing.Step next) : parsing.errors <+: next.errors := by
  cases step with
  | passed | accepted => exact List.prefix_rfl
  | refused => exact List.prefix_append _ _

theorem Step.keeps (step : parsing.Step next) : parsing.site.doc.layout.Keeps next.site.doc.layout := by
  cases step with
  | passed | refused => exact Layout.Keeps.refl _
  | accepted ahead placed ok =>
    dsimp only
    rw [Site.place_layout ok]
    exact Layout.keeps_after _

def extend (parsing : Parsing) (rest : List Node) : Parsing := { parsing with cursor := parsing.cursor.extend rest }

-- What lies further ahead plays no part in a step, unless it goes on with a description.
theorem Step.extend (closed : ∀ first ∈ rest.head?, first.type ≠ .text) (step : parsing.Step next) :
    (parsing.extend rest).Step (next.extend rest) := by
  cases step with
  | passed ahead skipped => exact .passed (Cursor.next?_extend ahead) skipped
  | @accepted node cursor site ahead placed ok =>
    have run := cursor.takeRun_extend closed
    have moved : (parsing.extend rest).Step { parsing.extend rest with
        site := site
        cursor := if node.type.isDescribed then ((cursor.extend rest).takeRun .text).2 else cursor.extend rest } :=
      .accepted (Cursor.next?_extend ahead) placed (by rw [run]; exact ok)
    rw [run] at moved
    unfold Parsing.extend at moved ⊢
    cases described : node.type.isDescribed <;> simpa [described] using moved
  | @refused node cursor fault ahead placed error =>
    exact .refused (Cursor.next?_extend ahead) placed (by rw [cursor.takeRun_extend closed]; exact error)

theorem Trace.reaches (trace : Trace parsing log final) : parsing.Reaches final := by
  induction trace with
  | ended done => exact .refl
  | passed next skipped rest ih => exact .head (.passed next skipped) ih
  | accepted next placed ok at_ rest ih => exact .head (.accepted next placed ok) ih
  | refused next placed error rest ih => exact .head (.refused next placed error) ih

theorem reaches_end (parsing : Parsing) : parsing.Reaches (parsing.run false) := by
  obtain ⟨log,trace⟩ := run_trace parsing
  exact trace.reaches

theorem Reaches.run_eq (reaches : first.Reaches next) : first.run false = next.run false := by
  induction reaches with
  | refl => rfl
  | tail _ step ih => exact ih.trans (step.run_eq false (.inl rfl))

theorem Reaches.whole (reaches : first.Reaches next) : next.cursor.whole = first.cursor.whole := by
  induction reaches with
  | refl => rfl
  | tail _ step ih => exact step.moves.1.trans ih

theorem Reaches.position_le (reaches : first.Reaches next) : first.cursor.position ≤ next.cursor.position := by
  induction reaches with
  | refl => exact Nat.le_refl _
  | tail _ step ih => exact Nat.le_trans ih (Nat.le_of_lt step.moves.2)

theorem Reaches.errors_prefix (reaches : first.Reaches next) : first.errors <+: next.errors := by
  induction reaches with
  | refl => exact List.prefix_rfl
  | tail _ step ih => exact ih.trans step.errors_prefix

theorem Reaches.keeps (reaches : first.Reaches next) : first.site.doc.layout.Keeps next.site.doc.layout := by
  induction reaches with
  | refl => exact Layout.Keeps.refl _
  | tail _ step ih => exact ih.trans step.keeps

theorem Reaches.extend (closed : ∀ first ∈ rest.head?, first.type ≠ .text) (reaches : first.Reaches next) :
    (first.extend rest).Reaches (next.extend rest) := by
  induction reaches with
  | refl => exact .refl
  | tail _ step ih => exact .tail ih (step.extend closed)

theorem Reaches.total (reaches : first.Reaches next) (also : first.Reaches other) :
    next.Reaches other ∨ other.Reaches next :=
  Relation.ReflTransGen.total_of_right_unique (r := Step) (fun _ _ _ step again => step.unique again) reaches also

theorem Reaches.before (reaches : first.Reaches next) (also : first.Reaches other)
    (earlier : next.cursor.position < other.cursor.position) :
    ∃ after, next.Step after ∧ after.Reaches other := by
  rcases reaches.total also with on | back
  · rcases Relation.ReflTransGen.cases_head on with rfl | goesOn
    · exact absurd earlier (Nat.lt_irrefl _)
    · exact goesOn
  · exact absurd back.position_le (Nat.not_le_of_lt earlier)

theorem Reaches.unique (reaches : first.Reaches next) (also : first.Reaches other)
    (same : next.cursor.position = other.cursor.position) : next = other := by
  have stays : ∀ {one two : Parsing}, one.Reaches two → one.cursor.position = two.cursor.position → one = two := by
    intro one two on same
    rcases Relation.ReflTransGen.cases_head on with rfl | ⟨after,step,later⟩
    · rfl
    · have forward := step.moves.2
      have further := Reaches.position_le later
      omega
  rcases reaches.total also with on | back
  · exact stays on same
  · exact (stays back same.symm).symm

theorem run_ahead (parsing : Parsing) : (parsing.run false).cursor.ahead = [] := by
  obtain ⟨log,trace⟩ := run_trace parsing
  generalize parsing.run false = final at trace
  induction trace with
  | ended done => exact Cursor.next?_none done
  | passed _ _ _ ih | accepted _ _ _ _ _ ih | refused _ _ _ _ ih => exact ih

theorem run_cursor (parsing : Parsing) :
    (parsing.run false).cursor = ⟨parsing.cursor.ahead.reverse ++ parsing.cursor.behind,[]⟩ := by
  have whole := congrArg List.reverse parsing.reaches_end.whole
  have ended := run_ahead parsing
  generalize (parsing.run false).cursor = cursor at whole ended
  obtain ⟨behind,ahead⟩ := cursor
  cases ended
  simpa [Cursor.whole] using whole

-- Where a parse of some nodes ends, another can go on.
theorem reaches_front (front rest : List Node) (doc : Document) (errors : List SyntacticError)
    (closed : ∀ first ∈ rest.head?, first.type ≠ .text) :
    (start (front ++ rest) doc errors).Reaches
      { (start front doc errors).run false with cursor := ⟨front.reverse,rest⟩ } := by
  have ended := run_cursor (start front doc errors)
  have extended : ((start front doc errors).run false).extend rest =
      { (start front doc errors).run false with cursor := ⟨front.reverse,rest⟩ } := by
    unfold extend
    rw [ended]
    simp [Cursor.extend,start,Cursor.ofNodes]
  exact extended ▸ (start front doc errors).reaches_end.extend closed

theorem run_append (front rest : List Node) (doc : Document) (errors : List SyntacticError)
    (closed : ∀ first ∈ rest.head?, first.type ≠ .text) :
    (start (front ++ rest) doc errors).run false =
      { (start front doc errors).run false with cursor := ⟨front.reverse,rest⟩ }.run false :=
  (reaches_front front rest doc errors closed).run_eq

structure Meets (first parsing : Parsing) (node : Node) (cursor : Cursor) : Prop where
  reaches : first.Reaches parsing
  next : parsing.cursor.next? = some (node,cursor)
  placed : node.type.isPlaced = true

def verdict (parsing : Parsing) (node : Node) (cursor : Cursor) : Except PlacementFault Site :=
  parsing.site.place node cursor.precedingTags (cursor.takeRun .text).1

section
variable {nodes : List Node} {doc : Document} {errors : List SyntacticError} {node : Node} {cursor : Cursor}

theorem Meets.split (meets : (start nodes doc errors).Meets parsing node cursor) : ∃ front rest,
    nodes = front ++ node :: rest ∧ parsing.cursor = ⟨front.reverse,node :: rest⟩ ∧
      cursor = ⟨node :: front.reverse,rest⟩ := by
  have whole : parsing.cursor.whole = nodes := meets.reaches.whole
  have next := meets.next
  generalize parsing.cursor = place at whole next
  obtain ⟨behind,ahead⟩ := place
  cases ahead with
  | nil => cases next
  | cons first others =>
    cases next
    refine ⟨behind.reverse,others,whole.symm,?_,?_⟩ <;> rw [List.reverse_reverse]

theorem Meets.front (meets : (start nodes doc errors).Meets parsing node cursor) :
    let alone := (start (nodes.take parsing.cursor.position) doc errors).run false
    parsing.site = alone.site ∧ parsing.errors = alone.errors ∧ parsing.ignored = alone.ignored := by
  intro alone
  obtain ⟨front,rest,rfl,place,_⟩ := meets.split
  have count : parsing.cursor.position = front.length := by simp [place,Cursor.position]
  have solid : ∀ first ∈ (node :: rest).head?, first.type ≠ .text := by
    intro first member text
    cases member
    have placed := meets.placed
    rw [text] at placed
    cases placed
  have same : parsing = _ := meets.reaches.unique (reaches_front front (node :: rest) doc errors solid)
    (by simp [place,Cursor.position])
  have before : alone = (start front doc errors).run false := by
    simp only [alone,count,List.take_left]
  rw [same,before]
  exact ⟨rfl,rfl,rfl⟩

end

end Parsing
end ScenarioLang
