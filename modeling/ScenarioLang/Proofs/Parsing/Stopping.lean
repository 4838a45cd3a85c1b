import ScenarioLang.Proofs.Parsing.Reached

namespace ScenarioLang

namespace Parsing

theorem placeNode_clean (parsing : Parsing) (node : Node) (clean : (parsing.placeNode node).errors = []) :
    parsing.errors = [] := by
  simp only [placeNode] at clean
  split at clean
  · exact clean
  · exact (List.append_eq_nil_iff.mp clean).1

theorem run_clean (stopOnError : Bool) {parsing : Parsing} (clean : (parsing.run stopOnError).errors = []) :
    parsing.errors = [] := by
  fun_induction run stopOnError parsing with
  | case1 => exact clean
  | case2 parsing node cursor passed moved => exact placeNode_clean moved node clean
  | case3 parsing node cursor passed moved placeable placed goesOn ih =>
    exact placeNode_clean moved node (ih clean)
  | case4 parsing node cursor passed moved unplaced ih => exact ih clean

theorem run_stopping (stops stopOnError : Bool) {parsing : Parsing} (clean : (parsing.run stopOnError).errors = []) :
    parsing.run stops = parsing.run stopOnError := by
  fun_induction run stopOnError parsing with
  | case1 parsing passed => rw [run,passed]
  | case2 parsing node cursor passed moved placeable placed stopped =>
    rw [Bool.and_eq_true,clean] at stopped
    cases stopped.2
  | case3 parsing node cursor passed moved placeable placed goesOn ih =>
    have before : placed.errors = [] := run_clean stopOnError clean
    have goes : ¬ (stops && !placed.errors.isEmpty) = true := by simp [before]
    rw [run,passed]
    simp only [placeable,if_true]
    exact (if_neg goes).trans (ih clean)
  | case4 parsing node cursor passed moved unplaced ih =>
    rw [run,passed]
    exact (if_neg unplaced).trans (ih clean)

variable {first parsing next : Parsing} {nodes : List Node} {doc : Document} {node : Node} {fault : PlacementFault}
  {position : Nat}

def Refuses (first : Parsing) (position : Nat) (node : Node) (fault : PlacementFault) : Prop :=
  ∃ parsing cursor, first.Meets parsing node cursor ∧ parsing.cursor.position = position ∧
    parsing.verdict node cursor = .error fault

structure RefusesFirst (first : Parsing) (position : Nat) (node : Node) (fault : PlacementFault) : Prop where
  refused : first.Refuses position node fault
  earliest : ∀ earlier < position, ∀ node fault, ¬first.Refuses earlier node fault

theorem Reaches.run_stopping (reaches : first.Reaches next) (clean : next.errors = []) :
    first.run true = next.run true := by
  induction reaches with
  | refl => rfl
  | @tail middle next _ step ih =>
    have before : middle.errors = [] := List.prefix_nil.mp (clean ▸ step.errors_prefix)
    exact (ih before).trans (step.run_eq true (.inr clean))

theorem Reaches.refuses (reaches : first.Reaches next) (clean : first.errors = []) (faulty : next.errors ≠ []) :
    ∃ parsing node cursor fault, first.Meets parsing node cursor ∧ parsing.errors = [] ∧
      parsing.verdict node cursor = .error fault := by
  induction reaches with
  | refl => exact absurd clean faulty
  | @tail middle next on step ih =>
    by_cases before : middle.errors = []
    · cases step with
      | passed | accepted => exact absurd before faulty
      | refused ahead placed error => exact ⟨middle,_,_,_,⟨on,ahead,placed⟩,before,error⟩
    · exact ih before

theorem Meets.refused {cursor : Cursor} (meets : first.Meets parsing node cursor)
    (error : parsing.verdict node cursor = .error fault) :
    parsing.Step { parsing with cursor := cursor, errors := parsing.errors ++ [⟨fault,node.location⟩] } :=
  .refused meets.next meets.placed error

theorem Meets.reported {cursor : Cursor} {after : Parsing} (meets : first.Meets parsing node cursor)
    (error : parsing.verdict node cursor = .error fault) (step : parsing.Step after) (later : after.Reaches next) :
    parsing.errors ++ [⟨fault,node.location⟩] <+: next.errors := by
  obtain rfl := step.unique (meets.refused error)
  exact later.errors_prefix

theorem Meets.reported_end {cursor : Cursor} (meets : first.Meets parsing node cursor)
    (error : parsing.verdict node cursor = .error fault) :
    parsing.errors ++ [⟨fault,node.location⟩] <+: (first.run false).errors := by
  have step := meets.refused error
  rw [meets.reaches.run_eq,step.run_eq false (.inl rfl)]
  exact meets.reported error step (reaches_end _)

theorem Meets.stops {cursor : Cursor} (meets : first.Meets parsing node cursor)
    (error : parsing.verdict node cursor = .error fault) :
    parsing.run true = { parsing with cursor := cursor, errors := parsing.errors ++ [⟨fault,node.location⟩] } := by
  unfold verdict at error
  rw [run_next meets.next,if_pos meets.placed]
  simp only [placeNode,error]
  rw [if_pos (by simp)]

theorem Meets.earliest {cursor : Cursor} (meets : first.Meets parsing node cursor) (clean : parsing.errors = []) :
    ∀ earlier < parsing.cursor.position, ∀ node fault, ¬first.Refuses earlier node fault := by
  rintro _ earlier other fault ⟨before,passed,met,rfl,error⟩
  obtain ⟨after,step,later⟩ := met.reaches.before meets.reaches earlier
  have reported := met.reported error step later
  rw [clean,List.prefix_nil] at reported
  simp at reported

end Parsing

-- Stopping at the first error is cutting the nodes off before the first one that would be
-- refused and adding its error: nothing behind it is read, nothing before it is lost.
theorem parse_truncates (nodes : List Node) (doc : Document) :
    ((∀ position node fault, ¬(Parsing.start nodes doc []).Refuses position node fault) ∧
      (parse false nodes doc []).errors = [] ∧ parse true nodes doc [] = parse false nodes doc []) ∨
    ∃ position node fault, (Parsing.start nodes doc []).RefusesFirst position node fault ∧
      let before := parse false (nodes.take position) doc []
      let error : SyntacticError := ⟨fault,node.location⟩
      nodes[position]? = some node ∧ before.errors = [] ∧ (parse false nodes doc []).errors.head? = some error ∧
        parse true nodes doc [] = { before with errors := [error] } := by
  by_cases clean : ((Parsing.start nodes doc []).run false).errors = []
  · refine .inl ⟨?_,clean,congrArg Parsing.result (Parsing.run_stopping true false clean)⟩
    rintro _ node fault ⟨parsing,cursor,meets,rfl,error⟩
    have reported := meets.reported_end error
    rw [clean,List.prefix_nil] at reported
    simp at reported
  · obtain ⟨parsing,node,cursor,fault,meets,none,error⟩ := (Parsing.reaches_end _).refuses rfl clean
    obtain ⟨site,errors,ignored⟩ := meets.front
    have reported := meets.reported_end error
    have stopped := (meets.reaches.run_stopping none).trans (meets.stops error)
    rw [none,List.nil_append] at reported stopped
    refine .inr ⟨parsing.cursor.position,node,fault,⟨⟨parsing,cursor,meets,rfl,error⟩,meets.earliest none⟩,
      ?_,errors.symm.trans none,?_,?_⟩
    · obtain ⟨front,rest,rfl,place,_⟩ := meets.split
      simp [place,Cursor.position]
    · obtain ⟨others,listed⟩ := reported
      have all : (parse false nodes doc []).errors = [⟨fault,node.location⟩] ++ others := listed.symm
      rw [all]
      rfl
    · refine (congrArg Parsing.result stopped).trans ?_
      simp only [Parsing.result,parse,site,ignored]

end ScenarioLang
