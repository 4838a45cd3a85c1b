import ScenarioLang.Proofs.PathMap
import ScenarioLang.ProblemMap

namespace ScenarioLang

namespace FileProblems

theorem add_none (problems : FileProblems) : problems.add none = problems := by
  simp [add,none]

theorem none_add (problems : FileProblems) : none.add problems = problems := by
  simp [add,none]

theorem add_assoc (a b c : FileProblems) : (a.add b).add c = a.add (b.add c) := by
  simp [add]

theorem isNone_iff {problems : FileProblems} : problems.isNone = true ↔ problems = .none := by
  obtain ⟨errors,warnings⟩ := problems
  simp [isNone,none]

end FileProblems

namespace ProblemMap

variable {map more other : ProblemMap} {path query : Path} {problems : FileProblems}

def Ordered (map : ProblemMap) : Prop := map.files.Ordered

-- What a map says about a file, an absent entry like one without problems.
def said (query : Path) (map : ProblemMap) : FileProblems := (map.get? query).getD .none

theorem errors_eq (query : Path) (map : ProblemMap) : map.errors query = (map.said query).errors := rfl
theorem warnings_eq (query : Path) (map : ProblemMap) : map.warnings query = (map.said query).warnings := rfl

theorem ordered_empty : empty.Ordered := List.Pairwise.nil
theorem said_empty (query : Path) : empty.said query = .none := rfl

theorem ordered_add (ordered : map.Ordered) : (map.add path problems).Ordered := PathMap.ordered_update ordered

theorem get?_add_other (other : path.same query = false) : (map.add path problems).get? query = map.get? query :=
  PathMap.get?_update_other other

theorem said_add_other (other : path.same query = false) : (map.add path problems).said query = map.said query := by
  rw [said,get?_add_other other,said]

theorem said_add_own (ordered : map.Ordered) (same : path.same query = true) :
    (map.add path problems).said query = (map.said query).add problems := by
  simp only [said,get?,add,PathMap.get?_update_own ordered same,Option.getD_some]

theorem ordered_merge (ordered : map.Ordered) : (map.merge more).Ordered := by
  obtain ⟨files⟩ := more
  unfold merge
  induction files generalizing map with
  | nil => exact ordered
  | cons entry rest ih => exact ih (ordered_add ordered)

def join (entry more : Path × FileProblems) : Path × FileProblems := (entry.1,entry.2.add more.2)

theorem held?_merge (ordered : map.Ordered) (also : more.Ordered) (query : Path) :
    (map.merge more).files.held? query = (map.files.held? query).merge join (more.files.held? query) := by
  obtain ⟨files⟩ := more
  unfold merge
  induction files generalizing map with
  | nil => exact Option.merge_none_right.symm
  | cons entry rest ih =>
    obtain ⟨first,later⟩ := List.pairwise_cons.mp also
    rw [List.foldl_cons,ih (ordered_add ordered) later]
    by_cases own : entry.1.same query = true
    · have absent : PathMap.held? query rest = none := by
        rw [← PathMap.held?_same own]
        exact PathMap.held?_before first
      rw [absent,PathMap.held?_own own,add,PathMap.held?_update_own ordered own,PathMap.get?_eq_held?]
      cases map.files.held? query with
      | none => exact congrArg (fun problems => some (entry.1,problems)) (FileProblems.none_add entry.2)
      | some old => rfl
    · have other : entry.1.same query = false := Bool.eq_false_iff.mpr own
      rw [PathMap.held?_later other,add,PathMap.held?_update_other other]

theorem said_merge (ordered : map.Ordered) (also : more.Ordered) (query : Path) :
    (map.merge more).said query = (map.said query).add (more.said query) := by
  simp only [said,get?,PathMap.get?_eq_held?,held?_merge ordered also]
  cases map.files.held? query with
  | none =>
    cases more.files.held? query with
    | none => rfl
    | some entry => exact (FileProblems.none_add entry.2).symm
  | some old =>
    cases more.files.held? query with
    | none => exact (FileProblems.add_none old.2).symm
    | some entry => rfl

theorem Ordered.ext (ordered : map.Ordered) (also : other.Ordered)
    (same : ∀ path, map.files.held? path = other.files.held? path) : map = other :=
  congrArg ProblemMap.mk (PathMap.Ordered.ext_held? ordered also same)

theorem join_assoc (a b c : Path × FileProblems) : join (join a b) c = join a (join b c) :=
  congrArg (Prod.mk a.1) (FileProblems.add_assoc a.2 b.2 c.2)

theorem merge_assoc (ordered : map.Ordered) (also : more.Ordered) (last : other.Ordered) :
    (map.merge more).merge other = map.merge (more.merge other) := by
  apply (ordered_merge (ordered_merge ordered)).ext (ordered_merge ordered)
  intro path
  rw [held?_merge (ordered_merge ordered) last,held?_merge ordered also,
    held?_merge ordered (ordered_merge also),held?_merge also last]
  cases map.files.held? path <;> cases more.files.held? path <;> cases other.files.held? path <;>
    simp [Option.merge,join_assoc]

theorem merge_empty (map : ProblemMap) : map.merge empty = map := rfl

theorem empty_merge (ordered : map.Ordered) : empty.merge map = map := by
  apply (ordered_merge ordered_empty).ext ordered
  intro path
  rw [held?_merge ordered_empty ordered]
  exact Option.merge_none_left

theorem hasErrors_iff (ordered : map.Ordered) : map.hasErrors = true ↔ ∃ query, (map.said query).errors ≠ [] := by
  constructor
  · intro erring
    obtain ⟨⟨key,problems⟩,member,wrong⟩ := List.any_eq_true.mp erring
    refine ⟨key,?_⟩
    rw [said,get?,PathMap.get?_of_mem ordered member,Option.getD_some]
    simpa using wrong
  · rintro ⟨query,wrong⟩
    cases found : map.get? query with
    | none =>
      rw [said,found] at wrong
      exact absurd rfl wrong
    | some problems =>
      rw [said,found,Option.getD_some] at wrong
      obtain ⟨key,_,member⟩ := PathMap.mem_of_get?_same found
      exact List.any_eq_true.mpr ⟨(key,problems),member,by simpa using wrong⟩

end ProblemMap

end ScenarioLang
