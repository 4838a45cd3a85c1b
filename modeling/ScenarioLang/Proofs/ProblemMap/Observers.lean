import Mathlib.Algebra.BigOperators.Group.List.Basic
import Mathlib.Algebra.GroupWithZero.Nat
import Mathlib.Data.List.Nodup
import ScenarioLang.Proofs.ImportGraph.Built
import ScenarioLang.Proofs.ProblemMap

namespace ScenarioLang.ProblemMap

variable {map more other : ProblemMap} {path query : Path} {problems : FileProblems}
  {errors warnings errors' warnings' : List (Path × Problem)}

def problemsFor (path : Path) (log : List (Path × Problem)) : List Problem :=
  (log.filter fun entry => entry.1.same path).map Prod.snd

theorem problemsFor_append (front back : List (Path × Problem)) :
    problemsFor path (front ++ back) = problemsFor path front ++ problemsFor path back := by
  simp [problemsFor]

theorem problemsFor_own (own : path.same query = true) (added : List Problem) :
    problemsFor query (added.map (path,·)) = added := by
  simp [problemsFor,List.filter_map,Function.comp_def,own]

theorem problemsFor_other (apart : path.same query = false) (added : List Problem) :
    problemsFor query (added.map (path,·)) = [] := by
  simp [problemsFor,List.filter_map,Function.comp_def,apart]

theorem mem_problemsFor {log : List (Path × Problem)} {entry : Path × Problem} (member : entry ∈ log) :
    entry.2 ∈ problemsFor entry.1 log :=
  List.mem_map_of_mem (List.mem_filter.mpr ⟨member,Path.same_refl _⟩)

theorem sum_same {paths : List Path} (apart : Path.Apart paths) (listed : ∃ other ∈ paths, path.same other = true) :
    (paths.map fun other => if path.same other then 1 else 0).sum = 1 := by
  have counted : ∀ paths : List Path, (paths.map fun other => if path.same other then 1 else 0).sum =
      (paths.map Path.components).count path.components := by
    intro paths
    induction paths with
    | nil => rfl
    | cons other rest ih =>
      by_cases same : path.same other = true
      · rw [List.map_cons,List.sum_cons,if_pos same,ih,List.map_cons,Path.same_iff.mp same,List.count_cons_self,
          Nat.add_comm]
      · have other_than : other.components ≠ path.components := fun equal => same (Path.same_iff.mpr equal.symm)
        rw [List.map_cons,List.sum_cons,if_neg same,ih,List.map_cons,List.count_cons_of_ne other_than,Nat.zero_add]
  obtain ⟨other,member,same⟩ := listed
  rw [counted]
  apply List.count_eq_one_of_mem apart
  rw [Path.same_iff.mp same]
  exact List.mem_map_of_mem member

theorem length_eq_sum {log : List (Path × Problem)} {paths : List Path} (apart : Path.Apart paths)
    (covered : ∀ entry ∈ log, ∃ path ∈ paths, entry.1.same path = true) :
    log.length = (paths.map fun path => (problemsFor path log).length).sum := by
  induction log with
  | nil => simp [problemsFor]
  | cons entry rest ih =>
    have once := sum_same apart (covered entry List.mem_cons_self)
    have later := ih fun other member => covered other (List.mem_cons_of_mem _ member)
    have split : ∀ path, (problemsFor path (entry :: rest)).length =
        (if entry.1.same path then 1 else 0) + (problemsFor path rest).length := by
      intro path
      by_cases own : entry.1.same path = true
      · simp [problemsFor,own,Nat.add_comm]
      · simp [problemsFor,own]
    simp only [split,List.sum_map_add]
    rw [once,← later,List.length_cons,Nat.add_comm]

structure Logged (map : ProblemMap) (errors warnings : List (Path × Problem)) : Prop where
  ordered : map.Ordered
  said : ∀ path, map.said path = ⟨problemsFor path errors,problemsFor path warnings⟩

theorem empty_logged : Logged empty [] [] := ⟨ordered_empty,fun _ => rfl⟩

theorem Logged.add (logged : Logged map errors warnings) (path : Path) (problems : FileProblems) :
    Logged (map.add path problems) (errors ++ problems.errors.map (path,·))
      (warnings ++ problems.warnings.map (path,·)) := by
  refine ⟨ordered_add logged.ordered,fun query => ?_⟩
  rw [problemsFor_append,problemsFor_append]
  by_cases own : path.same query = true
  · rw [said_add_own logged.ordered own,logged.said,problemsFor_own own,problemsFor_own own]
    rfl
  · have apart : path.same query = false := Bool.eq_false_iff.mpr own
    rw [said_add_other apart,logged.said,problemsFor_other apart,problemsFor_other apart,List.append_nil,
      List.append_nil]

theorem Logged.addErrors (logged : Logged map errors warnings) (path : Path) (added : List Problem) :
    Logged (map.addErrors path added) (errors ++ added.map (path,·)) warnings := by
  have result := logged.add path ⟨added,[]⟩
  rwa [List.map_nil,List.append_nil] at result

theorem Logged.addWarnings (logged : Logged map errors warnings) (path : Path) (added : List Problem) :
    Logged (map.addWarnings path added) errors (warnings ++ added.map (path,·)) := by
  have result := logged.add path ⟨[],added⟩
  rwa [List.map_nil,List.append_nil] at result

theorem Logged.merge (logged : Logged map errors warnings) (also : Logged more errors' warnings') :
    Logged (map.merge more) (errors ++ errors') (warnings ++ warnings') := by
  refine ⟨ordered_merge logged.ordered,fun query => ?_⟩
  rw [said_merge logged.ordered also.ordered,logged.said,also.said,problemsFor_append,problemsFor_append]
  rfl

-- The calls that lead to a map. A map that is merged in has calls of its own.
inductive History where
  | empty
  | addError (before : History) (path : Path) (error : Problem)
  | addWarning (before : History) (path : Path) (warning : Problem)
  | addErrors (before : History) (path : Path) (errors : List Problem)
  | addWarnings (before : History) (path : Path) (warnings : List Problem)
  | addGenericError (before : History) (error : Problem)
  | merge (before more : History)

namespace History

def build : History → ProblemMap
  | empty => .empty
  | addError before path error => before.build.addError path error
  | addWarning before path warning => before.build.addWarning path warning
  | addErrors before path errors => before.build.addErrors path errors
  | addWarnings before path warnings => before.build.addWarnings path warnings
  | addGenericError before error => before.build.addGenericError error
  | merge before more => before.build.merge more.build

def addedErrors : History → List (Path × Problem)
  | empty => []
  | addError before path error => before.addedErrors ++ [(path,error)]
  | addErrors before path errors => before.addedErrors ++ errors.map (path,·)
  | addGenericError before error => before.addedErrors ++ [(generic,error)]
  | addWarning before _ _ | addWarnings before _ _ => before.addedErrors
  | merge before more => before.addedErrors ++ more.addedErrors

def addedWarnings : History → List (Path × Problem)
  | empty => []
  | addWarning before path warning => before.addedWarnings ++ [(path,warning)]
  | addWarnings before path warnings => before.addedWarnings ++ warnings.map (path,·)
  | addError before _ _ | addErrors before _ _ | addGenericError before _ => before.addedWarnings
  | merge before more => before.addedWarnings ++ more.addedWarnings

theorem logged (history : History) : Logged history.build history.addedErrors history.addedWarnings := by
  induction history with
  | empty => exact empty_logged
  | addError before path error ih => exact ih.addErrors path [error]
  | addWarning before path warning ih => exact ih.addWarnings path [warning]
  | addErrors before path errors ih => exact ih.addErrors path errors
  | addWarnings before path warnings ih => exact ih.addWarnings path warnings
  | addGenericError before error ih => exact ih.addErrors generic [error]
  | merge before more first second => exact first.merge second

end History

theorem length_files {log : List (Path × Problem)} {pick : FileProblems → List Problem} (ordered : map.Ordered)
    (nothing : pick .none = []) (said : ∀ path, pick (map.said path) = problemsFor path log) :
    (map.files.flatMap fun entry => pick entry.2).length = log.length := by
  have covered : ∀ entry ∈ log, ∃ path ∈ map.files.keys, entry.1.same path = true := by
    intro entry member
    have held := mem_problemsFor member
    rw [← said] at held
    cases found : map.get? entry.1 with
    | none =>
      rw [ProblemMap.said,found,Option.getD_none,nothing] at held
      cases held
    | some problems =>
      obtain ⟨key,own,listed⟩ := PathMap.mem_of_get?_same found
      exact ⟨key,List.mem_map_of_mem listed,by rwa [Path.same_comm]⟩
  have own : ∀ entry ∈ map.files, (pick entry.2).length = (problemsFor entry.1 log).length := by
    intro entry member
    rw [← said,ProblemMap.said,get?,PathMap.get?_of_mem ordered member]
    rfl
  rw [length_eq_sum (PathMap.keys_apart ordered) covered,List.length_flatMap,PathMap.keys,List.map_map]
  exact congrArg List.sum (List.map_congr_left own)

theorem get?_toList (ordered : map.Ordered) (path : Path) :
    PathMap.get? path map.toList = if (map.said path).isNone then none else some (map.said path) := by
  rw [toList,PathMap.get?_filter ordered fun problems => !problems.isNone,said,get?]
  cases PathMap.get? path map.files with
  | none => rfl
  | some problems => cases silent : problems.isNone <;> simp [Option.filter,silent]

theorem toList_ordered (ordered : map.Ordered) : PathMap.Ordered map.toList := List.Pairwise.filter _ ordered

theorem mem_toList (ordered : map.Ordered) : (∃ key, key.same path = true ∧ (key,problems) ∈ map.toList) ↔
    problems = map.said path ∧ problems.isNone = false := by
  have found : (∃ key, key.same path = true ∧ (key,problems) ∈ map.toList) ↔
      PathMap.get? path map.toList = some problems := by
    refine ⟨?_,PathMap.mem_of_get?_same⟩
    intro ⟨key,same,member⟩
    rw [← PathMap.get?_same same,PathMap.get?_of_mem (toList_ordered ordered) member]
  rw [found,get?_toList ordered]
  cases silent : (map.said path).isNone with
  | true =>
    refine ⟨nofun,?_⟩
    intro ⟨own,spoken⟩
    rw [own,silent] at spoken
    cases spoken
  | false =>
    refine ⟨fun own => ?_,fun ⟨own,_⟩ => congrArg some own.symm⟩
    obtain rfl := Option.some.inj own
    exact ⟨rfl,silent⟩

theorem hasErrors_iff_errorCount : map.hasErrors = true ↔ 0 < map.errorCount := by
  rw [errorCount,List.length_pos_iff]
  simp [hasErrors]

theorem isEmpty_iff_toList : map.isEmpty = true ↔ map.toList = [] := by
  simp [isEmpty,toList,List.filter_eq_nil_iff]

theorem isEmpty_iff_counts : map.isEmpty = true ↔ map.errorCount = 0 ∧ map.warningCount = 0 := by
  rw [errorCount,warningCount,List.length_eq_zero_iff,List.length_eq_zero_iff]
  simp [isEmpty,FileProblems.isNone,forall_and]

-- What is observed of a map to which these errors and warnings were added, in
-- this order.
structure Observed (map : ProblemMap) (errors warnings : List (Path × Problem)) : Prop where
  errors_for : ∀ path, map.errors path = problemsFor path errors
  warnings_for : ∀ path, map.warnings path = problemsFor path warnings
  every_error : map.errorCount = errors.length
  every_warning : map.warningCount = warnings.length
  errors_summed : ∀ paths, Path.Apart paths →
    (∀ path, map.errors path ≠ [] → ∃ other ∈ paths, path.same other = true) →
    map.errorCount = (paths.map fun path => (map.errors path).length).sum
  warnings_summed : ∀ paths, Path.Apart paths →
    (∀ path, map.warnings path ≠ [] → ∃ other ∈ paths, path.same other = true) →
    map.warningCount = (paths.map fun path => (map.warnings path).length).sum
  erring : map.hasErrors = true ↔ 0 < map.errorCount
  erring_file : map.hasErrors = true ↔ ∃ path, map.hasErrorsFor path = true
  empty_list : map.isEmpty = true ↔ map.toList = []
  empty_counts : map.isEmpty = true ↔ map.errorCount = 0 ∧ map.warningCount = 0
  in_order : PathMap.Ordered map.toList
  listed : ∀ path problems, (∃ key, key.same path = true ∧ (key,problems) ∈ map.toList) ↔
    problems = ⟨map.errors path,map.warnings path⟩ ∧ problems.isNone = false

theorem Logged.observed (logged : Logged map errors warnings) : Observed map errors warnings := by
  have errors_for : ∀ path, map.errors path = problemsFor path errors := by
    intro path
    rw [errors_eq,logged.said]
  have warnings_for : ∀ path, map.warnings path = problemsFor path warnings := by
    intro path
    rw [warnings_eq,logged.said]
  have every_error : map.errorCount = errors.length := length_files logged.ordered rfl errors_for
  have every_warning : map.warningCount = warnings.length := length_files logged.ordered rfl warnings_for
  refine ⟨errors_for,warnings_for,every_error,every_warning,?_,?_,hasErrors_iff_errorCount,?_,isEmpty_iff_toList,
    isEmpty_iff_counts,toList_ordered logged.ordered,fun path problems => mem_toList logged.ordered⟩
  · intro paths apart covered
    simp only [every_error,errors_for] at covered ⊢
    exact length_eq_sum apart fun entry member => covered entry.1 (List.ne_nil_of_mem (mem_problemsFor member))
  · intro paths apart covered
    simp only [every_warning,warnings_for] at covered ⊢
    exact length_eq_sum apart fun entry member => covered entry.1 (List.ne_nil_of_mem (mem_problemsFor member))
  · rw [hasErrors_iff logged.ordered]
    simp [hasErrorsFor,errors_eq]

def listing (map : ProblemMap) : List (List Component × FileProblems) := PathMap.outline map.toList

structure Alike (map other : ProblemMap) : Prop where
  errors : ∀ path, map.errors path = other.errors path
  warnings : ∀ path, map.warnings path = other.warnings path
  hasErrorsFor : ∀ path, map.hasErrorsFor path = other.hasErrorsFor path
  errorCount : map.errorCount = other.errorCount
  warningCount : map.warningCount = other.warningCount
  hasErrors : map.hasErrors = other.hasErrors
  isEmpty : map.isEmpty = other.isEmpty
  listing : map.listing = other.listing

theorem Logged.alike (logged : Logged map errors warnings) (also : Logged other errors' warnings')
    (same : ∀ path, map.said path = other.said path) : Alike map other := by
  have errors_same : ∀ path, map.errors path = other.errors path := by
    intro path
    rw [errors_eq,errors_eq,same]
  have warnings_same : ∀ path, map.warnings path = other.warnings path := by
    intro path
    rw [warnings_eq,warnings_eq,same]
  have seen := also.observed
  have errorCount : map.errorCount = other.errorCount := by
    rw [seen.every_error]
    exact length_files logged.ordered rfl fun path => (errors_same path).trans (seen.errors_for path)
  have warningCount : map.warningCount = other.warningCount := by
    rw [seen.every_warning]
    exact length_files logged.ordered rfl fun path => (warnings_same path).trans (seen.warnings_for path)
  refine ⟨errors_same,warnings_same,?_,errorCount,warningCount,?_,?_,?_⟩
  · intro path
    rw [hasErrorsFor,hasErrorsFor,errors_same]
  · rw [Bool.eq_iff_iff,hasErrors_iff_errorCount,hasErrors_iff_errorCount,errorCount]
  · rw [Bool.eq_iff_iff,isEmpty_iff_counts,isEmpty_iff_counts,errorCount,warningCount]
  · refine (toList_ordered logged.ordered).outline_ext (toList_ordered also.ordered) fun path => ?_
    rw [get?_toList logged.ordered,get?_toList also.ordered,same]

def Separate (map other : ProblemMap) : Prop :=
  ∀ entry ∈ map.toList, ∀ more ∈ other.toList, entry.1.same more.1 = false

instance : Decidable (Separate map other) := inferInstanceAs (Decidable (∀ entry ∈ map.toList, _))

theorem Separate.silent (separate : Separate map more) (ordered : map.Ordered) (also : more.Ordered) (path : Path) :
    map.said path = .none ∨ more.said path = .none := by
  cases first : (map.said path).isNone with
  | true => exact .inl (FileProblems.isNone_iff.mp first)
  | false =>
    cases second : (more.said path).isNone with
    | true => exact .inr (FileProblems.isNone_iff.mp second)
    | false =>
      obtain ⟨key,own,member⟩ := (mem_toList ordered).mpr ⟨rfl,first⟩
      obtain ⟨key',own',member'⟩ := (mem_toList also).mpr ⟨rfl,second⟩
      have apart := separate _ member _ member'
      rw [Path.same_trans own ((Path.same_comm path key').trans own')] at apart
      cases apart

theorem Separate.merge_comm (separate : Separate map more) (logged : Logged map errors warnings)
    (also : Logged more errors' warnings') : Alike (map.merge more) (more.merge map) := by
  apply (logged.merge also).alike (also.merge logged)
  intro path
  rw [said_merge logged.ordered also.ordered,said_merge also.ordered logged.ordered]
  rcases separate.silent logged.ordered also.ordered path with silent | silent
  · rw [silent,FileProblems.add_none,FileProblems.none_add]
  · rw [silent,FileProblems.add_none,FileProblems.none_add]

-- No problem is lost, doubled or put elsewhere, whatever calls lead to a map.
theorem problems_kept (a b c : History) :
    Observed a.build a.addedErrors a.addedWarnings ∧
    (∀ path, (a.build.merge b.build).errors path = a.build.errors path ++ b.build.errors path ∧
      (a.build.merge b.build).warnings path = a.build.warnings path ++ b.build.warnings path) ∧
    (a.build.merge b.build).errorCount = a.build.errorCount + b.build.errorCount ∧
    (a.build.merge b.build).warningCount = a.build.warningCount + b.build.warningCount ∧
    (a.build.merge b.build).merge c.build = a.build.merge (b.build.merge c.build) ∧
    a.build.merge empty = a.build ∧ empty.merge a.build = a.build ∧
    (Separate a.build b.build → Alike (a.build.merge b.build) (b.build.merge a.build)) ∧
    (∀ path, Alike (a.build.addErrors path []) a.build ∧ Alike (a.build.addWarnings path []) a.build) ∧
    ((∀ path, problemsFor path a.addedErrors = problemsFor path b.addedErrors ∧
      problemsFor path a.addedWarnings = problemsFor path b.addedWarnings) → Alike a.build b.build) := by
  have merged := (a.logged.merge b.logged).observed
  have first := a.logged.observed
  have second := b.logged.observed
  refine ⟨first,?_,?_,?_,merge_assoc a.logged.ordered b.logged.ordered c.logged.ordered,merge_empty _,
    empty_merge a.logged.ordered,fun separate => separate.merge_comm a.logged b.logged,?_,?_⟩
  · intro path
    rw [merged.errors_for,first.errors_for,second.errors_for,merged.warnings_for,first.warnings_for,
      second.warnings_for,problemsFor_append,problemsFor_append]
    exact ⟨rfl,rfl⟩
  · rw [merged.every_error,first.every_error,second.every_error,List.length_append]
  · rw [merged.every_warning,first.every_warning,second.every_warning,List.length_append]
  · intro path
    have silent_error := a.logged.addErrors path []
    have silent_warning := a.logged.addWarnings path []
    simp only [List.map_nil,List.append_nil] at silent_error silent_warning
    refine ⟨silent_error.alike a.logged fun query => ?_,silent_warning.alike a.logged fun query => ?_⟩
    · rw [silent_error.said,a.logged.said]
    · rw [silent_warning.said,a.logged.said]
  · intro same
    apply a.logged.alike b.logged
    intro path
    rw [a.logged.said,b.logged.said,(same path).1,(same path).2]

theorem problems_kept_apart :
    let dotted : Path := ⟨"b/./c".toList⟩
    let plain : Path := ⟨"b/c".toList⟩
    let problem : Problem := .unlocated .internal "no"
    let a := (History.empty.addError ⟨"a".toList⟩ problem).addErrors dotted []
    let b := (History.empty.addWarning plain problem).addGenericError problem
    (a.build.merge b.build).files.keys ≠ (b.build.merge a.build).files.keys ∧
    Alike (a.build.merge b.build) (b.build.merge a.build) ∧
    Alike a.build (History.empty.addError ⟨"a".toList⟩ problem).build := by
  intro dotted plain problem a b
  obtain ⟨_,_,_,_,_,_,_,separate,_⟩ := problems_kept a b .empty
  obtain ⟨_,_,_,_,_,_,_,_,_,same⟩ := problems_kept a (History.empty.addError ⟨"a".toList⟩ problem) .empty
  exact ⟨by decide,separate (by decide),same fun path => ⟨rfl,rfl⟩⟩

end ScenarioLang.ProblemMap
