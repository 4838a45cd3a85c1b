import Mathlib.Data.List.Nodup
import Mathlib.Data.List.Perm.Subperm
import Mathlib.Data.List.TakeWhile
import ScenarioLang.Proofs.ImportGraph.Built

namespace ScenarioLang

theorem Path.Apart.sublist {paths others : List Path} (apart : Apart others)
    (inside : (paths.map components).Sublist (others.map components)) : Apart paths := inside.nodup apart

theorem Path.Apart.length_le {paths others : List Path} (apart : Apart paths)
    (inside : ∀ path ∈ paths, ImportGraph.among path others = true) : paths.length ≤ others.length := by
  have subset : paths.map components ⊆ others.map components := by
    intro name member
    obtain ⟨path,own,rfl⟩ := List.mem_map.mp member
    exact ImportGraph.among_iff.mp (inside path own)
  simpa using (List.subperm_of_subset apart subset).length_le

theorem Path.apart_concat {paths : List Path} {path : Path} :
    Apart (paths ++ [path]) ↔ Apart paths ∧ ImportGraph.among path paths = false := by
  rw [← Bool.not_eq_true,ImportGraph.among_iff,Apart,Apart,List.map_append,List.map_singleton,← List.concat_eq_append,
    List.nodup_concat]
  exact and_comm

namespace ImportGraph

variable {graph : ImportGraph} {trail todo : List Path} {search final : CycleSearch} {cycle : ImportCycle} {a b : Path}

def closing (trail : List Path) (next : Path) : ImportCycle :=
  (trail.dropWhile fun other => !other.same next) ++ [next]

-- How a search goes on from the end of a trail through files still to be met
-- there, without a bound on the length of the trail.
inductive Explores (graph : ImportGraph) : List Path → List Path → CycleSearch → CycleSearch → Prop where
  | done {trail : List Path} {search : CycleSearch} : Explores graph trail [] search search
  | closes {trail rest : List Path} {next : Path} {search final : CycleSearch} (met : among next trail = true)
      (onward : Explores graph trail rest { search with cycles := search.cycles ++ [closing trail next] } final) :
      Explores graph trail (next :: rest) search final
  | known {trail rest : List Path} {next : Path} {search final : CycleSearch} (unmet : among next trail = false)
      (seen : among next search.visited = true) (onward : Explores graph trail rest search final) :
      Explores graph trail (next :: rest) search final
  | enters {trail rest : List Path} {next : Path} {search middle final : CycleSearch}
      (unmet : among next trail = false) (unseen : among next search.visited = false)
      (inner : Explores graph (trail ++ [next]) (graph.dependencies next)
        { search with visited := next :: search.visited } middle)
      (onward : Explores graph trail rest middle final) : Explores graph trail (next :: rest) search final

theorem explores_foldl {step : CycleSearch → Path → CycleSearch}
    (each : ∀ next ∈ todo, ∀ search rest final, Explores graph trail rest (step search next) final →
      Explores graph trail (next :: rest) search final) (search : CycleSearch) :
    Explores graph trail todo search (todo.foldl step search) := by
  induction todo generalizing search with
  | nil => exact .done
  | cons next rest ih =>
    have onward := ih (fun other member => each other (List.mem_cons_of_mem _ member)) (step search next)
    exact each next List.mem_cons_self search rest _ onward

-- A trail of different files of the graph never uses up the fuel.
theorem visit_explores (regular : Regular graph) (fuel : Nat) {path : Path} (above : List Path)
    (room : graph.vertices.length < fuel + above.length) (apart : Path.Apart (above ++ [path]))
    (listed : ∀ other ∈ above ++ [path], among other graph.vertices = true) (search : CycleSearch) :
    Explores graph (above ++ [path]) (graph.dependencies path) { search with visited := path :: search.visited }
      (graph.visit fuel path above search) := by
  induction fuel generalizing path above search with
  | zero =>
    have bound := (Path.apart_concat.mp apart).1.length_le fun other member =>
      listed other (List.mem_append_left _ member)
    omega
  | succ fuel ih =>
    refine explores_foldl (fun next imported search rest final onward => ?_) _
    by_cases met : among next (above ++ [path]) = true
    · rw [if_pos met] at onward
      exact .closes met onward
    · rw [if_neg met] at onward
      rw [Bool.not_eq_true] at met
      by_cases seen : among next search.visited = true
      · rw [if_pos seen] at onward
        exact .known met seen onward
      · rw [if_neg seen] at onward
        refine .enters met (Bool.eq_false_iff.mpr seen) (ih _ ?_ (Path.apart_concat.mpr ⟨apart,met⟩) ?_ search) onward
        · simp only [List.length_append,List.length_singleton]; omega
        · intro other member
          rcases List.mem_append.mp member with old | own
          · exact listed other old
          · rw [List.mem_singleton.mp own]
            exact regular.dependencies_listed imported

theorem cycles_explores (regular : Regular graph) : ∃ final, Explores graph [] graph.vertices ⟨[],[]⟩ final ∧
    graph.cycles = final.cycles := by
  refine ⟨_,explores_foldl (fun start member search rest final onward => ?_) _,rfl⟩
  by_cases seen : among start search.visited = true
  · rw [if_pos seen] at onward
    exact .known rfl seen onward
  · rw [if_neg seen] at onward
    refine .enters rfl (Bool.eq_false_iff.mpr seen) (visit_explores regular _ [] ?_ ?_ ?_ search) onward
    · simp
    · exact List.nodup_singleton _
    · intro other own
      rw [List.mem_singleton.mp own]
      exact among_of_mem member

theorem Explores.visited_grows (explores : Explores graph trail todo search final) :
    search.visited <:+ final.visited := by
  induction explores with
  | done => exact List.suffix_rfl
  | closes _ _ ih => exact ih
  | known _ _ _ ih => exact ih
  | enters _ _ _ _ ih onward => exact ((List.suffix_cons _ _).trans ih).trans onward

theorem Explores.cycles_grow (explores : Explores graph trail todo search final) :
    search.cycles <+: final.cycles := by
  induction explores with
  | done => exact List.prefix_rfl
  | closes _ _ ih => exact (List.prefix_append _ _).trans ih
  | known _ _ _ ih => exact ih
  | enters _ _ _ _ ih onward => exact ih.trans onward

theorem Explores.keeps_visited (explores : Explores graph trail todo search final) {path : Path}
    (seen : among path search.visited = true) : among path final.visited = true := by
  obtain ⟨later,grown⟩ := explores.visited_grows
  rw [← grown,among_append,seen,Bool.or_true]

theorem imports_tip {next other tip : Path} (imported : other ∈ graph.dependencies next)
    (own : tip ∈ (trail ++ [next]).getLast?) : graph.Imports tip other := by
  rw [List.getLast?_concat] at own
  cases own
  exact imports_of_mem imported

def Closes (cycle : ImportCycle) (a b : Path) : Prop :=
  [a.components,b.components] <:+ cycle.map Path.components

theorem closes_unique {c d : Path} (one : Closes cycle a b) (other : Closes cycle c d) :
    a.components = c.components ∧ b.components = d.components := by
  obtain ⟨front,one⟩ := one
  obtain ⟨start,other⟩ := other
  simpa using List.append_inj_right' (one.trans other.symm) rfl

theorem closes_source (closes : Closes cycle a b) : among a cycle.dropLast = true := by
  obtain ⟨front,split⟩ := closes
  rw [among_iff,List.map_dropLast,← split]
  simp

theorem closing_split {next : Path} (met : among next trail = true) : ∃ first rest,
    closing trail next = first :: rest ++ [next] ∧ first :: rest <:+ trail ∧ first.same next = true := by
  obtain ⟨other,inside,same⟩ := List.any_eq_true.mp met
  have left : trail.dropWhile (fun other => !other.same next) ≠ [] := by
    intro none
    have skipped := List.dropWhile_eq_nil_iff.mp none other inside
    rw [same] at skipped
    cases skipped
  obtain ⟨first,rest,split⟩ := List.exists_cons_of_ne_nil left
  have stopped := List.head_dropWhile_not (fun other : Path => !other.same next) left
  simp only [split,List.head_cons,Bool.not_eq_false'] at stopped
  exact ⟨first,rest,by rw [closing,split],split ▸ List.dropWhile_suffix _,stopped⟩

theorem closing_closes {next : Path} (met : among next trail = true) :
    ∃ tip, trail.getLast? = some tip ∧ Closes (closing trail next) tip next := by
  obtain ⟨first,rest,split,⟨front,whole⟩,_⟩ := closing_split met
  obtain ⟨inner,tip,own⟩ := (List.eq_nil_or_concat' (first :: rest)).resolve_left (List.cons_ne_nil _ _)
  refine ⟨tip,?_,inner.map Path.components,by simp [split,own]⟩
  rw [← whole,own,← List.append_assoc,List.getLast?_concat]

-- Files on the trail import each other in turn and were met in this order, and so
-- were the files of every cycle found.
structure Sound (graph : ImportGraph) (trail : List Path) (search : CycleSearch) : Prop where
  chain : trail.IsChain graph.Imports
  apart : Path.Apart search.visited
  met : (trail.reverse.map Path.components).Sublist (search.visited.map Path.components)
  simple : ∀ cycle ∈ search.cycles, graph.IsSimpleCycle cycle
  traced : ∀ cycle ∈ search.cycles,
    (cycle.dropLast.reverse.map Path.components).Sublist (search.visited.map Path.components)

theorem Sound.trail_apart (sound : Sound graph trail search) : Path.Apart trail := by
  have reversed := sound.apart.sublist sound.met
  rwa [Path.Apart,List.map_reverse,List.nodup_reverse] at reversed

theorem Sound.trail_visited (sound : Sound graph trail search) {path : Path} (member : path ∈ trail) :
    among path search.visited = true :=
  among_iff.mpr (sound.met.subset (List.mem_map_of_mem (List.mem_reverse.mpr member)))

theorem Sound.closes {next : Path} (sound : Sound graph trail search)
    (imports : ∀ tip ∈ trail.getLast?, graph.Imports tip next) (met : among next trail = true) :
    Sound graph trail { search with cycles := search.cycles ++ [closing trail next] } := by
  obtain ⟨first,rest,split,inside,same⟩ := closing_split met
  have tip : (first :: rest).getLast? = trail.getLast? := by
    obtain ⟨front,whole⟩ := inside
    rw [← whole,List.getLast?_append_of_ne_nil _ (List.cons_ne_nil _ _)]
  have simple : graph.IsSimpleCycle (closing trail next) := by
    rw [split]
    refine ⟨⟨?_,by simp,?_⟩,?_⟩
    · refine (sound.chain.suffix inside).append (List.isChain_singleton _) fun other own target equal => ?_
      rw [tip] at own
      cases equal
      exact imports other own
    · rw [List.map_append,List.map_singleton,List.getLast?_concat,List.map_cons,List.cons_append,List.head?_cons,
        Path.same_iff.mp same]
    · rw [List.dropLast_concat]
      exact sound.trail_apart.sublist (inside.sublist.map _)
  refine ⟨sound.chain,sound.apart,sound.met,fun other member => ?_,fun other member => ?_⟩
  · rcases List.mem_append.mp member with old | new
    · exact sound.simple other old
    · rwa [List.mem_singleton.mp new]
  · rcases List.mem_append.mp member with old | new
    · exact sound.traced other old
    · rw [List.mem_singleton.mp new,split,List.dropLast_concat]
      exact (inside.sublist.reverse.map _).trans sound.met

theorem Sound.enters {next : Path} (sound : Sound graph trail search)
    (imports : ∀ tip ∈ trail.getLast?, graph.Imports tip next) (unseen : among next search.visited = false) :
    Sound graph (trail ++ [next]) { search with visited := next :: search.visited } := by
  have fresh : next.components ∉ search.visited.map Path.components := by
    rwa [← among_iff,Bool.not_eq_true]
  refine ⟨?_,List.nodup_cons.mpr ⟨fresh,sound.apart⟩,?_,sound.simple,fun cycle member => ?_⟩
  · refine sound.chain.append (List.isChain_singleton _) fun tip own target equal => ?_
    cases equal
    exact imports tip own
  · rw [List.reverse_append,List.reverse_singleton,List.singleton_append]
    exact sound.met.cons_cons _
  · exact (sound.traced cycle member).cons _

theorem Sound.leaves {next : Path} (sound : Sound graph (trail ++ [next]) search) : Sound graph trail search := by
  refine ⟨sound.chain.left_of_append,sound.apart,?_,sound.simple,sound.traced⟩
  have met := sound.met
  rw [List.reverse_append,List.reverse_singleton,List.singleton_append] at met
  exact (List.sublist_cons_self _ _).trans met

theorem Explores.sound (explores : Explores graph trail todo search final)
    (imports : ∀ next ∈ todo, ∀ tip ∈ trail.getLast?, graph.Imports tip next)
    (sound : Sound graph trail search) : Sound graph trail final := by
  induction explores with
  | done => exact sound
  | closes met _ ih =>
    exact ih (fun next member => imports next (List.mem_cons_of_mem _ member))
      (sound.closes (imports _ List.mem_cons_self) met)
  | known _ _ _ ih => exact ih (fun next member => imports next (List.mem_cons_of_mem _ member)) sound
  | @enters trail rest next _ _ _ _ unseen _ _ ih onward =>
    have below := sound.enters (imports next List.mem_cons_self) unseen
    have left := (ih (fun other imported tip => imports_tip imported) below).leaves
    exact onward (fun other member => imports other (List.mem_cons_of_mem _ member)) left

theorem Sound.closes_visited (sound : Sound graph trail search) (member : cycle ∈ search.cycles)
    (closes : Closes cycle a b) : among a search.visited = true := by
  rw [among_iff]
  refine (sound.traced cycle member).subset ?_
  rw [List.map_reverse,List.mem_reverse]
  exact among_iff.mp (closes_source closes)

-- A cycle new to a search is closed from a file new to it, or from the tip of
-- the trail by an import still to be looked at.
theorem Explores.origin (explores : Explores graph trail todo search final) (member : cycle ∈ final.cycles)
    (closes : Closes cycle a b) : cycle ∈ search.cycles ∨ among a search.visited = false ∨
      (∃ tip ∈ trail.getLast?, tip.same a = true) ∧ among b todo = true := by
  induction explores with
  | done => exact .inl member
  | @closes trail rest next search final met onward ih =>
    rcases ih member with old | fresh | ⟨tip,inside⟩
    · rcases List.mem_append.mp old with old | new
      · exact .inl old
      · rw [List.mem_singleton.mp new] at closes
        obtain ⟨tip,own,closed⟩ := closing_closes met
        obtain ⟨source,target⟩ := closes_unique closed closes
        refine .inr (.inr ⟨⟨tip,own,Path.same_iff.mpr source⟩,?_⟩)
        rw [among_cons,Path.same_iff.mpr target,Bool.true_or]
    · exact .inr (.inl fresh)
    · exact .inr (.inr ⟨tip,by rw [among_cons,inside,Bool.or_true]⟩)
  | known _ _ _ ih =>
    rcases ih member with old | fresh | ⟨tip,inside⟩
    · exact .inl old
    · exact .inr (.inl fresh)
    · exact .inr (.inr ⟨tip,by rw [among_cons,inside,Bool.or_true]⟩)
  | @enters trail rest next search middle final _ unseen inner _ ih ihRest =>
    have unmet : ∀ {path}, among path (next :: search.visited) = false → among path search.visited = false := by
      intro path fresh
      rw [among_cons,Bool.or_eq_false_iff] at fresh
      exact fresh.2
    rcases ihRest member with old | fresh | ⟨tip,inside⟩
    · rcases ih old with old | fresh | ⟨⟨tip,own,same⟩,_⟩
      · exact .inl old
      · exact .inr (.inl (unmet fresh))
      · rw [List.getLast?_concat] at own
        cases own
        rw [among_same same] at unseen
        exact .inr (.inl unseen)
    · refine .inr (.inl (unmet (Bool.eq_false_iff.mpr fun seen => ?_)))
      rw [inner.keeps_visited seen] at fresh
      cases fresh
    · exact .inr (.inr ⟨tip,by rw [among_cons,inside,Bool.or_true]⟩)

def ClosedApart (one other : ImportCycle) : Prop := ∀ a b, Closes one a b → ¬ Closes other a b

-- Each import is looked at once, so each step closes one cycle at most.
theorem Explores.closed_apart (regular : Regular graph) (explores : Explores graph trail todo search final)
    (imports : ∀ next ∈ todo, ∀ tip ∈ trail.getLast?, graph.Imports tip next)
    (sound : Sound graph trail search) (unique : Path.Apart todo)
    (unclosed : ∀ tip ∈ trail.getLast?, ∀ cycle ∈ search.cycles, ∀ b, Closes cycle tip b → among b todo = false)
    (apart : search.cycles.Pairwise ClosedApart) : final.cycles.Pairwise ClosedApart := by
  have rest_unclosed : ∀ {cycles : List ImportCycle} {next : Path} {rest trail : List Path},
      (∀ tip ∈ trail.getLast?, ∀ cycle ∈ cycles, ∀ b, Closes cycle tip b → among b (next :: rest) = false) →
      ∀ tip ∈ trail.getLast?, ∀ cycle ∈ cycles, ∀ b, Closes cycle tip b → among b rest = false := by
    intro cycles next rest trail unclosed tip own cycle member b closes
    have none := unclosed tip own cycle member b closes
    rw [among_cons,Bool.or_eq_false_iff] at none
    exact none.2
  induction explores with
  | done => exact apart
  | @closes trail rest next search final met onward ih =>
    obtain ⟨fresh,rest_unique⟩ := List.nodup_cons.mp unique
    obtain ⟨tip,own,new⟩ := closing_closes met
    refine ih (fun other member => imports other (List.mem_cons_of_mem _ member))
      (sound.closes (imports next List.mem_cons_self) met) rest_unique ?_ ?_
    · intro other end_ cycle member b closes
      rcases List.mem_append.mp member with old | added
      · exact rest_unclosed unclosed other end_ cycle old b closes
      · rw [List.mem_singleton.mp added] at closes
        rw [← Bool.not_eq_true,among_iff,← (closes_unique new closes).2]
        exact fresh
    · refine List.pairwise_append.mpr ⟨apart,List.pairwise_singleton _ _,?_⟩
      intro one old other added a b closes again
      rw [List.mem_singleton.mp added] at again
      obtain ⟨source,target⟩ := closes_unique new again
      have none := unclosed tip own one old b (by rwa [Closes,source])
      rw [among_cons,Path.same_iff.mpr target,Bool.true_or] at none
      cases none
  | known unmet seen onward ih =>
    exact ih (fun other member => imports other (List.mem_cons_of_mem _ member)) sound (List.nodup_cons.mp unique).2
      (rest_unclosed unclosed) apart
  | @enters trail rest next search middle final unmet unseen inner onward ih ihRest =>
    have below := sound.enters (imports next List.mem_cons_self) unseen
    have steps : ∀ other ∈ graph.dependencies next, ∀ tip ∈ (trail ++ [next]).getLast?, graph.Imports tip other :=
      fun other imported tip => imports_tip imported
    refine ihRest (fun other member => imports other (List.mem_cons_of_mem _ member)) (inner.sound steps below).leaves
      (List.nodup_cons.mp unique).2 ?_ (ih steps below (regular.dependencies_apart next) ?_ apart)
    · -- The tip of the trail was met before, so nothing new is closed from it.
      intro tip own cycle member b closes
      have seen := sound.trail_visited (List.mem_of_getLast? own)
      rcases inner.origin member closes with old | fresh | ⟨⟨last,new,same⟩,_⟩
      · exact rest_unclosed unclosed tip own cycle old b closes
      · rw [among_cons,seen,Bool.or_true] at fresh
        cases fresh
      · rw [List.getLast?_concat] at new
        cases new
        rw [among_same same,seen] at unseen
        cases unseen
    · -- The file just entered is new, so no cycle was closed from it before.
      intro tip own cycle member b closes
      rw [List.getLast?_concat] at own
      cases own
      rw [sound.closes_visited member closes] at unseen
      cases unseen

end ImportGraph
end ScenarioLang
