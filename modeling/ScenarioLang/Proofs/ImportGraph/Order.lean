import ScenarioLang.ImportGraph
import ScenarioLang.Proofs.ImportGraph.Cycles

namespace ScenarioLang

namespace PathMap

theorem get?_map {entries : PathMap α} {path : Path} (change : α → β) :
    get? path (entries.map fun entry => (entry.1,change entry.2)) = (get? path entries).map change := by
  induction entries with
  | nil => rfl
  | cons entry rest ih =>
    obtain ⟨key,value⟩ := entry
    by_cases same : key.same path = true
    · simp [get?,same]
    · simpa [get?,same] using ih

theorem mem_of_key {entries : PathMap α} {path : Path} {value : α} (ordered : Ordered entries)
    (key : path ∈ entries.keys) (found : get? path entries = some value) : (path,value) ∈ entries := by
  obtain ⟨⟨own,held⟩,member,rfl⟩ := List.mem_map.mp key
  rw [get?_of_mem ordered member] at found
  cases found
  exact member

end PathMap

namespace ImportGraph

open Relation (TransGen)

variable {graph : ImportGraph} {state next : OrderState} {waiting files : List Path} {path a b : Path}

theorem Regular.vertex_unique (regular : Regular graph) (one : a ∈ graph.vertices) (other : b ∈ graph.vertices)
    (same : a.same b = true) : a = b :=
  List.inj_on_of_nodup_map regular.vertices_apart one other (Path.same_iff.mp same)

theorem Regular.among_files (regular : Regular graph) (inside : ∀ other ∈ files, other ∈ graph.vertices)
    (member : path ∈ graph.vertices) : among path files = true ↔ path ∈ files := by
  constructor
  · intro met
    obtain ⟨other,own,same⟩ := List.any_eq_true.mp met
    rwa [← regular.vertex_unique (inside other own) member same]
  · exact among_of_mem

theorem Regular.mem_dependents (regular : Regular graph) :
    a ∈ graph.dependents path ↔ a ∈ graph.vertices ∧ graph.Imports a path := by
  have listed : ∀ {imports : PathSet}, (a,imports) ∈ graph.edges →
      (PathMap.holds path imports = true ↔ graph.Imports a path) := by
    intro imports member
    rw [Imports,dependencies,PathMap.get?_of_mem regular.ordered member,among_iff,PathMap.holds_iff_key]
    rfl
  constructor
  · intro member
    obtain ⟨⟨key,imports⟩,inside,rfl⟩ := List.mem_map.mp member
    obtain ⟨entry,held⟩ := List.mem_filter.mp inside
    exact ⟨List.mem_map_of_mem entry,(listed entry).mp held⟩
  · rintro ⟨member,imported⟩
    obtain ⟨⟨key,imports⟩,entry,rfl⟩ := List.mem_map.mp member
    exact List.mem_map.mpr ⟨_,List.mem_filter.mpr ⟨entry,(listed entry).mpr imported⟩,rfl⟩

theorem Regular.dependents_apart (regular : Regular graph) (path : Path) : Path.Apart (graph.dependents path) :=
  regular.vertices_apart.sublist ((List.filter_sublist.map _).map _)

def missing (graph : ImportGraph) (order : List Path) (path : Path) : Nat :=
  (graph.dependencies path).countP fun next => !among next order

theorem missing_none {order : List Path} : graph.missing order path = 0 ↔
    ∀ next ∈ graph.dependencies path, among next order = true := by
  simp [missing,List.countP_eq_zero]

theorem Regular.missing_concat (regular : Regular graph) {order : List Path} {taken : Path}
    (fresh : among taken order = false) (path : Path) :
    graph.missing order path =
      graph.missing (order ++ [taken]) path + if among taken (graph.dependencies path) = true then 1 else 0 := by
  have apart := regular.dependencies_apart path
  unfold missing
  generalize graph.dependencies path = imports at apart
  induction imports with
  | nil => rfl
  | cons next rest ih =>
    obtain ⟨unique,apart⟩ := List.nodup_cons.mp apart
    rw [List.countP_cons,List.countP_cons,ih apart,among_append,among_cons,among_nil,Bool.or_false,among_cons]
    by_cases own : next.same taken = true
    · have gone : among taken rest = false := by
        rw [← Bool.not_eq_true,among_iff,← Path.same_iff.mp own]
        exact unique
      have waits : among next order = false := by rw [among_same own,fresh]
      rw [own,Path.same_comm,own,gone,waits]
      rfl
    · rw [Bool.not_eq_true] at own
      rw [own,Path.same_comm,own,Bool.or_false,Bool.false_or]
      omega

-- The counts between two turns, or within one while some files still wait to be
-- released: a file counts its imports that are not in order, and one more as long
-- as it waits. Files whose count has come to zero are ready or in order.
structure Counted (graph : ImportGraph) (waiting : List Path) (state : OrderState) : Prop where
  ordered : PathMap.Ordered state.remaining
  waits : Path.Apart waiting
  waiting_files : ∀ path ∈ waiting, path ∈ graph.vertices
  counts : ∀ path ∈ graph.vertices, state.remaining.get? path =
    some ((graph.missing state.order path + if among path waiting = true then 1 else 0 : Nat) : Int)
  taken : ∀ path ∈ graph.vertices, path ∈ state.order ++ state.ready ↔ state.remaining.get? path = some 0
  files : ∀ path ∈ state.order ++ state.ready, path ∈ graph.vertices
  once : (state.order ++ state.ready).Nodup
  ranked : Ranked graph [] state.order.reverse

theorem start_counted (regular : Regular graph) : Counted graph [] graph.orderStart := by
  have lookup : ∀ query, graph.orderStart.remaining.get? query =
      (graph.edges.get? query).map fun imports => (imports.length : Int) := fun query =>
    PathMap.get?_map fun imports : PathSet => (imports.length : Int)
  have keys : graph.orderStart.remaining.keys = graph.vertices := by
    simp [orderStart,PathMap.keys,vertices,Function.comp_def]
  have ordered : PathMap.Ordered graph.orderStart.remaining := List.pairwise_map.mpr regular.ordered
  have ready : ∀ path ∈ graph.orderStart.ready, path ∈ graph.vertices := by
    intro path member
    rw [← keys]
    exact (List.filter_sublist.map _).subset member
  refine ⟨ordered,List.nodup_nil,List.forall_mem_nil _,?_,?_,ready,?_,.nil⟩
  · intro path member
    obtain ⟨⟨key,imports⟩,entry,rfl⟩ := List.mem_map.mp member
    rw [lookup,PathMap.get?_of_mem regular.ordered entry]
    simp [missing,orderStart,dependencies,PathMap.get?_of_mem regular.ordered entry,PathSet.toList,PathMap.keys]
  · intro path member
    rw [← keys] at member
    constructor
    · intro inside
      obtain ⟨⟨key,count⟩,entry,rfl⟩ := List.mem_map.mp (show path ∈ graph.orderStart.ready from inside)
      obtain ⟨entry,zero⟩ := List.mem_filter.mp entry
      rw [PathMap.get?_of_mem ordered entry]
      exact congrArg some (of_decide_eq_true zero)
    · intro zero
      have entry := PathMap.mem_of_key ordered member zero
      exact List.mem_map_of_mem (List.mem_filter.mpr ⟨entry,rfl⟩)
  · have once : graph.orderStart.remaining.keys.Nodup := keys.symm ▸ List.Nodup.of_map _ regular.vertices_apart
    exact (List.filter_sublist.map _).nodup once

theorem Counted.take {rest : List Path} (regular : Regular graph) (counted : Counted graph [] state)
    (ready : state.ready = path :: rest) :
    Counted graph (graph.dependents path) { state with ready := rest, order := state.order ++ [path] } := by
  have same : (state.order ++ [path]) ++ rest = state.order ++ state.ready := by simp [ready]
  have inside : path ∈ state.order ++ state.ready := by simp [ready]
  have own := counted.files path inside
  have fresh : among path state.order = false := by
    rw [← Bool.not_eq_true,
      regular.among_files (fun other member => counted.files other (List.mem_append_left _ member)) own]
    have once := counted.once
    rw [ready,List.nodup_append] at once
    exact fun member => once.2.2 path member path List.mem_cons_self rfl
  have files : ∀ other ∈ graph.dependents path, other ∈ graph.vertices :=
    fun other member => (regular.mem_dependents.mp member).1
  refine ⟨counted.ordered,regular.dependents_apart path,files,?_,?_,?_,?_,?_⟩
  · intro other member
    have imports : among other (graph.dependents path) = among path (graph.dependencies other) := by
      rw [Bool.eq_iff_iff,regular.among_files files member,regular.mem_dependents]
      exact and_iff_right member
    rw [imports,← regular.missing_concat fresh other]
    simpa using counted.counts other member
  · intro other member
    rw [same]
    exact counted.taken other member
  · intro other member
    exact counted.files other (same ▸ member)
  · rw [same]
    exact counted.once
  · have zero := counted.counts path own
    rw [(counted.taken path own).mp inside] at zero
    have none : graph.missing state.order path = 0 := by simpa using zero.symm
    rw [List.reverse_append,List.reverse_singleton,List.singleton_append]
    refine .cons (fun next imported => .inl ?_) counted.ranked
    simpa [among] using missing_none.mp none next imported

-- The next file to be released still counts the import that came.
theorem Counted.positive (counted : Counted graph (path :: waiting) state) :
    state.remaining.get? path = some ((graph.missing state.order path + 1 : Nat) : Int) := by
  simpa [Path.same_refl] using counted.counts path (counted.waiting_files path List.mem_cons_self)

theorem release_counted {count : Nat} (found : state.remaining.get? path = some ((count + 1 : Nat) : Int)) :
    release state path = { state with
      remaining := state.remaining.put path (count : Int),
      ready := if count = 0 then state.ready ++ [path] else state.ready } := by
  have less : ((count + 1 : Nat) : Int) - 1 = count := by omega
  simp only [release,found,less,Int.natCast_eq_zero]

theorem Counted.released (regular : Regular graph) (counted : Counted graph (path :: waiting) state) :
    Counted graph waiting (release state path) := by
  obtain ⟨fresh,waits⟩ := List.nodup_cons.mp counted.waits
  have own := counted.waiting_files path List.mem_cons_self
  have positive := counted.positive
  have unready : path ∉ state.order ++ state.ready := by
    intro inside
    rw [(counted.taken path own).mp inside,Option.some.injEq] at positive
    omega
  have apart : ∀ other ∈ graph.vertices, other ≠ path → path.same other = false := by
    intro other member differs
    rw [← Bool.not_eq_true]
    exact fun same => differs (regular.vertex_unique own member same).symm
  -- Only this file can become ready, and only with its last import.
  have members : ∀ other, other ∈ (release state path).order ++ (release state path).ready ↔
      other ∈ state.order ++ state.ready ∨ (other = path ∧ graph.missing state.order path = 0) := by
    intro other
    rw [release_counted positive]
    split
    · rename_i zero
      simp [zero,or_assoc]
    · rename_i filled
      simp [filled]
  have lookup : (release state path).remaining = state.remaining.put path (graph.missing state.order path : Int) := by
    rw [release_counted positive]
  have order : (release state path).order = state.order := by rw [release_counted positive]
  refine ⟨?_,waits,fun other member => counted.waiting_files other (List.mem_cons_of_mem _ member),?_,?_,?_,?_,?_⟩
  · rw [lookup]
    exact PathMap.ordered_update counted.ordered
  · intro other member
    rw [lookup,order,PathMap.put]
    by_cases equal : other = path
    · subst equal
      rw [PathMap.get?_update_own counted.ordered (Path.same_refl other),if_neg (by rwa [among_iff])]
      rfl
    · have counts := counted.counts other member
      rw [among_cons,apart other member equal,Bool.false_or] at counts
      rw [PathMap.get?_update_other (apart other member equal),counts]
  · intro other member
    rw [members,lookup,PathMap.put]
    by_cases equal : other = path
    · subst equal
      rw [PathMap.get?_update_own counted.ordered (Path.same_refl other)]
      simp [unready]
    · rw [PathMap.get?_update_other (apart other member equal),← counted.taken other member]
      simp [equal]
  · intro other member
    rcases (members other).mp member with old | ⟨rfl,_⟩
    · exact counted.files other old
    · exact own
  · rw [release_counted positive]
    split
    · rw [← List.append_assoc,← List.concat_eq_append,List.nodup_concat]
      exact ⟨unready,counted.once⟩
    · exact counted.once
  · rw [order]
    exact counted.ranked

theorem Counted.released_all {before after : List Path} (regular : Regular graph)
    (counted : Counted graph (before ++ after) state) : Counted graph after (before.foldl release state) := by
  induction before generalizing state with
  | nil => exact counted
  | cons path rest ih => exact ih (counted.released regular)

theorem order_foldl (waiting : List Path) (state : OrderState) :
    (waiting.foldl release state).order = state.order := by
  refine List.foldlRecOn (motive := fun next : OrderState => next.order = state.order) waiting _ rfl ?_
  intro next same path _
  rw [← same,release]
  split <;> rfl

theorem Counted.step (regular : Regular graph) (counted : Counted graph [] state)
    (stepped : graph.orderStep state = some next) :
    Counted graph [] next ∧ next.order.length = state.order.length + 1 := by
  unfold orderStep at stepped
  split at stepped
  · cases stepped
  · rename_i path rest ready
    cases stepped
    have taken := counted.take regular ready
    rw [← List.append_nil (graph.dependents path)] at taken
    refine ⟨taken.released_all regular,?_⟩
    rw [order_foldl,List.length_append,List.length_singleton]

theorem Counted.run (regular : Regular graph) (counted : Counted graph [] state) (fuel : Nat) :
    Counted graph [] (graph.orderRun fuel state) ∧
      ((graph.orderRun fuel state).ready = [] ∨
        (graph.orderRun fuel state).order.length = state.order.length + fuel) := by
  induction fuel generalizing state with
  | zero => exact ⟨counted,.inr rfl⟩
  | succ fuel ih =>
    unfold orderRun
    split
    · rename_i next stepped
      obtain ⟨after,longer⟩ := counted.step regular stepped
      obtain ⟨ends,ready⟩ := ih after
      refine ⟨ends,ready.imp_right ?_⟩
      intro own
      omega
    · rename_i stuck
      refine ⟨counted,.inl ?_⟩
      unfold orderStep at stuck
      split at stuck
      · assumption
      · cases stuck

-- With a turn for each file the order comes to its end by itself.
theorem run_ends (regular : Regular graph) :
    Counted graph [] (graph.orderRun graph.vertices.length graph.orderStart) ∧
      (graph.orderRun graph.vertices.length graph.orderStart).ready = [] := by
  obtain ⟨counted,ends⟩ := (start_counted regular).run regular graph.vertices.length
  refine ⟨counted,ends.elim id fun full => ?_⟩
  have bound := (List.subperm_of_subset counted.once counted.files).length_le
  rw [List.length_append,full] at bound
  have start : graph.orderStart.order.length = 0 := rfl
  exact List.eq_nil_of_length_eq_zero (by omega)

theorem Counted.takes_ranked (regular : Regular graph) (counted : Counted graph [] state) (ended : state.ready = [])
    (ranked : Ranked graph [] files) (member : path ∈ graph.vertices) (inside : among path files = true) :
    path ∈ state.order := by
  have order_files : ∀ other ∈ state.order, other ∈ graph.vertices :=
    fun other own => counted.files other (List.mem_append_left _ own)
  induction ranked generalizing path with
  | nil => cases inside
  | @cons first rest behind _ ih =>
    rw [among_cons,Bool.or_eq_true] at inside
    rcases inside with same | later
    · have none : graph.missing state.order path = 0 := by
        refine missing_none.mpr fun next imported => ?_
        rw [← dependencies_same same] at imported
        obtain ⟨vertex,listed,spelled⟩ := List.any_eq_true.mp (regular.dependencies_listed imported)
        rw [← among_same spelled]
        refine among_of_mem (ih listed ?_)
        rw [among_same spelled]
        exact (behind next imported).resolve_right fun ⟨cycle,nothing,_⟩ => (nomatch nothing)
      have counts := counted.counts path member
      rw [none] at counts
      have taken := (counted.taken path member).mpr counts
      rwa [ended,List.append_nil] at taken
    · exact ih member later

theorem kept_none : graph.Kept [] = graph.Imports := by
  funext a b
  exact propext ⟨fun kept => kept.1,fun imports => ⟨imports,fun ⟨cycle,nothing,_⟩ => (nomatch nothing)⟩⟩

theorem Ranked.behind (ranked : Ranked graph [] files) (inside : among a files = true) (imports : graph.Imports a b) :
    [a.components,b.components].Sublist (files.map Path.components) := by
  have kept : graph.Kept [] a b := by rwa [kept_none]
  induction ranked with
  | nil => cases inside
  | cons behind _ ih =>
    rw [among_cons,Bool.or_eq_true] at inside
    rcases inside with same | later
    · have target := among_iff.mp (behind_kept behind same kept)
      rw [List.map_cons,Path.same_iff.mp same]
      exact (List.singleton_sublist.mpr target).cons_cons _
    · exact (ih later).cons _

def Releases (graph : ImportGraph) (state : OrderState) (dependent : Path) : Prop :=
  ∃ turn path rest before after, (graph.orderRun turn graph.orderStart).ready = path :: rest ∧
    graph.dependents path = before ++ dependent :: after ∧
    state = before.foldl release { graph.orderRun turn graph.orderStart with
      ready := rest, order := (graph.orderRun turn graph.orderStart).order ++ [path] }

theorem releases_positive (regular : Regular graph) (releases : graph.Releases state path) :
    ∃ count, state.remaining.get? path = some count ∧ 0 < count := by
  obtain ⟨turn,file,rest,before,after,ready,dependents,rfl⟩ := releases
  have taken := ((start_counted regular).run regular turn).1.take regular ready
  rw [dependents] at taken
  refine ⟨_,(taken.released_all regular).positive,?_⟩
  omega

-- Either all files came into order, or some wait for each other and the search
-- finds a cycle.
theorem order_cases (regular : Regular graph) :
    (∃ state, Counted graph [] state ∧ graph.order = .ok state.order ∧ state.order.Perm graph.vertices) ∨
      ∃ cycle ∈ graph.cycles, graph.order = .error cycle := by
  obtain ⟨counted,ended⟩ := run_ends regular
  unfold order
  generalize graph.orderRun graph.vertices.length graph.orderStart = state at counted ended ⊢
  have files : ∀ path ∈ state.order, path ∈ graph.vertices := by
    intro path member
    exact counted.files path (List.mem_append_left _ member)
  have once : state.order.Subperm graph.vertices :=
    List.subperm_of_subset (List.nodup_append.mp counted.once).1 files
  by_cases full : state.order.length = graph.vertices.length
  · exact .inl ⟨state,counted,if_pos full,once.perm_of_length_le (Nat.le_of_eq full.symm)⟩
  · right
    simp only [if_neg full]
    cases found : graph.cycles with
    | cons cycle rest => exact ⟨cycle,List.mem_cons_self,rfl⟩
    | nil =>
      obtain ⟨files,ranked,all⟩ := ranked_cycles regular
      rw [found] at ranked
      have covered : ∀ path ∈ graph.vertices, path ∈ state.order := by
        intro path member
        exact counted.takes_ranked regular ended ranked member (all path (among_of_mem member))
      have least := (List.subperm_of_subset (List.Nodup.of_map _ regular.vertices_apart) covered).length_le
      exact absurd (Nat.le_antisymm once.length_le least) full

theorem Ranked.behind_importer (ranked : Ranked graph [] files.reverse) (perm : files.Perm graph.vertices)
    (imports : graph.Imports a b) : [b.components,a.components].Sublist (files.map Path.components) := by
  have inside : among a files.reverse = true := by
    rw [among_iff,List.map_reverse,List.mem_reverse,(perm.map Path.components).mem_iff]
    exact among_iff.mp imports.listed
  simpa using (ranked.behind inside imports).reverse

theorem Ranked.leaves_acyclic (ranked : Ranked graph [] files.reverse) (perm : files.Perm graph.vertices) :
    graph.Acyclic := by
  intro cycle is
  obtain ⟨first,inner,last,rfl,_⟩ := is.ends
  have around := is.reaches List.mem_cons_self List.mem_cons_self
  obtain ⟨next,imports,_⟩ := Relation.TransGen.head'_iff.mp around
  rw [← kept_none] at around
  refine ranked.acyclic ?_ around
  rw [among_iff,List.map_reverse,List.mem_reverse,(perm.map Path.components).mem_iff]
  exact among_iff.mp imports.listed

-- The order ends, and no count falls below zero on the way. It is one of all
-- files behind their imports if there is no cycle, and else a cycle.
theorem order_topological (built : Built graph) :
    graph.orderStep (graph.orderRun graph.vertices.length graph.orderStart) = none ∧
    (∀ state dependent, graph.Releases state dependent →
      ∃ count, state.remaining.get? dependent = some count ∧ 0 < count) ∧
    ((∃ ordered, graph.order = .ok ordered) ↔ graph.Acyclic) ∧
    (∀ ordered, graph.order = .ok ordered → ordered.Perm graph.vertices ∧ Path.Apart ordered ∧
      ∀ a b, graph.Imports a b → [b.components,a.components].Sublist (ordered.map Path.components)) ∧
    ∀ cycle, graph.order = .error cycle → graph.IsCycle cycle := by
  have regular := built.regular
  refine ⟨?_,fun state dependent => releases_positive regular,?_⟩
  · rw [orderStep,(run_ends regular).2]
  · rcases order_cases regular with ⟨state,counted,answer,perm⟩ | ⟨cycle,member,answer⟩
    · refine ⟨⟨fun _ => counted.ranked.leaves_acyclic perm,fun _ => ⟨_,answer⟩⟩,?_,?_⟩
      · intro ordered same
        cases answer.symm.trans same
        exact ⟨perm,(perm.map Path.components).nodup_iff.mpr regular.vertices_apart,
          fun a b => counted.ranked.behind_importer perm⟩
      · intro cycle same
        cases answer.symm.trans same
    · have is := (cycles_are regular member).toIsCycle
      refine ⟨⟨?_,fun free => absurd is (free cycle)⟩,?_,?_⟩
      · rintro ⟨ordered,same⟩
        cases answer.symm.trans same
      · intro ordered same
        cases answer.symm.trans same
      · intro other same
        cases answer.symm.trans same
        exact is

theorem order_topological_diamond :
    let file := fun name : Char => Path.mk ['/',name]
    let graph := (((empty.addEdge (file 'a') (file 'b')).addEdge (file 'a') (file 'c')).addEdge
      (file 'b') (file 'd')).addEdge (file 'c') (file 'd')
    graph.Built ∧ graph.order = .ok [file 'd',file 'b',file 'c',file 'a'] ∧ graph.Acyclic := by
  intro file graph
  have built : graph.Built := .addEdge (.addEdge (.addEdge (.addEdge .empty _ _) _ _) _ _) _ _
  have answer : graph.order = .ok [file 'd',file 'b',file 'c',file 'a'] := by decide
  exact ⟨built,answer,(order_topological built).2.2.1.mp ⟨_,answer⟩⟩

end ImportGraph
end ScenarioLang
