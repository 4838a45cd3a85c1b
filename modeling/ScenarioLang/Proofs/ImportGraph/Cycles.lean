import ScenarioLang.Proofs.ImportGraph.Ranking

namespace ScenarioLang

theorem sublist_unique {one other whole : List α} (apart : whole.Nodup) (first : one.Sublist whole)
    (second : other.Sublist whole) (same : ∀ x, x ∈ one ↔ x ∈ other) : one = other := by
  induction first generalizing other with
  | slnil => exact (List.sublist_nil.mp second).symm
  | @cons one rest x first ih =>
    obtain ⟨fresh,apart⟩ := List.nodup_cons.mp apart
    cases second with
    | cons _ second => exact ih apart second same
    | cons_cons _ second => exact absurd (first.subset ((same x).mpr List.mem_cons_self)) fresh
  | @cons_cons one rest x first ih =>
    obtain ⟨fresh,apart⟩ := List.nodup_cons.mp apart
    cases second with
    | cons _ second => exact absurd (second.subset ((same x).mp List.mem_cons_self)) fresh
    | @cons_cons other _ _ second =>
      refine congrArg (x :: ·) (ih apart second fun y => ?_)
      have kept := same y
      simp only [List.mem_cons] at kept
      constructor
      · intro member
        exact (kept.mp (.inr member)).resolve_left fun equal => fresh (equal ▸ first.subset member)
      · intro member
        exact (kept.mpr (.inr member)).resolve_left fun equal => fresh (equal ▸ second.subset member)

namespace ImportGraph

open Relation (TransGen ReflTransGen)

variable {graph : ImportGraph} {search : CycleSearch} {a b : Path} {cycle other : ImportCycle}

def Passes (cycle : ImportCycle) (a b : Path) : Prop :=
  [a.components,b.components] <:+: cycle.map Path.components

-- Files that import each other, directly or through others.
def Tied (graph : ImportGraph) (a b : Path) : Prop := TransGen graph.Imports a b ∧ TransGen graph.Imports b a

theorem IsCycle.ends (is : graph.IsCycle cycle) :
    ∃ first inner last, cycle = first :: (inner ++ [last]) ∧ last.same first = true := by
  obtain ⟨steps,long,closed⟩ := is
  rcases cycle with _ | ⟨first,rest⟩
  · simp at long
  · rcases List.eq_nil_or_concat' rest with rfl | ⟨inner,last,rfl⟩
    · simp at long
    · refine ⟨first,inner,last,rfl,Path.same_iff.mpr ?_⟩
      rw [← List.cons_append,List.map_append,List.map_singleton,List.getLast?_concat] at closed
      exact (Option.some.inj closed).symm

theorem IsCycle.closes (is : graph.IsCycle cycle) : ∃ a b, Closes cycle a b := by
  obtain ⟨first,inner,last,rfl,_⟩ := is.ends
  obtain ⟨front,tip,own⟩ := (List.eq_nil_or_concat' (first :: inner)).resolve_left (List.cons_ne_nil _ _)
  refine ⟨tip,last,front.map Path.components,?_⟩
  rw [← List.cons_append,own]
  simp

theorem transGen_same {step : Path → Path → Prop} (spelled : ∀ a b c, step a b → b.same c = true → step a c)
    (walk : TransGen step a b) {c : Path} (same : b.same c = true) : TransGen step a c := by
  obtain ⟨middle,front,last⟩ := TransGen.tail'_iff.mp walk
  exact TransGen.tail' front (spelled _ _ _ last same)

theorem walk_same_left {c : Path} (walk : TransGen graph.Imports a b) (same : a.same c = true) :
    TransGen graph.Imports c b := by
  obtain ⟨next,imports,onward⟩ := TransGen.head'_iff.mp walk
  exact TransGen.head' (imports.same_left same) onward

theorem walk_same_right {c : Path} (walk : TransGen graph.Imports a b) (same : b.same c = true) :
    TransGen graph.Imports a c :=
  transGen_same (fun _ _ _ imports same => imports.same_right same) walk same

theorem chain_reaches {step : Path → Path → Prop} {first : Path} {rest : List Path}
    (chain : (first :: rest).IsChain step) : ∀ other ∈ rest, TransGen step first other := by
  induction rest generalizing first with
  | nil => exact fun other member => (nomatch member)
  | cons next rest ih =>
    obtain ⟨one,onward⟩ := List.isChain_cons_cons.mp chain
    intro other member
    rcases List.mem_cons.mp member with rfl | later
    · exact .single one
    · exact .head one (ih onward other later)

theorem IsCycle.reaches (is : graph.IsCycle cycle) (start : a ∈ cycle) (target : b ∈ cycle) :
    TransGen graph.Imports a b := by
  obtain ⟨first,inner,last,whole,same⟩ := is.ends
  have steps := is.steps
  rw [whole] at start target steps
  have ahead := chain_reaches steps
  have around : TransGen graph.Imports first first := walk_same_right (ahead last (by simp)) same
  have down : TransGen graph.Imports first b := by
    rcases List.mem_cons.mp target with rfl | later
    · exact around
    · exact ahead b later
  -- Ahead of the entry stands the last one, which is the first again.
  rw [← List.cons_append,List.mem_append,List.mem_singleton] at start
  rcases start with before | rfl
  · obtain ⟨front,back,split⟩ := List.append_of_mem before
    rw [← List.cons_append,split,List.append_assoc] at steps
    have up := chain_reaches (List.IsChain.right_of_append steps) last (by simp)
    exact (walk_same_right up same).trans down
  · exact walk_same_left down ((Path.same_comm a first).symm.trans same)

theorem ranked_cycles (regular : Regular graph) : ∃ files, Ranked graph graph.cycles files ∧
    ∀ path, among path graph.vertices = true → among path files = true := by
  obtain ⟨final,explores,found⟩ := cycles_explores regular
  obtain ⟨files,ranked,_,all⟩ := explores.ranks .nil fun path => rfl
  rw [List.append_nil] at ranked all
  refine ⟨files,found ▸ ranked,fun path listed => ?_⟩
  obtain ⟨start,member,same⟩ := List.any_eq_true.mp listed
  rw [← among_same same]
  exact (all start member).resolve_right fun ⟨tip,own,_⟩ => (nomatch own)

theorem kept_acyclic (regular : Regular graph) (a : Path) : ¬ TransGen (graph.Kept graph.cycles) a a := by
  intro walk
  obtain ⟨files,ranked,all⟩ := ranked_cycles regular
  obtain ⟨next,⟨imports,_⟩,_⟩ := TransGen.head'_iff.mp walk
  exact ranked.acyclic (all a imports.listed) walk

theorem cycle_closed (regular : Regular graph) (is : graph.IsCycle cycle) :
    ∃ found ∈ graph.cycles, ∃ a b, Closes found a b ∧ Passes cycle a b := by
  by_contra none
  have kept : cycle.IsChain (graph.Kept graph.cycles) := by
    refine List.isChain_iff_forall_rel_of_append_cons_cons.mpr fun a b front back split => ⟨?_,?_⟩
    · exact List.isChain_iff_forall_rel_of_append_cons_cons.mp is.steps split
    · rintro ⟨found,member,closes⟩
      exact none ⟨found,member,a,b,closes,front.map Path.components,back.map Path.components,by simp [split]⟩
  obtain ⟨first,inner,last,rfl,same⟩ := is.ends
  have around := chain_reaches kept last (by simp)
  refine kept_acyclic regular first (transGen_same (fun a b c step same => ⟨step.1.same_right same,?_⟩) around same)
  rintro ⟨found,member,closes⟩
  exact step.2 ⟨found,member,by rwa [Closes,Path.same_iff.mp same]⟩

-- One of the files that import each other closes a cycle, or the walk around
-- them would be left without the closing steps.
theorem tied_closed (regular : Regular graph) (around : TransGen graph.Imports a a) :
    ∃ found ∈ graph.cycles, ∃ b ∈ found, graph.Tied a b := by
  by_contra none
  have unclosed : ∀ b c, graph.Tied a b → ¬ ClosedBy graph.cycles b c := by
    rintro b c ⟨there,back⟩ ⟨found,member,closes⟩
    obtain ⟨entry,inside,same⟩ := List.any_eq_true.mp (closes_source closes)
    rw [Path.same_comm] at same
    have tied : graph.Tied a entry := ⟨walk_same_right there same,walk_same_left back same⟩
    exact none ⟨found,member,entry,List.dropLast_subset _ inside,tied⟩
  have kept : ∀ b, TransGen graph.Imports b a → TransGen graph.Imports a b →
      TransGen (graph.Kept graph.cycles) b a := by
    intro b back
    induction back using TransGen.head_induction_on with
    | single imports => exact fun there => .single ⟨imports,unclosed _ _ ⟨there,.single imports⟩⟩
    | head imports onward ih =>
      exact fun there => .head ⟨imports,unclosed _ _ ⟨there,.head imports onward⟩⟩ (ih (there.tail imports))
  exact kept_acyclic regular a (kept a around around)

theorem start_sound : Sound graph [] ⟨[],[]⟩ :=
  ⟨.nil,List.nodup_nil,List.nil_sublist _,fun _ member => (nomatch member),fun _ member => (nomatch member)⟩

theorem IsCycle.round (is : graph.IsCycle cycle) :
    ∃ first inner, cycle.map Path.components = first :: inner ++ [first] := by
  obtain ⟨first,inner,last,rfl,same⟩ := is.ends
  exact ⟨first.components,inner.map Path.components,by simp [Path.same_iff.mp same]⟩

-- The files of a cycle were met in its order, so they decide where it starts and
-- which step closes it.
theorem Sound.same_files (sound : Sound graph [] search) (one : cycle ∈ search.cycles) (second : other ∈ search.cycles)
    (files : ∀ path, among path cycle = among path other) : cycle.map Path.components = other.map Path.components := by
  obtain ⟨first,inner,own⟩ := (sound.simple cycle one).round
  obtain ⟨start,middle,again⟩ := (sound.simple other second).round
  have within : ∀ {cycle other : ImportCycle}, (∀ path, among path cycle = among path other) →
      ∀ name ∈ cycle.map Path.components, name ∈ other.map Path.components := by
    intro cycle other files name member
    obtain ⟨path,inside,rfl⟩ := List.mem_map.mp member
    rw [← among_iff,← files path]
    exact among_of_mem inside
  have names : ∀ name, name ∈ first :: inner ++ [first] ↔ name ∈ start :: middle ++ [start] := by
    intro name
    rw [← own,← again]
    exact ⟨within files name,within (fun path => (files path).symm) name⟩
  have traced := sound.traced cycle one
  have traced_other := sound.traced other second
  rw [List.map_reverse,List.map_dropLast,own,List.dropLast_concat] at traced
  rw [List.map_reverse,List.map_dropLast,again,List.dropLast_concat] at traced_other
  have equal := sublist_unique sound.apart traced traced_other fun name => by
    simpa [or_comm,or_left_comm] using names name
  cases List.reverse_injective equal
  rw [own,again]

theorem cycles_are (regular : Regular graph) {cycle : ImportCycle} (member : cycle ∈ graph.cycles) :
    graph.IsSimpleCycle cycle := by
  obtain ⟨final,explores,found⟩ := cycles_explores regular
  have sound := explores.sound (fun next member tip own => nomatch own) start_sound
  exact sound.simple cycle (found ▸ member)

-- Each cycle found is one, none is found twice, in whatever turn, and the steps
-- that close them are as many as it takes to leave no cycle.
theorem cycles_exact (built : Built graph) :
    (∀ cycle ∈ graph.cycles, graph.IsSimpleCycle cycle) ∧
    graph.cycles.Pairwise (fun one other => ∃ path, among path one ≠ among path other) ∧
    (∀ cycle, graph.IsCycle cycle → ∃ found ∈ graph.cycles, ∃ a b, Closes found a b ∧ Passes cycle a b) ∧
    (∀ path, ¬ TransGen (graph.Kept graph.cycles) path path) ∧
    (graph.cycles = [] ↔ graph.Acyclic) ∧
    ∀ path, graph.Tied path path → ∃ found ∈ graph.cycles, ∀ member ∈ found, graph.Tied path member := by
  have regular := built.regular
  obtain ⟨final,explores,found⟩ := cycles_explores regular
  have sound := explores.sound (fun next member tip own => nomatch own) start_sound
  have apart := explores.closed_apart regular (fun next member tip own => nomatch own) start_sound
    regular.vertices_apart (fun tip own => nomatch own) .nil
  refine ⟨fun cycle => cycles_are regular,?_,fun cycle is => cycle_closed regular is,kept_acyclic regular,?_,?_⟩
  · rw [found]
    refine apart.imp_of_mem fun {one other} member second unclosed => ?_
    by_contra none
    obtain ⟨a,b,closes⟩ := (sound.simple one member).closes
    have same := sound.same_files member second fun path => not_not.mp fun differs => none ⟨path,differs⟩
    exact unclosed a b closes (by rwa [Closes,← same])
  · constructor
    · intro none cycle is
      obtain ⟨found,member,_⟩ := cycle_closed regular is
      rw [none] at member
      cases member
    · intro acyclic
      refine List.eq_nil_iff_forall_not_mem.mpr fun cycle member => ?_
      exact acyclic cycle (cycles_are regular member).toIsCycle
  · intro path around
    obtain ⟨cycle,member,b,inside,there,back⟩ := tied_closed regular around.1
    have is := (cycles_are regular member).toIsCycle
    exact ⟨cycle,member,fun other entry => ⟨there.trans (is.reaches inside entry),(is.reaches entry inside).trans back⟩⟩

theorem cycles_exact_shared :
    let file := fun name : Char => Path.mk ['/',name]
    let graph := (((empty.addEdge (file 'a') (file 'b')).addEdge (file 'b') (file 'a')).addEdge
      (file 'b') (file 'c')).addEdge (file 'c') (file 'a')
    graph.Built ∧ graph.cycles = [[file 'a',file 'b',file 'a'],[file 'a',file 'b',file 'c',file 'a']] ∧
      ¬ graph.Acyclic := by
  intro file graph
  have built : graph.Built := .addEdge (.addEdge (.addEdge (.addEdge .empty _ _) _ _) _ _) _ _
  have found : graph.cycles = [[file 'a',file 'b',file 'a'],[file 'a',file 'b',file 'c',file 'a']] := by decide
  refine ⟨built,found,fun acyclic => ?_⟩
  have none := (cycles_exact built).2.2.2.2.1.mpr acyclic
  rw [found] at none
  cases none

end ImportGraph
end ScenarioLang
