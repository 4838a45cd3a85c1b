import ScenarioLang.Proofs.ImportGraph.Search

namespace ScenarioLang
namespace ImportGraph

open Relation (TransGen ReflTransGen)

variable {graph : ImportGraph} {trail todo files : List Path} {search final : CycleSearch} {a b c : Path}
  {cycles : List ImportCycle}

def ClosedBy (cycles : List ImportCycle) (a b : Path) : Prop := ∃ cycle ∈ cycles, Closes cycle a b

def Kept (graph : ImportGraph) (cycles : List ImportCycle) (a b : Path) : Prop :=
  graph.Imports a b ∧ ¬ ClosedBy cycles a b

-- Files behind each of which stand the files it imports, but for the closing
-- steps of some cycles.
inductive Ranked (graph : ImportGraph) (cycles : List ImportCycle) : List Path → Prop where
  | nil : Ranked graph cycles []
  | cons {path : Path} {rest : List Path}
      (behind : ∀ next ∈ graph.dependencies path, among next rest = true ∨ ClosedBy cycles path next)
      (ranked : Ranked graph cycles rest) : Ranked graph cycles (path :: rest)

theorem Ranked.mono {more : List ImportCycle} (ranked : Ranked graph cycles files) (grown : cycles <+: more) :
    Ranked graph more files := by
  induction ranked with
  | nil => exact .nil
  | cons behind _ ih =>
    refine .cons (fun next imported => ?_) ih
    exact (behind next imported).imp_right fun ⟨cycle,member,closes⟩ => ⟨cycle,grown.subset member,closes⟩

theorem behind_kept {path : Path} {rest : List Path}
    (behind : ∀ next ∈ graph.dependencies path, among next rest = true ∨ ClosedBy cycles path next)
    (same : path.same a = true) (kept : graph.Kept cycles a b) : among b rest = true := by
  obtain ⟨imports,unclosed⟩ := kept
  obtain ⟨next,imported,target⟩ := List.any_eq_true.mp (imports.same_left ((Path.same_comm a path).trans same))
  rw [← among_same target]
  refine (behind next imported).resolve_right fun ⟨cycle,member,closes⟩ => unclosed ⟨cycle,member,?_⟩
  rwa [Closes,← Path.same_iff.mp same,← Path.same_iff.mp target]

theorem Ranked.step (ranked : Ranked graph cycles files) (inside : among a files = true)
    (kept : graph.Kept cycles a b) : among b files = true := by
  induction ranked with
  | nil => cases inside
  | cons behind _ ih =>
    rw [among_cons,Bool.or_eq_true] at inside ⊢
    rcases inside with own | later
    · exact .inr (behind_kept behind own kept)
    · exact .inr (ih later)

theorem Ranked.closed (ranked : Ranked graph cycles files) (inside : among a files = true)
    (walk : ReflTransGen (graph.Kept cycles) a b) : among b files = true := by
  induction walk with
  | refl => exact inside
  | tail _ kept ih => exact ranked.step ih kept

theorem Ranked.acyclic (ranked : Ranked graph cycles files) (inside : among a files = true) :
    ¬ TransGen (graph.Kept cycles) a a := by
  induction ranked with
  | nil => cases inside
  | @cons path rest behind ranked ih =>
    intro walk
    by_cases later : among a rest = true
    · exact ih later walk
    · rw [among_cons,Bool.or_eq_true] at inside
      obtain ⟨next,kept,onward⟩ := TransGen.head'_iff.mp walk
      exact later (ranked.closed (behind_kept behind (inside.resolve_right later) kept) onward)

-- The files a search has left are ranked. Files it has met are left or on the
-- trail, and from the tip of the trail only closing steps lead elsewhere.
theorem Explores.ranks (explores : Explores graph trail todo search final) (ranked : Ranked graph search.cycles files)
    (met : ∀ path, among path search.visited = (among path files || among path trail)) :
    ∃ later : List Path, Ranked graph final.cycles (later ++ files) ∧
      (∀ path, among path final.visited = (among path (later ++ files) || among path trail)) ∧
      ∀ next ∈ todo, among next (later ++ files) = true ∨
        ∃ tip, trail.getLast? = some tip ∧ ClosedBy final.cycles tip next := by
  induction explores generalizing files with
  | done => exact ⟨[],ranked,met,fun next member => (nomatch member)⟩
  | @closes trail rest next search final on onward ih =>
    obtain ⟨later,after,whole,others⟩ := ih (ranked.mono (List.prefix_append _ _)) met
    refine ⟨later,after,whole,fun other member => ?_⟩
    rcases List.mem_cons.mp member with rfl | inside
    · obtain ⟨tip,own,closes⟩ := closing_closes on
      exact .inr ⟨tip,own,_,onward.cycles_grow.subset (List.mem_append_right _ List.mem_cons_self),closes⟩
    · exact others other inside
  | @known trail rest next search final unmet seen onward ih =>
    obtain ⟨later,after,whole,others⟩ := ih ranked met
    refine ⟨later,after,whole,fun other member => ?_⟩
    rcases List.mem_cons.mp member with rfl | inside
    · left
      have gone := met other
      rw [seen,unmet,Bool.or_false] at gone
      rw [among_append,← gone,Bool.or_true]
    · exact others other inside
  | @enters trail rest next search middle final unmet unseen inner onward ih ihRest =>
    obtain ⟨below,inner_ranked,inner_met,imports⟩ := ih ranked fun path => by
      rw [among_cons,among_append,met path,among_cons,among_nil,Bool.or_false]
      ac_rfl
    -- All that the file imports is ranked by now, or closes a cycle.
    have gone : Ranked graph middle.cycles (next :: (below ++ files)) := by
      refine .cons (fun other imported => (imports other imported).imp_right ?_) inner_ranked
      rintro ⟨tip,own,closed⟩
      rw [List.getLast?_concat] at own
      cases own
      exact closed
    obtain ⟨later,after,whole,others⟩ := ihRest gone fun path => by
      rw [inner_met path,@among_append path trail,among_cons,among_cons,among_nil,Bool.or_false]
      ac_rfl
    refine ⟨later ++ next :: below,by simpa using after,by simpa using whole,fun other member => ?_⟩
    rcases List.mem_cons.mp member with rfl | inside
    · left
      simp [Path.same_refl]
    · simpa using others other inside

end ImportGraph
end ScenarioLang
