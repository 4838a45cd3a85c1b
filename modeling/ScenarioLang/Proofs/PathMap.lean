import Mathlib.Data.List.Basic
import ScenarioLang.PathMap
import ScenarioLang.Proofs.Path

namespace ScenarioLang

namespace Component

theorem before_irrefl (a : Component) : a.before a = false := by
  cases a with
  | name part => exact decide_eq_false (List.lt_irrefl part)
  | _ => rfl

theorem before_trans {a b c : Component} (first : a.before b = true) (second : b.before c = true) :
    a.before c = true := by
  cases a <;> cases b <;> simp [before] at first <;> cases c <;> simp [before] at second ⊢
  exact List.lt_trans first second

theorem before_total {a b : Component} (apart : a ≠ b) : a.before b = true ∨ b.before a = true := by
  by_cases names : ∃ s t, a = name s ∧ b = name t
  · obtain ⟨s,t,rfl,rfl⟩ := names
    simp only [before,decide_eq_true_eq]
    by_cases less : s < t
    · exact .inl less
    · by_cases more : t < s
      · exact .inr more
      · exact absurd (congrArg name (List.le_antisymm more less)) apart
  · cases a <;> cases b <;> simp [before] at apart names ⊢

end Component

namespace Path

theorem same_iff {a b : Path} : a.same b = true ↔ a.components = b.components := by simp [same]
theorem same_refl (a : Path) : a.same a = true := same_iff.mpr rfl
theorem same_comm (a b : Path) : a.same b = b.same a := by simp [same,eq_comm]

theorem same_trans {a b c : Path} (first : a.same b = true) (second : b.same c = true) : a.same c = true :=
  same_iff.mpr ((same_iff.mp first).trans (same_iff.mp second))

theorem componentsBefore_irrefl (a : List Component) : componentsBefore a a = false := by
  induction a with
  | nil => rfl
  | cons first rest ih => simp [componentsBefore,Component.before_irrefl,ih]

theorem componentsBefore_trans {a b c : List Component} (first : componentsBefore a b = true)
    (second : componentsBefore b c = true) : componentsBefore a c = true := by
  induction a generalizing b c with
  | nil =>
    cases c with
    | nil => cases b <;> cases second
    | cons => rfl
  | cons x xs ih =>
    cases b with
    | nil => cases first
    | cons y ys =>
      cases c with
      | nil => cases second
      | cons z zs =>
        simp only [componentsBefore,Bool.or_eq_true,Bool.and_eq_true,decide_eq_true_eq] at first second ⊢
        rcases first with less | ⟨rfl,first⟩
        · rcases second with more | ⟨rfl,second⟩
          · exact .inl (Component.before_trans less more)
          · exact .inl less
        · rcases second with more | ⟨rfl,second⟩
          · exact .inl more
          · exact .inr ⟨rfl,ih first second⟩

theorem componentsBefore_total {a b : List Component} (apart : a ≠ b) :
    componentsBefore a b = true ∨ componentsBefore b a = true := by
  induction a generalizing b with
  | nil =>
    cases b with
    | nil => exact absurd rfl apart
    | cons => exact .inl rfl
  | cons x xs ih =>
    cases b with
    | nil => exact .inr rfl
    | cons y ys =>
      simp only [componentsBefore,Bool.or_eq_true,Bool.and_eq_true,decide_eq_true_eq]
      by_cases equal : x = y
      · subst equal
        have rest : xs ≠ ys := fun same => apart (by rw [same])
        rcases ih rest with before | behind
        · exact .inl (.inr ⟨rfl,before⟩)
        · exact .inr (.inr ⟨rfl,behind⟩)
      · rcases Component.before_total equal with before | behind
        · exact .inl (.inl before)
        · exact .inr (.inl behind)

theorem before_trans {a b c : Path} (first : a.before b = true) (second : b.before c = true) : a.before c = true :=
  componentsBefore_trans first second

theorem before_apart {a b : Path} (before : a.before b = true) : a.same b = false := by
  rw [← Bool.not_eq_true]
  intro same
  rw [Path.before,same_iff.mp same,componentsBefore_irrefl] at before
  cases before

theorem before_total {a b : Path} (apart : a.same b = false) : a.before b = true ∨ b.before a = true := by
  apply componentsBefore_total
  intro equal
  rw [same_iff.mpr equal] at apart
  cases apart

end Path

namespace PathMap

variable {entries : PathMap α} {path query : Path} {change : Option α → α} {value : α}

-- Entries stand in path order, so no path has two of them.
def Ordered (entries : PathMap α) : Prop := entries.Pairwise fun a b => a.1.before b.1 = true

def held? (path : Path) (entries : PathMap α) : Option (Path × α) := entries.find? fun entry => entry.1.same path

theorem held?_own {entry : Path × α} {rest : PathMap α} (own : entry.1.same path = true) :
    held? path (entry :: rest) = some entry := List.find?_cons_of_pos own

theorem held?_later {entry : Path × α} {rest : PathMap α} (other : entry.1.same path = false) :
    held? path (entry :: rest) = held? path rest :=
  List.find?_cons_of_neg (Bool.eq_false_iff.mp other)

theorem get?_eq_held? : get? path entries = (held? path entries).map Prod.snd := by
  induction entries with
  | nil => rfl
  | cons entry rest ih =>
    by_cases own : entry.1.same path = true
    · rw [held?_own own,get?,if_pos own]
      rfl
    · rw [held?_later (Bool.eq_false_iff.mpr own),get?,if_neg own,ih]

theorem held?_same (same : path.same query = true) : held? path entries = held? query entries := by
  unfold held?
  congr
  funext entry
  rw [Path.same,Path.same,Path.same_iff.mp same]

theorem get?_same (same : path.same query = true) : get? path entries = get? query entries := by
  rw [get?_eq_held?,get?_eq_held?,held?_same same]

theorem held?_update_other (other : path.same query = false) :
    held? query (update path change entries) = held? query entries := by
  fun_induction update path change entries with
  | case1 => exact held?_later other
  | case2 key value rest same =>
    have apart : key.same query = false := by
      rw [← Bool.not_eq_true]
      intro met
      rw [Path.same_trans ((Path.same_comm path key).trans same) met] at other
      cases other
    rw [held?_later apart,held?_later apart]
  | case3 key value rest apart before => exact held?_later other
  | case4 key value rest apart before ih =>
    by_cases own : key.same query = true
    · rw [held?_own own,held?_own own]
    · rw [held?_later (Bool.eq_false_iff.mpr own),held?_later (Bool.eq_false_iff.mpr own),ih]

theorem get?_update_other (other : path.same query = false) :
    get? query (update path change entries) = get? query entries := by
  rw [get?_eq_held?,get?_eq_held?,held?_update_other other]

theorem held?_before (ordered : ∀ entry ∈ entries, path.before entry.1 = true) : held? path entries = none := by
  apply List.find?_eq_none.mpr
  intro entry member
  rw [Path.same_comm,Path.before_apart (ordered entry member)]
  exact Bool.false_ne_true

-- A path that is in the map keeps its key.
theorem held?_update_own (ordered : Ordered entries) (same : path.same query = true) :
    held? query (update path change entries) =
      some (((held? query entries).map Prod.fst).getD path,change (get? query entries)) := by
  fun_induction update path change entries with
  | case1 => exact held?_own same
  | case2 key value rest own =>
    have met : key.same query = true := Path.same_trans own same
    rw [held?_own met,held?_own met,get?,if_pos met]
    rfl
  | case3 key value rest apart before =>
    obtain ⟨first,_⟩ := List.pairwise_cons.mp ordered
    have none : held? query ((key,value) :: rest) = none := by
      rw [← held?_same same]
      refine held?_before fun entry member => ?_
      rcases List.mem_cons.mp member with rfl | later
      · exact before
      · exact Path.before_trans before (first entry later)
    rw [held?_own same,get?_eq_held?,none]
    rfl
  | case4 key value rest apart before ih =>
    have apart : key.same query = false := by
      rw [← Bool.not_eq_true]
      intro met
      exact apart (Path.same_trans met (by rw [Path.same_comm]; exact same))
    rw [held?_later apart,ih (List.pairwise_cons.mp ordered).2,held?_later apart,get?_eq_held?,get?_eq_held?,
      held?_later apart]

theorem get?_update_own (ordered : Ordered entries) (same : path.same query = true) :
    get? query (update path change entries) = some (change (get? query entries)) := by
  rw [get?_eq_held?,held?_update_own ordered same]
  rfl

theorem update_key {entry : Path × α} (member : entry ∈ update path change entries) :
    entry.1 = path ∨ ∃ old ∈ entries, old.1 = entry.1 := by
  fun_induction update path change entries with
  | case1 => exact .inl (by rw [List.mem_singleton.mp member])
  | case2 key value rest own =>
    rcases List.mem_cons.mp member with rfl | later
    · exact .inr ⟨(key,value),List.mem_cons_self,rfl⟩
    · exact .inr ⟨entry,List.mem_cons_of_mem _ later,rfl⟩
  | case3 key value rest apart before =>
    rcases List.mem_cons.mp member with rfl | later
    · exact .inl rfl
    · exact .inr ⟨entry,later,rfl⟩
  | case4 key value rest apart before ih =>
    rcases List.mem_cons.mp member with rfl | later
    · exact .inr ⟨(key,value),List.mem_cons_self,rfl⟩
    · rcases ih later with own | ⟨old,inside,own⟩
      · exact .inl own
      · exact .inr ⟨old,List.mem_cons_of_mem _ inside,own⟩

theorem ordered_update (ordered : Ordered entries) : Ordered (update path change entries) := by
  fun_induction update path change entries with
  | case1 => exact List.pairwise_singleton _ _
  | case2 key value rest own =>
    obtain ⟨first,rest⟩ := List.pairwise_cons.mp ordered
    exact List.pairwise_cons.mpr ⟨first,rest⟩
  | case3 key value rest apart before =>
    obtain ⟨first,_⟩ := List.pairwise_cons.mp ordered
    refine List.pairwise_cons.mpr ⟨fun entry member => ?_,ordered⟩
    rcases List.mem_cons.mp member with rfl | later
    · exact before
    · exact Path.before_trans before (first entry later)
  | case4 key value rest apart before ih =>
    obtain ⟨first,rest⟩ := List.pairwise_cons.mp ordered
    refine List.pairwise_cons.mpr ⟨fun entry member => ?_,ih rest⟩
    rcases update_key member with own | ⟨old,inside,own⟩
    · rw [own]
      exact (Path.before_total (by simpa using apart)).resolve_right before
    · rw [← own]
      exact first old inside

-- All keys in the spelling of their components, so that one path is one key.
def Spelled (entries : PathMap α) : Prop := ∀ entry ∈ entries, entry.1.Normal

theorem mem_of_get?_same (found : get? path entries = some value) :
    ∃ key, key.same path = true ∧ (key,value) ∈ entries := by
  rw [get?_eq_held?] at found
  obtain ⟨⟨key,held⟩,met,rfl⟩ := Option.map_eq_some_iff.mp found
  have own := List.find?_some met
  exact ⟨key,own,List.mem_of_find?_eq_some met⟩

theorem mem_of_get? (spelled : Spelled entries) (normal : path.Normal) (found : get? path entries = some value) :
    (path,value) ∈ entries := by
  obtain ⟨key,same,member⟩ := mem_of_get?_same found
  obtain rfl := (Path.normal_same (spelled (key,value) member) normal).mp same
  exact member

theorem mem_iff_held? {entry : Path × α} (ordered : Ordered entries) :
    entry ∈ entries ↔ held? entry.1 entries = some entry := by
  refine ⟨fun member => ?_,List.mem_of_find?_eq_some⟩
  induction entries with
  | nil => cases member
  | cons other rest ih =>
    obtain ⟨first,later⟩ := List.pairwise_cons.mp ordered
    rcases List.mem_cons.mp member with rfl | inside
    · exact held?_own (Path.same_refl _)
    · rw [held?_later (Path.before_apart (first entry inside))]
      exact ih later inside

theorem get?_of_mem (ordered : Ordered entries) (member : (path,value) ∈ entries) :
    get? path entries = some value := by
  rw [get?_eq_held?,(mem_iff_held? ordered).mp member]
  rfl

theorem mem_iff_get? (ordered : Ordered entries) (spelled : Spelled entries) (normal : path.Normal) :
    (path,value) ∈ entries ↔ get? path entries = some value :=
  ⟨get?_of_mem ordered,mem_of_get? spelled normal⟩

theorem spelled_update (spelled : Spelled entries) (normal : path.Normal) :
    Spelled (update path change entries) := by
  intro entry member
  rcases update_key member with own | ⟨old,inside,own⟩
  · rw [own]; exact normal
  · rw [← own]; exact spelled old inside

theorem mem_put (ordered : Ordered entries) (spelled : Spelled entries) (normal : path.Normal)
    {key : Path} {held : α} : (key,held) ∈ put path value entries ↔
      (key = path ∧ held = value) ∨ (key ≠ path ∧ (key,held) ∈ entries) := by
  have put_spelled : Spelled (put path value entries) := spelled_update spelled normal
  have put_ordered : Ordered (put path value entries) := ordered_update ordered
  by_cases key_normal : key.Normal
  · rw [mem_iff_get? put_ordered put_spelled key_normal,put]
    by_cases same : path.same key = true
    · obtain rfl := (Path.normal_same normal key_normal).mp same
      rw [get?_update_own ordered same]
      simp [eq_comm]
    · have apart : key ≠ path := by
        rintro rfl
        exact same (Path.same_refl key)
      rw [get?_update_other (by simpa using same),← mem_iff_get? ordered spelled key_normal]
      simp [apart]
  · have absent : ∀ entries : PathMap α, Spelled entries → (key,held) ∉ entries :=
      fun entries spelled member => key_normal (spelled _ member)
    have apart : key ≠ path := by
      rintro rfl
      exact key_normal normal
    simp [absent _ put_spelled,absent _ spelled,apart]

theorem holds_iff (ordered : Ordered entries) (spelled : Spelled entries) (normal : path.Normal) :
    holds path entries = true ↔ ∃ value, (path,value) ∈ entries := by
  simp only [mem_iff_get? ordered spelled normal,holds,Option.isSome_iff_exists]

theorem Ordered.nodup (ordered : Ordered entries) : entries.Nodup := by
  refine ordered.imp fun {first second} before equal => ?_
  rw [equal] at before
  exact absurd (Path.before_apart before) (by simp [Path.same_refl])

theorem Ordered.ext {others : PathMap α} (ordered : Ordered entries) (also : Ordered others)
    (same : ∀ entry, entry ∈ entries ↔ entry ∈ others) : entries = others := by
  refine List.Perm.eq_of_pairwise (fun first second _ _ before behind => ?_) ordered also
    ((List.perm_ext_iff_of_nodup ordered.nodup also.nodup).mpr same)
  have both := Path.before_apart (Path.before_trans before behind)
  rw [Path.same_refl] at both
  cases both

theorem Ordered.ext_held? {others : PathMap α} (ordered : Ordered entries) (also : Ordered others)
    (same : ∀ path, held? path entries = held? path others) : entries = others := by
  refine ordered.ext also fun entry => ?_
  rw [mem_iff_held? ordered,mem_iff_held? also,same]

theorem Ordered.ext_get? {others : PathMap α} (ordered : Ordered entries) (also : Ordered others)
    (spelled : Spelled entries) (also_spelled : Spelled others)
    (same : ∀ path, path.Normal → get? path entries = get? path others) : entries = others := by
  refine ordered.ext also fun entry => ?_
  by_cases normal : entry.1.Normal
  · rw [mem_iff_get? ordered spelled normal,mem_iff_get? also also_spelled normal,same _ normal]
  · exact ⟨fun member => absurd (spelled entry member) normal,fun member => absurd (also_spelled entry member) normal⟩

theorem get?_filter (ordered : Ordered entries) (keep : α → Bool) (path : Path) :
    get? path (entries.filter fun entry => keep entry.2) = (get? path entries).filter keep := by
  induction entries with
  | nil => rfl
  | cons entry rest ih =>
    obtain ⟨first,later⟩ := List.pairwise_cons.mp ordered
    by_cases own : entry.1.same path = true
    · cases kept : keep entry.2 with
      | true => simp [get?,own,kept,Option.filter]
      | false =>
        have absent : get? path rest = none := by
          rw [← get?_same own,get?_eq_held?,held?_before first]
          rfl
        have dropped : ((entry :: rest).filter fun entry => keep entry.2) = rest.filter fun entry => keep entry.2 :=
          List.filter_cons_of_neg (Bool.eq_false_iff.mp kept)
        rw [dropped,ih later,absent,get?,if_pos own,Option.filter,kept]
        rfl
    · cases kept : keep entry.2 with
      | true => simpa [get?,own,kept] using ih later
      | false => simpa [get?,own,kept] using ih later

def outline (entries : PathMap α) : List (List Component × α) :=
  entries.map fun entry => (entry.1.components,entry.2)

theorem Ordered.outline_sorted (ordered : Ordered entries) :
    entries.outline.Pairwise fun a b => Path.componentsBefore a.1 b.1 = true :=
  List.pairwise_map.mpr ordered

theorem Ordered.outline_nodup (ordered : Ordered entries) : entries.outline.Nodup := by
  refine ordered.outline_sorted.imp fun {first second} before equal => ?_
  rw [equal,Path.componentsBefore_irrefl] at before
  cases before

theorem Ordered.outline_ext {others : PathMap α} (ordered : Ordered entries) (also : Ordered others)
    (same : ∀ path, get? path entries = get? path others) : entries.outline = others.outline := by
  have inside : ∀ {entries others : PathMap α}, Ordered entries →
      (∀ path, get? path entries = get? path others) → ∀ entry ∈ entries.outline, entry ∈ others.outline := by
    intro entries others ordered same entry member
    obtain ⟨⟨key,value⟩,held,rfl⟩ := List.mem_map.mp member
    have found : get? key others = some value := by rw [← same,get?_of_mem ordered held]
    obtain ⟨other,own,listed⟩ := mem_of_get?_same found
    exact List.mem_map.mpr ⟨(other,value),listed,by rw [Path.same_iff.mp own]⟩
  have members : ∀ entry, entry ∈ entries.outline ↔ entry ∈ others.outline := fun entry =>
    ⟨inside ordered same entry,inside also (fun path => (same path).symm) entry⟩
  refine List.Perm.eq_of_pairwise (fun first second _ _ before behind => ?_) ordered.outline_sorted also.outline_sorted
    ((List.perm_ext_iff_of_nodup ordered.outline_nodup also.outline_nodup).mpr members)
  have both := Path.componentsBefore_trans before behind
  rw [Path.componentsBefore_irrefl] at both
  cases both

end PathMap

end ScenarioLang
