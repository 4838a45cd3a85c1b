import ScenarioLang.Path
import ScenarioLang.Proofs.Text.Split

namespace ScenarioLang

namespace Component

def Plain : Component → Prop
  | name part => ofPart? part = some (.name part) ∧ '/' ∉ part
  | up => True
  | _ => False

theorem written_plain {component : Component} (plain : component.Plain) :
    ofPart? component.written = some component ∧ '/' ∉ component.written ∧
      component.written ≠ [] ∧ component.written ≠ ['.'] := by
  cases component with
  | up => exact ⟨rfl,by simp [written],by simp [written],by simp [written]⟩
  | name part =>
    obtain ⟨kept,clean⟩ := plain
    refine ⟨kept,clean,?_,?_⟩ <;> intro equal <;> rw [written] at equal <;> subst equal <;> cases kept
  | _ => exact plain.elim

theorem ofPart_plain {part : Text} {component : Component} (clean : '/' ∉ part)
    (made : ofPart? part = some component) : component.Plain := by
  have kept := made
  simp only [ofPart?] at made
  split at made
  · cases made
  · split at made <;> cases made
    · trivial
    · exact ⟨kept,clean⟩

end Component

namespace Path

-- A path in the one spelling that its components have.
def Normal (path : Path) : Prop := ofComponents path.components = path

theorem normal_same {a b : Path} (first : a.Normal) (second : b.Normal) : a.same b = true ↔ a = b := by
  constructor
  · intro same
    have components : a.components = b.components := by simpa [Path.same] using same
    rw [← first,components,second]
  · rintro rfl
    simp [Path.same]

theorem named_slashed {components : List Component} (plain : ∀ c ∈ components, c.Plain) :
    (Text.split (· = '/') (slashed components)).filterMap Component.ofPart? = components := by
  cases components with
  | nil => rfl
  | cons first rest =>
    have clean : ∀ part ∈ (first :: rest).map Component.written, '/' ∉ part := by
      intro part member
      obtain ⟨component,inside,rfl⟩ := List.mem_map.mp member
      exact (Component.written_plain (plain component inside)).2.1
    rw [slashed,Text.split_intercalate (by simp) clean,List.filterMap_map]
    have each : ∀ component ∈ first :: rest, (Component.ofPart? ∘ Component.written) component = some component :=
      fun component inside => (Component.written_plain (plain component inside)).1
    rw [List.filterMap_congr each,List.filterMap_some]

theorem components_rooted {rest : List Component} (plain : ∀ c ∈ rest, c.Plain) :
    (ofComponents (.root :: rest)).components = .root :: rest := by
  have absolute : (ofComponents (.root :: rest)).isAbsolute = true := by simp [isAbsolute,ofComponents]
  have parts : Text.split (· = '/') (ofComponents (.root :: rest)).text =
      [] :: Text.split (· = '/') (slashed rest) := rfl
  rw [components]
  simp only [absolute,if_true,parts]
  rw [List.filterMap_cons_none (by rfl),named_slashed plain]

theorem components_plain {components : List Component} (plain : ∀ c ∈ components, c.Plain) :
    (ofComponents components).components = components := by
  have unrooted : ofComponents components = ⟨slashed components⟩ := by
    cases components with
    | nil => rfl
    | cons first rest =>
      cases first with
      | root => exact (plain .root List.mem_cons_self).elim
      | _ => rfl
  rw [unrooted]
  cases components with
  | nil => rfl
  | cons first rest =>
    obtain ⟨_,clean,filled,undotted⟩ := Component.written_plain (plain first List.mem_cons_self)
    have parts : Text.split (· = '/') (slashed (first :: rest)) = (first :: rest).map Component.written := by
      apply Text.split_intercalate (by simp)
      intro part member
      obtain ⟨component,inside,rfl⟩ := List.mem_map.mp member
      exact (Component.written_plain (plain component inside)).2.1
    have relative : (Path.mk (slashed (first :: rest))).isAbsolute = false := by
      obtain ⟨c,word,written⟩ := List.exists_cons_of_ne_nil filled
      have start : ∃ tail, slashed (first :: rest) = c :: tail := by
        cases rest with
        | nil => exact ⟨word,by rw [slashed,List.map_singleton,List.intercalate_singleton,written]⟩
        | cons next rest => exact ⟨_,by rw [slashed,List.map_cons,List.map_cons,List.intercalate_cons_cons,written]; rfl⟩
      obtain ⟨tail,start⟩ := start
      have other : c ≠ '/' := by
        rintro rfl
        exact clean (by rw [written]; exact List.mem_cons_self)
      simp [isAbsolute,start,other]
    have named := named_slashed plain
    rw [parts] at named
    simp only [Path.components,relative,parts,named]
    simp [undotted]

def Stacked (stack : List Component) : Prop :=
  ∃ plain : List Component, (∀ c ∈ plain, c.Plain) ∧ (stack = plain ∨ stack = plain ++ [.root])

theorem follow_stacked {stack : List Component} {component : Component} (stacked : Stacked stack)
    (next : component.Plain ∨ component = .here) : Stacked (follow stack component) := by
  obtain ⟨plain,all,own⟩ := stacked
  have more : ∀ c : Component, c.Plain → Stacked (c :: stack) := by
    intro c named
    refine ⟨c :: plain,?_,?_⟩
    · intro d member
      rcases List.mem_cons.mp member with rfl | inside
      · exact named
      · exact all d inside
    · rcases own with rfl | rfl
      · exact .inl rfl
      · exact .inr rfl
  cases component with
  | root => rcases next with plain | same <;> first | exact plain.elim | cases same
  | here => exact ⟨plain,all,own⟩
  | name part => exact more _ (next.resolve_right (by simp))
  | up =>
    cases plain with
    | nil =>
      rcases own with rfl | rfl
      · exact more _ trivial
      · exact ⟨[],by simp,.inr rfl⟩
    | cons top below =>
      -- Two dots take back a name, but neither other dots nor the root.
      have popped : Stacked (stack.tail) := by
        refine ⟨below,fun c inside => all c (List.mem_cons_of_mem _ inside),?_⟩
        rcases own with rfl | rfl
        · exact .inl rfl
        · exact .inr rfl
      have top_plain := all top List.mem_cons_self
      cases top with
      | name part =>
        rcases own with rfl | rfl
        · exact popped
        · exact popped
      | up =>
        rcases own with rfl | rfl
        · exact more _ trivial
        · exact more _ trivial
      | _ => exact top_plain.elim

theorem part_plain {path : Path} {component : Component}
    (member : component ∈ (Text.split (· = '/') path.text).filterMap Component.ofPart?) : component.Plain := by
  obtain ⟨part,inside,made⟩ := List.mem_filterMap.mp member
  refine Component.ofPart_plain ?_ made
  intro slash
  simpa using Text.split_parts inside '/' slash

theorem foldl_stacked {components : List Component} {stack : List Component} (stacked : Stacked stack)
    (next : ∀ c ∈ components, c.Plain ∨ c = .here) : Stacked (components.foldl follow stack) := by
  induction components generalizing stack with
  | nil => exact stacked
  | cons first rest ih =>
    exact ih (follow_stacked stacked (next first List.mem_cons_self))
      fun c member => next c (List.mem_cons_of_mem _ member)

theorem followed_stacked (path : Path) : Stacked (path.components.foldl follow []) := by
  have empty : Stacked [] := ⟨[],by simp,.inl rfl⟩
  have named : ∀ c ∈ (Text.split (· = '/') path.text).filterMap Component.ofPart?, c.Plain ∨ c = .here :=
    fun c member => .inl (part_plain member)
  simp only [components]
  split
  · have rooted : Stacked [.root] := ⟨[],by simp,.inr rfl⟩
    rw [List.foldl_cons]
    exact foldl_stacked rooted named
  · split
    · exact foldl_stacked empty fun c member => by
        rcases List.mem_cons.mp member with rfl | later
        · exact .inr rfl
        · exact named c later
    · exact foldl_stacked empty named

theorem normalize_normal (path : Path) : (normalize path).Normal := by
  obtain ⟨plain,all,own⟩ := followed_stacked path
  have reversed : ∀ c ∈ plain.reverse, c.Plain := fun c member => all c (List.mem_reverse.mp member)
  unfold Normal normalize
  rcases own with own | own
  · rw [own,components_plain reversed]
  · rw [own,List.reverse_append,List.reverse_singleton,List.singleton_append,components_rooted reversed]

theorem resolve_normal (base path : Path) : (resolve base path).Normal := normalize_normal _
theorem resolveImport_normal (importer : Path) (value : Text) : (resolveImport importer value).Normal :=
  normalize_normal _

end Path
end ScenarioLang
