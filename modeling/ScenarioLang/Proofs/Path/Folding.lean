import ScenarioLang.Proofs.Path

namespace ScenarioLang

namespace Path

variable {path base : Path} {stack : List Component} {absolute : Bool}

def named (t : Text) : List Component := (Text.split (· = '/') t).filterMap Component.ofPart?

theorem named_around (s t : Text) : named (s ++ '/' :: t) = named s ++ named t := by
  rw [named,Text.split_around (by decide),List.filterMap_append]
  rfl

theorem components_absolute (absolute : path.isAbsolute = true) : path.components = .root :: named path.text := by
  simp only [components,absolute,if_true]
  rfl

theorem components_relative (relative : path.isAbsolute = false) :
    path.components = named path.text ∨ path.components = .here :: named path.text := by
  simp only [components,relative,Bool.false_eq_true,if_false]
  split
  · exact .inr rfl
  · exact .inl rfl

theorem follow_relative (relative : path.isAbsolute = false) (stack : List Component) :
    path.components.foldl follow stack = (named path.text).foldl follow stack := by
  rcases components_relative relative with own | own <;> rw [own]
  rfl

theorem head_root : path.components.head? = some .root ↔ path.isAbsolute = true := by
  cases absolute : path.isAbsolute with
  | true => simp [components_absolute absolute]
  | false =>
    have unrooted : (named path.text).head? ≠ some .root := by
      intro first
      exact part_plain (List.mem_of_mem_head? first)
    rcases components_relative absolute with own | own <;> simp [own,unrooted]

theorem isAbsolute_join (base : Path) (relative : path.isAbsolute = false) :
    (base.join path).isAbsolute = base.isAbsolute := by
  simp only [join,relative,Bool.false_eq_true,if_false]
  cases text : base.text with
  | nil => simpa [isAbsolute,text] using relative
  | cons c rest => split <;> simp [isAbsolute,text]

theorem named_join (relative : path.isAbsolute = false) :
    named (base.join path).text = named base.text ++ named path.text := by
  simp only [join,relative,Bool.false_eq_true,if_false]
  split
  · rename_i ends
    rw [Bool.or_eq_true,decide_eq_true_eq,decide_eq_true_eq] at ends
    rcases ends with none | slash
    · rw [none]
      rfl
    · obtain ⟨front,whole⟩ := List.getLast?_eq_some_iff.mp slash
      have nothing : named [] = [] := rfl
      rw [whole,List.append_assoc,List.singleton_append,named_around,named_around,nothing,List.append_nil]
  · exact named_around base.text path.text

theorem follow_join (relative : path.isAbsolute = false) :
    (base.join path).components.foldl follow [] = path.components.foldl follow (base.components.foldl follow []) := by
  have same := isAbsolute_join base relative
  rw [follow_relative relative]
  cases absolute : base.isAbsolute with
  | true =>
    rw [components_absolute (same.trans absolute),components_absolute absolute,named_join relative]
    exact List.foldl_append
  | false =>
    rw [follow_relative (same.trans absolute),follow_relative absolute,named_join relative]
    exact List.foldl_append

-- Names on the root, or on the pairs of dots that lead out of where a relative
-- path starts; the latest first.
def Piled (absolute : Bool) (stack : List Component) : Prop :=
  ∃ (climbs : Nat) (names : List Text),
    stack = names.map Component.name ++ if absolute then [.root] else List.replicate climbs .up

theorem follow_piled {component : Component} (piled : Piled absolute stack) (inner : component ≠ .root) :
    Piled absolute (follow stack component) := by
  obtain ⟨climbs,names,rfl⟩ := piled
  cases component with
  | root => exact absurd rfl inner
  | here => exact ⟨climbs,names,rfl⟩
  | name part => exact ⟨climbs,part :: names,rfl⟩
  | up =>
    cases names with
    | cons last rest => exact ⟨climbs,rest,rfl⟩
    | nil =>
      cases absolute with
      | true => exact ⟨climbs,[],rfl⟩
      | false =>
        refine ⟨climbs + 1,[],?_⟩
        cases climbs <;> rfl

theorem foldl_piled {components : List Component} (piled : Piled absolute stack) (inner : .root ∉ components) :
    Piled absolute (components.foldl follow stack) := by
  induction components generalizing stack with
  | nil => exact piled
  | cons first rest ih =>
    obtain ⟨apart,later⟩ := List.ne_and_not_mem_of_not_mem_cons inner
    exact ih (follow_piled piled (Ne.symm apart)) later

theorem named_inner (t : Text) : .root ∉ named t := fun member => @part_plain ⟨t⟩ _ member

theorem followed_piled (path : Path) : Piled path.isAbsolute (path.components.foldl follow []) := by
  cases absolute : path.isAbsolute with
  | true =>
    rw [components_absolute absolute,List.foldl_cons]
    exact foldl_piled ⟨0,[],rfl⟩ (named_inner path.text)
  | false =>
    rw [follow_relative absolute]
    exact foldl_piled ⟨0,[],rfl⟩ (named_inner path.text)

theorem follow_names (names : List Text) (stack : List Component) :
    (names.map Component.name).reverse.foldl follow stack = names.map Component.name ++ stack := by
  induction names with
  | nil => rfl
  | cons part rest ih =>
    rw [List.map_cons,List.reverse_cons,List.foldl_append,ih]
    rfl

theorem follow_climbs (climbs : Nat) : (List.replicate climbs .up).foldl follow [] = List.replicate climbs .up := by
  induction climbs with
  | zero => rfl
  | succ climbs ih =>
    rw [List.replicate_succ',List.foldl_append,ih,← List.replicate_succ']
    cases climbs <;> rfl

theorem piled_refolds (piled : Piled absolute stack) : stack.reverse.foldl follow [] = stack := by
  obtain ⟨climbs,names,rfl⟩ := piled
  rw [List.reverse_append,List.foldl_append,follow_names]
  cases absolute with
  | true => rfl
  | false =>
    simp only [Bool.false_eq_true,if_false,List.reverse_replicate]
    rw [follow_climbs]

theorem components_stacked (stacked : Stacked stack) : (ofComponents stack.reverse).components = stack.reverse := by
  obtain ⟨plain,all,own⟩ := stacked
  have reversed : ∀ c ∈ plain.reverse, c.Plain := fun c member => all c (List.mem_reverse.mp member)
  rcases own with rfl | rfl
  · exact components_plain reversed
  · rw [List.reverse_append,List.reverse_singleton,List.singleton_append]
    exact components_rooted reversed

theorem components_normalize (path : Path) :
    (normalize path).components = (path.components.foldl follow []).reverse :=
  components_stacked (followed_stacked path)

-- What is left of a path: names behind the root, or behind leading pairs of dots.
theorem normalize_components (path : Path) : ∃ (climbs : Nat) (names : List Text),
    (normalize path).components =
      (if path.isAbsolute then [.root] else List.replicate climbs .up) ++ names.map Component.name := by
  obtain ⟨climbs,names,piled⟩ := followed_piled path
  refine ⟨climbs,names.reverse,?_⟩
  rw [components_normalize,piled,List.reverse_append,List.map_reverse]
  split
  · rfl
  · rw [List.reverse_replicate]

theorem isAbsolute_normalize (path : Path) : (normalize path).isAbsolute = path.isAbsolute := by
  obtain ⟨climbs,names,left⟩ := normalize_components path
  rw [Bool.eq_iff_iff,← head_root,left]
  cases path.isAbsolute with
  | true => simp
  | false => cases climbs <;> cases names <;> simp [List.replicate_succ]

theorem follow_normalize (path : Path) :
    (normalize path).components.foldl follow [] = path.components.foldl follow [] := by
  rw [components_normalize]
  exact piled_refolds (followed_piled path)

theorem normalize_normalize (path : Path) : normalize (normalize path) = normalize path := by
  rw [normalize,follow_normalize]
  rfl

def Folded (path : Path) : Prop := normalize path = path

theorem resolve_folded (base path : Path) : (base.resolve path).Folded := normalize_normalize _
theorem resolveImport_folded (importer : Path) (value : Text) : (importer.resolveImport value).Folded :=
  normalize_normalize _

-- Two dots behind a name take it back wherever they start, so that a relative path
-- may be folded before it is followed.
theorem follow_reduced {reduced components : List Component} (outer : .root ∉ reduced) (inner : .root ∉ components)
    (stack : List Component) : components.foldl follow (reduced.reverse.foldl follow stack) =
      (components.foldl follow reduced).reverse.foldl follow stack := by
  induction components generalizing reduced with
  | nil => rfl
  | cons first rest ih =>
    obtain ⟨apart,later⟩ := List.ne_and_not_mem_of_not_mem_cons inner
    have push : ∀ c : Component, c ≠ .root → .root ∉ c :: reduced ∧
        (c :: reduced).reverse.foldl follow stack = follow (reduced.reverse.foldl follow stack) c := by
      intro c other
      refine ⟨List.not_mem_cons_of_ne_of_not_mem (Ne.symm other) outer,?_⟩
      rw [List.reverse_cons,List.foldl_append]
      rfl
    have step : .root ∉ follow reduced first ∧
        (follow reduced first).reverse.foldl follow stack = follow (reduced.reverse.foldl follow stack) first := by
      cases first with
      | root => exact absurd rfl apart
      | here => exact ⟨outer,rfl⟩
      | name part => exact push (.name part) (by simp)
      | up =>
        cases reduced with
        | nil => exact push .up (by simp)
        | cons top below =>
          obtain ⟨own,under⟩ := List.ne_and_not_mem_of_not_mem_cons outer
          cases top with
          | root => exact absurd rfl own
          | name part =>
            refine ⟨under,?_⟩
            rw [List.reverse_cons,List.foldl_append]
            rfl
          | _ => exact push .up (by simp)
    rw [List.foldl_cons,List.foldl_cons,← step.2]
    exact ih step.1 later

theorem follow_folded (relative : path.isAbsolute = false) (stack : List Component) :
    (normalize path).components.foldl follow stack = path.components.foldl follow stack := by
  have nothing : Component.root ∉ [] := List.not_mem_nil
  rw [components_normalize,follow_relative relative,follow_relative relative]
  exact (follow_reduced nothing (named_inner path.text) stack).symm

theorem normalize_base (base path : Path) : normalize ((normalize base).join path) = normalize (base.join path) := by
  cases absolute : path.isAbsolute with
  | true => simp only [join,absolute,if_true]
  | false =>
    calc normalize ((normalize base).join path)
      _ = ofComponents (((normalize base).join path).components.foldl follow []).reverse := rfl
      _ = ofComponents ((base.join path).components.foldl follow []).reverse := by
        rw [follow_join absolute,follow_join absolute,follow_normalize]

theorem normalize_joined (base path : Path) : normalize (base.join (normalize path)) = normalize (base.join path) := by
  have same := isAbsolute_normalize path
  cases absolute : path.isAbsolute with
  | true =>
    simp only [join,absolute,same,if_true]
    exact normalize_normalize path
  | false =>
    rw [normalize,follow_join (same.trans absolute),follow_folded absolute,← follow_join absolute]
    rfl

-- A path as a buffer that is edited: parts are put behind it, the last name is taken
-- off again. What two dots do is told by the last component of the buffer.
def edit (buffer : Path) : Component → Path
  | .here => buffer
  | .up =>
    match buffer.components.getLast? with
    | some (.name _) => buffer.parent?.getD buffer
    | some .root => buffer
    | _ => buffer.join ⟨Component.written .up⟩
  | component => buffer.join ⟨component.written⟩

theorem written_relative {component : Component} (plain : component.Plain) :
    (Path.mk component.written).isAbsolute = false := by
  obtain ⟨_,clean,_⟩ := Component.written_plain plain
  rw [← Bool.not_eq_true,isAbsolute,decide_eq_true_eq]
  exact fun first => clean (List.mem_of_mem_head? first)

theorem slashed_concat {components : List Component} (filled : components ≠ []) (last : Component) :
    slashed (components ++ [last]) = slashed components ++ '/' :: last.written := by
  induction components with
  | nil => exact absurd rfl filled
  | cons first rest ih =>
    cases rest with
    | nil => simp [slashed]
    | cons second rest =>
      have later := ih (List.cons_ne_nil second rest)
      simp only [slashed,List.cons_append,List.map_cons,List.intercalate_cons_cons] at later ⊢
      rw [later]
      simp

theorem slashed_ends {components : List Component} (plain : ∀ c ∈ components, c.Plain) (filled : components ≠ []) :
    ∃ c, (slashed components).getLast? = some c ∧ c ≠ '/' := by
  rcases List.eq_nil_or_concat components with rfl | ⟨front,last,rfl⟩
  · exact absurd rfl filled
  · obtain ⟨_,clean,written,_⟩ := Component.written_plain (plain last (by simp))
    obtain ⟨word,c,whole⟩ := (List.eq_nil_or_concat last.written).resolve_left written
    rw [List.concat_eq_append] at whole ⊢
    have apart : c ≠ '/' := by
      rintro rfl
      exact clean (by rw [whole]; simp)
    refine ⟨c,?_,apart⟩
    cases front with
    | nil => simp [slashed,whole]
    | cons first rest =>
      rw [slashed_concat (List.cons_ne_nil first rest),whole]
      simp [List.getLast?_cons]

theorem ofComponents_plain {plain : List Component} (all : ∀ c ∈ plain, c.Plain) :
    ofComponents plain = ⟨slashed plain⟩ := by
  cases plain with
  | nil => rfl
  | cons first rest =>
    cases first with
    | root => exact (all .root List.mem_cons_self).elim
    | _ => rfl

theorem join_slashed {text : Text} {component : Component} (plain : component.Plain) {c : Char}
    (ends : text.getLast? = some c) (apart : c ≠ '/') :
    (Path.mk text).join ⟨component.written⟩ = ⟨text ++ '/' :: component.written⟩ := by
  have filled : text ≠ [] := by
    rintro rfl
    cases ends
  simp [join,written_relative plain,filled,ends,apart]

theorem join_stacked {component : Component} (stacked : Stacked stack) (own : component.Plain) :
    (ofComponents stack.reverse).join ⟨component.written⟩ = ofComponents (component :: stack).reverse := by
  obtain ⟨plain,all,held⟩ := stacked
  have reversed : ∀ c ∈ plain.reverse, c.Plain := fun c member => all c (List.mem_reverse.mp member)
  have longer : ∀ c ∈ plain.reverse ++ [component], c.Plain := by
    intro c member
    rcases List.mem_append.mp member with before | last
    · exact reversed c before
    · exact List.mem_singleton.mp last ▸ own
  rcases held with held | held <;> rw [held]
  · rw [List.reverse_cons,ofComponents_plain reversed,ofComponents_plain longer]
    by_cases none : plain.reverse = []
    · simp [none,join,slashed,written_relative own]
    · obtain ⟨c,ends,apart⟩ := slashed_ends reversed none
      rw [join_slashed own ends apart,slashed_concat none]
  · rw [List.reverse_cons,List.reverse_append,List.reverse_singleton,List.singleton_append,List.cons_append]
    by_cases none : plain.reverse = []
    · simp [none,join,slashed,ofComponents,written_relative own]
    · obtain ⟨c,ends,apart⟩ := slashed_ends reversed none
      have behind : ('/' :: slashed plain.reverse).getLast? = some c := by rw [List.getLast?_cons,ends]; rfl
      simp only [ofComponents]
      rw [join_slashed own behind apart,slashed_concat none]
      rfl

-- What is done to the buffer is what is done to the stack.
theorem edit_follow {component : Component} (stacked : Stacked stack) (next : component.Plain ∨ component = .here) :
    edit (ofComponents stack.reverse) component = ofComponents (follow stack component).reverse := by
  have components := components_stacked stacked
  cases component with
  | root => exact (next.resolve_right (by simp)).elim
  | here => rfl
  | name part => exact join_stacked stacked (next.resolve_right (by simp))
  | up =>
    have plain : Component.up.Plain := trivial
    have push := join_stacked stacked plain
    simp only [edit,components,List.getLast?_reverse]
    cases stack with
    | nil => exact push
    | cons top below =>
      cases top with
      | name part =>
        simp only [List.head?_cons,parent?,components,List.reverse_reverse]
        rfl
      | root => rfl
      | _ => exact push

theorem foldl_edit {components : List Component} (stacked : Stacked stack)
    (next : ∀ c ∈ components, c.Plain ∨ c = .here) :
    components.foldl edit (ofComponents stack.reverse) = ofComponents (components.foldl follow stack).reverse := by
  induction components generalizing stack with
  | nil => rfl
  | cons first rest ih =>
    have own := next first List.mem_cons_self
    rw [List.foldl_cons,List.foldl_cons,edit_follow stacked own]
    exact ih (follow_stacked stacked own) fun c member => next c (List.mem_cons_of_mem _ member)

theorem edited_normalize (path : Path) : path.components.foldl edit ⟨[]⟩ = normalize path := by
  have next : ∀ c ∈ named path.text, c.Plain ∨ c = .here := fun c member => .inl (part_plain member)
  have empty : Stacked [] := ⟨[],by simp,.inl rfl⟩
  cases absolute : path.isAbsolute with
  | true =>
    have rooted : Stacked [.root] := ⟨[],by simp,.inr rfl⟩
    rw [normalize,components_absolute absolute]
    exact foldl_edit rooted next
  | false =>
    rw [normalize]
    rcases components_relative absolute with own | own <;> rw [own]
    · exact foldl_edit empty next
    · exact foldl_edit empty (List.forall_mem_cons.mpr ⟨.inr rfl,next⟩)

def written (value : Text) : Path := ⟨value.map fun c => if c = '\\' then '/' else c⟩

theorem resolveImport_same {first second : Text} (importer : Path)
    (same : (normalize (written first)).components = (normalize (written second)).components) :
    importer.resolveImport first = importer.resolveImport second := by
  have folded : normalize (written first) = normalize (written second) :=
    (normal_same (normalize_normal _) (normalize_normal _)).mp (decide_eq_true same)
  calc importer.resolveImport first
    _ = normalize ((importer.parent?.getD ⟨[]⟩).join (normalize (written first))) := (normalize_joined _ _).symm
    _ = normalize ((importer.parent?.getD ⟨[]⟩).join (normalize (written second))) := by rw [folded]
    _ = importer.resolveImport second := normalize_joined _ _

end Path
end ScenarioLang
