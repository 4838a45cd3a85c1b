import ScenarioLang.Proofs.Path.Folding

namespace ScenarioLang

namespace Path

variable {path : Path} {value first second : Text}

-- A path that leads out of no folder once it is folded.
def Level (path : Path) : Prop := .up ∉ (normalize path).components

-- A value that has no other spelling: forward slashes, nothing to fold, and no way out
-- of the folder it starts from.
structure Direct (value : Text) : Prop where
  slashed : '\\' ∉ value
  folded : (Path.mk value).Folded
  level : (Path.mk value).Level

theorem written_slashed (slashed : '\\' ∉ value) : written value = ⟨value⟩ := by
  have each : ∀ c ∈ value, (if c = '\\' then '/' else c) = id c := by
    intro c member
    have other : c ≠ '\\' := fun own => slashed (own ▸ member)
    rw [if_neg other]
    rfl
  rw [written,List.map_congr_left each,List.map_id]

theorem follow_level (relative : path.isAbsolute = false) (level : path.Level) (stack : List Component) :
    path.components.foldl follow stack = (normalize path).components.reverse ++ stack := by
  obtain ⟨climbs,names,left⟩ := normalize_components path
  rw [relative,if_neg Bool.false_ne_true] at left
  obtain rfl : climbs = 0 := by
    by_contra climbing
    exact level (by rw [left]; exact List.mem_append_left _ (List.mem_replicate.mpr ⟨climbing,rfl⟩))
  have named := follow_names names.reverse stack
  rw [← follow_folded relative,left,List.replicate_zero,List.nil_append,← List.map_reverse]
  rwa [← List.map_reverse,List.reverse_reverse] at named

theorem normalize_eq_iff {a b : Path} : normalize a = normalize b ↔ (normalize a).components = (normalize b).components := by
  rw [← normal_same (normalize_normal a) (normalize_normal b)]
  exact decide_eq_true_iff

-- Where neither value leads out of a folder, what they resolve to tells them apart as
-- well as what they fold to.
theorem resolveImport_eq_iff (importer : Path) (rooted : (written first).isAbsolute = (written second).isAbsolute)
    (level : (written first).Level) (level' : (written second).Level) :
    importer.resolveImport first = importer.resolveImport second ↔
      normalize (written first) = normalize (written second) := by
  have resolved : ∀ value, importer.resolveImport value =
      normalize ((importer.parent?.getD ⟨[]⟩).join (written value)) := fun _ => rfl
  refine ⟨fun same => ?_,fun same => resolveImport_same importer (normalize_eq_iff.mp same)⟩
  rw [resolved,resolved] at same
  cases absolute : (written first).isAbsolute with
  | true => simpa only [join,absolute,rooted ▸ absolute,if_true] using same
  | false =>
    have relative : (written second).isAbsolute = false := rooted ▸ absolute
    rw [normalize_eq_iff,components_normalize,components_normalize,follow_join absolute,follow_join relative,
      follow_level absolute level,follow_level relative level'] at same
    have names := List.append_cancel_right (List.reverse_injective same)
    exact normalize_eq_iff.mpr (List.reverse_injective names)

theorem resolveImport_direct (importer : Path) (direct : Direct first) (direct' : Direct second)
    (rooted : (Path.mk first).isAbsolute = (Path.mk second).isAbsolute)
    (same : importer.resolveImport first = importer.resolveImport second) : first = second := by
  have plain := written_slashed direct.slashed
  have plain' := written_slashed direct'.slashed
  have folded := (resolveImport_eq_iff importer (by rw [plain,plain']; exact rooted) (plain ▸ direct.level)
    (plain' ▸ direct'.level)).mp same
  have spelled : Path.mk first = Path.mk second := by rw [← direct.folded,← direct'.folded,← plain,← plain',folded]
  exact congrArg Path.text spelled

end Path
end ScenarioLang
