import ScenarioLang.Proofs.Unicode.Lowercase

namespace ScenarioLang.Unicode

theorem capital_toLower : ∀ n < 26, (Char.ofNat (0x41 + n)).toLower = Char.ofNat (0x61 + n) := by decide

-- What cannot tell a capital ASCII letter from its small one cannot tell any
-- character from its ASCII lower case.
theorem toLower_blind (view : Char → α)
    (letters : ∀ n < 26, view (Char.ofNat (0x41 + n)) = view (Char.ofNat (0x61 + n))) (c : Char) :
    view c.toLower = view c := by
  by_cases capital : 0x41 ≤ c.toNat ∧ c.toNat ≤ 0x5A
  · have place : c.toNat - 0x41 < 26 := by omega
    have upper : Char.ofNat (0x41 + (c.toNat - 0x41)) = c := by
      rw [Nat.add_sub_cancel' capital.1,Char.ofNat_toNat]
    rw [← upper,capital_toLower _ place]
    exact (letters _ place).symm
  · have outside : ¬(c.val ≥ 'A'.val ∧ c.val ≤ 'Z'.val) := capital
    exact congrArg view (dif_neg outside)

theorem view_sameCase (view : Char → α)
    (letters : ∀ n < 26, view (Char.ofNat (0x41 + n)) = view (Char.ofNat (0x61 + n))) {c d : Char}
    (same : c.toLower = d.toLower) : view c = view d := by
  rw [← toLower_blind view letters c,same,toLower_blind view letters d]

theorem casedAhead_sameCase {s t : List Char} (same : s.map Char.toLower = t.map Char.toLower) :
    casedAhead s = casedAhead t := by
  induction s generalizing t with
  | nil =>
    obtain rfl := List.map_eq_nil_iff.mp same.symm
    rfl
  | cons c rest ih =>
    obtain ⟨d,other,rfl,first,later⟩ := List.map_eq_cons_iff.mp same.symm
    have ignorable := view_sameCase isCaseIgnorable (by decide) first
    have cased := view_sameCase isCased (by decide) first
    simp only [casedAhead,ignorable,cased,ih later.symm]

theorem lowercaseAfter_sameCase {before behind s t : List Char}
    (read : before.map Char.toLower = behind.map Char.toLower) (same : s.map Char.toLower = t.map Char.toLower) :
    lowercaseAfter before s = lowercaseAfter behind t := by
  induction s generalizing before behind t with
  | nil =>
    obtain rfl := List.map_eq_nil_iff.mp same.symm
    rfl
  | cons c rest ih =>
    obtain ⟨d,other,rfl,first,later⟩ := List.map_eq_cons_iff.mp same.symm
    have sigma := view_sameCase (fun c => decide (c = '\u03A3')) (by decide) first
    have dotted := view_sameCase (fun c => decide (c = '\u0130')) (by decide) first
    have image := view_sameCase lowerBlocks.image (by decide) first
    have next : (c :: before).map Char.toLower = (d :: behind).map Char.toLower := by
      rw [List.map_cons,List.map_cons,read,first]
    simp only [decide_eq_decide] at sigma dotted
    simp only [lowercaseAfter,casedAhead_sameCase read,casedAhead_sameCase later,sigma,dotted,image,
      ih next later.symm]

end ScenarioLang.Unicode
