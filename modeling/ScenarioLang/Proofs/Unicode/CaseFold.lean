import ScenarioLang.Proofs.Unicode.Lowercase
import ScenarioLang.Unicode.CaseFold

namespace ScenarioLang.Unicode

def clear (interval : Nat × Nat) (block : Nat × Nat × Nat × Nat) : Bool :=
  Nat.blt interval.2 block.1 || Nat.blt block.2.1 interval.1

theorem fold_clear {c : Char} {ranges : Ranges} (held : ranges.holds c = true)
    (apart : (ranges.all fun interval => foldBlocks.all (clear interval)) = true) : fold c = c := by
  obtain ⟨interval,member,above,below⟩ := Ranges.holds_interval held
  apply Mapping.image_outside
  intro block inside taken
  have separate := List.all_eq_true.mp (List.all_eq_true.mp apart interval member) block inside
  obtain ⟨low,high,_⟩ := taken
  simp only [clear,Bool.or_eq_true,Nat.blt_eq] at separate
  omega

theorem fold_blank {c : Char} (blank : isBlank c = true) : fold c = c := fold_clear blank (by decide)
theorem fold_digit {c : Char} (digit : isDigit c = true) : fold c = c := fold_clear digit (by decide +kernel)

def foldSources (code : Nat) : List Nat :=
  (foldBlocks.filter fun block =>
    Nat.ble block.2.2.2 code && Nat.ble code (block.2.2.2 + (block.2.1 - block.1))).map fun block =>
      block.1 + (code - block.2.2.2)

theorem mem_foldSources {c d : Char} (same : fold c = d) (filled : d.toNat ≠ 0) :
    c = d ∨ c.toNat ∈ foldSources d.toNat := by
  rcases Mapping.image_block c foldBlocks with kept | ⟨block,member,⟨above,below,_⟩,image⟩
  · exact .inl (kept.symm.trans same)
  · have code : d.toNat = (Char.ofNat (block.2.2.2 + (c.toNat - block.1))).toNat := by
      rw [← image]
      exact congrArg Char.toNat same.symm
    by_cases valid : (block.2.2.2 + (c.toNat - block.1)).isValidChar
    · rw [Char.ofNat,dif_pos valid] at code
      have scalar : d.toNat = block.2.2.2 + (c.toNat - block.1) := code
      refine .inr (List.mem_map.mpr ⟨block,List.mem_filter.mpr ⟨member,?_⟩,?_⟩)
      · simp only [Bool.and_eq_true,Nat.ble_eq]
        omega
      · omega
    · rw [Char.ofNat,dif_neg valid] at code
      exact absurd code filled

theorem eq_of_fold {c d : Char} (same : fold c = d) (low : d.toNat < 0x61) (filled : d.toNat ≠ 0) : c = d := by
  have targets : (foldBlocks.all fun block => Nat.ble 0x61 block.2.2.2) = true := by decide
  rcases mem_foldSources same filled with kept | source
  · exact kept
  · obtain ⟨block,inside,_⟩ := List.mem_map.mp source
    obtain ⟨member,within⟩ := List.mem_filter.mp inside
    have above := Nat.le_of_ble_eq_true (List.all_eq_true.mp targets block member)
    simp only [Bool.and_eq_true,Nat.ble_eq] at within
    omega

theorem isBlank_fold (c : Char) : isBlank (fold c) = isBlank c := by
  rw [Bool.eq_iff_iff]
  constructor
  · intro blank
    have apart : (blankRanges.all fun interval => Nat.blt 0 interval.1 && foldBlocks.all fun block =>
        Nat.blt interval.2 block.2.2.2 || Nat.blt (block.2.2.2 + (block.2.1 - block.1)) interval.1) = true := by
      decide
    obtain ⟨interval,member,above,below⟩ := Ranges.holds_interval blank
    obtain ⟨positive,separate⟩ := Bool.and_eq_true_iff.mp (List.all_eq_true.mp apart interval member)
    have filled : (fold c).toNat ≠ 0 := by
      rw [Nat.blt_eq] at positive
      omega
    rcases mem_foldSources rfl filled with kept | source
    · rwa [← kept] at blank
    · obtain ⟨block,inside,_⟩ := List.mem_map.mp source
      obtain ⟨among,within⟩ := List.mem_filter.mp inside
      have clear := List.all_eq_true.mp separate block among
      simp only [Bool.and_eq_true,Bool.or_eq_true,Nat.ble_eq,Nat.blt_eq] at within clear
      omega
  · intro blank
    rwa [fold_blank blank]

end ScenarioLang.Unicode
