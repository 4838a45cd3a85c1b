import ScenarioLang.Line.Header
import ScenarioLang.Unicode.Lowercase

namespace ScenarioLang

theorem Ranges.holds_interval {c : Char} {ranges : Ranges} (held : ranges.holds c = true) :
    ∃ interval ∈ ranges, interval.1 ≤ c.toNat ∧ c.toNat ≤ interval.2 := by
  induction ranges with
  | nil => cases held
  | cons interval rest ih =>
    obtain ⟨low,high⟩ := interval
    by_cases below : c.toNat < low
    · simp [holds,below] at held
    · by_cases inside : c.toNat ≤ high
      · exact ⟨(low,high),by simp,Nat.le_of_not_lt below,inside⟩
      · simp only [holds,below,inside,if_false] at held
        obtain ⟨found,member,bounds⟩ := ih held
        exact ⟨found,List.mem_cons_of_mem _ member,bounds⟩

theorem Ranges.holds_apart {c : Char} {ranges others : Ranges} (held : ranges.holds c = true)
    (apart : (ranges.all fun first => others.all fun second =>
      Nat.blt first.2 second.1 || Nat.blt second.2 first.1) = true) : others.holds c = false := by
  rw [← Bool.not_eq_true]
  intro also
  obtain ⟨first,member,above,below⟩ := holds_interval held
  obtain ⟨second,among,left,right⟩ := holds_interval also
  have separate := List.all_eq_true.mp (List.all_eq_true.mp apart first member) second among
  simp only [Bool.or_eq_true,Nat.blt_eq] at separate
  omega

def Mapping.Takes (code : Nat) (block : Nat × Nat × Nat × Nat) : Prop :=
  block.1 ≤ code ∧ code ≤ block.2.1 ∧ (code - block.1) % block.2.2.1 = 0

theorem Mapping.image_block (c : Char) (mapping : Mapping) : mapping.image c = c ∨
    ∃ block ∈ mapping, Takes c.toNat block ∧ mapping.image c = Char.ofNat (block.2.2.2 + (c.toNat - block.1)) := by
  induction mapping with
  | nil => exact .inl rfl
  | cons block rest ih =>
    have later : image c rest = c ∨ ∃ found ∈ block :: rest,
        Takes c.toNat found ∧ image c rest = Char.ofNat (found.2.2.2 + (c.toNat - found.1)) := by
      rcases ih with same | ⟨found,member,taken⟩
      · exact .inl same
      · exact .inr ⟨found,List.mem_cons_of_mem _ member,taken⟩
    obtain ⟨low,high,step,target⟩ := block
    by_cases below : c.toNat < low
    · exact .inl (by simp [image,below])
    · by_cases inside : c.toNat ≤ high
      · by_cases reached : (c.toNat - low) % step = 0
        · exact .inr ⟨(low,high,step,target),List.mem_cons_self,⟨Nat.le_of_not_lt below,inside,reached⟩,
            by simp [image,below,inside,reached]⟩
        · simpa only [image,below,inside,reached,if_false,if_true] using later
      · simpa only [image,below,inside,if_false] using later

theorem Mapping.image_outside {c : Char} {mapping : Mapping} (outside : ∀ block ∈ mapping, ¬Takes c.toNat block) :
    mapping.image c = c := by
  rcases image_block c mapping with same | ⟨block,member,taken,_⟩
  · exact same
  · exact absurd taken (outside block member)

-- No target of the first block is a character that the second one takes. Where
-- their intervals meet the targets fall between the steps of the second.
def Mapping.apart (source target : Nat × Nat × Nat × Nat) : Bool :=
  Nat.blt (source.2.2.2 + (source.2.1 - source.1)) target.1 || Nat.blt target.2.1 source.2.2.2 ||
    ((Nat.beq source.2.2.1 2 || Nat.beq source.1 source.2.1) && Nat.beq target.2.2.1 2 &&
      Nat.beq ((source.2.2.2 + target.1) % 2) 1)

theorem Mapping.apart_untaken {source target : Nat × Nat × Nat × Nat} (separate : apart source target = true)
    {code : Nat} (taken : Takes code source) : ¬Takes (source.2.2.2 + (code - source.1)) target := by
  obtain ⟨low,high,step,image⟩ := source
  obtain ⟨low',high',step',image'⟩ := target
  obtain ⟨above,below,reached⟩ := taken
  rintro ⟨above',below',reached'⟩
  simp only [apart,Bool.or_eq_true,Bool.and_eq_true,Nat.blt_eq,Nat.beq_eq] at separate
  dsimp only at *
  rcases separate with (before | behind) | ⟨⟨even | single,two⟩,odd⟩
  · omega
  · omega
  · subst even two; omega
  · subst single two; omega

namespace Unicode

def Lowered (c : Char) : Prop := lowerBlocks.image c = c ∧ c ≠ '\u03A3' ∧ c ≠ '\u0130'

def takenBlocks : Mapping := (0x130,0x130,1,0x130) :: lowerBlocks

def isScalar (block : Nat × Nat × Nat × Nat) : Bool :=
  Nat.blt (block.2.2.2 + (block.2.1 - block.1)) 0xD800 ||
    (Nat.blt 0xDFFF block.2.2.2 && Nat.blt (block.2.2.2 + (block.2.1 - block.1)) 0x110000)

theorem blocks_apart :
    (lowerBlocks.all fun source => isScalar source && takenBlocks.all (Mapping.apart source)) = true := by
  decide +kernel

theorem lowered_fixed {c : Char} (fixed : lowerBlocks.image c = c) (other : c ≠ '\u0130') : Lowered c := by
  refine ⟨fixed,?_,other⟩
  rintro rfl
  exact absurd fixed (by decide)

theorem lowered_image {c : Char} (other : c ≠ '\u0130') : Lowered (lowerBlocks.image c) := by
  rcases Mapping.image_block c lowerBlocks with same | ⟨block,member,taken,image⟩
  · rw [same]
    exact lowered_fixed same other
  · obtain ⟨scalar,separate⟩ := Bool.and_eq_true_iff.mp (List.all_eq_true.mp blocks_apart block member)
    have bounds : block.2.2.2 + (c.toNat - block.1) ≤ block.2.2.2 + (block.2.1 - block.1) := by
      have := taken.2.1
      omega
    have valid : (block.2.2.2 + (c.toNat - block.1)).isValidChar := by
      simp only [isScalar,Bool.or_eq_true,Bool.and_eq_true,Nat.blt_eq] at scalar
      rcases scalar with below | ⟨above,inside⟩
      · exact .inl (by omega)
      · exact .inr ⟨by omega,by omega⟩
    have code : (lowerBlocks.image c).toNat = block.2.2.2 + (c.toNat - block.1) := by
      rw [image,Char.ofNat,dif_pos valid]
      rfl
    have untaken : ∀ target ∈ takenBlocks, ¬Mapping.Takes (lowerBlocks.image c).toNat target := by
      intro target inside
      rw [code]
      exact Mapping.apart_untaken (List.all_eq_true.mp separate target inside) taken
    refine lowered_fixed (Mapping.image_outside fun target inside => untaken target (List.mem_cons_of_mem _ inside)) ?_
    intro dotted
    apply untaken (0x130,0x130,1,0x130) List.mem_cons_self
    rw [dotted]
    exact ⟨by decide,by decide,by decide⟩

theorem lowercaseAfter_lowered (read t : List Char) : ∀ c ∈ lowercaseAfter read t, Lowered c := by
  fun_induction lowercaseAfter read t with
  | case1 read => simp
  | case2 read c rest lowered ih =>
    intro d member
    rcases List.mem_append.mp member with here | later
    · simp only [lowered] at here
      split at here
      · split at here <;> obtain rfl := List.mem_singleton.mp here <;> exact lowered_fixed (by decide) (by decide)
      · split at here
        · simp only [List.mem_cons,List.not_mem_nil,or_false] at here
          rcases here with rfl | rfl <;> exact lowered_fixed (by decide) (by decide)
        · obtain rfl := List.mem_singleton.mp here
          exact lowered_image (by assumption)
    · exact ih d later

theorem lowercaseAfter_fixed {t : List Char} (lowered : ∀ c ∈ t, Lowered c) (read : List Char) :
    lowercaseAfter read t = t := by
  induction t generalizing read with
  | nil => rfl
  | cons c rest ih =>
    obtain ⟨fixed,sigma,dotted⟩ := lowered c List.mem_cons_self
    rw [lowercaseAfter,ih fun d member => lowered d (List.mem_cons_of_mem _ member)]
    simp [sigma,dotted,fixed]

theorem lowercase_lowered (t : List Char) : ∀ c ∈ lowercase t, Lowered c := lowercaseAfter_lowered [] t

theorem lowercase_fixed {t : List Char} (lowered : ∀ c ∈ t, Lowered c) : lowercase t = t :=
  lowercaseAfter_fixed lowered []

theorem blanks_no_code : (blankRanges.all fun interval =>
    (List.range (interval.2 - interval.1 + 1)).all fun offset =>
      !Line.isCodeChar (Char.ofNat (interval.1 + offset))) = true := by
  decide +kernel

theorem codeChar_not_blank {c : Char} (code : Line.isCodeChar c = true) : isBlank c = false := by
  rw [← Bool.not_eq_true]
  intro blank
  obtain ⟨interval,member,above,below⟩ := Ranges.holds_interval blank
  have none := List.all_eq_true.mp (List.all_eq_true.mp blanks_no_code interval member) (c.toNat - interval.1)
    (List.mem_range.mpr (by omega))
  rw [Nat.add_sub_cancel' above,Char.ofNat_toNat,code] at none
  cases none

end Unicode

end ScenarioLang
