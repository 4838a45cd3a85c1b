import ScenarioLang.Proofs.Text.Quoted
import ScenarioLang.Text.Literal

namespace ScenarioLang.Text

variable {t front back : Text} {byte : Nat}

theorem bytes_cons (c : Char) (t : Text) : bytes (c :: t) = c.utf8Size + bytes t := by
  simp only [bytes,String.ofList_cons,String.utf8ByteSize_append,String.utf8ByteSize_singleton]

theorem bytes_append (front back : Text) : bytes (front ++ back) = bytes front + bytes back := by
  simp only [bytes,String.ofList_append,String.utf8ByteSize_append]

theorem cutAt?_splits (between : (⟨byte⟩ : String.Pos.Raw).IsValid (String.ofList t)) :
    cutAt? t byte = some (front,back) ↔
      (⟨_,between⟩ : (String.ofList t).Pos).Splits (String.ofList front) (String.ofList back) := by
  have own := String.Pos.splits (⟨_,between⟩ : (String.ofList t).Pos)
  simp only [cutAt?,dif_pos between,Option.some.injEq,Prod.mk.injEq]
  constructor
  · rintro ⟨rfl,rfl⟩
    simpa only [String.ofList_toList] using own
  · intro splits
    obtain ⟨ahead,behind⟩ := own.eq splits
    simp only [ahead,behind,String.toList_ofList,true_and]

theorem cutAt?_iff : cutAt? t byte = some (front,back) ↔ t = front ++ back ∧ byte = bytes front := by
  constructor
  · intro cut
    have between : (⟨byte⟩ : String.Pos.Raw).IsValid (String.ofList t) := by
      by_contra inside
      simp only [cutAt?,dif_neg inside,reduceCtorEq] at cut
    obtain ⟨whole,place⟩ := (cutAt?_splits between).mp cut
    exact ⟨String.ofList_injective (whole.trans String.ofList_append.symm),congrArg String.Pos.Raw.byteIdx place⟩
  · rintro ⟨rfl,rfl⟩
    have between : (⟨bytes front⟩ : String.Pos.Raw).IsValid (String.ofList (front ++ back)) :=
      String.Pos.Raw.isValid_iff_exists_append.mpr ⟨_,_,String.ofList_append,rfl⟩
    exact (cutAt?_splits between).mpr ⟨String.ofList_append,rfl⟩

theorem closingByte_placed (t : Text) (start : Nat) : closingByte false (placed start t) =
    (toClosingQuote t).map fun (content,_) => start + bytes content := by
  fun_induction toClosingQuote t generalizing start with
  | case1 => rfl
  | case2 tail => rfl
  | case3 => rfl
  | case4 c tail ih =>
    simp only [placed,closingByte,if_true,ih,Option.map_map]
    simp only [Function.comp_def,bytes_cons,Nat.add_assoc]
  | case5 c tail quote last shielded ih =>
    have slash := unescaping last shielded
    simp only [placed,closingByte,if_neg slash,if_neg quote,ih,Option.map_map]
    simp only [Function.comp_def,bytes_cons,Nat.add_assoc]

-- Both slices are there. The closing quote takes one byte, so that the rest begins with the
-- byte behind it.
theorem scanQuoted_eq (t : Text) :
    scanQuoted t = (quoted t).map fun (content,rest) => (some content,some rest) := by
  fun_cases quoted t with
  | case1 inner =>
    simp only [scanQuoted,closingByte_placed,Option.map_map]
    cases found : toClosingQuote inner with
    | none => rfl
    | some pair =>
      obtain ⟨content,rest⟩ := pair
      obtain ⟨whole,_⟩ := toClosingQuote_closed found
      have ahead : cutAt? inner (0 + bytes content) = some (content,'"' :: rest) :=
        cutAt?_iff.mpr ⟨whole,Nat.zero_add _⟩
      have behind : cutAt? inner (0 + bytes content + 1) = some (content ++ ['"'],rest) := by
        apply cutAt?_iff.mpr
        refine ⟨by simp [whole],?_⟩
        rw [bytes_append,Nat.zero_add]
        rfl
      simp only [Option.map_some,Function.comp_apply,ahead,behind]
  | case2 t bare =>
    simp only [scanQuoted]
    rfl

-- A text is taken apart exactly where it starts with a quoted text, and there is one way to
-- do so. The bytes found for it lie between whole characters.
theorem closing_quote_exact (t : Text) :
    (∀ content rest, quoted t = some (content,rest) ↔ IsQuoted t content rest) ∧
    (∀ content rest other behind, IsQuoted t content rest → IsQuoted t other behind →
      content = other ∧ rest = behind) ∧
    (quoted t = none ↔ ¬∃ content rest, IsQuoted t content rest) ∧
    scanQuoted t = (quoted t).map fun (content,rest) => (some content,some rest) := by
  refine ⟨fun content rest => quoted_iff,?_,?_,scanQuoted_eq t⟩
  · intro content rest other behind first second
    have same := (quoted_iff.mpr first).symm.trans (quoted_iff.mpr second)
    cases same
    exact ⟨rfl,rfl⟩
  · constructor
    · rintro missing ⟨content,rest,taken⟩
      have found := quoted_iff.mpr taken
      rw [missing] at found
      cases found
    · intro none
      apply Option.eq_none_iff_forall_ne_some.mpr
      intro pair found
      exact none ⟨pair.1,pair.2,quoted_iff.mp found⟩

theorem closing_quote_exact_accented : let content := "\\\"é\\😀\\\\".toList
    let rest := "ñ\"".toList
    let t := '"' :: (content ++ '"' :: rest)
    quoted t = some (content,rest) ∧ scanQuoted t = some (some content,some rest) ∧
    ∀ other behind, IsQuoted t other behind → content = other ∧ rest = behind := by
  intro content rest t
  obtain ⟨split,unique,_,sliced⟩ := closing_quote_exact t
  have own : IsQuoted t content rest := ⟨rfl,wellEscaped_iff.mp (by decide)⟩
  have found := (split content rest).mpr own
  refine ⟨found,?_,fun other behind taken => unique content rest other behind own taken⟩
  rw [sliced,found]
  rfl

end ScenarioLang.Text
