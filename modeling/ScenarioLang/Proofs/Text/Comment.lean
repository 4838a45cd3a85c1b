import ScenarioLang.Proofs.Text.Blanks

namespace ScenarioLang

namespace Text
open Unicode

variable {t before behind literal : Text} {c : Char}

theorem uncommented_unsigned {line : Text} (plain : '#' ∉ line) : uncommented line = line := by
  have none : line.reverse.dropWhile (fun c => decide (c ≠ '#')) = [] := by
    apply List.dropWhile_eq_nil_iff.mpr
    intro c member
    rw [decide_eq_true_eq]
    rintro rfl
    exact plain (List.mem_reverse.mp member)
  unfold uncommented
  rw [none]
  split <;> rfl

theorem uncommented_closed {line : Text} (quote : (trimEnd line).getLast? = some '"') : uncommented line = line := by
  have last : (line.reverse.dropWhile isBlank).head? = some '"' := by
    rw [← List.getLast?_reverse]
    exact quote
  unfold uncommented
  rw [last]
  rfl

-- The last number sign opens a comment, unless an angle bracket stands right before
-- it or the text ends in a value or a literal.
theorem uncommented_sign (bare : before.getLast? ≠ some '<') (plain : '#' ∉ behind)
    (quote : (trimEnd behind).getLast? ≠ some '"') (angle : (trimEnd behind).getLast? ≠ some '>') :
    uncommented (before ++ '#' :: behind) = before := by
  have last : ((before ++ '#' :: behind).reverse.dropWhile isBlank).head? =
      some ((trimEnd behind).getLast?.getD '#') := by
    rw [← List.getLast?_reverse]
    change (trimEnd (before ++ '#' :: behind)).getLast? = _
    rw [trimEnd_behind hash_solid,trimEnd_solid hash_solid,List.getLast?_append,List.getLast?_cons]
    rfl
  have opened : (before ++ '#' :: behind).reverse.dropWhile (fun c => decide (c ≠ '#')) = '#' :: before.reverse := by
    rw [List.reverse_append,List.reverse_cons,List.append_assoc,List.dropWhile_append_of_pos]
    · rfl
    · intro c member
      rw [decide_eq_true_eq]
      rintro rfl
      exact plain (List.mem_reverse.mp member)
  unfold uncommented
  rw [last,opened]
  cases ending : (trimEnd behind).getLast? with
  | none => simp [List.head?_reverse,bare]
  | some c =>
    have noQuote : c ≠ '"' := fun same => quote (same ▸ ending)
    have noAngle : c ≠ '>' := fun same => angle (same ▸ ending)
    simp [List.head?_reverse,bare,noQuote,noAngle]

theorem after_sign (apart : c ∉ literal) (t behind : Text) :
    after literal (t ++ c :: behind) = (after literal t).map (· ++ c :: behind) := by
  fun_induction after literal t with
  | case1 t => rfl
  | case2 d literal =>
    have other : d ≠ c := fun same => apart (same ▸ List.mem_cons_self)
    rw [List.nil_append,after,if_neg other]
    rfl
  | case3 d literal t ih =>
    rw [List.cons_append,after,if_pos rfl]
    exact ih fun member => apart (List.mem_cons_of_mem _ member)
  | case4 d literal e t other =>
    rw [List.cons_append,after,if_neg other]
    rfl

end Text
end ScenarioLang
