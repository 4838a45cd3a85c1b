import Mathlib.Data.List.DropRight
import ScenarioLang.Text.Literal

namespace ScenarioLang.Text
open Unicode

variable {value name rest : Text} {c : Char}

theorem quote_solid : isBlank '"' = false := by decide

def wellEscaped : Text → Bool
  | [] => true
  | ['\\'] => false
  | '\\' :: _ :: rest => wellEscaped rest
  | c :: rest => c ≠ '"' && wellEscaped rest

theorem unescaping (last : c = '\\' → rest = [] → False)
    (shielded : ∀ d more, c = '\\' → rest = d :: more → False) : c ≠ '\\' := by
  rintro rfl
  cases rest with
  | nil => exact last rfl rfl
  | cons d more => exact shielded d more rfl rfl

theorem toClosingQuote_escaped (escaped : wellEscaped value = true) (rest : Text) :
    toClosingQuote (value ++ '"' :: rest) = some (value,rest) := by
  fun_induction wellEscaped value with
  | case1 => rfl
  | case2 => cases escaped
  | case3 c others ih => simp [toClosingQuote,ih escaped]
  | case4 c others last shielded ih =>
    obtain ⟨other,inner⟩ := Bool.and_eq_true_iff.mp escaped
    have quote : c ≠ '"' := of_decide_eq_true other
    have slash := unescaping last shielded
    rw [List.cons_append,toClosingQuote,ih inner]
    · rfl
    · exact quote
    · exact fun same => absurd same slash
    · exact fun _ _ same => absurd same slash

theorem wellEscaped_plain (plain : ∀ c ∈ value, c ≠ '"' ∧ c ≠ '\\') : wellEscaped value = true := by
  fun_induction wellEscaped value with
  | case1 => rfl
  | case2 => exact absurd rfl (plain '\\' List.mem_cons_self).2
  | case3 c others ih => exact absurd rfl (plain '\\' List.mem_cons_self).2
  | case4 c others last shielded ih =>
    obtain ⟨first,rest⟩ := List.forall_mem_cons.mp plain
    simp [first.1,ih rest]

theorem name_chars (named : isName name = true) : ∀ c ∈ name, isNameChar c = true := by
  cases name with
  | nil => cases named
  | cons first rest =>
    obtain ⟨letter,others⟩ := Bool.and_eq_true_iff.mp named
    have own : isNameChar first = true := by simp [isNameChar,letter]
    exact List.forall_mem_cons.mpr ⟨own,List.all_eq_true.mp others⟩

theorem name_escaped (named : isName name = true) : wellEscaped name = true := by
  have signs : isNameChar '"' = false ∧ isNameChar '\\' = false := by decide
  apply wellEscaped_plain
  intro c member
  have own := name_chars named c member
  refine ⟨?_,?_⟩
  · rintro rfl
    rw [signs.1] at own
    cases own
  · rintro rfl
    rw [signs.2] at own
    cases own

theorem quoted_escaped (escaped : wellEscaped value = true) (rest : Text) :
    quoted ('"' :: (value ++ '"' :: rest)) = some (value,rest) := toClosingQuote_escaped escaped rest

-- Nothing but a quoted text is taken, and no escape is open where it is closed.
theorem toClosingQuote_closed {t content rest : Text} (found : toClosingQuote t = some (content,rest)) :
    t = content ++ '"' :: rest ∧ wellEscaped content = true := by
  fun_induction toClosingQuote t generalizing content with
  | case1 => cases found
  | case2 tail =>
    cases found
    exact ⟨rfl,rfl⟩
  | case3 => cases found
  | case4 c tail ih =>
    obtain ⟨⟨inner,behind⟩,closed,same⟩ := Option.map_eq_some_iff.mp found
    cases same
    obtain ⟨whole,escaped⟩ := ih closed
    rw [whole]
    exact ⟨rfl,escaped⟩
  | case5 c tail quote last shielded ih =>
    obtain ⟨⟨inner,behind⟩,closed,same⟩ := Option.map_eq_some_iff.mp found
    cases same
    obtain ⟨whole,escaped⟩ := ih closed
    have slash := unescaping last shielded
    rw [whole]
    refine ⟨rfl,?_⟩
    have other : c ≠ '"' := quote
    rw [wellEscaped]
    · simp [other,escaped]
    · exact fun same => absurd same slash
    · exact fun _ _ same => absurd same slash

def slashes (t : Text) : Nat := (t.rtakeWhile (· = '\\')).length

-- Whether an escape is open behind a text, as it is read from the left.
def openBehind (t : Text) : Bool := t.foldl (fun shielded c => !shielded && c = '\\') false

theorem openBehind_escape (c : Char) (t : Text) : openBehind ('\\' :: c :: t) = openBehind t := rfl

theorem openBehind_plain (plain : c ≠ '\\') (t : Text) : openBehind (c :: t) = openBehind t := by
  simp [openBehind,plain]

theorem openBehind_concat (t : Text) (c : Char) : openBehind (t ++ [c]) = (!openBehind t && c = '\\') := by
  simp [openBehind]

theorem openBehind_odd (t : Text) : openBehind t = true ↔ slashes t % 2 = 1 := by
  induction t using List.reverseRecOn with
  | nil => decide
  | append_singleton t c ih =>
    simp only [openBehind_concat,slashes,List.rtakeWhile_concat] at ih ⊢
    by_cases slash : c = '\\'
    · simp only [slash,decide_true,if_true,Bool.and_true,List.length_append,List.length_singleton]
      rw [Bool.not_eq_true',Bool.eq_false_iff,ne_eq,ih]
      omega
    · simp [slash]

-- What can stand between two quotes: no quote in it ends it, and neither is the one behind
-- it shielded.
structure IsContent (t : Text) : Prop where
  shielded : ∀ front back, t = front ++ '"' :: back → openBehind front = true
  closed : openBehind t = false

theorem isContent_nil : IsContent [] := ⟨fun front back split => by simp at split,rfl⟩

theorem isContent_escape (c : Char) (t : Text) : IsContent ('\\' :: c :: t) ↔ IsContent t := by
  constructor
  · intro content
    refine ⟨?_,(openBehind_escape c t).symm.trans content.closed⟩
    intro front back split
    have outer := content.shielded ('\\' :: c :: front) back (congrArg (['\\',c] ++ ·) split)
    exact (openBehind_escape c front).symm.trans outer
  · intro content
    refine ⟨?_,(openBehind_escape c t).trans content.closed⟩
    intro front back split
    -- The backslash is no quote, and a quote right behind it is shielded.
    match front with
    | [] => cases split
    | [d] => cases split; rfl
    | d :: e :: front =>
      cases split
      exact (openBehind_escape c front).trans (content.shielded front back rfl)

theorem isContent_plain (plain : c ≠ '\\') (t : Text) : IsContent (c :: t) ↔ c ≠ '"' ∧ IsContent t := by
  constructor
  · intro content
    refine ⟨?_,?_,?_⟩
    · rintro rfl
      cases content.shielded [] t rfl
    · intro front back split
      have outer := content.shielded (c :: front) back (congrArg (c :: ·) split)
      exact (openBehind_plain plain front).symm.trans outer
    · exact (openBehind_plain plain t).symm.trans content.closed
  · rintro ⟨quote,content⟩
    refine ⟨?_,(openBehind_plain plain t).trans content.closed⟩
    intro front back split
    cases front with
    | nil =>
      cases split
      exact absurd rfl quote
    | cons d front =>
      cases split
      exact (openBehind_plain plain front).trans (content.shielded front back rfl)

theorem wellEscaped_iff : wellEscaped value = true ↔ IsContent value := by
  fun_induction wellEscaped value with
  | case1 => exact iff_of_true rfl isContent_nil
  | case2 => exact iff_of_false (by simp) fun content => absurd content.closed (by decide)
  | case3 c rest ih => exact ih.trans (isContent_escape c rest).symm
  | case4 c rest last shielded ih =>
    have slash := unescaping last shielded
    simp only [isContent_plain slash,← ih,Bool.and_eq_true,decide_eq_true_eq]

-- Without quotes an escape can only be open behind an odd number of backslashes.
theorem wellEscaped_even (bare : '"' ∉ value) : wellEscaped value = true ↔ slashes value % 2 = 0 := by
  have parity := openBehind_odd value
  constructor
  · intro escaped
    have closed := (wellEscaped_iff.mp escaped).closed
    have even := mt parity.mpr (Bool.eq_false_iff.mp closed)
    omega
  · intro even
    apply wellEscaped_iff.mpr
    refine ⟨?_,?_⟩
    · rintro front back rfl
      exact absurd (List.mem_append_right front List.mem_cons_self) bare
    · apply Bool.eq_false_iff.mpr
      intro opened
      have odd := parity.mp opened
      omega

structure IsQuoted (t content rest : Text) : Prop where
  whole : t = '"' :: (content ++ '"' :: rest)
  inner : IsContent content

theorem quoted_iff {t content rest : Text} : quoted t = some (content,rest) ↔ IsQuoted t content rest := by
  constructor
  · intro found
    match t with
    | [] => cases found
    | c :: tail =>
      by_cases quote : c = '"'
      · subst quote
        obtain ⟨whole,escaped⟩ := toClosingQuote_closed found
        exact ⟨congrArg ('"' :: ·) whole,wellEscaped_iff.mp escaped⟩
      · simp [quoted,quote] at found
  · rintro ⟨rfl,inner⟩
    exact quoted_escaped (wellEscaped_iff.mpr inner) rest

end ScenarioLang.Text
