import ScenarioLang.Proofs.Text.Cover

namespace ScenarioLang.Words
open Unicode Text

variable {pieces others : List Text} {covered wider more t rest behind word other : Text} {words : List Text}
  {accept : Text → Text → Option α} {value : α}

theorem insertByLength_sorted (word : Text) (sorted : words.Pairwise fun a b => b.length ≤ a.length) :
    (insertByLength word words).Pairwise fun a b => b.length ≤ a.length := by
  fun_induction insertByLength word words with
  | case1 => exact List.pairwise_singleton _ _
  | case2 other rest less =>
    obtain ⟨first,_⟩ := List.pairwise_cons.mp sorted
    apply List.pairwise_cons.mpr
    refine ⟨?_,sorted⟩
    intro next member
    rcases List.mem_cons.mp member with rfl | inside
    · exact less
    · exact (first next inside).trans less
  | case3 other rest more ih =>
    obtain ⟨first,later⟩ := List.pairwise_cons.mp sorted
    apply List.pairwise_cons.mpr
    refine ⟨?_,ih later⟩
    intro next member
    rcases List.mem_cons.mp ((insertByLength_perm word rest).mem_iff.mp member) with rfl | inside
    · exact Nat.le_of_not_le more
    · exact first next inside

theorem byLength_sorted (words : List Text) : (byLength words).Pairwise fun a b => b.length ≤ a.length := by
  induction words with
  | nil => exact List.Pairwise.nil
  | cons word rest ih => exact insertByLength_sorted word ih

theorem dropRepeats_sublist (words : List Text) : (dropRepeats words).Sublist words := by
  fun_induction dropRepeats words with
  | case1 => exact .slnil
  | case2 => exact .refl _
  | case3 same rest ih => exact ih.trans (List.sublist_cons_self _ _)
  | case4 first next rest other ih => exact ih.cons_cons first

theorem tried_sorted (words : List Text) : (tried words).Pairwise fun a b => b.length ≤ a.length :=
  (byLength_sorted _).sublist (dropRepeats_sublist _)

theorem Covers.tried (covers : Covers word.runs covered) (member : word ∈ words) : trim word ∈ tried words := by
  apply mem_tried.mpr
  refine ⟨List.mem_map_of_mem member,?_⟩
  intro empty
  apply covers.some
  rw [← runs_trim,empty]
  rfl

theorem tried_stands (member : other ∈ Words.tried words) : ∃ word ∈ words, other = trim word ∧
    ∀ rest, afterWord other t = some rest ↔ ∃ covered, t = covered ++ rest ∧ Covers word.runs covered := by
  obtain ⟨word,among,rfl⟩ := List.mem_map.mp (mem_tried.mp member).1
  refine ⟨word,among,rfl,?_⟩
  intro rest
  rw [afterWord_iff (tried_filled member),runs_trim]

def attempt (t : Text) (accept : Text → Text → Option α) (word : Text) : Option α := do
  let rest ← afterWord word t
  accept (t.take (t.length - rest.length)) rest

theorem attempt_eq (accept : Text → Text → Option α) (whole : t = covered ++ rest) (covers : Covers word.runs covered) :
    attempt t accept (trim word) = accept covered rest := by
  have stands : afterWord (trim word) t = some rest := by
    rw [whole,afterWord,runs_trim]
    exact covers.stands rest
  rw [attempt,stands]
  simp [whole]

theorem attempt_covers (member : other ∈ Words.tried words) (given : attempt t accept other = some value) :
    ∃ word ∈ words, other = trim word ∧ ∃ covered rest, t = covered ++ rest ∧ Covers word.runs covered ∧
      accept covered rest = some value := by
  obtain ⟨word,among,rfl,exact⟩ := tried_stands (t := t) member
  obtain ⟨rest,stands,_⟩ := Option.bind_eq_some_iff.mp given
  obtain ⟨covered,whole,covers⟩ := (exact rest).mp stands
  rw [attempt_eq accept whole covers] at given
  exact ⟨word,among,rfl,covered,rest,whole,covers,given⟩

theorem capture_none_iff : capture words t accept = none ↔
    ∀ word ∈ words, ∀ covered rest, t = covered ++ rest → Covers word.runs covered → accept covered rest = none := by
  change (Words.tried words).findSome? (attempt t accept) = none ↔ _
  rw [List.findSome?_eq_none_iff]
  constructor
  · intro refused word member covered rest whole covers
    rw [← attempt_eq accept whole covers]
    exact refused (trim word) (covers.tried member)
  · intro refused other member
    apply Option.eq_none_iff_forall_ne_some.mpr
    intro value given
    obtain ⟨word,among,_,covered,rest,whole,covers,accepted⟩ := attempt_covers member given
    rw [refused word among covered rest whole covers] at accepted
    cases accepted

-- The captured word is accepted where it stands, and no longer word is.
theorem capture_longest (captured : capture words t accept = some value) :
    ∃ word ∈ words, ∃ covered rest, t = covered ++ rest ∧ Covers word.runs covered ∧ accept covered rest = some value ∧
      ∀ other ∈ words, ∀ wider behind, t = wider ++ behind → Covers other.runs wider → accept wider behind ≠ none →
        (trim other).length ≤ (trim word).length := by
  obtain ⟨before,own,after,order,given,refused⟩ := List.findSome?_eq_some_iff.mp captured
  have member : own ∈ Words.tried words := by rw [order]; simp
  obtain ⟨word,among,rfl,covered,rest,whole,covers,accepted⟩ := attempt_covers member given
  refine ⟨word,among,covered,rest,whole,covers,accepted,?_⟩
  intro other also wider behind parts spans taken
  have sorted := tried_sorted words
  have inside := spans.tried also
  rw [order] at sorted inside
  rcases List.mem_append.mp inside with early | late
  · have none : attempt t accept (trim other) = none := refused (trim other) early
    rw [attempt_eq accept parts spans] at none
    exact absurd none taken
  · rcases List.mem_cons.mp late with same | late
    · rw [same]
    · exact (List.pairwise_cons.mp (List.pairwise_append.mp sorted).2.1).1 _ late

def spaced (pieces : List Text) : Text := [' '].intercalate pieces

theorem length_spaced (pieces : List Text) : (spaced pieces).length = pieces.flatten.length + (pieces.length - 1) := by
  induction pieces with
  | nil => rfl
  | cons piece rest ih =>
    cases rest with
    | nil => simp [spaced]
    | cons next rest =>
      rw [spaced,List.intercalate_cons_cons]
      rw [spaced] at ih
      simp only [List.length_append,List.flatten_cons,List.length_cons,ih,List.length_nil]
      omega

theorem length_folded (same : folded pieces = folded others) : (spaced pieces).length = (spaced others).length := by
  have parts : ∀ pieces : List Text, (folded pieces).length = pieces.length ∧
      (folded pieces).flatten.length = pieces.flatten.length := by
    intro pieces
    refine ⟨List.length_map _,?_⟩
    rw [folded,List.length_flatten,List.length_flatten,List.map_map]
    congr 1
    exact List.map_congr_left fun piece _ => List.length_map _
  rw [length_spaced,length_spaced,← (parts pieces).1,← (parts pieces).2,same,(parts others).1,(parts others).2]

theorem Covers.reaches (covers : Covers pieces covered) (further : Covers others (covered ++ more)) (filled : more ≠ []) :
    (spaced pieces).length < (spaced others).length := by
  rw [← length_folded covers.pieces,← length_folded further.pieces,length_spaced,length_spaced,flatten_runs,
    flatten_runs,List.filter_append,List.length_append]
  have runs := length_runs_append covered more
  have ending := List.getLast?_eq_some_getLast filled
  have solid := (trimmed_iff.mp further.trimmed).2 (more.getLast filled)
    (by rw [List.getLast?_append_of_ne_nil _ filled,ending])
  have extra : 0 < (more.filter fun c => !isBlank c).length := by
    apply List.length_pos_of_mem
    exact List.mem_filter.mpr ⟨List.getLast_mem filled,by simp [solid]⟩
  omega

theorem length_spaced_le (word : Text) : (spaced word.runs).length ≤ (trim word).length := by
  have runs := length_runs_le (trim word)
  have parts := List.length_eq_countP_add_countP isBlank (l := trim word)
  rw [← runs_trim,length_spaced,flatten_runs,← List.countP_eq_length_filter]
  have solid : (trim word).countP (fun c => !isBlank c) = (trim word).countP fun c => decide (¬isBlank c = true) := by
    simp
  omega

-- A word with no blank to spare: its pieces are parted by single blanks.
def Tight (word : Text) : Prop := (trim word).length = (spaced word.runs).length

theorem Covers.longest (covers : Covers word.runs covered) (also : Covers other.runs wider)
    (there : t = covered ++ rest) (here : t = wider ++ behind) (tight : Tight word)
    (less : (trim other).length ≤ (trim word).length) : wider.length ≤ covered.length := by
  by_contra more
  have first : covered <+: t := ⟨rest,there.symm⟩
  have second : wider <+: t := ⟨behind,here.symm⟩
  have shorter : covered <+: wider := List.prefix_of_prefix_length_le first second (by omega)
  obtain ⟨extra,rfl⟩ := shorter
  have filled : extra ≠ [] := by
    rintro rfl
    simp at more
  have wide := covers.reaches also filled
  have narrow := length_spaced_le other
  rw [Tight] at tight
  omega

end ScenarioLang.Words
