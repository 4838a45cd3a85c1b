import ScenarioLang.Proofs.Text
import ScenarioLang.Proofs.Unicode.CaseFold

namespace ScenarioLang.Words
open Unicode

def isMark (c : Char) : Bool := isBlank c || isDigit c || ",:\"#@|-".toList.contains c

theorem fold_mark {c : Char} (mark : isMark c = true) : fold c = c := by
  rw [isMark,Bool.or_eq_true,Bool.or_eq_true] at mark
  rcases mark with (blank | digit) | sign
  · exact fold_blank blank
  · exact fold_digit digit
  · have signs : (",:\"#@|-".toList.all fun c => fold c = c) = true := by decide
    exact of_decide_eq_true (List.all_eq_true.mp signs c (List.contains_iff_mem.mp sign))

-- Pieces that no mark interrupts, in whatever case they are written.
def Solid (pieces : List Text) : Prop := ∀ piece ∈ pieces, piece ≠ [] ∧ ∀ c ∈ piece, isMark (fold c) = false

def folded (pieces : List Text) : List Text := pieces.map fun piece => piece.map fold

def Ends (t : Text) : Prop := ∀ c, t.head? = some c → isMark c = true

def GoesOn (t : Text) : Prop := ∃ c, (Text.trimStart t).head? = some c ∧ isMark c = false

variable {piece t rest r s : Text} {pieces others : List Text}

theorem mark_of_fold {c d : Char} (same : fold c = fold d) (solid : isMark (fold c) = false) : isMark d = false := by
  rw [← Bool.not_eq_true]
  intro mark
  rw [same,fold_mark mark,mark] at solid
  cases solid

theorem covered_plain {covered : Text} (solid : ∀ c ∈ piece, isMark (fold c) = false)
    (same : covered.map fold = piece.map fold) : ∀ c ∈ covered, isMark c = false := by
  intro c member
  obtain ⟨d,inside,folds⟩ := List.mem_map.mp (same ▸ List.mem_map_of_mem (f := fold) member)
  exact mark_of_fold folds (solid d inside)

theorem covered_head {covered : Text} (filled : piece ≠ []) (solid : ∀ c ∈ piece, isMark (fold c) = false)
    (same : covered.map fold = piece.map fold) : ∃ c rest, covered = c :: rest ∧ isMark c = false := by
  obtain ⟨d,others,rfl⟩ := List.exists_cons_of_ne_nil filled
  obtain ⟨c,rest,rfl,folds,_⟩ := List.map_eq_cons_iff.mp same
  exact ⟨c,rest,rfl,mark_of_fold folds.symm (solid d List.mem_cons_self)⟩

theorem unmarked_solid {c : Char} (plain : isMark c = false) : isBlank c = false := by
  rw [isMark,Bool.or_eq_false_iff,Bool.or_eq_false_iff] at plain
  exact plain.1.1

theorem afterPiece_folds (found : afterPiece piece t = some rest) :
    ∃ covered, t = covered ++ rest ∧ covered.map fold = piece.map fold := by
  fun_induction afterPiece piece t with
  | case1 t => cases found; exact ⟨[],rfl,rfl⟩
  | case2 => cases found
  | case3 c piece d t same ih =>
    obtain ⟨covered,rfl,folds⟩ := ih found
    exact ⟨d :: covered,rfl,by rw [List.map_cons,List.map_cons,folds,same]⟩
  | case4 => cases found

theorem afterPiece_covered {covered : Text} (same : covered.map fold = piece.map fold) (rest : Text) :
    afterPiece piece (covered ++ rest) = some rest := by
  induction piece generalizing covered with
  | nil =>
    obtain rfl := List.map_eq_nil_iff.mp same
    rfl
  | cons c piece ih =>
    obtain ⟨d,others,rfl,first,later⟩ := List.map_eq_cons_iff.mp same
    rw [List.cons_append,afterPiece,if_pos first.symm]
    exact ih later

theorem afterPiece_takes (solid : ∀ c ∈ piece, isMark (fold c) = false) (found : afterPiece piece t = some rest)
    (ends : Ends rest) : piece.map fold = (t.takeWhile fun c => !isMark c).map fold ∧
      rest = t.dropWhile fun c => !isMark c := by
  obtain ⟨covered,rfl,folds⟩ := afterPiece_folds found
  have plain : ∀ c ∈ covered, (!isMark c) = true := by
    intro c member
    rw [Bool.not_eq_true']
    exact covered_plain solid folds c member
  have stop : rest.takeWhile (fun c => !isMark c) = [] := by
    cases rest with
    | nil => rfl
    | cons c rest => rw [List.takeWhile_cons,ends c rfl]; rfl
  rw [List.takeWhile_append_of_pos plain,List.dropWhile_append_of_pos plain,stop,List.append_nil]
  refine ⟨folds.symm,?_⟩
  cases rest with
  | nil => rfl
  | cons c rest => rw [List.dropWhile_cons,ends c rfl]; rfl

theorem afterBlanks_eq (found : afterBlanks t = some rest) : Ends t ∧ rest = Text.trimStart t := by
  cases t with
  | nil => cases found
  | cons c t =>
    simp only [afterBlanks] at found
    split at found
    · rename_i blank
      cases found
      refine ⟨fun d same => ?_,?_⟩
      · cases same
        simp [isMark,blank]
      · rw [Text.trimStart_cons,if_pos blank]
        rfl
    · cases found

theorem afterPieces_cons {first second : Text} (found : afterPieces (first :: second :: others) t = some rest) :
    ∃ behind, afterPiece first t = some behind ∧ Ends behind ∧
      afterPieces (second :: others) (Text.trimStart behind) = some rest := by
  rw [afterPieces] at found
  obtain ⟨behind,cut,found⟩ := Option.bind_eq_some_iff.mp found
  obtain ⟨next,blanks,found⟩ := Option.bind_eq_some_iff.mp found
  · obtain ⟨ends,rfl⟩ := afterBlanks_eq blanks
    exact ⟨behind,cut,ends,found⟩
  · exact List.cons_ne_nil _ _

theorem afterPieces_start (filled : ∀ piece ∈ pieces, piece ≠ []) (some : pieces ≠ [])
    (found : afterPieces pieces t = .some rest) :
    ∃ piece ∈ pieces, ∃ d ∈ piece, ∃ c, t.head? = .some c ∧ fold c = fold d := by
  have first : ∀ piece ∈ pieces, ∀ behind, afterPiece piece t = .some behind →
      ∃ piece ∈ pieces, ∃ d ∈ piece, ∃ c, t.head? = .some c ∧ fold c = fold d := by
    intro piece member behind cut
    obtain ⟨covered,rfl,folds⟩ := afterPiece_folds cut
    cases piece with
    | nil => exact absurd rfl (filled [] member)
    | cons d others =>
      obtain ⟨c,more,rfl,same,_⟩ := List.map_eq_cons_iff.mp folds
      exact ⟨_,member,d,List.mem_cons_self,c,rfl,same⟩
  cases pieces with
  | nil => exact absurd rfl some
  | cons piece more =>
    cases more with
    | nil => exact first piece List.mem_cons_self rest found
    | cons second others =>
      obtain ⟨behind,cut,_⟩ := afterPieces_cons found
      exact first piece List.mem_cons_self behind cut

theorem afterPieces_head (solid : Solid pieces) (some : pieces ≠ []) (found : afterPieces pieces t = .some rest) :
    ∃ c, t.head? = .some c ∧ isMark c = false := by
  obtain ⟨piece,member,d,inside,c,head,same⟩ :=
    afterPieces_start (fun piece member => (solid piece member).1) some found
  exact ⟨c,head,mark_of_fold same.symm ((solid piece member).2 d inside)⟩

-- Two words that stand at one place, each before a mark, are the same but for case,
-- or one of them goes on where the other one ends.
theorem afterPieces_compare (solid : Solid pieces) (also : Solid others) (filled : pieces ≠ []) (some : others ≠ [])
    (found : afterPieces pieces t = .some r) (there : afterPieces others t = .some s) (ends : Ends r) (stops : Ends s) :
    folded pieces = folded others ∨ (folded pieces <+: folded others ∧ GoesOn r) ∨
      (folded others <+: folded pieces ∧ GoesOn s) := by
  induction pieces generalizing others t with
  | nil => exact absurd rfl filled
  | cons first pieces ih =>
    cases others with
    | nil => exact absurd rfl some
    | cons other others =>
      obtain ⟨⟨_,plain⟩,solid_rest⟩ := List.forall_mem_cons.mp solid
      obtain ⟨⟨_,level⟩,also_rest⟩ := List.forall_mem_cons.mp also
      cases pieces with
      | nil =>
        obtain ⟨own,r_eq⟩ := afterPiece_takes plain found ends
        cases others with
        | nil =>
          obtain ⟨same,_⟩ := afterPiece_takes level there stops
          exact .inl (by rw [folded,folded,List.map_singleton,List.map_singleton,own,same])
        | cons next others =>
          obtain ⟨behind,cut,ends_behind,later⟩ := afterPieces_cons there
          obtain ⟨same,behind_eq⟩ := afterPiece_takes level cut ends_behind
          refine .inr (.inl ⟨?_,?_⟩)
          · rw [folded,folded,List.map_singleton,List.map_cons,own,same]
            exact List.prefix_append [_] _
          · rw [r_eq,← behind_eq]
            exact afterPieces_head also_rest (List.cons_ne_nil _ _) later
      | cons second pieces =>
        obtain ⟨middle,cut,ends_middle,found⟩ := afterPieces_cons found
        obtain ⟨own,middle_eq⟩ := afterPiece_takes plain cut ends_middle
        cases others with
        | nil =>
          obtain ⟨same,s_eq⟩ := afterPiece_takes level there stops
          refine .inr (.inr ⟨?_,?_⟩)
          · rw [folded,folded,List.map_singleton,List.map_cons,own,same]
            exact List.prefix_append [_] _
          · rw [s_eq,← middle_eq]
            exact afterPieces_head solid_rest (List.cons_ne_nil _ _) found
        | cons next others =>
          obtain ⟨behind,cut,ends_behind,there⟩ := afterPieces_cons there
          obtain ⟨same,behind_eq⟩ := afterPiece_takes level cut ends_behind
          rw [behind_eq,← middle_eq] at there
          -- Both words go on behind equal first pieces.
          have head : first.map fold = other.map fold := by rw [own,same]
          rcases ih solid_rest also_rest (List.cons_ne_nil _ _) (List.cons_ne_nil _ _) found there with
            equal | ⟨less,on⟩ | ⟨more,on⟩
          · exact .inl (by simp only [folded,List.map_cons] at equal ⊢; rw [head,equal])
          · exact .inr (.inl ⟨List.cons_prefix_cons.mpr ⟨head,less⟩,on⟩)
          · exact .inr (.inr ⟨List.cons_prefix_cons.mpr ⟨head.symm,more⟩,on⟩)

theorem capture_word {words : List Text} {accept : Text → Text → Option α} {value : α}
    (captured : capture words t accept = some value) : ∃ word ∈ tried words, ∃ covered rest,
      afterWord word t = some rest ∧ accept covered rest = some value := by
  obtain ⟨word,member,found⟩ := List.exists_of_findSome?_eq_some captured
  obtain ⟨rest,behind,accepted⟩ := Option.bind_eq_some_iff.mp found
  exact ⟨word,member,_,rest,behind,accepted⟩

theorem capture_agreed {words : List Text} {word : Text} {accept : Text → Text → Option α} {value : α}
    (member : word ∈ tried words) (stands : afterWord word t = some rest)
    (accepted : ∀ covered, accept covered rest = some value)
    (agreed : ∀ other ∈ tried words, ∀ covered behind found, afterWord other t = some behind →
      accept covered behind = some found → found = value) :
    capture words t accept = some value := by
  have taken : (capture words t accept).isSome = true := by
    rw [capture,List.findSome?_isSome_iff]
    refine ⟨word,member,?_⟩
    rw [stands]
    simp [accepted]
  obtain ⟨found,captured⟩ := Option.isSome_iff_exists.mp taken
  obtain ⟨other,among,covered,behind,after,given⟩ := capture_word captured
  rw [captured,agreed other among covered behind found after given]

end ScenarioLang.Words
