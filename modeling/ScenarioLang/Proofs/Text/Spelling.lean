import ScenarioLang.Proofs.Text.Blanks
import ScenarioLang.Proofs.Text.Words

namespace ScenarioLang.Words
open Unicode Text

def isSign (c : Char) : Bool := isMark c && !isBlank c

-- A word as it is spelled: its pieces in some letter case, with blanks between them.
inductive Spelled : List Text → Text → Prop where
  | last {piece covered : Text} : covered.map fold = piece.map fold → Spelled [piece] covered
  | more {piece covered later : Text} {pieces : List Text} (gap : Gap) : covered.map fold = piece.map fold →
      gap.1 ≠ [] → Spelled pieces later → Spelled (piece :: pieces) (covered ++ (gap.1 ++ later))

variable {pieces : List Text} {piece covered t rest : Text} {c : Char}

theorem Spelled.head (solid : Solid pieces) (spelled : Spelled pieces covered) :
    ∃ c rest, covered = c :: rest ∧ isMark c = false := by
  cases spelled with
  | last same =>
    obtain ⟨filled,plain⟩ := solid _ List.mem_cons_self
    exact covered_head filled plain same
  | more gap same =>
    obtain ⟨filled,plain⟩ := solid _ List.mem_cons_self
    obtain ⟨c,rest,rfl,clear⟩ := covered_head filled plain same
    exact ⟨c,_,rfl,clear⟩

theorem Spelled.stands (solid : Solid pieces) (spelled : Spelled pieces covered) (rest : Text) :
    afterPieces pieces (covered ++ rest) = some rest := by
  induction spelled with
  | last same => exact afterPiece_covered same rest
  | @more piece covered later pieces gap same apart spelled ih =>
    obtain ⟨_,others⟩ := List.forall_mem_cons.mp solid
    obtain ⟨c,more,start,plain⟩ := spelled.head others
    obtain ⟨d,blanks,filled⟩ := List.exists_cons_of_ne_nil apart
    have blank : isBlank d = true := List.all_eq_true.mp gap.2.1 d (filled ▸ List.mem_cons_self)
    have passed : afterBlanks (gap.1 ++ (later ++ rest)) = some (later ++ rest) := by
      have start : trimStart (gap.1 ++ (later ++ rest)) = later ++ rest := by
        rw [trimStart_blank gap.2.1,start]
        exact trimStart_stays (unmarked_solid plain) _
      rw [filled,List.cons_append,trimStart_cons,if_pos blank] at start
      rw [filled,List.cons_append,afterBlanks,if_pos blank]
      exact congrArg some start
    cases pieces with
    | nil => cases spelled
    | cons next pieces =>
      rw [List.append_assoc,List.append_assoc,afterPieces,afterPiece_covered same,Option.bind_eq_bind,Option.bind_some,
        passed,Option.bind_some]
      · exact ih others
      · exact List.cons_ne_nil _ _

theorem Spelled.bare (solid : Solid pieces) (spelled : Spelled pieces covered) (sign : isSign c = true) : c ∉ covered := by
  obtain ⟨mark,other⟩ := Bool.and_eq_true_iff.mp sign
  have filled : isBlank c = false := by simpa using other
  induction spelled with
  | last same =>
    intro member
    rw [covered_plain (solid _ List.mem_cons_self).2 same c member] at mark
    cases mark
  | more gap same _ _ ih =>
    obtain ⟨⟨_,own⟩,others⟩ := List.forall_mem_cons.mp solid
    rw [List.mem_append,List.mem_append,not_or,not_or]
    refine ⟨fun member => ?_,gap.blanks.bare filled,ih others⟩
    rw [covered_plain own same c member] at mark
    cases mark

def fromSign (t : Text) : Text := t.dropWhile fun c => !isSign c

theorem fromSign_trimStart (t : Text) : fromSign (trimStart t) = fromSign t := by
  induction t with
  | nil => rfl
  | cons c rest ih =>
    rw [trimStart_cons]
    split
    · rename_i blank
      rw [ih,fromSign,fromSign,List.dropWhile_cons_of_pos (by simp [isSign,blank])]
    · rfl

theorem fromSign_marked (head : (trimStart t).head? = some c) (mark : isMark c = true) : fromSign t = trimStart t := by
  obtain ⟨tail,start⟩ := List.head?_eq_some_iff.mp head
  obtain ⟨d,_,same,other⟩ := trimStart_filled (start ▸ List.cons_ne_nil _ _)
  cases start.symm.trans same
  rw [← fromSign_trimStart,start,fromSign,List.dropWhile_cons_of_neg (by simp [isSign,mark,other])]

theorem fromSign_piece (plain : ∀ c ∈ piece, isMark (fold c) = false) (cut : afterPiece piece t = some rest) :
    fromSign t = fromSign rest := by
  obtain ⟨covered,rfl,folds⟩ := afterPiece_folds cut
  apply List.dropWhile_append_of_pos
  intro c member
  simp [isSign,covered_plain plain folds c member]

theorem afterPieces_reaches (solid : Solid pieces) (found : afterPieces pieces t = some rest)
    (head : (trimStart rest).head? = some c) (mark : isMark c = true) : trimStart rest = fromSign t := by
  rw [← fromSign_marked head mark]
  fun_induction afterPieces pieces t with
  | case1 t =>
    cases found
    rfl
  | case2 t piece => exact (fromSign_piece (solid _ List.mem_cons_self).2 found).symm
  | case3 t piece others _ ih =>
    obtain ⟨⟨_,own⟩,later⟩ := List.forall_mem_cons.mp solid
    obtain ⟨behind,cut,found⟩ := Option.bind_eq_some_iff.mp found
    obtain ⟨next,blanks,found⟩ := Option.bind_eq_some_iff.mp found
    obtain ⟨_,rfl⟩ := afterBlanks_eq blanks
    rw [ih _ later found,fromSign_trimStart,fromSign_piece own cut]

-- Where what is read depends on what stands behind the blanks and opens with a mark, all
-- words that stand lead to the same.
theorem capture_spelled {words : List Text} {word : Text} {read : Text → Option α} {value : α}
    (solid : ∀ word ∈ tried words, Solid word.runs) (member : word ∈ tried words) (spelled : Spelled word.runs covered)
    (trims : ∀ t, read (trimStart t) = read t)
    (marked : ∀ t value, read t = some value → ∃ c, (trimStart t).head? = some c ∧ isMark c = true)
    (found : read rest = some value) : capture words (covered ++ rest) (fun _ rest => read rest) = some value := by
  have stands := spelled.stands (solid word member) rest
  apply capture_agreed member stands fun _ => found
  intro other among _ behind again after given
  obtain ⟨c,head,mark⟩ := marked _ _ given
  obtain ⟨d,first,sign⟩ := marked _ _ found
  have here := afterPieces_reaches (solid other among) after head mark
  have there := afterPieces_reaches (solid word member) stands first sign
  rw [← trims,here,← there,trims,found] at given
  exact (Option.some.inj given).symm

end ScenarioLang.Words
