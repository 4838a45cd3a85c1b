import Mathlib.Data.List.Infix
import ScenarioLang.Proofs.Text.Spelling
import ScenarioLang.Proofs.Text.Split

namespace ScenarioLang

namespace Text
open Unicode

variable {s t run tail : Text} {c : Char}

theorem runs_around (blank : isBlank c = true) (s t : Text) : runs (s ++ c :: t) = runs s ++ runs t := by
  rw [runs,split_around blank,List.filter_append]
  rfl

theorem runs_cons (blank : isBlank c = true) (t : Text) : runs (c :: t) = runs t := runs_around blank [] t

theorem runs_ahead (blank : tail.allBlank = true) (t : Text) : runs (tail ++ t) = runs t := by
  induction tail with
  | nil => rfl
  | cons c rest ih =>
    obtain ⟨first,later⟩ := Bool.and_eq_true_iff.mp blank
    rw [List.cons_append,runs_cons first]
    exact ih later

theorem runs_behind (blank : tail.allBlank = true) (t : Text) : runs (t ++ tail) = runs t := by
  cases tail with
  | nil => rw [List.append_nil]
  | cons c rest =>
    obtain ⟨first,later⟩ := Bool.and_eq_true_iff.mp blank
    have none : runs rest = [] := by
      have ahead := runs_ahead later []
      rwa [List.append_nil] at ahead
    rw [runs_around first,none,List.append_nil]

theorem runs_trim (t : Text) : runs (trim t) = runs t := by
  obtain ⟨blanks,ahead⟩ := blanks_ahead t
  obtain ⟨tail,behind,blank⟩ := trimStart_split t
  calc runs (trim t)
    _ = runs (trim t ++ tail) := (runs_behind blank _).symm
    _ = runs (trimStart t) := congrArg runs behind.symm
    _ = runs (blanks.1 ++ trimStart t) := (runs_ahead blanks.2 _).symm
    _ = runs t := congrArg runs ahead.symm

theorem runs_solid (filled : t ≠ []) (solid : ∀ c ∈ t, isBlank c = false) : runs t = [t] := by
  have kept : t.isEmpty = false := List.isEmpty_eq_false_iff.mpr filled
  rw [runs,split_clean solid,List.filter_singleton,kept]
  rfl

theorem run_solid (member : run ∈ runs t) : ∀ c ∈ run, isBlank c = false :=
  split_parts (List.mem_filter.mp member).1

theorem runs_nil_iff : runs t = [] ↔ t.allBlank = true := by
  constructor
  · intro none
    apply List.all_eq_true.mpr
    intro c member
    by_contra solid
    exact runs_filled member (by simpa using solid) none
  · intro blank
    have ahead := runs_ahead blank []
    rwa [List.append_nil] at ahead

theorem runs_first (head : ∀ c, t.head? = some c → isBlank c = false) (filled : t ≠ []) :
    ∃ run tail, t = run ++ tail ∧ run ≠ [] ∧ (∀ c ∈ run, isBlank c = false) ∧
      (∀ c, tail.head? = some c → isBlank c = true) ∧ runs t = run :: runs tail := by
  have parts := List.takeWhile_append_dropWhile (p := fun c => !isBlank c) (l := t)
  have solid : ∀ c ∈ t.takeWhile fun c => !isBlank c, isBlank c = false := by
    intro c member
    simpa using List.all_eq_true.mp List.all_takeWhile c member
  have ends : ∀ c, (t.dropWhile fun c => !isBlank c).head? = some c → isBlank c = true := by
    intro c next
    have stop := List.head?_dropWhile_not (fun c => !isBlank c) t
    rw [next] at stop
    simpa using stop
  have some : (t.takeWhile fun c => !isBlank c) ≠ [] := by
    obtain ⟨c,rest,rfl⟩ := List.exists_cons_of_ne_nil filled
    simp [head c rfl]
  refine ⟨_,_,parts.symm,some,solid,ends,?_⟩
  generalize (t.takeWhile fun c => !isBlank c) = run at parts solid some
  generalize (t.dropWhile fun c => !isBlank c) = tail at parts ends
  subst parts
  cases tail with
  | nil => rw [List.append_nil,runs_solid some solid]; rfl
  | cons c rest =>
    have blank := ends c rfl
    rw [runs_around blank,runs_solid some solid,runs_cons blank]
    rfl

theorem flatten_runs (t : Text) : (runs t).flatten = t.filter fun c => !isBlank c := by
  have dropped : ∀ parts : List Text, (parts.filter fun part => !part.isEmpty).flatten = parts.flatten := by
    intro parts
    exact List.flatten_filter_not_isEmpty
  rw [runs,dropped]
  induction t with
  | nil => rfl
  | cons c rest ih =>
    rw [split]
    cases blank : isBlank c with
    | true => simpa [blank] using ih
    | false =>
      cases parts : split isBlank rest with
      | nil => exact absurd parts (split_some isBlank rest)
      | cons first others =>
        rw [parts] at ih
        simpa [blank,joinHead] using ih

theorem length_runs_le (t : Text) : (runs t).length ≤ t.countP isBlank + 1 := by
  rw [← length_split]
  exact List.length_filter_le _ _

theorem length_runs_append (s t : Text) : (runs s).length ≤ (runs (s ++ t)).length := by
  induction t generalizing s with
  | nil => rw [List.append_nil]
  | cons c rest ih =>
    have step : (runs s).length ≤ (runs (s ++ [c])).length := by
      cases blank : isBlank c with
      | true =>
        apply Nat.le_of_eq
        rw [runs_behind (by simp [allBlank,blank])]
      | false =>
        have clean : ∀ d ∈ [c], isBlank d = false := by simp [blank]
        obtain ⟨front,last,whole,longer⟩ := split_ending clean s
        rw [runs,runs,whole,longer,List.filter_append,List.filter_append,List.length_append,List.length_append]
        apply Nat.add_le_add_left
        apply (List.length_filter_le _ _).trans
        simp
    have later := ih (s ++ [c])
    rw [List.append_assoc] at later
    exact step.trans later

theorem trimmed_iff : trim t = t ↔
    (∀ c, t.head? = some c → isBlank c = false) ∧ ∀ c, t.getLast? = some c → isBlank c = false := by
  constructor
  · intro same
    constructor
    · intro c head
      have some : trimStart t ≠ [] := by
        apply trimStart_of_trim
        rw [same]
        rintro rfl
        cases head
      obtain ⟨d,rest,start,solid⟩ := trim_head some
      rw [← same,start] at head
      cases head
      exact solid
    · intro c last
      have stop := List.head?_dropWhile_not isBlank (trimStart t).reverse
      rw [← same,trim,trimEnd,List.getLast?_reverse] at last
      rw [last] at stop
      simpa using stop
  · rintro ⟨first,last⟩
    cases t with
    | nil => rfl
    | cons c rest =>
      have some : c :: rest ≠ [] := List.cons_ne_nil _ _
      have ending := List.getLast?_eq_some_getLast some
      exact trim_ends rfl (first c rfl) ending (last _ ending)

end Text

namespace Words
open Unicode Text

variable {pieces others : List Text} {piece first covered later t rest word : Text} {words : List Text}

-- What a word covers where it stands: its pieces in some letter case, with blanks
-- between them and none around them.
structure Covers (pieces : List Text) (covered : Text) : Prop where
  filled : covered ≠ []
  trimmed : trim covered = covered
  pieces : folded covered.runs = folded pieces

theorem afterBlanks_iff : afterBlanks t = some rest ↔
    ∃ blanks : Blanks, blanks.1 ≠ [] ∧ t = blanks.1 ++ rest ∧ ∀ c, rest.head? = some c → isBlank c = false := by
  constructor
  · intro passed
    cases t with
    | nil => cases passed
    | cons c t =>
      simp only [afterBlanks] at passed
      split at passed
      · rename_i blank
        cases passed
        obtain ⟨blanks,whole⟩ := blanks_ahead t
        refine ⟨⟨c :: blanks.1,Bool.and_eq_true_iff.mpr ⟨blank,blanks.2⟩⟩,List.cons_ne_nil _ _,congrArg (c :: ·) whole,?_⟩
        intro d head
        have stop := List.head?_dropWhile_not isBlank t
        rw [head] at stop
        simpa using stop
      · cases passed
  · intro parted
    obtain ⟨⟨blanks,all⟩,filled,whole,head⟩ := parted
    subst whole
    obtain ⟨c,more,rfl⟩ := List.exists_cons_of_ne_nil filled
    obtain ⟨blank,later⟩ := Bool.and_eq_true_iff.mp all
    have stays : trimStart rest = rest := by
      cases rest with
      | nil => rfl
      | cons d rest => exact trimStart_stays (head d rfl) rest
    rw [List.cons_append,afterBlanks,if_pos blank]
    exact congrArg some ((trimStart_blank later rest).trans stays)

theorem solid_folded (solid : ∀ c ∈ piece, isBlank c = false) (same : covered.map fold = piece.map fold) :
    ∀ c ∈ covered, isBlank c = false := by
  intro c member
  obtain ⟨d,inside,folds⟩ := List.mem_map.mp (same ▸ List.mem_map_of_mem (f := fold) member)
  rw [← isBlank_fold,← folds,isBlank_fold]
  exact solid d inside

namespace Covers

theorem single (filled : covered ≠ []) (solid : ∀ c ∈ covered, isBlank c = false)
    (same : covered.map fold = piece.map fold) : Covers [piece] covered := by
  refine ⟨filled,trimmed_iff.mpr ⟨?_,?_⟩,?_⟩
  · exact fun c head => solid c (List.mem_of_head? head)
  · exact fun c last => solid c (List.mem_of_getLast? last)
  · rw [runs_solid filled solid,folded,folded,List.map_singleton,List.map_singleton,same]

theorem more (filled : first ≠ []) (solid : ∀ c ∈ first, isBlank c = false) (same : first.map fold = piece.map fold)
    (blanks : Blanks) (apart : blanks.1 ≠ []) (covers : Covers pieces later) :
    Covers (piece :: pieces) (first ++ (blanks.1 ++ later)) := by
  obtain ⟨_,last⟩ := trimmed_iff.mp covers.trimmed
  refine ⟨List.append_ne_nil_of_left_ne_nil filled _,trimmed_iff.mpr ⟨?_,?_⟩,?_⟩
  · intro c head
    rw [List.head?_append_of_ne_nil _ filled] at head
    exact solid c (List.mem_of_head? head)
  · intro c ending
    rw [← List.append_assoc,List.getLast?_append_of_ne_nil _ covers.filled] at ending
    exact last c ending
  · obtain ⟨c,others,start⟩ := List.exists_cons_of_ne_nil apart
    obtain ⟨blank,behind⟩ := Bool.and_eq_true_iff.mp (start ▸ blanks.2 : (c :: others : Text).all isBlank = true)
    have runs : Text.runs (first ++ (blanks.1 ++ later)) = first :: later.runs := by
      rw [start,List.cons_append,runs_around blank,runs_solid filled solid,runs_ahead behind]
      rfl
    have rest := covers.pieces
    simp only [folded] at rest ⊢
    rw [runs,List.map_cons,List.map_cons,same,rest]

theorem parts (covers : Covers (piece :: pieces) covered) : ∃ first tail, covered = first ++ tail ∧
    first.map fold = piece.map fold ∧ ((pieces = [] ∧ tail = []) ∨
      ∃ (blanks : Blanks) (later : Text), blanks.1 ≠ [] ∧ tail = blanks.1 ++ later ∧ Covers pieces later) := by
  obtain ⟨head,last⟩ := trimmed_iff.mp covers.trimmed
  obtain ⟨first,tail,whole,_,_,ends,runs⟩ := runs_first head covers.filled
  have same := covers.pieces
  rw [runs,folded,folded,List.map_cons,List.map_cons,List.cons.injEq] at same
  refine ⟨first,tail,whole,same.1,?_⟩
  cases pieces with
  | nil =>
    refine .inl ⟨rfl,?_⟩
    -- Nothing but blanks could follow the only piece, and the text ends in none.
    have blank := runs_nil_iff.mp (List.map_eq_nil_iff.mp same.2)
    by_contra filled
    have ending := List.getLast?_eq_some_getLast filled
    have solid := last _ (by rw [whole,List.getLast?_append_of_ne_nil _ filled,ending])
    rw [List.all_eq_true.mp blank _ (List.getLast_mem filled)] at solid
    cases solid
  | cons next pieces =>
    have some : tail.runs ≠ [] := fun none => by simp [none] at same
    have filled : trimStart tail ≠ [] := fun none => some (runs_nil_iff.mpr (trimStart_nil_iff.mp none))
    obtain ⟨blanks,ahead⟩ := blanks_ahead tail
    obtain ⟨c,others,start,solid⟩ := trimStart_filled filled
    refine .inr ⟨blanks,trimStart tail,?_,ahead,filled,trimmed_iff.mpr ⟨?_,?_⟩,?_⟩
    · intro none
      rw [none,List.nil_append,start] at ahead
      rw [ends c (by rw [ahead]; rfl)] at solid
      cases solid
    · intro d own
      rw [start] at own
      cases own
      exact solid
    · intro d own
      apply last
      rwa [whole,ahead,← List.append_assoc,List.getLast?_append_of_ne_nil _ filled]
    · have behind : tail.runs = (trimStart tail).runs := by
        rw [ahead,runs_ahead blanks.2,trimStart_blank blanks.2,trimStart_trimStart]
      rw [← behind]
      exact same.2

theorem some (covers : Covers pieces covered) : pieces ≠ [] := by
  rintro rfl
  have none := runs_nil_iff.mp (List.map_eq_nil_iff.mp covers.pieces)
  have empty := covers.trimmed
  rw [trim,trimStart_nil_iff.mpr none] at empty
  exact covers.filled empty.symm

theorem stands (covers : Covers pieces covered) (rest : Text) : afterPieces pieces (covered ++ rest) = .some rest := by
  induction pieces generalizing covered with
  | nil => exact absurd rfl covers.some
  | cons piece pieces ih =>
    obtain ⟨first,tail,rfl,same,⟨rfl,rfl⟩ | ⟨blanks,later,apart,rfl,behind⟩⟩ := covers.parts
    · rw [List.append_nil]
      exact afterPiece_covered same rest
    · have passed : afterBlanks (blanks.1 ++ (later ++ rest)) = .some (later ++ rest) := by
        refine afterBlanks_iff.mpr ⟨blanks,apart,rfl,?_⟩
        intro c head
        rw [List.head?_append_of_ne_nil _ behind.filled] at head
        exact (trimmed_iff.mp behind.trimmed).1 c head
      cases pieces with
      | nil => exact absurd rfl behind.some
      | cons next pieces =>
        rw [List.append_assoc,List.append_assoc,afterPieces,afterPiece_covered same,Option.bind_eq_bind,Option.bind_some,
          passed,Option.bind_some]
        · exact ih behind
        · exact List.cons_ne_nil _ _

-- A word covers no character that it does not hold itself, where no other character has
-- the same letters.
theorem bare {c : Char} (covers : Covers word.runs covered) (absent : c ∉ word)
    (alone : ∀ d, fold d = fold c → d = c) (solid : isBlank c = false) : c ∉ covered := by
  intro member
  have inside : fold c ∈ (folded covered.runs).flatten := by
    rw [folded,← List.map_flatten,flatten_runs]
    exact List.mem_map_of_mem (List.mem_filter.mpr ⟨member,by simp [solid]⟩)
  rw [covers.pieces,folded,← List.map_flatten,flatten_runs] at inside
  obtain ⟨d,held,same⟩ := List.mem_map.mp inside
  rw [alone d same] at held
  exact absent (List.mem_filter.mp held).1

theorem own (filled : word.allBlank = false) : Covers word.runs (trim word) := by
  refine ⟨?_,trim_trim word,by rw [runs_trim]⟩
  obtain ⟨c,rest,start,_⟩ := trim_head (trimStart_solid filled)
  rw [start]
  exact List.cons_ne_nil _ _

end Covers

theorem afterPieces_covers (solid : ∀ piece ∈ pieces, piece ≠ [] ∧ ∀ c ∈ piece, isBlank c = false) (some : pieces ≠ [])
    (found : afterPieces pieces t = .some rest) : ∃ covered, t = covered ++ rest ∧ Covers pieces covered := by
  induction pieces generalizing t with
  | nil => exact absurd rfl some
  | cons piece pieces ih =>
    obtain ⟨⟨filled,plain⟩,others⟩ := List.forall_mem_cons.mp solid
    have first : ∀ behind, afterPiece piece t = .some behind → ∃ covered, t = covered ++ behind ∧ covered ≠ [] ∧
        (∀ c ∈ covered, isBlank c = false) ∧ covered.map fold = piece.map fold := by
      intro behind cut
      obtain ⟨covered,whole,same⟩ := afterPiece_folds cut
      refine ⟨covered,whole,?_,solid_folded plain same,same⟩
      rintro rfl
      exact filled (List.map_eq_nil_iff.mp same.symm)
    cases pieces with
    | nil =>
      obtain ⟨covered,whole,filled,solid,same⟩ := first rest found
      exact ⟨covered,whole,.single filled solid same⟩
    | cons next pieces =>
      rw [afterPieces] at found
      obtain ⟨behind,cut,found⟩ := Option.bind_eq_some_iff.mp found
      obtain ⟨ahead,passed,reached⟩ := Option.bind_eq_some_iff.mp found
      · obtain ⟨covered,rfl,filled,solid,same⟩ := first behind cut
        obtain ⟨blanks,apart,rfl,_⟩ := afterBlanks_iff.mp passed
        obtain ⟨later,rfl,covers⟩ := ih others (List.cons_ne_nil _ _) reached
        exact ⟨_,by rw [List.append_assoc,List.append_assoc],.more filled solid same blanks apart covers⟩
      · exact List.cons_ne_nil _ _

theorem afterWord_iff (some : word.runs ≠ []) :
    afterWord word t = .some rest ↔ ∃ covered, t = covered ++ rest ∧ Covers word.runs covered := by
  constructor
  · exact afterPieces_covers (fun piece member => ⟨run_filled member,run_solid member⟩) some
  · intro ⟨covered,whole,covers⟩
    rw [whole]
    exact covers.stands rest

end Words
end ScenarioLang
