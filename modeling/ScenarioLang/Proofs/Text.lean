import Mathlib.Data.List.DropRight
import Mathlib.Data.List.Infix
import ScenarioLang.Text
import ScenarioLang.Text.Words

namespace ScenarioLang

namespace Text
open Unicode

variable {t part : Text} {c : Char}

theorem trimStart_cons (c : Char) (t : Text) : trimStart (c :: t) = if isBlank c then trimStart t else c :: t := by
  rw [trimStart,List.dropWhile_cons]
  rfl

theorem trimStart_stays (solid : isBlank c = false) (t : Text) : trimStart (c :: t) = c :: t := by
  rw [trimStart_cons,solid]
  rfl

theorem trimStart_trimStart (t : Text) : trimStart (trimStart t) = trimStart t := List.dropWhile_idempotent isBlank t

theorem trimEnd_starts (t : Text) : trimEnd t <+: t := List.rdropWhile_prefix isBlank t

theorem trim_starts (t : Text) : trim t <+: trimStart t := trimEnd_starts _

theorem trimEnd_cons (c : Char) (t : Text) :
    trimEnd (c :: t) = if trimEnd t = [] then (if isBlank c then [] else [c]) else c :: trimEnd t := by
  have behind : trimEnd t = [] ↔ t.reverse.dropWhile isBlank = [] := List.reverse_eq_nil_iff
  rw [trimEnd,List.reverse_cons,List.dropWhile_append]
  by_cases blank : t.reverse.dropWhile isBlank = []
  · rw [if_pos (behind.mpr blank),if_pos (List.isEmpty_iff.mpr blank),List.dropWhile_cons]
    split <;> rfl
  · rw [if_neg fun none => blank (behind.mp none),if_neg fun none => blank (List.isEmpty_iff.mp none),
      List.reverse_append]
    rfl

theorem trimEnd_solid (solid : isBlank c = false) (t : Text) : trimEnd (c :: t) = c :: trimEnd t := by
  rw [trimEnd_cons,solid]
  split
  · rename_i none; rw [none]; rfl
  · rfl

theorem trimStart_trimEnd (t : Text) : trimStart (trimEnd t) = trim t := by
  induction t with
  | nil => rfl
  | cons c rest ih =>
    cases blank : isBlank c with
    | false =>
      rw [trim,trimStart_cons,blank,trimEnd_solid blank,trimStart_cons,blank]
      exact (trimEnd_solid blank rest).symm
    | true =>
      have same : trim (c :: rest) = trim rest := by rw [trim,trimStart_cons,blank]; rfl
      rw [same,← ih,trimEnd_cons,blank]
      split
      · rename_i none; rw [none]; rfl
      · rw [trimStart_cons,blank]; rfl

theorem trim_trim (t : Text) : trim (trim t) = trim t := by
  calc trim (trim t)
    _ = trimStart (trimEnd (trimEnd (trimStart t))) := (trimStart_trimEnd _).symm
    _ = trimStart (trimEnd (trimStart t)) := congrArg trimStart (List.rdropWhile_idempotent isBlank _)
    _ = trimEnd (trimStart (trimStart t)) := trimStart_trimEnd _
    _ = trim t := congrArg trimEnd (List.dropWhile_idempotent isBlank _)

theorem trim_trimEnd (t : Text) : trim (trimEnd t) = trim t := by
  calc trim (trimEnd t)
    _ = trimStart (trimEnd (trimEnd t)) := (trimStart_trimEnd _).symm
    _ = trimStart (trimEnd t) := congrArg trimStart (List.rdropWhile_idempotent isBlank t)
    _ = trim t := trimStart_trimEnd t

theorem trim_solid (solid : isBlank c = false) (t : Text) : trim (c :: t) = c :: trimEnd t := by
  rw [trim,trimStart_cons,solid]
  exact trimEnd_solid solid t

theorem trimStart_filled (filled : trimStart t ≠ []) : ∃ c rest, trimStart t = c :: rest ∧ isBlank c = false := by
  induction t with
  | nil => exact absurd rfl filled
  | cons c rest ih =>
    cases blank : isBlank c with
    | true =>
      rw [trimStart_cons,blank] at filled ⊢
      exact ih filled
    | false => exact ⟨c,rest,by rw [trimStart_cons,blank]; rfl,blank⟩

theorem trim_head (filled : trimStart t ≠ []) : ∃ c rest, trim t = c :: rest ∧ isBlank c = false := by
  obtain ⟨c,rest,start,solid⟩ := trimStart_filled filled
  refine ⟨c,trimEnd rest,?_,solid⟩
  rw [trim,start,trimEnd_solid solid]

theorem trimStart_of_trim (filled : trim t ≠ []) : trimStart t ≠ [] := by
  intro none
  rw [trim,none] at filled
  exact filled rfl

theorem trimStart_mem (member : c ∈ t) (solid : isBlank c = false) : trimStart t ≠ [] := by
  intro none
  have blank := List.dropWhile_eq_nil_iff.mp none c member
  rw [solid] at blank
  cases blank

theorem trimStart_solid (solid : t.allBlank = false) : trimStart t ≠ [] := by
  obtain ⟨c,member,other⟩ := List.all_eq_false.mp solid
  exact trimStart_mem member (by simpa using other)

theorem trimStart_nil_iff : trimStart t = [] ↔ t.allBlank = true :=
  List.dropWhile_eq_nil_iff.trans List.all_eq_true.symm

theorem head_filled (head : (trimStart t).head? = some c) : t.allBlank = false := by
  rw [← Bool.not_eq_true]
  intro blank
  rw [trimStart_nil_iff.mpr blank] at head
  cases head

theorem drop_indent (t : Text) : t.drop t.indent = trimStart t := by
  have parts := List.takeWhile_append_dropWhile (p := isBlank) (l := t)
  calc t.drop t.indent
    _ = (t.takeWhile isBlank ++ t.dropWhile isBlank).drop t.indent := by rw [parts]
    _ = trimStart t := List.drop_left

theorem at_indent {rest : Text} (start : trimStart t = c :: rest) : t[t.indent]? = some c := by
  have found : (t.drop t.indent)[0]? = some c := by rw [drop_indent,start]; rfl
  rwa [List.getElem?_drop] at found

theorem trimStart_start (taken : part <+: t) (filled : trimStart part ≠ []) :
    trimStart part <+: trimStart t ∧ part.indent = t.indent := by
  obtain ⟨behind,rfl⟩ := taken
  induction part with
  | nil => exact absurd rfl filled
  | cons c rest ih =>
    rw [List.cons_append,trimStart_cons,trimStart_cons]
    cases blank : isBlank c with
    | true =>
      rw [trimStart_cons,blank] at filled
      obtain ⟨starts,indents⟩ := ih filled
      refine ⟨starts,?_⟩
      simp only [indent,List.takeWhile_cons,blank,if_true,List.length_cons] at indents ⊢
      rw [indents]
    | false =>
      refine ⟨List.prefix_append (c :: rest) behind,?_⟩
      simp only [indent,List.takeWhile_cons,blank]
      rfl

theorem uncommented_starts (line : Text) : uncommented line <+: line := by
  unfold uncommented
  split
  · exact List.prefix_refl line
  · exact List.prefix_refl line
  · split
    · exact List.prefix_refl line
    · rename_i mark before found
      split
      · exact List.prefix_refl line
      · have behind : mark :: before <:+ line.reverse := found ▸ List.dropWhile_suffix _
        have less : before <:+ line.reverse := (List.suffix_cons mark before).trans behind
        simpa using List.reverse_prefix.mpr less

theorem after_append {literal t rest : Text} (found : after literal t = some rest) : t = literal ++ rest := by
  fun_induction after literal t with
  | case1 => cases found; rfl
  | case2 => cases found
  | case3 c literal t ih => rw [ih found]; rfl
  | case4 => cases found

theorem mem_joinHead (c : Char) {part : Text} {parts : List Text} (member : part ∈ parts) :
    ∃ joined ∈ joinHead c parts, part ⊆ joined := by
  cases parts with
  | nil => cases member
  | cons first others =>
    rcases List.mem_cons.mp member with rfl | later
    · exact ⟨_,List.mem_cons_self,List.subset_cons_self c part⟩
    · exact ⟨part,List.mem_cons_of_mem _ later,List.Subset.refl part⟩

theorem mem_split {separator : Char → Bool} (member : c ∈ t) (inside : separator c = false) :
    ∃ part ∈ split separator t, c ∈ part := by
  induction t with
  | nil => cases member
  | cons d rest ih =>
    rw [split]
    rcases List.mem_cons.mp member with rfl | later
    · rw [inside]
      cases parts : split separator rest with
      | nil => exact ⟨[c],List.mem_cons_self,List.mem_cons_self⟩
      | cons first others => exact ⟨c :: first,List.mem_cons_self,List.mem_cons_self⟩
    · obtain ⟨part,among,holds⟩ := ih later
      split
      · exact ⟨part,List.mem_cons_of_mem _ among,holds⟩
      · obtain ⟨joined,found,more⟩ := mem_joinHead d among
        exact ⟨joined,found,more holds⟩

theorem split_subset {separator : Char → Bool} {part : Text} (member : part ∈ split separator t) : part ⊆ t := by
  induction t generalizing part with
  | nil => simp_all [split]
  | cons d rest ih =>
    rw [split] at member
    split at member
    · rcases List.mem_cons.mp member with rfl | later
      · exact List.nil_subset _
      · exact List.subset_cons_of_subset d (ih later)
    · cases parts : split separator rest with
      | nil =>
        rw [parts] at member
        obtain rfl := List.mem_singleton.mp member
        exact List.cons_subset_cons d (List.nil_subset _)
      | cons first others =>
        rw [parts] at ih member
        rcases List.mem_cons.mp member with rfl | later
        · exact List.cons_subset_cons d (ih List.mem_cons_self)
        · exact List.subset_cons_of_subset d (ih (List.mem_cons_of_mem _ later))

theorem runs_subset {run : Text} (member : run ∈ runs t) : run ⊆ t := split_subset (List.mem_filter.mp member).1

theorem trim_subset (t : Text) : trim t ⊆ t :=
  List.Subset.trans (trim_starts t).subset (List.dropWhile_sublist isBlank).subset

theorem run_filled {run : Text} (member : run ∈ runs t) : run ≠ [] := by simpa using (List.mem_filter.mp member).2

theorem runs_filled (member : c ∈ t) (solid : isBlank c = false) : runs t ≠ [] := by
  obtain ⟨part,among,holds⟩ := mem_split member solid
  have kept : part ∈ runs t := List.mem_filter.mpr ⟨among,by simpa using List.ne_nil_of_mem holds⟩
  exact List.ne_nil_of_mem kept

end Text

namespace Words
open Unicode

theorem insertByLength_perm (word : Text) (words : List Text) : (insertByLength word words).Perm (word :: words) := by
  induction words with
  | nil => exact .refl _
  | cons other rest ih =>
    rw [insertByLength]
    split
    · exact .refl _
    · exact (ih.cons other).trans (.swap word other rest)

theorem byLength_perm (words : List Text) : (byLength words).Perm words := by
  induction words with
  | nil => exact .nil
  | cons word rest ih => exact (insertByLength_perm word (byLength rest)).trans (ih.cons word)

theorem mem_dropRepeats {word : Text} {words : List Text} : word ∈ dropRepeats words ↔ word ∈ words := by
  fun_induction dropRepeats words with
  | case1 => rfl
  | case2 => rfl
  | case3 same rest ih => simp [ih]
  | case4 first next rest other ih => rw [List.mem_cons,ih,← List.mem_cons]

theorem mem_tried {word : Text} {words : List Text} :
    word ∈ tried words ↔ word ∈ words.map Text.trim ∧ word ≠ [] := by
  rw [tried,mem_dropRepeats,(byLength_perm _).mem_iff,List.mem_filter]
  simp

theorem tried_filled {word : Text} {words : List Text} (member : word ∈ tried words) : word.runs ≠ [] := by
  obtain ⟨written,some⟩ := mem_tried.mp member
  obtain ⟨whole,_,rfl⟩ := List.mem_map.mp written
  obtain ⟨c,rest,start,solid⟩ := Text.trim_head (Text.trimStart_of_trim some)
  exact Text.runs_filled (start ▸ List.mem_cons_self) solid

theorem tried_written {word piece : Text} {words : List Text} (member : word ∈ tried words) (inside : piece ∈ word.runs) :
    ∃ written ∈ words, piece ⊆ written := by
  obtain ⟨written,among,rfl⟩ := List.mem_map.mp (mem_tried.mp member).1
  exact ⟨written,among,List.Subset.trans (Text.runs_subset inside) (Text.trim_subset written)⟩

theorem afterPiece_length {piece t rest : Text} (found : afterPiece piece t = some rest) :
    rest.length + piece.length = t.length := by
  fun_induction afterPiece piece t with
  | case1 => cases found; rfl
  | case2 => cases found
  | case3 c piece d t same ih =>
    have behind := ih found
    simp only [List.length_cons]
    omega
  | case4 => cases found

theorem afterBlanks_length {t rest : Text} (found : afterBlanks t = some rest) : rest.length ≤ t.length := by
  cases t with
  | nil => cases found
  | cons c t =>
    simp only [afterBlanks] at found
    split at found
    · cases found
      exact Nat.le_succ_of_le (List.length_dropWhile_le isBlank t)
    · cases found

theorem afterPieces_length {pieces : List Text} {t rest : Text} (found : afterPieces pieces t = some rest) :
    rest.length + pieces.flatten.length ≤ t.length := by
  fun_induction afterPieces pieces t with
  | case1 => cases found; exact Nat.le_refl _
  | case2 t piece =>
    have all := afterPiece_length found
    rw [List.flatten_singleton]
    omega
  | case3 t piece others _ ih =>
    obtain ⟨first,cut,found⟩ := Option.bind_eq_some_iff.mp found
    obtain ⟨second,blanks,found⟩ := Option.bind_eq_some_iff.mp found
    have piece := afterPiece_length cut
    have between := afterBlanks_length blanks
    have others := ih second found
    rw [List.flatten_cons,List.length_append]
    omega

theorem capture_shorter {words : List Text} {t : Text} {accept : Text → Text → Option α} {value : α}
    (captured : capture words t accept = some value) :
    ∃ covered rest, accept covered rest = some value ∧ rest.length < t.length := by
  obtain ⟨word,member,found⟩ := List.exists_of_findSome?_eq_some captured
  obtain ⟨rest,behind,accepted⟩ := Option.bind_eq_some_iff.mp found
  refine ⟨_,rest,accepted,?_⟩
  have all := afterPieces_length behind
  cases runs : word.runs with
  | nil => exact absurd runs (tried_filled member)
  | cons piece others =>
    have kept : piece ∈ word.runs := runs ▸ List.mem_cons_self
    have some : 0 < piece.length := List.length_pos_iff.mpr (Text.run_filled kept)
    rw [runs,List.flatten_cons,List.length_append] at all
    omega

end Words
end ScenarioLang
