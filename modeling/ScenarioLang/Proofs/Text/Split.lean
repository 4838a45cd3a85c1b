import Mathlib.Data.List.Basic
import ScenarioLang.Proofs.Text.Blanks

namespace ScenarioLang.Text
open Unicode

variable {separator : Char → Bool} {t part rest tail : Text} {parts : List Text} {c : Char}

theorem split_clean (clean : ∀ c ∈ t, separator c = false) : split separator t = [t] := by
  induction t with
  | nil => rfl
  | cons c rest ih =>
    rw [split,clean c List.mem_cons_self,ih fun d member => clean d (List.mem_cons_of_mem _ member)]
    rfl

theorem split_append (clean : ∀ d ∈ t, separator d = false) (cuts : separator c = true) :
    split separator (t ++ c :: rest) = t :: split separator rest := by
  induction t with
  | nil => simp [split,cuts]
  | cons d t ih =>
    rw [List.cons_append,split,clean d List.mem_cons_self,
      ih fun e member => clean e (List.mem_cons_of_mem _ member)]
    rfl

theorem split_intercalate (some : parts ≠ [])
    (clean : ∀ part ∈ parts, c ∉ part) : split (· = c) ([c].intercalate parts) = parts := by
  have free : ∀ part ∈ parts, ∀ d ∈ part, decide (d = c) = false := by
    intro part member d inside
    simp only [decide_eq_false_iff_not]
    rintro rfl
    exact clean part member inside
  induction parts with
  | nil => exact absurd rfl some
  | cons part rest ih =>
    cases rest with
    | nil => rw [List.intercalate_singleton,split_clean (free part List.mem_cons_self)]
    | cons next rest =>
      rw [List.intercalate_cons_cons,List.append_assoc,List.singleton_append,
        split_append (free part List.mem_cons_self) (by simp)]
      rw [ih (by simp) (fun other member => clean other (List.mem_cons_of_mem _ member))
        fun other member => free other (List.mem_cons_of_mem _ member)]

theorem mem_intercalate {between : Text} (member : c ∈ between.intercalate parts) :
    c ∈ between ∨ ∃ part ∈ parts, c ∈ part := by
  induction parts with
  | nil => cases member
  | cons first rest ih =>
    cases rest with
    | nil => exact .inr ⟨first,List.mem_cons_self,by simpa using member⟩
    | cons next rest =>
      rw [List.intercalate_cons_cons,List.mem_append,List.mem_append] at member
      rcases member with (own | inside) | later
      · exact .inr ⟨first,List.mem_cons_self,own⟩
      · exact .inl inside
      · obtain inside | ⟨part,among,inside⟩ := ih later
        · exact .inl inside
        · exact .inr ⟨part,List.mem_cons_of_mem _ among,inside⟩

theorem split_parts (member : part ∈ split separator t) :
    ∀ c ∈ part, separator c = false := by
  induction t generalizing part with
  | nil => rw [List.mem_singleton.mp member]; simp
  | cons c rest ih =>
    by_cases cuts : separator c = true
    · simp only [split,cuts,if_true] at member
      rcases List.mem_cons.mp member with rfl | later
      · simp
      · exact ih later
    · simp only [split,cuts] at member
      cases parts : split separator rest with
      | nil =>
        simp only [parts,joinHead] at member
        rw [List.mem_singleton.mp member]
        simpa using cuts
      | cons first others =>
        simp only [parts,joinHead] at member ih
        rcases List.mem_cons.mp member with rfl | later
        · intro d inside
          rcases List.mem_cons.mp inside with rfl | inside
          · simpa using cuts
          · exact ih List.mem_cons_self d inside
        · exact ih (List.mem_cons_of_mem _ later)

theorem split_some (separator : Char → Bool) (t : Text) : split separator t ≠ [] := by
  cases t with
  | nil => exact List.cons_ne_nil _ _
  | cons d rest =>
    rw [split]
    split
    · exact List.cons_ne_nil _ _
    · cases split separator rest <;> exact List.cons_ne_nil _ _

theorem joinHead_append (filled : parts ≠ []) (more : List Text) :
    joinHead c (parts ++ more) = joinHead c parts ++ more := by
  cases parts with
  | nil => exact absurd rfl filled
  | cons => rfl

theorem split_around (cuts : separator c = true) (s t : Text) :
    split separator (s ++ c :: t) = split separator s ++ split separator t := by
  induction s with
  | nil => simp [split,cuts]
  | cons d rest ih =>
    rw [List.cons_append,split,split,ih]
    split
    · rfl
    · exact joinHead_append (split_some separator rest) _

theorem length_split (separator : Char → Bool) (t : Text) : (split separator t).length = t.countP separator + 1 := by
  induction t with
  | nil => rfl
  | cons c rest ih =>
    rw [split,List.countP_cons]
    split
    · exact congrArg (· + 1) ih
    · cases parts : split separator rest with
      | nil => exact absurd parts (split_some separator rest)
      | cons first others => rwa [parts] at ih

theorem split_ending (clean : ∀ c ∈ tail, separator c = false) (t : Text) : ∃ front last,
    split separator t = front ++ [last] ∧ split separator (t ++ tail) = front ++ [last ++ tail] := by
  induction t with
  | nil => exact ⟨[],[],rfl,split_clean clean⟩
  | cons c rest ih =>
    obtain ⟨front,last,whole,longer⟩ := ih
    rw [List.cons_append,split,split,whole,longer]
    split
    · exact ⟨[] :: front,last,rfl,rfl⟩
    · cases front with
      | nil => exact ⟨[],c :: last,rfl,rfl⟩
      | cons first others => exact ⟨(c :: first) :: others,last,rfl,rfl⟩

theorem split_trim (clean : ∀ c, isBlank c = true → separator c = false) (t : Text) :
    (split separator (trim t)).map trim = (split separator t).map trim := by
  have front : (split separator (trimStart t)).map trim = (split separator t).map trim := by
    induction t with
    | nil => rfl
    | cons c rest ih =>
      rw [trimStart_cons]
      split
      · rename_i blank
        have same : ∀ part, trim (c :: part) = trim part := fun part => by
          rw [trim,trimStart_cons,if_pos blank]
          rfl
        rw [ih,split,clean c blank]
        cases parts : split separator rest with
        | nil => exact absurd parts (split_some separator rest)
        | cons first others => simp [joinHead,same]
      · rfl
  obtain ⟨tail,parts,blank⟩ := trimStart_split t
  obtain ⟨before,last,whole,longer⟩ :=
    split_ending (fun c member => clean c (List.all_eq_true.mp blank c member)) (trim t)
  have ending : trim (last ++ tail) = trim last := by
    rw [← trimStart_trimEnd,trimEnd_blank blank,trimStart_trimEnd]
  rw [← front,parts,whole,longer,List.map_append,List.map_append,List.map_singleton,List.map_singleton,ending]

end ScenarioLang.Text
