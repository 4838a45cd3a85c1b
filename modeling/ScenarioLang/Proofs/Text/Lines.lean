import ScenarioLang.Proofs.Text
import ScenarioLang.Proofs.Text.Split

namespace ScenarioLang.Text

variable {t line : Text} {c : Char}

def returned (t : Text) : Text := t.flatMap fun c => if c = '\n' then ['\r','\n'] else [c]

theorem returned_other (other : c ≠ '\n') (t : Text) : returned (c :: t) = c :: returned t := by
  rw [returned,List.flatMap_cons,if_neg other]
  rfl

theorem dropReturn_plain (plain : '\r' ∉ line) : dropReturn line = line :=
  if_neg fun last => plain (List.mem_of_getLast? last)

theorem dropReturn_cons (other : c ≠ '\r') (line : Text) : dropReturn (c :: line) = c :: dropReturn line := by
  cases line with
  | nil => exact if_neg (by simpa using other)
  | cons d rest =>
    simp only [dropReturn,List.getLast?_cons_cons,List.dropLast_cons_cons]
    split <;> rfl

theorem map_joinHead {change : Text → Text} (parts : List Text) (nothing : change [] = [])
    (inside : ∀ part, change (c :: part) = c :: change part) :
    (joinHead c parts).map change = joinHead c (parts.map change) := by
  cases parts with
  | nil => simp [joinHead,inside,nothing]
  | cons first others => simp [joinHead,inside]

theorem cut_other {first : Char} {separator : Text} (other : c ≠ first) (t : Text) :
    cut (first :: separator) (c :: t) = joinHead c (cut (first :: separator) t) := by
  rw [cut,cutAfter,after,if_neg (Ne.symm other)]
  rfl

theorem cut_feeds (t : Text) : cut ['\n'] t = split (· = '\n') t := by
  induction t with
  | nil => rfl
  | cons c rest ih =>
    by_cases feed : c = '\n'
    · subst feed
      exact congrArg ([] :: ·) ih
    · rw [cut_other feed,ih,split,if_neg (by simpa using feed)]

theorem cut_returns (plain : '\r' ∉ t) : cut ['\r','\n'] (returned t) = split (· = '\n') t := by
  induction t with
  | nil => rfl
  | cons c rest ih =>
    obtain ⟨other,later⟩ := List.ne_and_not_mem_of_not_mem_cons plain
    by_cases feed : c = '\n'
    · subst feed
      exact congrArg ([] :: ·) (ih later)
    · rw [returned_other feed,cut_other (Ne.symm other),ih later,split,if_neg (by simpa using feed)]

theorem split_returned (plain : '\r' ∉ t) :
    (split (· = '\n') (returned t)).map dropReturn = split (· = '\n') t := by
  induction t with
  | nil => rfl
  | cons c rest ih =>
    obtain ⟨other,later⟩ := List.ne_and_not_mem_of_not_mem_cons plain
    by_cases feed : c = '\n'
    · subst feed
      exact congrArg ([] :: ·) (ih later)
    · rw [returned_other feed,split,split,if_neg (by simpa using feed),if_neg (by simpa using feed),← ih later]
      exact map_joinHead _ rfl (dropReturn_cons (Ne.symm other))

theorem split_plain (plain : '\r' ∉ t) : (split (· = '\n') t).map dropReturn = split (· = '\n') t := by
  have each : ∀ part ∈ split (· = '\n') t, dropReturn part = id part := fun part member =>
    dropReturn_plain fun inside => plain (split_subset member inside)
  rw [List.map_congr_left each,List.map_id]

theorem split_last {separator : Char → Bool} {front : List Text} {last : Text}
    (parts : split separator t = front ++ [last]) : last <:+ t ∧ (front = [] → last = t) := by
  induction t generalizing front last with
  | nil =>
    cases front with
    | nil => cases parts; exact ⟨List.suffix_refl _,fun _ => rfl⟩
    | cons first others => cases others <;> cases parts
  | cons c rest ih =>
    rw [split] at parts
    split at parts
    · cases front with
      | nil => exact absurd (List.cons.inj parts).2 (split_some separator rest)
      | cons first others =>
        exact ⟨(ih (List.cons.inj parts).2).1.trans (List.suffix_cons c rest),fun none => by cases none⟩
    · cases tails : split separator rest with
      | nil => exact absurd tails (split_some separator rest)
      | cons first others =>
        rw [tails] at parts
        cases front with
        | nil =>
          obtain ⟨rfl,rfl⟩ := List.cons.inj parts
          have parted : split separator rest = [] ++ [first] := tails
          have whole : c :: first = c :: rest := congrArg (c :: ·) ((ih parted).2 rfl)
          exact ⟨whole ▸ List.suffix_refl _,fun _ => whole⟩
        | cons head front =>
          obtain ⟨_,rfl⟩ := List.cons.inj parts
          have parted : split separator rest = (first :: front) ++ [last] := tails
          exact ⟨(ih parted).1.trans (List.suffix_cons c rest),fun none => by cases none⟩

-- Lines that are parted by line feeds, against lines that are ended by them: a text that
-- ends in a line feed, or has nothing in it, has an empty line more.
theorem lines_parted (unreturned : t.getLast? ≠ some '\r') :
    (split (· = '\n') t).map dropReturn = lines t ∨ (split (· = '\n') t).map dropReturn = lines t ++ [[]] := by
  obtain ⟨front,last,parts⟩ : ∃ front last, split (· = '\n') t = front ++ [last] :=
    ⟨_,_,(List.dropLast_concat_getLast (split_some (· = '\n') t)).symm⟩
  obtain ⟨⟨before,whole⟩,_⟩ := split_last parts
  simp only [lines,parts,List.dropLast_concat,List.getLast?_concat,List.map_append,List.map_singleton]
  cases last with
  | nil => exact .inr rfl
  | cons c rest =>
    have kept : dropReturn (c :: rest) = c :: rest := by
      refine if_neg fun last => unreturned ?_
      rw [← whole,List.getLast?_append_of_ne_nil _ (List.cons_ne_nil c rest)]
      exact last
    exact .inl (by rw [kept]; rfl)

end ScenarioLang.Text
