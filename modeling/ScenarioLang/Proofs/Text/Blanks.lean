import ScenarioLang.Proofs.Text

namespace ScenarioLang.Text
open Unicode

variable {t tail : Text} {c : Char}

theorem hash_solid : isBlank '#' = false := by decide

theorem dash_solid : isBlank '-' = false := by decide

theorem colon_solid : isBlank ':' = false := by decide

theorem space_blank : allBlank [' '] = true := by decide

theorem trimEnd_split (t : Text) : ∃ tail, t = trimEnd t ++ tail ∧ tail.allBlank = true := by
  have parts := List.takeWhile_append_dropWhile (p := isBlank) (l := t.reverse)
  refine ⟨(t.reverse.takeWhile isBlank).reverse,?_,?_⟩
  · rw [trimEnd,← List.reverse_append,parts,List.reverse_reverse]
  · rw [allBlank,List.all_reverse]
    exact List.all_takeWhile

theorem trimStart_split (t : Text) : ∃ tail, trimStart t = trim t ++ tail ∧ tail.allBlank = true :=
  trimEnd_split (trimStart t)

theorem trimEnd_blank (blank : tail.allBlank = true) (t : Text) : trimEnd (t ++ tail) = trimEnd t := by
  have turned : ∀ c ∈ tail.reverse, isBlank c = true := fun c member =>
    List.all_eq_true.mp blank c (List.mem_reverse.mp member)
  rw [trimEnd,List.reverse_append,List.dropWhile_append_of_pos turned]
  rfl

theorem trimStart_blank (blank : tail.allBlank = true) (t : Text) : trimStart (tail ++ t) = trimStart t :=
  List.dropWhile_append_of_pos (List.all_eq_true.mp blank)

theorem trimEnd_behind (solid : isBlank c = false) (s t : Text) : trimEnd (s ++ c :: t) = s ++ trimEnd (c :: t) := by
  induction s with
  | nil => rfl
  | cons d s ih =>
    have some : s ++ trimEnd (c :: t) ≠ [] := by
      rw [trimEnd_solid solid]
      exact List.append_ne_nil_of_right_ne_nil s (List.cons_ne_nil _ _)
    rw [List.cons_append,trimEnd_cons,ih,if_neg some]
    rfl

theorem trim_end (solid : isBlank c = false) (blank : tail.allBlank = true) {s rest : Text}
    (whole : trim t = s ++ c :: rest) : trim (c :: rest ++ tail) = c :: rest := by
  have twice : trimEnd (trim t) = trim t := List.rdropWhile_idempotent isBlank _
  have kept : trimEnd (c :: rest) = c :: rest := by
    rw [whole,trimEnd_behind solid] at twice
    exact List.append_cancel_left twice
  calc trim (c :: rest ++ tail)
    _ = c :: trimEnd (rest ++ tail) := trim_solid solid _
    _ = c :: trimEnd rest := by rw [trimEnd_blank blank]
    _ = trimEnd (c :: rest) := (trimEnd_solid solid _).symm
    _ = c :: rest := kept

def Blanks := { t : Text // t.allBlank = true }

theorem Blanks.bare (blanks : Blanks) (solid : isBlank c = false) : c ∉ blanks.1 := by
  intro member
  rw [List.all_eq_true.mp blanks.2 c member] at solid
  cases solid

theorem blanks_ahead (t : Text) : ∃ blanks : Blanks, t = blanks.1 ++ trimStart t :=
  ⟨⟨t.takeWhile isBlank,List.all_takeWhile⟩,List.takeWhile_append_dropWhile.symm⟩

theorem Blanks.indents (blanks : Blanks) (solid : isBlank c = false) (t : Text) :
    trimStart (blanks.1 ++ c :: t) = c :: t ∧ indent (blanks.1 ++ c :: t) = blanks.1.length := by
  constructor
  · exact (trimStart_blank blanks.2 _).trans (trimStart_stays solid t)
  · rw [indent,List.takeWhile_append_of_pos (List.all_eq_true.mp blanks.2),List.takeWhile_cons_of_neg (by simp [solid]),
      List.append_nil]

theorem trimEnd_ends (solid : isBlank c = false) (t : Text) : trimEnd (t ++ [c]) = t ++ [c] := by
  rw [trimEnd_behind solid,trimEnd_solid solid]
  rfl

theorem trim_ends {d : Char} (first : t.head? = some c) (solid : isBlank c = false) (last : t.getLast? = some d)
    (also : isBlank d = false) : trim t = t := by
  obtain ⟨rest,rfl⟩ := List.head?_eq_some_iff.mp first
  obtain ⟨front,ending⟩ := List.getLast?_eq_some_iff.mp last
  rw [trim,trimStart_stays solid,ending]
  exact trimEnd_ends also front

theorem cut_run {kind : Char → Bool} {rest : Text} (inside : ∀ c ∈ t, kind c = true)
    (apart : ∀ c, rest.head? = some c → kind c = false) :
    (t ++ rest).takeWhile kind = t ∧ (t ++ rest).dropWhile kind = rest := by
  rw [List.takeWhile_append_of_pos inside,List.dropWhile_append_of_pos inside]
  cases rest with
  | nil => exact ⟨List.append_nil t,rfl⟩
  | cons c rest => simp [apart c rfl]

theorem Blanks.head_apart {kind : Char → Bool} (blanks : Blanks) (rest : Text)
    (solid : ∀ c, kind c = true → isBlank c = false) (apart : ∀ c, rest.head? = some c → kind c = false) :
    ∀ c, (blanks.1 ++ rest).head? = some c → kind c = false := by
  intro c head
  obtain ⟨blanks,blank⟩ := blanks
  cases blanks with
  | nil => exact apart c head
  | cons d others =>
    obtain rfl := Option.some.inj head
    rw [← Bool.not_eq_true]
    intro own
    have filled := solid d own
    rw [List.all_eq_true.mp blank d List.mem_cons_self] at filled
    cases filled

def Gap := { t : Text // t.allBlank = true ∧ '\n' ∉ t }

def Gap.blanks (gap : Gap) : Blanks := ⟨gap.1,gap.2.1⟩

theorem Gap.unsigned (gap : Gap) : '#' ∉ gap.1 := gap.blanks.bare hash_solid

theorem trim_around (before after : Blanks) (t : Text) : trim (before.1 ++ (t ++ after.1)) = trim t := by
  calc trim (before.1 ++ (t ++ after.1))
    _ = trim (t ++ after.1) := congrArg trimEnd (trimStart_blank before.2 _)
    _ = trimStart (trimEnd (t ++ after.1)) := (trimStart_trimEnd _).symm
    _ = trimStart (trimEnd t) := congrArg trimStart (trimEnd_blank after.2 t)
    _ = trim t := trimStart_trimEnd t

theorem trimStart_append (filled : trimStart t ≠ []) (more : Text) : trimStart (t ++ more) = trimStart t ++ more := by
  have some : ¬(t.dropWhile isBlank).isEmpty = true := fun none => filled (List.isEmpty_iff.mp none)
  rw [trimStart,List.dropWhile_append,if_neg some]
  rfl

end ScenarioLang.Text
