import Mathlib.Logic.Function.Iterate
import ScenarioLang.Proofs.Line.Item
import ScenarioLang.Proofs.Text.Comment
import ScenarioLang.Proofs.Text.Split

namespace ScenarioLang.Line
open Text

structure IsRow (t : Text) : Prop where
  first : t.head? = some '|'
  last : t.getLast? = some '|'
  bars : 2 ≤ t.countP isBar

variable {row : Text} {entries : List Text}

theorem touchingAfter_ne_zero (t : Text) (afterBar : Bool) :
    touchingAfter afterBar t ≠ 0 ↔ (afterBar = true ∧ t.head? = some '|') ∨ ['|','|'] <:+: t := by
  induction t generalizing afterBar with
  | nil => simp [touchingAfter]
  | cons c rest ih =>
    have pair : ['|','|'] <+: c :: rest ↔ isBar c = true ∧ rest.head? = some '|' := by
      cases rest <;> simp [isBar,eq_comm]
    have own : (if afterBar && isBar c then 1 else 0) ≠ 0 ↔ afterBar = true ∧ isBar c = true := by simp
    have head : (c :: rest).head? = some '|' ↔ isBar c = true := by simp [isBar]
    rw [touchingAfter,List.infix_cons_iff,pair,head,← ih,← own]
    omega

theorem touching_ne_zero (t : Text) : touching t ≠ 0 ↔ ['|','|'] <:+: t := by
  simp [touching,touchingAfter_ne_zero]

-- The loop spreads touching bars as often as there are some, and then it ends.
theorem separated_rounds (row : Text) : ∃ rounds ≤ touching row, separated row = spread^[rounds] row ∧
    (∀ earlier < rounds, ['|','|'] <:+: spread^[earlier] row) ∧ ¬['|','|'] <:+: separated row := by
  induction row using separated.induct with
  | case1 row done =>
    refine ⟨0,Nat.zero_le _,?_,nofun,?_⟩
    · rw [separated,if_pos done]
      rfl
    · rw [separated,if_pos done,← touching_ne_zero]
      exact not_not_intro done
  | case2 row pair ih =>
    obtain ⟨rounds,bound,reached,busy,done⟩ := ih
    have next : separated row = separated (spread row) := by rw [separated,if_neg pair]
    refine ⟨rounds + 1,?_,next.trans reached,?_,next ▸ done⟩
    · have := touching_spread_lt row pair
      omega
    · intro earlier before
      cases earlier with
      | zero => exact (touching_ne_zero row).mp pair
      | succ earlier => exact busy earlier (by omega)

theorem getLast?_spread (t : Text) : (spread t).getLast? = t.getLast? := by
  fun_induction spread t with
  | case1 rest ih => simp only [List.getLast?_cons,ih,Option.getD_some]
  | case2 c rest _ ih => rw [List.getLast?_cons,List.getLast?_cons,ih]
  | case3 => rfl

theorem countP_spread (t : Text) : (spread t).countP isBar = t.countP isBar := by
  fun_induction spread t with
  | case1 rest ih => simpa [isBar] using ih
  | case2 c rest _ ih => rw [List.countP_cons,List.countP_cons,ih]
  | case3 => rfl

theorem IsRow.spreads (whole : IsRow row) : IsRow (spread row) :=
  ⟨(head?_spread row).trans whole.first,(getLast?_spread row).trans whole.last,
    (countP_spread row).symm ▸ whole.bars⟩

def Spaced (written cell : Text) : Prop := cell = written ∨ written = [] ∧ cell = [' ']

theorem Spaced.trims {written cell : Text} (spaced : Spaced written cell) : trim cell = trim written := by
  rcases spaced with rfl | ⟨rfl,rfl⟩
  · rfl
  · decide

theorem split_spread (t : Text) : ∃ first others spaced, split isBar t = first :: others ∧
    split isBar (spread t) = first :: spaced ∧ List.Forall₂ Spaced others spaced := by
  fun_induction spread t with
  | case1 rest ih =>
    obtain ⟨first,others,spaced,whole,wider,same⟩ := ih
    refine ⟨[],[] :: first :: others,[' '] :: first :: spaced,?_,?_,.cons (.inr ⟨rfl,rfl⟩) (.cons (.inl rfl) same)⟩
    · simp [split,isBar,whole]
    · simp [split,isBar,joinHead,wider]
  | case2 c rest _ ih =>
    obtain ⟨first,others,spaced,whole,wider,same⟩ := ih
    rw [split,split,whole,wider]
    split
    · exact ⟨[],_,_,rfl,rfl,.cons (.inl rfl) same⟩
    · exact ⟨c :: first,others,spaced,rfl,rfl,same⟩
  | case3 => exact ⟨[],[],[],rfl,rfl,.nil⟩

theorem split_spread_trim (t : Text) : (split isBar (spread t)).map trim = (split isBar t).map trim := by
  obtain ⟨first,others,spaced,whole,wider,same⟩ := split_spread t
  have trimmed : spaced.map trim = others.map trim := by
    clear whole wider
    induction same with
    | nil => rfl
    | cons one _ ih => rw [List.map_cons,List.map_cons,one.trims,ih]
  rw [whole,wider,List.map_cons,List.map_cons,trimmed]

theorem IsRow.separates (whole : IsRow row) : IsRow (separated row) ∧
    (split isBar (separated row)).map trim = (split isBar row).map trim := by
  induction row using separated.induct with
  | case1 row done =>
    rw [separated,if_pos done]
    exact ⟨whole,rfl⟩
  | case2 row pair ih =>
    rw [separated,if_neg pair,← split_spread_trim row]
    exact ih whole.spreads

theorem IsRow.inner (whole : IsRow row) : row = '|' :: ((row.drop 1).dropLast ++ ['|']) := by
  obtain ⟨rest,rfl⟩ := List.head?_eq_some_iff.mp whole.first
  obtain ⟨front,last⟩ := List.getLast?_eq_some_iff.mp whole.last
  cases front with
  | nil =>
    have bars := whole.bars
    rw [last] at bars
    exact absurd bars (by decide)
  | cons c front =>
    obtain ⟨rfl,behind⟩ := List.cons.inj last
    have parts : rest = front ++ ['|'] := behind
    rw [parts,List.drop_one,List.tail_cons,List.dropLast_concat]

theorem IsRow.splits (whole : IsRow row) :
    split isBar row = [] :: (split isBar (row.drop 1).dropLast ++ [[]]) := by
  calc split isBar row
    _ = split isBar ('|' :: ((row.drop 1).dropLast ++ ['|'])) := congrArg _ whole.inner
    _ = [] :: split isBar ((row.drop 1).dropLast ++ ['|']) := split_append (t := []) nofun rfl
    _ = [] :: (split isBar (row.drop 1).dropLast ++ [[]]) := congrArg _ (split_around rfl _ [])

-- Nothing of the spreading is left once the cells are trimmed.
theorem IsRow.cells_eq (whole : IsRow row) : cells row = (split isBar (row.drop 1).dropLast).map trim := by
  obtain ⟨wider,same⟩ := whole.separates
  rw [whole.splits,wider.splits,List.map_cons,List.map_cons,List.map_append,List.map_append] at same
  exact List.append_cancel_right (List.cons.inj same).2

theorem IsRow.length_cells (whole : IsRow row) : (cells row).length + 1 = row.countP isBar := by
  have parts := length_split isBar row
  rw [whole.splits,List.length_cons,List.length_append,List.length_singleton] at parts
  rw [whole.cells_eq,List.length_map]
  omega

theorem IsRow.trimmed (whole : IsRow row) : trim row = row := by
  have bar : Unicode.isBlank '|' = false := by decide
  rw [whole.inner,trim_solid bar,trimEnd_ends bar]

def rowText (entries : List Text) : Text := '|' :: entries.flatMap fun entry => ' ' :: (entry ++ [' ','|'])

theorem split_rowText (bare : ∀ entry ∈ entries, '|' ∉ entry) :
    split isBar (rowText entries) = [] :: ((entries.map fun entry => ' ' :: (entry ++ [' '])) ++ [[]]) := by
  have first : split isBar (rowText entries) = [] :: _ := split_append (t := []) nofun rfl
  rw [first]
  congr 1
  clear first
  induction entries with
  | nil => rfl
  | cons entry rest ih =>
    obtain ⟨own,others⟩ := List.forall_mem_cons.mp bare
    have clean : ∀ c ∈ ' ' :: (entry ++ [' ']), isBar c = false := by
      intro c member
      rw [isBar,decide_eq_false_iff_not]
      rintro rfl
      simp [own] at member
    have parts : (entry :: rest).flatMap (fun entry => ' ' :: (entry ++ [' ','|'])) =
        (' ' :: (entry ++ [' '])) ++ '|' :: rest.flatMap fun entry => ' ' :: (entry ++ [' ','|']) := by simp
    rw [parts,split_append clean rfl,ih others]
    rfl

theorem rowText_isRow (filled : entries ≠ []) (bare : ∀ entry ∈ entries, '|' ∉ entry) : IsRow (rowText entries) := by
  refine ⟨rfl,?_,?_⟩
  · obtain ⟨front,last,rfl⟩ := (List.eq_nil_or_concat' entries).resolve_left filled
    have ends : (' ' :: (last ++ [' ','|'])).getLast? = some '|' := by
      rw [List.getLast?_cons,List.getLast?_append]
      rfl
    rw [rowText,List.flatMap_append,List.flatMap_singleton,← List.cons_append,List.getLast?_append,ends]
    rfl
  · have parts := length_split isBar (rowText entries)
    have some := List.length_pos_iff.mpr filled
    rw [split_rowText bare] at parts
    simp only [List.length_cons,List.length_append,List.length_map,List.length_nil] at parts
    omega

theorem cells_rowText (filled : entries ≠ []) (trimmed : ∀ entry ∈ entries, trim entry = entry)
    (bare : ∀ entry ∈ entries, '|' ∉ entry) : cells (rowText entries) = entries := by
  have whole := rowText_isRow filled bare
  have parts := whole.splits.symm.trans (split_rowText bare)
  have unpadded : ∀ entry ∈ entries, (trim ∘ fun entry => ' ' :: (entry ++ [' '])) entry = id entry :=
    fun entry member => (trim_around ⟨[' '],space_blank⟩ ⟨[' '],space_blank⟩ entry).trans (trimmed entry member)
  rw [whole.cells_eq,List.append_cancel_right (List.cons.inj parts).2,List.map_map,List.map_congr_left unpadded,List.map_id]

theorem rowText_unsigned (plain : ∀ entry ∈ entries, '#' ∉ entry) : '#' ∉ rowText entries := by
  simp only [rowText,List.mem_cons,List.mem_flatMap,List.mem_append]
  rintro (sign | ⟨entry,member,space | inside | space | bar⟩)
  · cases sign
  · cases space
  · exact plain entry member inside
  · cases space
  · simp at bar

theorem readTableRow_iff {line : Text} {number : Nat} {reading : Reading} :
    readTableRow line number = some reading ↔ IsRow (trim (uncommented line)) ∧
      reading = .ofNode ⟨.tableRow,.ofContent line number,trim (uncommented line),
        .cells (cells (trim (uncommented line)))⟩ [] := by
  constructor
  · intro read
    simp only [readTableRow] at read
    split at read
    · rename_i row
      simp only [Bool.and_eq_true,decide_eq_true_eq] at row
      cases read
      exact ⟨⟨row.1.1,row.1.2,row.2⟩,rfl⟩
    · cases read
  · rintro ⟨whole,rfl⟩
    exact readTableRow_row whole.first whole.last whole.bars number

-- However bars may touch, the cells of a row are what stands between its bars, empty
-- ones in their places. Cells that are written between bars are read back, and rows are
-- the lines with two bars at least and one at each end.
theorem rows_keep_cells :
    (∀ row, IsRow row →
      (∃ rounds ≤ touching row, separated row = spread^[rounds] row ∧
        (∀ earlier < rounds, ['|','|'] <:+: spread^[earlier] row) ∧ ¬['|','|'] <:+: separated row) ∧
      cells row = (split isBar (row.drop 1).dropLast).map trim ∧ (cells row).length + 1 = row.countP isBar) ∧
    (∀ entries : List Text, entries ≠ [] → (∀ entry ∈ entries, trim entry = entry ∧ '|' ∉ entry ∧ '#' ∉ entry) →
      ∀ (before after : Blanks) (number : Nat),
        let line := before.1 ++ (rowText entries ++ after.1)
        readTableRow line number =
          some (.ofNode ⟨.tableRow,.ofContent line number,rowText entries,.cells entries⟩ [])) ∧
    ∀ (line : Text) (number : Nat),
      let content := trim (uncommented line)
      ((readTableRow line number).isSome = true ↔ IsRow content) ∧
      ∀ reading, readTableRow line number = some reading → reading =
        .ofNode ⟨.tableRow,.ofContent line number,content,.cells ((split isBar (content.drop 1).dropLast).map trim)⟩ [] := by
  refine ⟨fun row whole => ⟨separated_rounds row,whole.cells_eq,whole.length_cells⟩,?_,?_⟩
  · intro entries filled fit before after number line
    have bare : ∀ entry ∈ entries, '|' ∉ entry := fun entry member => (fit entry member).2.1
    have unsigned : '#' ∉ line := by
      simp only [line,List.mem_append,not_or]
      exact ⟨before.bare hash_solid,rowText_unsigned fun entry member => (fit entry member).2.2,after.bare hash_solid⟩
    have whole := rowText_isRow filled bare
    have content : trim (uncommented line) = rowText entries := by
      rw [uncommented_unsigned unsigned,trim_around]
      exact whole.trimmed
    have kept := cells_rowText filled (fun entry member => (fit entry member).1) bare
    rw [readTableRow_iff,content,kept]
    exact ⟨whole,rfl⟩
  · intro line number content
    constructor
    · rw [Option.isSome_iff_exists]
      exact ⟨fun ⟨_,read⟩ => (readTableRow_iff.mp read).1,fun whole => ⟨_,readTableRow_iff.mpr ⟨whole,rfl⟩⟩⟩
    · intro reading read
      obtain ⟨whole,same⟩ := readTableRow_iff.mp read
      rw [same,whole.cells_eq]

theorem rows_keep_cells_touching :
    cells "||||a b||".toList = ["".toList,"".toList,"".toList,"a b".toList,"".toList] ∧
    readTableRow "\t| \"a\" |  | @é, > |  ".toList 3 = some (.ofNode ⟨.tableRow,⟨3,2⟩,"| \"a\" |  | @é, > |".toList,
      .cells ["\"a\"".toList,[],"@é, >".toList]⟩ []) := by
  obtain ⟨between,back,_⟩ := rows_keep_cells
  constructor
  · rw [(between "||||a b||".toList ⟨by decide,by decide,by decide⟩).2.1]
    decide
  · exact back ["\"a\"".toList,[],"@é, >".toList] (by decide) (by decide) ⟨['\t'],by decide⟩
      ⟨"  ".toList,by decide⟩ 3

end ScenarioLang.Line
