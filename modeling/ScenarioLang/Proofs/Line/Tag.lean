import ScenarioLang.Proofs.Line.Location
import ScenarioLang.Proofs.Text.Comment
import ScenarioLang.Proofs.Text.Split
import ScenarioLang.Proofs.Unicode.Lowercase

namespace ScenarioLang.Line
open Text Unicode

variable {t name inner value : Text} {listed : List Text} {c : Char}

def isTagName : Text → Bool
  | [] => false
  | c :: rest => isLetter c && rest.all isTagChar

inductive TagForm : Text → Prop where
  | bare {name : Text} (blanks : Blanks) : isTagName name = true → TagForm (name ++ blanks.1)
  | listed {name inner : Text} (blanks : Blanks) : isTagName name = true → '\n' ∉ inner →
      TagForm (name ++ (blanks.1 ++ '(' :: (inner ++ [')'])))

def IsWhole (t : Text) : Prop := ¬[' ','@'] <:+: t

instance : Decidable (IsWhole t) := inferInstanceAs (Decidable (¬_))

structure IsTagValue (value : Text) : Prop where
  trimmed : trim value = value
  comma : ',' ∉ value
  sign : '#' ∉ value
  single : '\n' ∉ value
  whole : IsWhole value
  plain : value.head? ≠ some '@'

instance : Decidable (IsTagValue t) :=
  decidable_of_iff (trim t = t ∧ ',' ∉ t ∧ '#' ∉ t ∧ '\n' ∉ t ∧ IsWhole t ∧ t.head? ≠ some '@')
    ⟨fun ⟨trimmed,comma,sign,single,whole,plain⟩ => ⟨trimmed,comma,sign,single,whole,plain⟩,
      fun value => ⟨value.trimmed,value.comma,value.sign,value.single,value.whole,value.plain⟩⟩

-- A tag as it is written, or what stands in its place behind an at sign.
inductive Written where
  | tag (name : Text) (values : Option (List Text))
  | junk (body : Text)
  deriving DecidableEq, Repr

namespace Written

def body : Written → Text
  | tag name none => name
  | tag name (some values) => name ++ '(' :: ([',',' '].intercalate values ++ [')'])
  | junk body => body

def text (piece : Written) : Text := '@' :: piece.body

-- The list of one empty value is written as the list of none.
def Valid : Written → Prop
  | tag name values => isTagName name = true ∧
      ∀ listed ∈ values, listed ≠ [[]] ∧ ∀ value ∈ listed, IsTagValue value
  | junk body => IsWhole ('@' :: body) ∧ '#' ∉ body ∧ '\n' ∉ body ∧ ¬TagForm (trim body)

def node? (reserved : List TagNames) (location : Location) : Written → Option Node
  | tag name values => some ⟨.tag,location,(tag name values).text,.tag name (tagMeaning reserved name) values⟩
  | junk _ => none

def error? (location : Location) : Written → Option LexicalError
  | tag _ _ => none
  | junk body => some ⟨.invalidTag (trim (junk body).text),location⟩

end Written

def standing : Nat → List Written → List (Nat × Written)
  | _,[] => []
  | column,piece :: rest => (column,piece) :: standing (column + piece.text.length + 1) rest

theorem tagMeaning_first (dictionary : Dictionary) (name : Text) :
    tagMeaning (TagMeaning.all.map (.ofDictionary dictionary)) name =
      TagMeaning.all.find? (hasMeaning (fun meaning => dictionary.words (.tag meaning)) name) := by
  have own : ∀ meaning, (TagNames.ofDictionary dictionary meaning).holds name =
      hasMeaning (fun meaning => dictionary.words (.tag meaning)) name meaning := fun _ => rfl
  have named : TagNames.meaning ∘ TagNames.ofDictionary dictionary = id := rfl
  rw [tagMeaning,List.find?_map,Option.map_map,named,Option.map_id,id]
  exact congrArg (fun test => TagMeaning.all.find? test) (funext own)

theorem tagChar_solid (own : isTagChar c = true) : isBlank c = false ∧ c ≠ '(' := by
  have signs : isBlank '_' = false ∧ isBlank '-' = false ∧ isTagChar '(' = false := by decide
  constructor
  · simp only [isTagChar,Bool.or_eq_true,decide_eq_true_eq] at own
    rcases own with ((letter | digit) | rfl) | rfl
    · exact Ranges.holds_apart letter (by decide +kernel)
    · exact Ranges.holds_apart digit (by decide)
    · exact signs.1
    · exact signs.2.1
  · rintro rfl
    rw [signs.2.2] at own
    cases own

theorem tagName_chars (named : isTagName name = true) : ∀ c ∈ name, isTagChar c = true := by
  cases name with
  | nil => cases named
  | cons first rest =>
    obtain ⟨letter,others⟩ := Bool.and_eq_true_iff.mp named
    have own : isTagChar first = true := by simp [isTagChar,letter]
    exact List.forall_mem_cons.mpr ⟨own,List.all_eq_true.mp others⟩

theorem tagName_filled (named : isTagName name = true) : ∃ c rest, name = c :: rest ∧ isLetter c = true := by
  cases name with
  | nil => cases named
  | cons first rest => exact ⟨first,rest,rfl,(Bool.and_eq_true_iff.mp named).1⟩

theorem tagParts_bare (named : isTagName name = true) (blanks : Blanks) :
    tagParts (name ++ blanks.1) = some (name,none) := by
  have apart := blanks.head_apart [] (fun _ own => (tagChar_solid own).1) nofun
  rw [List.append_nil] at apart
  obtain ⟨taken,left⟩ := cut_run (tagName_chars named) apart
  obtain ⟨c,rest,rfl,letter⟩ := tagName_filled named
  have none : trimStart blanks.1 = [] := trimStart_nil_iff.mpr blanks.2
  rw [List.cons_append] at taken left ⊢
  simp only [tagParts,taken,left,none,letter]
  rfl

theorem tagParts_listed (named : isTagName name = true) (blanks : Blanks) (single : '\n' ∉ inner) :
    tagParts (name ++ (blanks.1 ++ '(' :: (inner ++ [')']))) = some (name,some (tagValues inner)) := by
  have open_ : isTagChar '(' = false ∧ isBlank '(' = false := by decide
  have apart := blanks.head_apart ('(' :: (inner ++ [')'])) (fun _ own => (tagChar_solid own).1)
    fun c head => Option.some.inj head ▸ open_.1
  obtain ⟨taken,left⟩ := cut_run (tagName_chars named) apart
  obtain ⟨c,rest,rfl,letter⟩ := tagName_filled named
  have start : trimStart (blanks.1 ++ '(' :: (inner ++ [')'])) = '(' :: (inner ++ [')']) :=
    (trimStart_blank blanks.2 _).trans (trimStart_stays open_.2 _)
  have clean : oneLine inner = some inner := by
    rw [oneLine,List.contains_eq_mem,decide_eq_false single]
    rfl
  rw [List.cons_append] at taken left ⊢
  simp [tagParts,taken,left,start,letter,clean]

theorem tagParts_form (found : (tagParts t).isSome = true) : TagForm t := by
  cases t with
  | nil => cases found
  | cons c rest =>
    simp only [tagParts] at found
    split at found
    · cases found
    · rename_i other
      have letter : isLetter c = true := by simpa using other
      have own : isTagChar c = true := by simp [isTagChar,letter]
      have whole := (List.takeWhile_append_dropWhile (p := isTagChar) (l := c :: rest)).symm
      have named : isTagName ((c :: rest).takeWhile isTagChar) = true := by
        rw [List.takeWhile_cons_of_pos own]
        exact Bool.and_eq_true_iff.mpr ⟨letter,List.all_takeWhile⟩
      obtain ⟨blanks,behind⟩ := blanks_ahead ((c :: rest).dropWhile isTagChar)
      split at found
      · rename_i none
        rw [whole,behind,none,List.append_nil]
        exact .bare blanks named
      · rename_i list start
        split at found
        · rename_i close
          obtain ⟨inner,rfl⟩ := List.getLast?_eq_some_iff.mp close
          rw [List.dropLast_concat,Option.isSome_map,oneLine,List.contains_eq_mem] at found
          have single : '\n' ∉ inner := by
            intro member
            simp [member] at found
          rw [whole,behind,start]
          exact .listed blanks named single
        · cases found
      · cases found

theorem tagParts_iff : (tagParts t).isSome = true ↔ TagForm t := by
  refine ⟨tagParts_form,?_⟩
  rintro (⟨blanks,named⟩ | ⟨blanks,named,single⟩)
  · rw [tagParts_bare named blanks]
    rfl
  · rw [tagParts_listed named blanks single]
    rfl

theorem whole_cons : IsWhole (c :: t) ↔ ¬(c = ' ' ∧ t.head? = some '@') ∧ IsWhole t := by
  have pair : [' ','@'] <+: c :: t ↔ c = ' ' ∧ t.head? = some '@' := by
    cases t <;> simp [eq_comm]
  rw [IsWhole,List.infix_cons_iff,pair,not_or,IsWhole]

theorem whole_append (whole : IsWhole t) {rest : Text} (also : IsWhole rest) (apart : rest.head? ≠ some '@') :
    IsWhole (t ++ rest) := by
  induction t with
  | nil => exact also
  | cons c t ih =>
    obtain ⟨own,behind⟩ := whole_cons.mp whole
    refine whole_cons.mpr ⟨?_,ih behind⟩
    cases t with
    | nil => exact fun pair => apart pair.2
    | cons => exact own

theorem whole_spaceless (spaceless : ' ' ∉ t) : IsWhole t := by
  rintro ⟨before,behind,rfl⟩
  simp at spaceless

-- Behind a comma and a space, a value that does not start with an at sign starts no tag.
theorem values_whole (fit : ∀ value ∈ listed, IsTagValue value) :
    IsWhole ([',',' '].intercalate listed) ∧ ([',',' '].intercalate listed).head? ≠ some '@' := by
  induction listed with
  | nil => exact ⟨whole_spaceless nofun,nofun⟩
  | cons value rest ih =>
    obtain ⟨own,others⟩ := List.forall_mem_cons.mp fit
    cases rest with
    | nil =>
      rw [List.intercalate_singleton]
      exact ⟨own.whole,own.plain⟩
    | cons next rest =>
      obtain ⟨whole,plain⟩ := ih others
      rw [List.intercalate_cons_cons,List.append_assoc]
      constructor
      · apply whole_append own.whole
        · exact whole_cons.mpr ⟨by simp,whole_cons.mpr ⟨fun pair => plain pair.2,whole⟩⟩
        · simp
      · cases value with
        | nil => simp
        | cons c value => exact own.plain

theorem values_spaced (value : Text) (others : List Text) :
    [',',' '].intercalate (value :: others) = [','].intercalate (value :: others.map (' ' :: ·)) := by
  induction others generalizing value with
  | nil => simp
  | cons next rest ih =>
    rw [List.map_cons,List.intercalate_cons_cons,List.intercalate_cons_cons,ih]
    cases rest <;> simp [List.intercalate_cons_cons]

theorem tagValues_listed (fit : ∀ value ∈ listed, IsTagValue value) (kept : listed ≠ [[]]) :
    tagValues ([',',' '].intercalate listed) = listed := by
  cases listed with
  | nil => rfl
  | cons value others =>
    have bare : ∀ part ∈ value :: others.map (' ' :: ·), ',' ∉ part := by
      obtain ⟨own,rest⟩ := List.forall_mem_cons.mp fit
      refine List.forall_mem_cons.mpr ⟨own.comma,List.forall_mem_map.mpr fun part member => ?_⟩
      simp [(rest part member).comma]
    have apart : ∀ c, isBlank c = true → decide (c = ',') = false := by
      intro c blank
      rw [decide_eq_false_iff_not]
      rintro rfl
      exact absurd blank (by decide)
    have parts : (split (· = ',') ([',',' '].intercalate (value :: others))).map trim = value :: others := by
      rw [values_spaced,split_intercalate (List.cons_ne_nil _ _) bare,List.map_cons,List.map_map]
      obtain ⟨own,rest⟩ := List.forall_mem_cons.mp fit
      have unspaced : ∀ part ∈ others, (trim ∘ (' ' :: ·)) part = id part := fun part member =>
        (congrArg trimEnd (trimStart_blank space_blank part)).trans (rest part member).trimmed
      rw [own.trimmed,List.map_congr_left unspaced,List.map_id]
    rw [← split_trim apart] at parts
    rw [tagValues]
    split
    · rename_i none
      rw [none] at parts
      exact absurd parts.symm kept
    · exact parts

instance : Decidable (TagForm t) := decidable_of_iff _ tagParts_iff

instance (piece : Written) : Decidable piece.Valid :=
  match piece with
  | .tag _ _ => inferInstanceAs (Decidable (_ ∧ _))
  | .junk _ => inferInstanceAs (Decidable (_ ∧ _))

namespace Written

variable {piece : Written}

theorem tag_unsigned {values : Option (List Text)} (valid : (tag name values).Valid) : '#' ∉ (tag name values).body := by
  have plain : '#' ∉ name := fun member => absurd (tagName_chars valid.1 '#' member) (by decide)
  cases values with
  | none => exact plain
  | some listed =>
    have inside : '#' ∉ [',',' '].intercalate listed := by
      intro member
      rcases mem_intercalate member with between | ⟨value,among,sign⟩
      · simp at between
      · exact ((valid.2 listed rfl).2 value among).sign sign
    simp [body,plain,inside]

theorem Valid.unsigned (valid : piece.Valid) : '#' ∉ piece.text := by
  rw [text,List.mem_cons,not_or]
  refine ⟨by decide,?_⟩
  cases piece with
  | tag => exact tag_unsigned valid
  | junk body => exact valid.2.1

theorem Valid.whole (valid : piece.Valid) : IsWhole piece.text := by
  cases piece with
  | junk body => exact valid.1
  | tag name values =>
    have spaceless : ' ' ∉ '@' :: name := by
      rw [List.mem_cons,not_or]
      exact ⟨by decide,fun member => absurd (tagName_chars valid.1 ' ' member) (by decide)⟩
    cases values with
    | none => exact whole_spaceless spaceless
    | some listed =>
      have inside := (values_whole (valid.2 listed rfl).2).1
      have close : IsWhole [')'] := whole_spaceless (by decide)
      have list : IsWhole ('(' :: ([',',' '].intercalate listed ++ [')'])) :=
        whole_cons.mpr ⟨by simp,whole_append inside close (by simp)⟩
      exact whole_append (whole_spaceless spaceless) list (by simp)

theorem at_solid : isBlank '@' = false := by decide

theorem tag_trimmed {values : Option (List Text)} (valid : (tag name values).Valid) :
    trim (tag name values).body = (tag name values).body ∧ trim (tag name values).text = (tag name values).text := by
  obtain ⟨c,rest,head,letter⟩ := tagName_filled valid.1
  have solid : isBlank c = false := (tagChar_solid (by simp [isTagChar,letter])).1
  have ends : ∃ d, (tag name values).body.getLast? = some d ∧ isBlank d = false := by
    cases values with
    | none =>
      have filled : name ≠ [] := head ▸ List.cons_ne_nil _ _
      exact ⟨name.getLast filled,List.getLast?_eq_some_getLast filled,
        (tagChar_solid (tagName_chars valid.1 _ (List.getLast_mem filled))).1⟩
    | some listed => exact ⟨')',by simp [body,List.getLast?_cons],by decide⟩
  obtain ⟨d,last,also⟩ := ends
  have first : (tag name values).body.head? = some c := by cases values <;> simp [body,head]
  refine ⟨trim_ends first solid last also,trim_ends rfl at_solid ?_ also⟩
  rw [text,List.getLast?_cons,last]
  rfl

theorem Valid.reads (valid : piece.Valid) (reserved : List TagNames) (location : Location) :
    (readTag reserved (trim piece.text) location).toOption = piece.node? reserved location ∧
    (match readTag reserved (trim piece.text) location with | .ok _ => none | .error error => some error) =
      piece.error? location := by
  cases piece with
  | junk body =>
    have sign : trim ('@' :: body) = '@' :: trimEnd body := trim_solid at_solid body
    have none : tagParts (trim (trimEnd body)) = none := by
      rw [← Option.not_isSome_iff_eq_none,tagParts_iff,trim_trimEnd]
      exact valid.2.2.2
    simp [readTag,text,Written.body,sign,none,node?,error?,Except.toOption]
  | tag name values =>
    obtain ⟨inside,outside⟩ := tag_trimmed valid
    have parts : tagParts (tag name values).body = some (name,values) := by
      cases values with
      | none => simpa [body] using tagParts_bare valid.1 ⟨[],rfl⟩
      | some listed =>
        obtain ⟨kept,fit⟩ := valid.2 listed rfl
        have single : '\n' ∉ [',',' '].intercalate listed := by
          intro member
          rcases mem_intercalate member with between | ⟨value,among,feed⟩
          · simp at between
          · exact (fit value among).single feed
        have taken := tagParts_listed valid.1 ⟨[],rfl⟩ single
        rwa [tagValues_listed fit kept] at taken
    rw [outside]
    simp [readTag,text,inside,parts,node?,error?,Except.toOption]

end Written

theorem tagPieces_cons {rest : Text} (apart : ¬(c = ' ' ∧ rest.head? = some '@')) :
    tagPieces (c :: rest) = joinHead c (tagPieces rest) := by
  rw [tagPieces]
  rintro behind rfl rfl
  exact apart ⟨rfl,rfl⟩

theorem tagPieces_whole (whole : IsWhole t) : tagPieces t = [t] := by
  induction t with
  | nil => rfl
  | cons c t ih =>
    obtain ⟨own,behind⟩ := whole_cons.mp whole
    rw [tagPieces_cons own,ih behind]
    rfl

theorem tagPieces_first (whole : IsWhole t) (rest : Text) :
    tagPieces (t ++ ' ' :: '@' :: rest) = t :: tagPieces ('@' :: rest) := by
  induction t with
  | nil =>
    rw [List.nil_append,tagPieces,tagPieces_cons (by simp)]
  | cons c t ih =>
    obtain ⟨own,behind⟩ := whole_cons.mp whole
    have apart : ¬(c = ' ' ∧ (t ++ ' ' :: '@' :: rest).head? = some '@') := by
      cases t with
      | nil => simp
      | cons => exact own
    rw [List.cons_append,tagPieces_cons apart,ih behind]
    rfl

def lineOf (pieces : List Written) : Text := [' '].intercalate (pieces.map Written.text)

variable {pieces : List Written}

theorem lineOf_single (piece : Written) : lineOf [piece] = piece.text := List.intercalate_singleton

theorem lineOf_cons (piece next : Written) (rest : List Written) :
    lineOf (piece :: next :: rest) = piece.text ++ ' ' :: lineOf (next :: rest) := by
  simp [lineOf,List.intercalate_cons_cons]

theorem lineOf_sign (some : pieces ≠ []) : ∃ rest, lineOf pieces = '@' :: rest := by
  cases pieces with
  | nil => exact absurd rfl some
  | cons piece rest =>
    cases rest with
    | nil => exact ⟨piece.body,lineOf_single piece⟩
    | cons next rest => exact ⟨_,lineOf_cons piece next rest⟩

theorem placed_standing (some : pieces ≠ []) (valid : ∀ piece ∈ pieces, piece.Valid) (column : Nat) :
    (placed column (tagPieces (trimEnd (lineOf pieces)))).map (fun (column,piece) => (column,trim piece)) =
      (standing column pieces).map fun (column,piece) => (column,trim piece.text) := by
  induction pieces generalizing column with
  | nil => exact absurd rfl some
  | cons piece rest ih =>
    obtain ⟨own,others⟩ := List.forall_mem_cons.mp valid
    cases rest with
    | nil =>
      have whole : IsWhole (trimEnd piece.text) := fun pair => own.whole (pair.trans (trimEnd_starts _).isInfix)
      rw [lineOf_single,tagPieces_whole whole]
      simp [placed,standing,trim_trimEnd]
    | cons next rest =>
      obtain ⟨behind,sign⟩ := lineOf_sign (List.cons_ne_nil next rest)
      have later := ih (List.cons_ne_nil _ _) others (column + piece.text.length + 1)
      rw [sign,trimEnd_solid Written.at_solid] at later
      have cut : trimEnd (lineOf (piece :: next :: rest)) = piece.text ++ ' ' :: '@' :: trimEnd behind := by
        rw [lineOf_cons,sign,List.append_cons,trimEnd_behind Written.at_solid,trimEnd_solid Written.at_solid]
        simp
      rw [cut,tagPieces_first own.whole,placed,List.map_cons,later]
      rfl

theorem standing_pieces (column : Nat) (pieces : List Written) : (standing column pieces).map Prod.snd = pieces := by
  induction pieces generalizing column with
  | nil => rfl
  | cons piece rest ih => rw [standing,List.map_cons,ih]

theorem standing_at {column start : Nat} {piece : Written} (member : (column,piece) ∈ standing start pieces) :
    start ≤ column ∧ piece.text <+: (lineOf pieces).drop (column - start) := by
  induction pieces generalizing start with
  | nil => cases member
  | cons first rest ih =>
    rcases List.mem_cons.mp member with same | later
    · cases same
      refine ⟨Nat.le_refl _,?_⟩
      rw [Nat.sub_self,List.drop_zero]
      cases rest with
      | nil => exact lineOf_single piece ▸ List.prefix_refl _
      | cons next rest =>
        rw [lineOf_cons]
        exact List.prefix_append _ _
    · obtain ⟨behind,found⟩ := ih later
      refine ⟨by omega,?_⟩
      cases rest with
      | nil => cases later
      | cons next rest =>
        have offset : column - start = first.text.length + (1 + (column - (start + first.text.length + 1))) := by omega
        rw [lineOf_cons,offset,← List.drop_drop,List.drop_left,Nat.add_comm 1,List.drop_succ_cons]
        exact found

theorem lineOf_unsigned (valid : ∀ piece ∈ pieces, piece.Valid) : '#' ∉ lineOf pieces := by
  intro member
  rcases mem_intercalate member with space | ⟨part,among,sign⟩
  · simp at space
  · obtain ⟨piece,own,rfl⟩ := List.mem_map.mp among
    exact (valid piece own).unsigned sign

-- A line of tags is read back tag by tag. What stands among them without the form of a
-- tag is reported at its own sign, and the other tags are read all the same.
theorem tags_read_back (reserved : List TagNames) (pieces : List Written) (some : pieces ≠ [])
    (valid : ∀ piece ∈ pieces, piece.Valid) (indent : Gap) (number : Nat) :
    let line := indent.1 ++ lineOf pieces
    let found := standing (indent.1.length + 1) pieces
    readTags reserved line number = .some
      ⟨found.filterMap fun (column,piece) => piece.node? reserved ⟨number,column⟩,
        found.filterMap fun (column,piece) => piece.error? ⟨number,column⟩,[]⟩ ∧
    found.map Prod.snd = pieces ∧
    ∀ column piece, (column,piece) ∈ found → piece.text <+: line.drop (column - 1) := by
  intro line found
  refine ⟨?_,standing_pieces _ _,?_⟩
  · obtain ⟨behind,sign⟩ := lineOf_sign some
    have unsigned : '#' ∉ line := by
      rw [List.mem_append,not_or]
      exact ⟨indent.unsigned,lineOf_unsigned valid⟩
    have content : trimEnd (uncommented line) = indent.1 ++ '@' :: trimEnd behind := by
      rw [uncommented_unsigned unsigned,show line = indent.1 ++ '@' :: behind from congrArg _ sign,
        trimEnd_behind Written.at_solid,trimEnd_solid Written.at_solid]
    have pairs := placed_standing some valid (indent.1.length + 1)
    rw [sign,trimEnd_solid Written.at_solid] at pairs
    have tags : (placed (indent.1.length + 1) (tagPieces ('@' :: trimEnd behind))).map
        (fun (column,piece) => readTag reserved (trim piece) ⟨number,column⟩) =
        found.map fun (column,piece) => readTag reserved (trim piece.text) ⟨number,column⟩ := by
      have read := congrArg (List.map fun (column,piece) => readTag reserved piece ⟨number,column⟩) pairs
      rwa [List.map_map,List.map_map] at read
    have own : ∀ entry ∈ found, entry.2.Valid := by
      intro entry member
      have among := List.mem_map_of_mem (f := Prod.snd) member
      rw [standing_pieces] at among
      exact valid entry.2 among
    obtain ⟨start,indents⟩ := indent.blanks.indents Written.at_solid (trimEnd behind)
    rw [Gap.blanks] at start indents
    simp only [readTags,content,start,indents,tags,List.filterMap_map]
    congr 2
    · exact List.filterMap_congr fun entry member => ((own entry member).reads reserved _).1
    · exact List.filterMap_congr fun entry member => ((own entry member).reads reserved _).2
  · intro column piece member
    obtain ⟨behind,starts⟩ := standing_at member
    have offset : column - 1 = indent.1.length + (column - (indent.1.length + 1)) := by omega
    rw [offset,← List.drop_drop,List.drop_left]
    exact starts

theorem tags_read_back_mixed : readTags [] "\t@one @x(a (b), , \"c\") @1bad  @é-2()".toList 3 =
    some ⟨[⟨.tag,⟨3,2⟩,"@one".toList,.tag "one".toList none none⟩,
      ⟨.tag,⟨3,7⟩,"@x(a (b), , \"c\")".toList,.tag "x".toList none (some ["a (b)".toList,[],"\"c\"".toList])⟩,
      ⟨.tag,⟨3,31⟩,"@é-2()".toList,.tag "é-2".toList none (some [])⟩],
      [⟨.invalidTag "@1bad".toList,⟨3,24⟩⟩],[]⟩ := by
  have read := tags_read_back [] [.tag "one".toList none,
    .tag "x".toList (some ["a (b)".toList,[],"\"c\"".toList]),.junk "1bad ".toList,.tag "é-2".toList (some [])]
    (by decide) (by decide) ⟨['\t'],by decide⟩ 3
  exact read.1.trans (by decide)

end ScenarioLang.Line
