import ScenarioLang.Proofs.Line
import ScenarioLang.Proofs.Text

namespace ScenarioLang
open Text

def Location.Before (first second : Location) : Prop :=
  first.line < second.line ∨ first.line = second.line ∧ first.column < second.column

structure Location.Points (text : Text) (number : Nat) (location : Location) : Prop where
  ofLine : location.line = number
  counted : 1 ≤ location.column
  solid : ∃ c, text[location.column - 1]? = some c ∧ Unicode.isBlank c = false

-- The content of a node stands in the line where the node says. It opens the line,
-- or it is a tag with its own at sign, first in the line or behind a space.
structure Node.Stands (text : Text) (number : Nat) (node : Node) : Prop where
  ofLine : node.location.line = number
  counted : 1 ≤ node.location.column
  filled : node.content ≠ []
  trimmed : node.content.trim = node.content
  written : node.content <+: text.drop (node.location.column - 1)
  opens : if node.type = .tag then node.content.head? = some '@' ∧
      (node.location.column = text.indent + 1 ∨ text[node.location.column - 2]? = some ' ')
    else node.location.column = text.indent + 1

def Line.separators (t : Text) : Nat := (t.zip t.tail).count (' ','@')

namespace Reading

structure Placed (line : Text) (number : Nat) (reading : Reading) : Prop where
  nodes : ∀ node ∈ reading.nodes, node.Stands line number
  order : reading.nodes.Pairwise fun first second => first.location.Before second.location
  errors : ∀ error ∈ reading.errors, error.location.Points line number
  warnings : ∀ warning ∈ reading.warnings, warning.location.Points line number

-- A tag line has a node or an error for each tag, any other line has one node.
def Counted (line : Text) (winner : Option NodeType) (reading : Reading) : Prop :=
  if winner = some .tag then
    reading.nodes.length + reading.errors.length = 1 + Line.separators (trim (uncommented line))
  else reading.nodes.length = 1

structure Whole (line : Text) (number : Nat) (reading : Reading) : Prop where
  node : ∃ node, reading.nodes = [node] ∧ node.type ≠ .tag ∧ node.location = .ofContent line number ∧
    node.content ≠ [] ∧ trim node.content = node.content ∧ node.content <+: trimStart line
  errors : ∀ error ∈ reading.errors, error.location = .ofContent line number
  warnings : ∀ warning ∈ reading.warnings, warning.location = .ofContent line number

end Reading

namespace Line

variable {line : Text} {number : Nat} {reading : Reading}

theorem ofContent_points (number : Nat) (filled : trimStart line ≠ []) :
    (Location.ofContent line number).Points line number := by
  obtain ⟨c,rest,start,solid⟩ := trimStart_filled filled
  exact ⟨rfl,Nat.le_add_left 1 _,c,at_indent start,solid⟩

end Line

theorem Node.Stands.points {line : Text} {number : Nat} {node : Node} (stands : node.Stands line number) :
    node.location.Points line number := by
  obtain ⟨c,rest,head,solid⟩ := trim_head (trimStart_of_trim (stands.trimmed.symm ▸ stands.filled))
  obtain ⟨behind,written⟩ := stands.written
  have found : (line.drop (node.location.column - 1))[0]? = some c := by
    rw [← written,← stands.trimmed,head]
    rfl
  rw [List.getElem?_drop] at found
  exact ⟨stands.ofLine,stands.counted,c,found,solid⟩

namespace Reading

variable {line : Text} {number : Nat} {reading : Reading}

theorem Whole.filled (whole : reading.Whole line number) : trimStart line ≠ [] := by
  obtain ⟨node,_,_,_,filled,_,starts⟩ := whole.node
  intro none
  rw [none] at starts
  exact filled (List.prefix_nil.mp starts)

theorem Whole.placed (whole : reading.Whole line number) : reading.Placed line number := by
  have points := Line.ofContent_points number whole.filled
  refine ⟨?_,?_,?_,?_⟩
  · obtain ⟨node,only,type,location,filled,trimmed,starts⟩ := whole.node
    intro other member
    rw [only] at member
    obtain rfl := List.mem_singleton.mp member
    rw [← drop_indent] at starts
    refine ⟨?_,?_,filled,trimmed,?_,?_⟩
    · rw [location]; rfl
    · rw [location]; exact Nat.le_add_left 1 _
    · rw [location]; exact starts
    · rw [if_neg type,location]; rfl
  · obtain ⟨node,only,_⟩ := whole.node
    rw [only]
    exact List.pairwise_singleton _ node
  · exact fun error member => whole.errors error member ▸ points
  · exact fun warning member => whole.warnings warning member ▸ points

theorem Whole.counted {type : NodeType} (whole : reading.Whole line number) (plain : type ≠ .tag) :
    reading.Counted line (some type) := by
  obtain ⟨node,only,_⟩ := whole.node
  rw [Counted,if_neg fun same => plain (Option.some.inj same),only]
  rfl

theorem whole_start {part : Text} {type : NodeType} {data : NodeData} {errors : List LexicalError}
    {warnings : List LexicalWarning} (plain : type ≠ .tag) (taken : part <+: line) (filled : trimStart part ≠ [])
    (faulty : ∀ error ∈ errors, error.location = .ofContent line number)
    (doubtful : ∀ warning ∈ warnings, warning.location = .ofContent line number) :
    Whole line number ⟨[⟨type,.ofContent line number,trim part,data⟩],errors,warnings⟩ := by
  obtain ⟨c,rest,head,_⟩ := trim_head filled
  have starts : trim part <+: trimStart line := (trim_starts part).trans (trimStart_start taken filled).1
  exact ⟨⟨_,rfl,plain,rfl,head ▸ List.cons_ne_nil c rest,trim_trim part,starts⟩,faulty,doubtful⟩

end Reading

namespace Line

variable {line : Text} {number : Nat} {reading : Reading}

theorem report_location {location : Location} {faults : List LexicalFault} :
    ∀ error ∈ report location faults, error.location = location := by
  intro error member
  obtain ⟨fault,_,rfl⟩ := List.mem_map.mp member
  rfl

theorem whole_uncommented {type : NodeType} {data : NodeData} (faults : List LexicalFault) (plain : type ≠ .tag)
    (filled : trimStart (uncommented line) ≠ []) :
    (Reading.ofNode ⟨type,.ofContent line number,trim (uncommented line),data⟩
      (report (.ofContent line number) faults)).Whole line number :=
  Reading.whole_start plain (uncommented_starts line) filled report_location (List.forall_mem_nil _)

theorem captured_filled {α : Type} {pattern : KeywordPattern} {t : Text} {accept : Text → Text → Option α} {value : α}
    (captured : pattern.captureWith t accept = some value) : t ≠ [] := by
  rw [KeywordPattern.captureWith_words] at captured
  obtain ⟨_,rest,_,shorter⟩ := Words.capture_shorter captured
  exact List.ne_nil_of_length_pos (Nat.zero_lt_of_lt shorter)

theorem readNamed_whole {type : NodeType} {pattern : KeywordPattern} (plain : type ≠ .tag)
    (read : readNamed type pattern line number = some reading) : reading.Whole line number := by
  obtain ⟨value,captured,made⟩ := Option.bind_eq_some_iff.mp read
  cases made
  exact whole_uncommented _ plain (captured_filled captured)

theorem readNumbered_whole {type : NodeType} {pattern : KeywordPattern} (plain : type ≠ .tag)
    (read : readNumbered type pattern line number = some reading) : reading.Whole line number := by
  obtain ⟨⟨digits,value⟩,captured,made⟩ := Option.bind_eq_some_iff.mp read
  cases made
  exact whole_uncommented _ plain (captured_filled captured)

theorem readBlock_whole {type : NodeType} {pattern : KeywordPattern} (plain : type ≠ .tag)
    (read : readBlock type pattern line number = some reading) : reading.Whole line number := by
  obtain ⟨value,captured,made⟩ := Option.bind_eq_some_iff.mp read
  cases made
  exact whole_uncommented _ plain (captured_filled captured)

theorem readImport_whole {pattern : KeywordPattern} (read : readImport pattern line number = some reading) :
    reading.Whole line number := by
  obtain ⟨written,captured,made⟩ := Option.bind_eq_some_iff.mp read
  cases made
  exact whole_uncommented _ (by decide) (captured_filled captured)

theorem readStep_whole {type : NodeType} {pattern : KeywordPattern} (plain : type ≠ .tag)
    (read : readStep type pattern line number = some reading) : reading.Whole line number := by
  obtain ⟨⟨keyword,value⟩,captured,made⟩ := Option.bind_eq_some_iff.mp read
  cases made
  refine Reading.whole_start plain (uncommented_starts line) (captured_filled captured) (List.forall_mem_nil _) ?_
  intro warning member
  split at member
  · rw [List.mem_singleton.mp member]
  · cases member

theorem readDefinition_whole {kind : DefinitionKind} {pattern : KeywordPattern}
    (read : readDefinition kind pattern line number = some reading) : reading.Whole line number := by
  obtain ⟨_,_,_,faults,start,rfl⟩ := readDefinition_reads read
  exact whole_uncommented faults (by simp) (start ▸ List.cons_ne_nil _ _)

theorem readItem_whole {type : NodeType} (plain : type ≠ .tag) (read : readItem type line number = some reading) :
    reading.Whole line number := by
  simp only [readItem] at read
  split at read
  · rename_i rest start
    obtain ⟨written,_,made⟩ := Option.bind_eq_some_iff.mp read
    cases made
    exact whole_uncommented _ plain (start ▸ List.cons_ne_nil _ _)
  · cases read

theorem readTableRow_whole (read : readTableRow line number = some reading) : reading.Whole line number := by
  simp only [readTableRow] at read
  split at read
  · rename_i row
    cases read
    have filled : trim (uncommented line) ≠ [] := by
      intro none
      simp [none] at row
    exact whole_uncommented [] (by decide) (trimStart_of_trim filled)
  · cases read

theorem readText_whole (read : readText line number = some reading) : reading.Whole line number := by
  simp only [readText] at read
  split at read
  · cases read
  · rename_i other
    cases read
    exact whole_uncommented [] (by decide) (trimStart_of_trim fun none => other (by simp [none]))

theorem delimiter_trimmed : trim delimiter = delimiter := by decide

theorem readDelimiter_whole (read : readDelimiter line number = some reading) : reading.Whole line number := by
  simp only [readDelimiter] at read
  obtain ⟨rest,start,read⟩ := Option.bind_eq_some_iff.mp read
  have starts : delimiter <+: trimStart line := after_append start ▸ List.prefix_append delimiter rest
  have whole : (Reading.ofNode ⟨.longString,.ofContent line number,delimiter,.empty⟩ []).Whole line number :=
    ⟨⟨_,rfl,by simp,rfl,List.cons_ne_nil _ _,delimiter_trimmed,starts⟩,List.forall_mem_nil _,List.forall_mem_nil _⟩
  split at read
  · cases read; exact whole
  · obtain ⟨_,_,made⟩ := Option.map_eq_some_iff.mp read
    cases made
    exact whole
  · cases read

theorem languageCode_length {t code rest : Text} (found : languageCode t = some (code,rest)) :
    rest.length ≤ t.length := by
  have shorter := List.length_dropWhile_le isCodeChar t
  simp only [languageCode] at found
  split at found
  · cases found
  · split at found
    · cases found; exact shorter
    · obtain ⟨_,_,same⟩ := Option.map_eq_some_iff.mp found
      cases same
      exact shorter
    · cases found

theorem length_trimStart_le (t : Text) : (trimStart t).length ≤ t.length := List.length_dropWhile_le _ t

-- All that is cut off a declaration stands behind its number sign.
theorem readLanguage_whole {pattern : KeywordPattern} (read : readLanguage pattern line number = some reading) :
    reading.Whole line number := by
  simp only [readLanguage,KeywordPattern.captureWith_words] at read
  split at read
  · rename_i declaration start
    obtain ⟨⟨code,rest⟩,captured,made⟩ := Option.bind_eq_some_iff.mp read
    cases made
    have cut : rest.length ≤ declaration.length := by
      obtain ⟨_,behind,accepted,shorter⟩ := Words.capture_shorter captured
      split at accepted
      · rename_i value colon
        have coded := languageCode_length accepted
        have value := length_trimStart_le value
        have behind := length_trimStart_le behind
        have declared := length_trimStart_le declaration
        rw [colon,List.length_cons] at behind
        omega
      · cases accepted
    have size : line.length - line.indent = declaration.length + 1 := by
      rw [← List.length_drop,drop_indent,start]
      rfl
    have kept : '#' ∈ line.take (line.length - rest.length) := by
      refine List.mem_of_getElem? (i := line.indent) ?_
      rw [List.getElem?_take_of_lt (by omega)]
      exact at_indent start
    exact Reading.whole_start (by decide) (List.take_prefix _ line) (trimStart_mem kept (by decide))
      (List.forall_mem_nil _) (List.forall_mem_nil _)
  · cases read

theorem joinHead_some (c : Char) {parts : List Text} (filled : parts ≠ []) :
    joinHead c parts = (c :: parts.head filled) :: parts.tail := by
  cases parts with
  | nil => exact absurd rfl filled
  | cons => rfl

theorem tagPieces_some (t : Text) : tagPieces t ≠ [] := by
  fun_cases tagPieces t with
  | case1 => exact List.cons_ne_nil _ _
  | case2 => exact List.cons_ne_nil _ _
  | case3 c rest => cases tagPieces rest <;> exact List.cons_ne_nil _ _

theorem intercalate_joinHead (c : Char) (separator : Text) {parts : List Text} (filled : parts ≠ []) :
    separator.intercalate (joinHead c parts) = c :: separator.intercalate parts := by
  cases parts with
  | nil => exact absurd rfl filled
  | cons first others =>
    cases others with
    | nil => simp [joinHead,List.intercalate_singleton]
    | cons => simp [joinHead,List.intercalate_cons_cons]

theorem tagPieces_joined (t : Text) : [' '].intercalate (tagPieces t) = t := by
  fun_induction tagPieces t with
  | case1 => rfl
  | case2 rest ih =>
    rw [joinHead_some '@' (tagPieces_some rest),List.intercalate_cons_cons,
      ← joinHead_some,intercalate_joinHead '@' _ (tagPieces_some rest),ih]
    rfl
  | case3 c rest _ ih => rw [intercalate_joinHead c _ (tagPieces_some rest),ih]

theorem tagPieces_marked (t : Text) : ∀ piece ∈ (tagPieces t).tail, piece.head? = some '@' := by
  fun_induction tagPieces t with
  | case1 => exact List.forall_mem_nil _
  | case2 rest ih =>
    intro piece member
    rw [List.tail_cons,joinHead_some '@' (tagPieces_some rest)] at member
    rcases List.mem_cons.mp member with rfl | later
    · rfl
    · exact ih piece later
  | case3 c rest _ ih =>
    rw [joinHead_some c (tagPieces_some rest)]
    exact ih

theorem separators_cons (c : Char) (rest : Text) :
    separators (c :: rest) = (if c = ' ' ∧ rest.head? = some '@' then 1 else 0) + separators rest := by
  cases rest with
  | nil => simp [separators]
  | cons d rest => simp [separators,List.count_cons,Nat.add_comm]

theorem length_joinHead (c : Char) {parts : List Text} (filled : parts ≠ []) :
    (joinHead c parts).length = parts.length := by
  cases parts with
  | nil => exact absurd rfl filled
  | cons => rfl

theorem length_tagPieces (t : Text) : (tagPieces t).length = 1 + separators t := by
  fun_induction tagPieces t with
  | case1 => rfl
  | case2 rest ih =>
    rw [List.length_cons,length_joinHead '@' (tagPieces_some rest),ih,separators_cons,separators_cons,
      if_pos ⟨rfl,rfl⟩,if_neg (by simp)]
    omega
  | case3 c rest other ih =>
    have apart : ¬(c = ' ' ∧ rest.head? = some '@') := by
      rintro ⟨space,sign⟩
      obtain ⟨behind,rfl⟩ := List.head?_eq_some_iff.mp sign
      exact other behind space rfl
    rw [length_joinHead c (tagPieces_some rest),ih,separators_cons,if_neg apart]
    omega

theorem length_placed (start : Nat) (pieces : List Text) : (placed start pieces).length = pieces.length := by
  induction pieces generalizing start with
  | nil => rfl
  | cons piece rest ih => rw [placed,List.length_cons,ih,List.length_cons]

theorem placed_stands {start column : Nat} {piece : Text} {pieces : List Text}
    (member : (column,piece) ∈ placed start pieces) : piece ∈ pieces ∧
      ∃ before behind, [' '].intercalate pieces = before ++ piece ++ behind ∧ column = start + before.length ∧
        (before = [] ∨ before.getLast? = some ' ') := by
  induction pieces generalizing start with
  | nil => cases member
  | cons first rest ih =>
    rcases List.mem_cons.mp member with same | later
    · cases same
      refine ⟨List.mem_cons_self,[],?_⟩
      cases rest with
      | nil => exact ⟨[],by simp [List.intercalate_singleton],rfl,.inl rfl⟩
      | cons next others => exact ⟨_,by rw [List.intercalate_cons_cons,List.append_assoc]; rfl,rfl,.inl rfl⟩
    · obtain ⟨among,before,behind,whole,place,spaced⟩ := ih later
      refine ⟨List.mem_cons_of_mem _ among,first ++ [' '] ++ before,behind,?_,?_,.inr ?_⟩
      · obtain ⟨next,others,rfl⟩ := List.exists_cons_of_ne_nil (List.ne_nil_of_mem among)
        rw [List.intercalate_cons_cons,whole]
        simp only [List.append_assoc]
      · simp only [place,List.length_append,List.length_singleton]
        omega
      · rcases spaced with rfl | space
        · rw [List.append_nil,List.getLast?_concat]
        · rw [List.getLast?_append,space]
          rfl

theorem placed_from {start column : Nat} {piece : Text} {pieces : List Text}
    (member : (column,piece) ∈ placed start pieces) : start ≤ column := by
  obtain ⟨_,before,_,_,place,_⟩ := placed_stands member
  omega

theorem placed_order (start : Nat) (pieces : List Text) :
    (placed start pieces).Pairwise fun first second => first.1 < second.1 := by
  induction pieces generalizing start with
  | nil => exact List.Pairwise.nil
  | cons piece rest ih =>
    refine List.pairwise_cons.mpr ⟨?_,ih _⟩
    rintro ⟨column,other⟩ member
    have later := placed_from member
    change start < column
    omega

theorem readTag_node {reserved : List TagNames} {written : Text} {location : Location} {node : Node}
    (read : (readTag reserved written location).toOption = some node) :
    node.location = location ∧ node.content = written := by
  simp only [readTag] at read
  split at read
  · cases read; exact ⟨rfl,rfl⟩
  · cases read

theorem readTag_error {reserved : List TagNames} {written : Text} {location : Location}
    {error : LexicalError} (read : readTag reserved written location = .error error) : error.location = location := by
  simp only [readTag] at read
  split at read
  · cases read
  · cases read; rfl

structure TagAt (text : Text) (column : Nat) (piece : Text) : Prop where
  counted : 1 ≤ column
  sign : ∃ rest, piece = '@' :: rest
  written : piece <+: text.drop (column - 1)
  apart : column = text.indent + 1 ∨ text[column - 2]? = some ' '

theorem tagPieces_sign {body : Text} : ∀ piece ∈ tagPieces ('@' :: body), ∃ rest, piece = '@' :: rest := by
  have marked := tagPieces_marked ('@' :: body)
  rw [tagPieces,joinHead_some '@' (tagPieces_some body)] at marked ⊢
  · intro piece member
    rcases List.mem_cons.mp member with rfl | later
    · exact ⟨_,rfl⟩
    · exact List.head?_eq_some_iff.mp (marked piece later)
  all_goals simp

theorem placed_tagAt {content body : Text} {column : Nat} {piece : Text} (taken : content <+: line)
    (start : trimStart content = '@' :: body)
    (member : (column,piece) ∈ placed (content.indent + 1) (tagPieces (trimStart content))) :
    TagAt line column piece := by
  obtain ⟨among,before,behind,whole,place,spaced⟩ := placed_stands member
  rw [tagPieces_joined] at whole
  obtain ⟨⟨more,starts⟩,indents⟩ := trimStart_start taken (start ▸ List.cons_ne_nil _ _)
  rw [start] at among
  have rest : line.drop line.indent = before ++ (piece ++ (behind ++ more)) := by
    rw [drop_indent,← starts,whole]
    simp only [List.append_assoc]
  refine ⟨by omega,tagPieces_sign piece among,?_,?_⟩
  · have offset : column - 1 = line.indent + before.length := by omega
    rw [offset,← List.drop_drop,rest,List.drop_left]
    exact List.prefix_append piece _
  · rcases spaced with rfl | space
    · left
      rw [place,indents]
      rfl
    · right
      obtain ⟨front,rfl⟩ := List.getLast?_eq_some_iff.mp space
      have offset : column - 2 = line.indent + front.length := by
        rw [place,indents,List.length_append,List.length_singleton]
        omega
      have found : (line.drop line.indent)[front.length]? = some ' ' := by rw [rest]; simp
      rwa [List.getElem?_drop,← offset] at found

theorem TagAt.stands {reserved : List TagNames} {column : Nat} {piece : Text} {node : Node}
    (tag : TagAt line column piece)
    (read : (readTag reserved (trim piece) ⟨number,column⟩).toOption = some node) : node.Stands line number := by
  obtain ⟨rest,rfl⟩ := tag.sign
  have type := readTag_type read
  obtain ⟨location,content⟩ := readTag_node read
  have sign : trim ('@' :: rest) = '@' :: trimEnd rest := trim_solid (by decide) rest
  have starts : trim ('@' :: rest) <+: '@' :: rest := sign ▸ List.cons_prefix_cons.mpr ⟨rfl,trimEnd_starts rest⟩
  refine ⟨?_,?_,?_,?_,?_,?_⟩
  · rw [location]
  · rw [location]; exact tag.counted
  · rw [content,sign]; exact List.cons_ne_nil _ _
  · rw [content]; exact trim_trim _
  · rw [content,location]; exact starts.trans tag.written
  · rw [if_pos type,content,sign,location]; exact ⟨rfl,tag.apart⟩

theorem TagAt.points {reserved : List TagNames} {column : Nat} {piece : Text} {error : LexicalError}
    (tag : TagAt line column piece) (read : readTag reserved (trim piece) ⟨number,column⟩ = .error error) :
    error.location.Points line number := by
  obtain ⟨rest,rfl⟩ := tag.sign
  obtain ⟨behind,written⟩ := tag.written
  have sign : (line.drop (column - 1))[0]? = some '@' := by rw [← written]; rfl
  rw [List.getElem?_drop] at sign
  rw [readTag_error read]
  exact ⟨rfl,tag.counted,'@',sign,by decide⟩

theorem readTags_placed {reserved : List TagNames} (read : readTags reserved line number = some reading) :
    reading.Placed line number := by
  simp only [readTags] at read
  split at read
  · rename_i body start
    cases read
    have taken : trimEnd (uncommented line) <+: line := (trimEnd_starts _).trans (uncommented_starts line)
    have at_ : ∀ place, place ∈ placed _ (tagPieces (trimStart (trimEnd (uncommented line)))) →
        TagAt line place.1 place.2 := fun place member => placed_tagAt taken start member
    refine ⟨?_,?_,?_,List.forall_mem_nil _⟩
    · intro node member
      obtain ⟨tag,inside,taken⟩ := List.mem_filterMap.mp member
      obtain ⟨place,among,rfl⟩ := List.mem_map.mp inside
      exact (at_ place among).stands taken
    · rw [List.filterMap_map,List.pairwise_filterMap]
      refine (placed_order _ _).imp ?_
      intro first second before node read other later
      right
      rw [(readTag_node read).1,(readTag_node later).1]
      exact ⟨rfl,before⟩
    · intro error member
      obtain ⟨tag,inside,taken⟩ := List.mem_filterMap.mp member
      obtain ⟨place,among,rfl⟩ := List.mem_map.mp inside
      split at taken
      · cases taken
      · rename_i fault read
        cases taken
        exact (at_ place among).points read
  · cases read

theorem length_results (tags : List (Except LexicalError Node)) :
    (tags.filterMap fun tag => tag.toOption).length +
      (tags.filterMap fun tag => match tag with | .ok _ => none | .error error => some error).length =
    tags.length := by
  induction tags with
  | nil => rfl
  | cons tag rest ih =>
    cases tag with
    | ok node => simp only [List.filterMap_cons,Except.toOption,List.length_cons] at ih ⊢; omega
    | error error => simp only [List.filterMap_cons,Except.toOption,List.length_cons] at ih ⊢; omega

theorem readTags_counted {reserved : List TagNames} (read : readTags reserved line number = some reading) :
    reading.Counted line (some .tag) := by
  simp only [readTags] at read
  split at read
  · cases read
    rw [Reading.Counted,if_pos rfl,← trimStart_trimEnd,← length_tagPieces]
    exact (length_results _).trans (by rw [List.length_map,length_placed])
  · cases read

theorem reader_located {dictionary : Dictionary} {type : NodeType}
    (read : reader dictionary type line number = some reading) :
    reading.Placed line number ∧ reading.Counted line (some type) := by
  by_cases tag : type = .tag
  · subst tag
    exact ⟨readTags_placed read,readTags_counted read⟩
  · have whole : reading.Whole line number := by
      cases type with
      | tag => exact absurd rfl tag
      | language => exact readLanguage_whole read
      | importPath => exact readImport_whole read
      | feature | scenario | testCase | table | database | uiElement => exact readNamed_whole tag read
      | variant => exact readNumbered_whole tag read
      | background | variantBackground | block | event => exact readBlock_whole tag read
      | definition => exact readDefinition_whole read
      | tableRow => exact readTableRow_whole read
      | databaseProperty | uiProperty => exact readItem_whole tag read
      | step => exact readStep_whole tag read
      | text => exact readText_whole read
      | longString => exact readDelimiter_whole read
    exact ⟨whole.placed,whole.counted tag⟩

end Line
end ScenarioLang
