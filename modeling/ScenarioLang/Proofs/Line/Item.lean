import ScenarioLang.Proofs.Line.Opening
import ScenarioLang.Proofs.Text.Blanks
import ScenarioLang.Proofs.Text.Pattern
import ScenarioLang.Proofs.Text.Quoted
import ScenarioLang.Proofs.Unicode.Lowercase

namespace ScenarioLang

inductive ListKind where
  | database | uiElement | table | definitions (kind : DefinitionKind)
  deriving DecidableEq, Repr

namespace ListKind

def header : ListKind → NodeType
  | database => .database
  | uiElement => .uiElement
  | table => .table
  | definitions kind => .block kind

def item : ListKind → NodeType
  | database => .databaseProperty
  | uiElement => .uiProperty
  | table => .tableRow
  | definitions kind => .definition kind

theorem header_plain (kind : ListKind) : kind.header ≠ .text ∧ kind.header ≠ .longString ∧ kind.header ≠ .language := by
  cases kind <;> simp [header]

theorem item_plain (kind : ListKind) : kind.item ≠ .text ∧ kind.item ≠ .longString ∧ kind.item ≠ .language := by
  cases kind <;> simp [item]

end ListKind

namespace Words
open Unicode

variable {word covered : Text}

theorem capture_single {words : List Text} {accept : Text → Text → Option α} (single : tried words = [word])
    (whole : word.runs = [word]) (same : covered.map fold = word.map fold) (rest : Text) :
    capture words (covered ++ rest) accept = accept covered rest := by
  have stands : afterWord word (covered ++ rest) = some rest := by
    rw [afterWord,whole]
    exact afterPiece_covered same rest
  have taken : (covered ++ rest).take ((covered ++ rest).length - rest.length) = covered := by simp
  rw [capture,single,List.findSome?_singleton,stands]
  exact congrArg (accept · rest) taken

end Words

namespace Line
open Text Unicode

variable {dictionary : Dictionary} {kind : DefinitionKind} {line t name value : Text}

def IsValue (kind : DefinitionKind) (value : Text) : Prop :=
  (∃ inner, wellEscaped inner = true ∧ value = '"' :: (inner ++ ['"'])) ∨
    (kind = .constant ∧ isNumeral value = true)

structure Defines (dictionary : Dictionary) (kind : DefinitionKind) (t name : Text) : Prop where
  named : isName name = true
  parts : ∃ first second third word own value : Text,
    first.allBlank = true ∧ second.allBlank = true ∧ third.allBlank = true ∧ third ≠ [] ∧
    own ∈ dictionary.words .is ∧ word.map fold = own.map fold ∧ IsValue kind value ∧
    t = '-' :: (first ++ '"' :: (name ++ '"' :: (second ++ (word ++ (third ++ value)))))

def quotedName (line : Text) : Text :=
  match trim (uncommented line) with
  | '-' :: rest => ((quoted (trimStart rest)).map Prod.fst).getD []
  | _ => []

end Line

def ListKind.IsItem (kind : ListKind) (dictionary : Dictionary) (line : Text) : Prop :=
  '\n' ∉ line ∧
  let t := Text.trim (Text.uncommented line)
  match kind with
  | .database | .uiElement => ∃ rest : Text, t = '-' :: rest ∧ rest.allBlank = false
  | .table => t.head? = some '|' ∧ t.getLast? = some '|' ∧ 2 ≤ t.countP Line.isBar
  | .definitions kind => ∃ name, Line.Defines dictionary kind t name

namespace Line
open Text Unicode

variable {dictionary : Dictionary} {kind : DefinitionKind} {line t name value : Text} {number : Nat}

theorem is_single (active : dictionary ∈ Dictionary.builtin) : ∃ own c, dictionary.words .is = [own] ∧
    Words.tried [own] = [own] ∧ own.runs = [own] ∧ own.getLast? = some c ∧ (c = 's' ∨ c = 'é') ∧
    own.all (fun c => !Words.isMark (fold c)) = true := by
  rcases List.mem_cons.mp active with rfl | active
  · exact ⟨"is".toList,'s',rfl,by decide,by decide,by decide,.inl rfl,by decide⟩
  rcases List.mem_cons.mp active with rfl | active
  · exact ⟨"é".toList,'é',rfl,by decide,by decide,by decide,.inr rfl,by decide⟩
  rcases List.mem_singleton.mp active with rfl
  exact ⟨"es".toList,'s',rfl,by decide,by decide,by decide,.inl rfl,by decide⟩

theorem wordChar_fold {c d : Char} (same : fold c = fold d) (last : d = 's' ∨ d = 'é') : isWordChar c = true := by
  have known : (['s','é'].all fun d => fold d = d && isWordChar d && d.toNat ≠ 0 &&
      (foldSources d.toNat).all fun code => isWordChar (Char.ofNat code)) = true := by decide
  have own := List.all_eq_true.mp known d (by rcases last with rfl | rfl <;> decide)
  simp only [Bool.and_eq_true,decide_eq_true_eq] at own
  obtain ⟨⟨⟨kept,word⟩,filled⟩,sources⟩ := own
  rcases mem_foldSources (same.trans kept) filled with rfl | source
  · exact word
  · have found := List.all_eq_true.mp sources c.toNat source
    rwa [Char.ofNat_toNat] at found

theorem blank_edge {c : Char} (blank : isBlank c = true) : isWordChar c = false :=
  Ranges.holds_apart blank (by decide +kernel)

theorem isDigit_solid {c : Char} (digit : isDigit c = true) : isBlank c = false :=
  Ranges.holds_apart digit (by decide)

theorem numeral_head (numeral : isNumeral value = true) :
    ∃ c rest, value = c :: rest ∧ (c = '-' ∨ isDigit c = true) := by
  cases value with
  | nil => cases numeral
  | cons c rest =>
    refine ⟨c,rest,rfl,?_⟩
    by_contra other
    obtain ⟨minus,digit⟩ := not_or.mp other
    simp [isNumeral,isDigits,minus,digit] at numeral

theorem value_head (valid : IsValue kind value) : ∃ c rest, value = c :: rest ∧ isBlank c = false := by
  rcases valid with ⟨inner,_,rfl⟩ | ⟨_,numeral⟩
  · exact ⟨'"',_,rfl,by decide⟩
  · obtain ⟨c,rest,rfl,own⟩ := numeral_head numeral
    refine ⟨c,rest,rfl,?_⟩
    rcases own with rfl | digit
    · decide
    · exact isDigit_solid digit

theorem definitionValue_quoted (escaped : wellEscaped name = true) :
    definitionValue kind ('"' :: (name ++ ['"'])) = some (.text name) := by
  rw [definitionValue,quoted_escaped escaped]
  rfl

theorem definitionValue_numeral (numeral : isNumeral value = true) :
    definitionValue .constant value = some (.number value) := by
  obtain ⟨c,rest,rfl,own⟩ := numeral_head numeral
  have plain : c ≠ '"' := by
    rintro rfl
    exact absurd own (by decide)
  have bare : quoted (c :: rest) = none := by simp [quoted,plain]
  simp [definitionValue,bare,numeral]

theorem definitionValue_valid (valid : IsValue kind value) : ∃ found, definitionValue kind value = some found := by
  rcases valid with ⟨inner,escaped,rfl⟩ | ⟨rfl,numeral⟩
  · exact ⟨.text inner,definitionValue_quoted escaped⟩
  · exact ⟨.number value,definitionValue_numeral numeral⟩

theorem content_split (line : Text) : ∃ tail, trimStart (uncommented line) = trim (uncommented line) ++ tail ∧
    tail.all isBlank = true ∧ trim (uncommented line) ++ tail ⊆ line := by
  obtain ⟨tail,parts,blank⟩ := trimStart_split (uncommented line)
  refine ⟨tail,parts,blank,?_⟩
  rw [← parts]
  exact List.Subset.trans (List.dropWhile_sublist _).subset (uncommented_starts line).subset

theorem readItem_filled {rest : Text} (type : NodeType) (single : '\n' ∉ line)
    (dash : trim (uncommented line) = '-' :: rest) (filled : allBlank rest = false) (number : Nat) :
    ∃ data, readItem type line number =
      some (.ofNode ⟨type,.ofContent line number,trim (uncommented line),data⟩ []) := by
  obtain ⟨tail,parts,blank,inside⟩ := content_split line
  rw [dash] at parts inside
  have start : trimStart (uncommented line) = '-' :: (rest ++ tail) := parts
  have clean : '\n' ∉ trimStart (rest ++ tail) := fun there =>
    single (inside (List.mem_cons_of_mem _ ((List.dropWhile_sublist _).subset there)))
  have solid : trim (trimStart (rest ++ tail)) ≠ [] := by
    have more : allBlank (rest ++ tail) = false := by rw [allBlank,List.all_append,← allBlank,filled,Bool.false_and]
    obtain ⟨c,others,starts,other⟩ := trimStart_filled (trimStart_solid more)
    rw [starts,trim_solid other]
    exact List.cons_ne_nil _ _
  refine ⟨.value (trim (trimStart (rest ++ tail))),?_⟩
  simp [readItem,start,oneLine,clean,solid,report]

theorem quotedName_defines (defines : Defines dictionary kind (trim (uncommented line)) name) : quotedName line = name := by
  obtain ⟨first,second,third,word,own,value,blank,_,_,_,_,_,_,whole⟩ := defines.parts
  unfold quotedName
  rw [whole]
  simp only [trimStart_blank blank,trimStart_stays quote_solid,quoted_escaped (name_escaped defines.named)]
  rfl

theorem capture_is (active : dictionary ∈ Dictionary.builtin) {word own third rest : Text}
    (among : own ∈ dictionary.words .is) (same : word.map fold = own.map fold) (between : third.allBlank = true)
    (apart : third ≠ []) (inside : '\n' ∉ rest) (solid : trimStart rest = rest) :
    (Words.capture (dictionary.words .is) (word ++ (third ++ rest)) fun word rest =>
      if isWordEdge word.getLast? rest.head? then oneLine (trimStart rest) else none) = some rest := by
  obtain ⟨is,last,words,tried,runs,ending,letter,_⟩ := is_single active
  rw [words,List.mem_singleton] at among
  subst among
  have ends : (word.getLast?).map fold = some (fold last) := by
    rw [← List.getLast?_map,same,List.getLast?_map,ending]
    rfl
  obtain ⟨c,close,folds⟩ := Option.map_eq_some_iff.mp ends
  obtain ⟨d,blanks,rfl⟩ := List.exists_cons_of_ne_nil apart
  have edge : isWordEdge word.getLast? (d :: blanks ++ rest).head? = true := by
    rw [close]
    simp [isWordEdge,wordChar_fold folds letter,blank_edge (List.all_eq_true.mp between d List.mem_cons_self)]
  rw [words,Words.capture_single tried runs same,if_pos edge,trimStart_blank between,solid,oneLine,
    List.contains_eq_mem,decide_eq_false inside]
  rfl

theorem is_plain (active : dictionary ∈ Dictionary.builtin) {own : Text} (among : own ∈ dictionary.words .is) :
    own ≠ [] ∧ ∀ c ∈ own, Words.isMark (fold c) = false := by
  obtain ⟨is,last,words,_,_,ending,_,plain⟩ := is_single active
  rw [words,List.mem_singleton] at among
  subst among
  refine ⟨?_,fun c inside => by simpa using List.all_eq_true.mp plain c inside⟩
  rintro rfl
  cases ending

theorem word_solid (active : dictionary ∈ Dictionary.builtin) {word own : Text} (among : own ∈ dictionary.words .is)
    (same : word.map fold = own.map fold) : ∃ c rest, word = c :: rest ∧ isBlank c = false := by
  obtain ⟨filled,plain⟩ := is_plain active among
  obtain ⟨c,rest,start,clear⟩ := Words.covered_head filled plain same
  exact ⟨c,rest,start,Words.unmarked_solid clear⟩

theorem readDefinition_written (active : dictionary ∈ Dictionary.builtin) {first second third word own rest : Text}
    {found : DefinitionValue} (start : trimStart (uncommented line) =
      '-' :: (first ++ '"' :: (name ++ '"' :: (second ++ (word ++ (third ++ rest))))))
    (named : isName name = true) (blank : first.allBlank = true) (also : second.allBlank = true)
    (among : own ∈ dictionary.words .is) (same : word.map fold = own.map fold) (between : third.allBlank = true)
    (apart : third ≠ []) (single : '\n' ∉ rest) (solid : trimStart rest = rest)
    (read : definitionValue kind (trim rest) = some found) (number : Nat) :
    readDefinition kind (.ofDictionary .is dictionary) line number = some
      (.ofNode ⟨.definition kind,.ofContent line number,trim (uncommented line),.definition name found⟩ []) := by
  obtain ⟨d,letters,rfl,filled⟩ := word_solid active among same
  have taken := capture_is active among same between apart single solid
  have written : trimStart (d :: letters ++ (third ++ rest)) = d :: letters ++ (third ++ rest) := trimStart_stays filled _
  simp only [readDefinition,KeywordPattern.captureWith_words,KeywordPattern.ofDictionary_words,start,trimStart_blank blank,trimStart_stays quote_solid,
    quoted_escaped (name_escaped named),trimStart_blank also,Option.bind_eq_bind,Option.bind_some,
    written,taken,read,named]
  rfl

theorem readDefinition_defines (active : dictionary ∈ Dictionary.builtin) (single : '\n' ∉ line)
    (defines : Defines dictionary kind (trim (uncommented line)) name) (number : Nat) :
    ∃ value, readDefinition kind (.ofDictionary .is dictionary) line number = some
      (.ofNode ⟨.definition kind,.ofContent line number,trim (uncommented line),.definition name value⟩ []) := by
  obtain ⟨first,second,third,word,own,value,blank,also,between,apart,among,same,valid,whole⟩ := defines.parts
  obtain ⟨found,read⟩ := definitionValue_valid valid
  obtain ⟨c,others,rfl,solid⟩ := value_head valid
  obtain ⟨tail,parts,ends,inside⟩ := content_split line
  rw [whole] at parts inside
  have content : trimStart (uncommented line) = '-' ::
      (first ++ '"' :: (name ++ '"' :: (second ++ (word ++ (third ++ (c :: others ++ tail)))))) := by
    rw [parts]
    simp
  have clean : '\n' ∉ c :: others ++ tail := fun there => single (inside (by
    rcases List.mem_append.mp there with own | behind
    · exact List.mem_append_left _ (by simp only [List.mem_cons,List.mem_append,own,or_true])
    · exact List.mem_append_right _ behind))
  have ending : trim (c :: others ++ tail) = c :: others := by
    apply trim_end solid ends (s := '-' :: (first ++ '"' :: (name ++ '"' :: (second ++ (word ++ third)))))
    rw [whole]
    simp
  exact ⟨found,readDefinition_written active content defines.named blank also among same between apart clean
    (trimStart_stays solid _) (ending.symm ▸ read) number⟩

theorem readTableRow_row (first : (trim (uncommented line)).head? = some '|')
    (last : (trim (uncommented line)).getLast? = some '|') (bars : 2 ≤ (trim (uncommented line)).countP isBar)
    (number : Nat) : readTableRow line number = some
      (.ofNode ⟨.tableRow,.ofContent line number,trim (uncommented line),.cells (cells (trim (uncommented line)))⟩ []) := by
  simp [readTableRow,first,last,bars]

end Line

structure ListKind.ItemNode (kind : ListKind) (dictionary : Dictionary) (entry : Text × Nat) (node : Node) : Prop where
  type : node.type = kind.item
  location : node.location = .ofContent entry.1 entry.2
  content : node.content = Text.trim (Text.uncommented entry.1)
  read : Line.reader dictionary kind.item entry.1 entry.2 = some (.ofNode node [])
  name : ∀ definition, kind = .definitions definition → node.name? = some (Line.quotedName entry.1)

theorem ListKind.IsItem.node {kind : ListKind} {dictionary : Dictionary} {line : Text}
    (item : kind.IsItem dictionary line) (active : dictionary ∈ Dictionary.builtin) (number : Nat) :
    ∃ node, kind.ItemNode dictionary (line,number) node := by
  obtain ⟨single,shape⟩ := item
  cases kind with
  | database | uiElement =>
    obtain ⟨rest,dash,filled⟩ := shape
    obtain ⟨data,read⟩ := Line.readItem_filled _ single dash filled number
    exact ⟨_,rfl,rfl,rfl,read,fun _ other => by cases other⟩
  | table =>
    obtain ⟨first,last,bars⟩ := shape
    exact ⟨_,rfl,rfl,rfl,Line.readTableRow_row first last bars number,fun _ other => by cases other⟩
  | definitions kind =>
    obtain ⟨name,defines⟩ := shape
    obtain ⟨value,read⟩ := Line.readDefinition_defines active single defines number
    refine ⟨_,rfl,rfl,rfl,read,?_⟩
    intro definition _
    exact congrArg some (Line.quotedName_defines defines).symm

namespace ListKind

variable {kind : ListKind} {dictionary : Dictionary} {entries : List (Text × Nat)} {nodes : List Node}

theorem items_typed (items : List.Forall₂ (kind.ItemNode dictionary) entries nodes) :
    ∀ node ∈ nodes, node.type = kind.item := by
  induction items with
  | nil => exact List.forall_mem_nil _
  | cons made rest ih => exact List.forall_mem_cons.mpr ⟨made.type,ih⟩

theorem items_named {definition : DefinitionKind} (own : kind = .definitions definition)
    (items : List.Forall₂ (kind.ItemNode dictionary) entries nodes) :
    nodes.map Node.name? = (entries.map fun entry => Line.quotedName entry.1).map some := by
  induction items with
  | nil => rfl
  | cons made rest ih => rw [List.map_cons,made.name definition own,ih]; rfl

end ListKind
end ScenarioLang
