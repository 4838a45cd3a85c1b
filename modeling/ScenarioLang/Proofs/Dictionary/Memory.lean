import ScenarioLang.Dictionary.Memory
import ScenarioLang.Proofs.Dictionary.Source

namespace ScenarioLang

-- The answer to another spelling of a language. What was asked for is quoted only where
-- nothing was found.
def Lookup.requoted (language : Text) : Lookup → Lookup
  | failed (.notFound _) => failed (.notFound language)
  | answer => answer

namespace Dictionary

variable {tree : FileTree} {folder : Path} {language code : Text} {answer : Lookup} {kept : Text → Prop}

-- The first code of a language that something is held under: the whole code, or the
-- part in front of its first hyphen.
inductive First (kept : Text → Prop) (language : Text) : Text → Prop where
  | whole (own : kept (normalCode language)) : First kept language (normalCode language)
  | base (other : ¬kept (normalCode language)) (regional : '-' ∈ normalCode language)
      (own : kept ((normalCode language).takeWhile (· ≠ '-'))) :
      First kept language ((normalCode language).takeWhile (· ≠ '-'))

def fileOf (folder : Path) (code : Text) : Path := folder.join ⟨code ++ ".json".toList⟩

def HasFile (tree : FileTree) (folder : Path) (code : Text) : Prop :=
  ∃ content, tree.locate (fileOf folder code) = some (.bytes content)

inductive Reads (folder : Path) (code : Text) (content : List UInt8) : Lookup → Prop where
  | undecodable (broken : decodeUtf8 content = none) :
      Reads folder code content (.failed (.unreadable (fileOf folder code).text FileTree.undecodable))
  | malformed {text : Text} (decoded : decodeUtf8 content = some text) (refused : ofJson? code text = none) :
      Reads folder code content (.failed (.invalid code))
  | parsed {text : Text} {dictionary : Dictionary} (decoded : decodeUtf8 content = some text)
      (read : ofJson? code text = some dictionary) (own : dictionary.language = code) :
      Reads folder code content (.found dictionary)

def IsBuiltin (code : Text) : Prop := ∃ dictionary ∈ builtin, dictionary.language = code

inductive FromBuiltin (language : Text) : Lookup → Prop where
  | held {dictionary : Dictionary} (member : dictionary ∈ builtin)
      (first : First IsBuiltin language dictionary.language) : FromBuiltin language (.found dictionary)
  | missing (none : ∀ code, ¬First IsBuiltin language code) : FromBuiltin language (.failed (.notFound language))

-- A folder in front of them. A file decides for good, even if it is no good. Outside the
-- working folder the tree has no files, so that a code with an absolute path, or one
-- that climbs above that folder, is left to the built-in languages.
inductive FromFolder (tree : FileTree) (folder : Path) (language : Text) : Lookup → Prop where
  | file {code : Text} {content : List UInt8} {answer : Lookup} (first : First (HasFile tree folder) language code)
      (located : tree.locate (fileOf folder code) = some (.bytes content)) (reads : Reads folder code content answer) :
      FromFolder tree folder language answer
  | behind {answer : Lookup} (none : ∀ code, ¬First (HasFile tree folder) language code)
      (builtin : FromBuiltin language answer) : FromFolder tree folder language answer

theorem First.own (first : First kept language code) : kept code := by
  cases first with
  | whole own => exact own
  | base _ _ own => exact own

theorem First.unique {another : Text} (first : First kept language code) (second : First kept language another) :
    code = another := by
  cases first with
  | whole own =>
    cases second with
    | whole => rfl
    | base other => exact absurd own other
  | base other =>
    cases second with
    | whole own => exact absurd own other
    | base => rfl

theorem First.congr {another : Text} (same : normalCode another = normalCode language) :
    First kept another code ↔ First kept language code := by
  constructor
  · intro first
    cases first with
    | whole own => rw [same] at own ⊢; exact .whole own
    | base other regional own => rw [same] at other regional own ⊢; exact .base other regional own
  · intro first
    cases first with
    | whole own => rw [← same] at own ⊢; exact .whole own
    | base other regional own => rw [← same] at other regional own ⊢; exact .base other regional own

theorem candidates_eq (language : Text) : candidates language = normalCode language ::
    if '-' ∈ normalCode language then [(normalCode language).takeWhile (· ≠ '-')] else [] := by
  simp only [candidates,List.contains_iff_mem]
  split <;> rfl

-- Asking for one candidate after the other finds the first code that has an answer.
theorem findSome_candidates {decide : Text → Option α} (answers : ∀ code, (decide code).isSome = true ↔ kept code)
    {value : α} : (candidates language).findSome? decide = some value ↔
      ∃ code, First kept language code ∧ decide code = some value := by
  rw [candidates_eq,List.findSome?_cons]
  have given : ∀ {code : Text} {value : α}, decide code = some value → kept code :=
    fun found => (answers _).mp (found ▸ rfl)
  cases whole : decide (normalCode language) with
  | some own =>
    constructor
    · exact fun same => ⟨_,.whole (given whole),whole.trans same⟩
    · rintro ⟨code,first,found⟩
      rw [first.unique (.whole (given whole)),whole] at found
      exact found
  | none =>
    have other : ¬kept (normalCode language) := by
      rw [← answers,whole]
      simp
    dsimp only
    constructor
    · intro found
      split at found
      · rename_i regional
        have base : decide _ = some value := List.findSome?_singleton.symm.trans found
        exact ⟨_,.base other regional (given base),base⟩
      · cases found
    · rintro ⟨code,first,found⟩
      cases first with
      | whole own => exact absurd own other
      | base _ regional _ => simp only [regional,if_true,List.findSome?_cons,found]

theorem findSome_candidates_none {decide : Text → Option α}
    (answers : ∀ code, (decide code).isSome = true ↔ kept code) :
    (candidates language).findSome? decide = none ↔ ∀ code, ¬First kept language code := by
  rw [Option.eq_none_iff_forall_ne_some]
  constructor
  · intro none code first
    obtain ⟨value,found⟩ := Option.isSome_iff_exists.mp ((answers code).mpr first.own)
    exact none value ((findSome_candidates answers).mpr ⟨code,first,found⟩)
  · intro none value found
    obtain ⟨code,first,_⟩ := (findSome_candidates answers).mp found
    exact none code first

theorem ofCode_iff {dictionary : Dictionary} :
    ofCode? code = some dictionary ↔ dictionary ∈ builtin ∧ dictionary.language = code := by
  constructor
  · exact fun found => ⟨List.mem_of_find?_eq_some found,ofCode_language found⟩
  · rintro ⟨member,rfl⟩
    simp only [builtin,List.mem_cons,List.not_mem_nil,or_false] at member
    rcases member with rfl | rfl | rfl <;> rfl

theorem ofCode_isSome (code : Text) : (ofCode? code).isSome = true ↔ IsBuiltin code := by
  simp only [Option.isSome_iff_exists,ofCode_iff]
  rfl

theorem reads_total (folder : Path) (code : Text) (content : List UInt8) : ∃ answer, Reads folder code content answer := by
  cases decoded : decodeUtf8 content with
  | none => exact ⟨_,.undecodable decoded⟩
  | some text =>
    cases read : ofJson? code text with
    | none => exact ⟨_,.malformed decoded read⟩
    | some dictionary =>
      obtain ⟨entries,_,made⟩ := Option.map_eq_some_iff.mp read
      exact ⟨_,.parsed decoded read (made ▸ rfl)⟩

theorem ofFile_iff : ofFile? tree folder code = some answer ↔
    ∃ content, tree.locate (fileOf folder code) = some (.bytes content) ∧ Reads folder code content answer := by
  constructor
  · intro found
    have whole := found
    simp only [ofFile?] at found
    split at found
    · rename_i content located
      refine ⟨content,located,?_⟩
      split at found
      · rename_i broken
        cases found
        exact .undecodable broken
      · rename_i text decoded
        split at found
        · rename_i dictionary read
          cases found
          exact .parsed decoded read (ofFile_language whole)
        · rename_i refused
          cases found
          exact .malformed decoded refused
    · cases found
  · rintro ⟨content,located,reads⟩
    rw [fileOf] at located
    cases reads with
    | undecodable broken => simp only [ofFile?,located,broken,fileOf]
    | malformed decoded refused => simp only [ofFile?,located,decoded,refused]
    | parsed decoded read own => simp only [ofFile?,located,decoded,read]

theorem ofFile_isSome (code : Text) : (ofFile? tree folder code).isSome = true ↔ HasFile tree folder code := by
  simp only [Option.isSome_iff_exists,ofFile_iff]
  constructor
  · rintro ⟨answer,content,located,_⟩
    exact ⟨content,located⟩
  · rintro ⟨content,located⟩
    obtain ⟨answer,reads⟩ := reads_total folder code content
    exact ⟨answer,content,located,reads⟩

theorem builtinSource_iff : builtinSource language = answer ↔ FromBuiltin language answer := by
  unfold builtinSource
  cases found : (candidates language).findSome? ofCode? with
  | some dictionary =>
    obtain ⟨code,first,own⟩ := (findSome_candidates ofCode_isSome).mp found
    obtain ⟨member,rfl⟩ := ofCode_iff.mp own
    constructor
    · rintro rfl
      exact .held member first
    · intro from_
      cases from_ with
      | held other second =>
        rw [ofCode_iff.mpr ⟨other,second.unique first⟩] at own
        rw [Option.some.inj own]
      | missing none => exact absurd first (none _)
  | none =>
    have none := (findSome_candidates_none ofCode_isSome).mp found
    constructor
    · rintro rfl
      exact .missing none
    · intro from_
      cases from_ with
      | held _ first => exact absurd first (none _)
      | missing => rfl

theorem folderSource_iff : folderSource tree folder language = answer ↔ FromFolder tree folder language answer := by
  unfold folderSource
  cases found : (candidates language).findSome? (ofFile? tree folder) with
  | some given =>
    obtain ⟨code,first,own⟩ := (findSome_candidates ofFile_isSome).mp found
    constructor
    · rintro rfl
      obtain ⟨content,located,reads⟩ := ofFile_iff.mp own
      exact .file first located reads
    · intro from_
      cases from_ with
      | file second located reads =>
        rw [first.unique second,ofFile_iff.mpr ⟨_,located,reads⟩] at own
        exact (Option.some.inj own).symm
      | behind none => exact absurd first (none code)
  | none =>
    have none := (findSome_candidates_none ofFile_isSome).mp found
    constructor
    · exact fun same => .behind none (builtinSource_iff.mp same)
    · intro from_
      cases from_ with
      | file first => exact absurd first (none _)
      | behind _ builtin => exact builtinSource_iff.mpr builtin

theorem FromBuiltin.respelled {other : Text} (same : normalCode other = normalCode language)
    (found : FromBuiltin language answer) : FromBuiltin other (answer.requoted other) := by
  cases found with
  | held member first => exact .held member ((First.congr same).mpr first)
  | missing none => exact .missing fun code first => none code ((First.congr same).mp first)

theorem Reads.requoted {content : List UInt8} (reads : Reads folder code content answer) (other : Text) :
    answer.requoted other = answer := by
  cases reads <;> rfl

theorem FromFolder.respelled {other : Text} (same : normalCode other = normalCode language)
    (found : FromFolder tree folder language answer) : FromFolder tree folder other (answer.requoted other) := by
  cases found with
  | file first located reads =>
    rw [reads.requoted]
    exact .file ((First.congr same).mpr first) located reads
  | behind none builtin =>
    exact .behind (fun code first => none code ((First.congr same).mp first)) (builtin.respelled same)

-- One question to a provider. A folder asks the built-in languages in their turn, and
-- those have one memory for all who ask.
inductive Question where
  | builtin (language : Text)
  | folder (language : Text)

namespace Memory

variable {decide : Text → Option Lookup} {known later : List (Text × Dictionary)} {codes : List Text} {memory : Memory}

def ask (tree : FileTree) (folder : Path) (memory : Memory) : Question → Lookup × Memory
  | .builtin language => memory.askBuiltin language
  | .folder language => memory.askFolder tree folder language

def after (tree : FileTree) (folder : Path) (memory : Memory) (history : List Question) : Memory :=
  history.foldl (fun memory question => (memory.ask tree folder question).2) memory

def Remembers (decide : Text → Option Lookup) (known : List (Text × Dictionary)) : Prop :=
  ∀ entry ∈ known, decide entry.1 = some (.found entry.2)

theorem firstAnswer_decides (sound : Remembers decide known) (codes : List Text) :
    (firstAnswer decide known codes).map Prod.fst = codes.findSome? decide := by
  induction codes with
  | nil => rfl
  | cons code rest ih =>
    rw [firstAnswer,List.findSome?_cons]
    split
    · rename_i entry dictionary recalled
      have own := List.find?_some recalled
      rw [← of_decide_eq_true own,sound _ (List.mem_of_find?_eq_some recalled)]
      rfl
    · cases decided : decide code with
      | none => exact ih
      | some answer => cases answer <;> rfl

theorem firstAnswer_remembers (sound : Remembers decide known)
    (asked : firstAnswer decide known codes = some (answer,later)) : Remembers decide later := by
  induction codes with
  | nil => cases asked
  | cons code rest ih =>
    rw [firstAnswer] at asked
    split at asked
    · cases asked
      exact sound
    · split at asked
      · rename_i dictionary decided
        cases asked
        exact List.forall_mem_cons.mpr ⟨decided,sound⟩
      · cases asked
        exact sound
      · exact ih asked

structure Sound (tree : FileTree) (folder : Path) (memory : Memory) : Prop where
  ofFiles : Remembers (ofFile? tree folder) memory.ofFiles
  ofBuiltin : Remembers (fun code => (ofCode? code).map .found) memory.ofBuiltin

theorem sound_empty (tree : FileTree) (folder : Path) : Sound tree folder empty :=
  ⟨List.forall_mem_nil _,List.forall_mem_nil _⟩

theorem Sound.askBuiltin (sound : Sound tree folder memory) (language : Text) :
    (memory.askBuiltin language).1 = builtinSource language ∧ Sound tree folder (memory.askBuiltin language).2 := by
  have decides := firstAnswer_decides sound.ofBuiltin (candidates language)
  have found : (candidates language).findSome? (fun code => (ofCode? code).map Lookup.found) =
      ((candidates language).findSome? ofCode?).map Lookup.found := List.map_findSome?.symm
  unfold Memory.askBuiltin builtinSource
  rw [found] at decides
  split
  · rename_i answer known asked
    rw [asked] at decides
    refine ⟨?_,sound.ofFiles,firstAnswer_remembers sound.ofBuiltin asked⟩
    obtain ⟨dictionary,first,same⟩ := Option.map_eq_some_iff.mp decides.symm
    rw [first]
    exact same.symm
  · rename_i asked
    rw [asked] at decides
    rw [Option.map_eq_none_iff.mp decides.symm]
    exact ⟨rfl,sound⟩

theorem Sound.askFolder (sound : Sound tree folder memory) (language : Text) :
    (memory.askFolder tree folder language).1 = folderSource tree folder language ∧
      Sound tree folder (memory.askFolder tree folder language).2 := by
  have decides := firstAnswer_decides sound.ofFiles (candidates language)
  unfold Memory.askFolder folderSource
  split
  · rename_i answer known asked
    rw [asked] at decides
    rw [← decides]
    exact ⟨rfl,firstAnswer_remembers sound.ofFiles asked,sound.ofBuiltin⟩
  · rename_i asked
    rw [asked] at decides
    rw [← decides]
    exact sound.askBuiltin language

theorem Sound.after (sound : Sound tree folder memory) (history : List Question) :
    Sound tree folder (memory.after tree folder history) := by
  induction history generalizing memory with
  | nil => exact sound
  | cons question rest ih =>
    apply ih
    cases question with
    | builtin language => exact (sound.askBuiltin language).2
    | folder language => exact (sound.askFolder language).2

-- Whatever was asked before, found or not, a language has the answer that a new provider
-- gives: that of the first of its codes with a file, else with a built-in dictionary.
-- How the code was spelled shows only where nothing is found.
theorem lookups_layered (tree : FileTree) (folder : Path) (history : List Question) (language : Text) :
    let memory := empty.after tree folder history
    let found := (memory.askFolder tree folder language).1
    let builtin := (memory.askBuiltin language).1
    (found = (empty.askFolder tree folder language).1 ∧ builtin = (empty.askBuiltin language).1) ∧
    (∀ answer, found = answer ↔ FromFolder tree folder language answer) ∧
    (∀ answer, builtin = answer ↔ FromBuiltin language answer) ∧
    ∀ other, normalCode other = normalCode language →
      (memory.askFolder tree folder other).1 = found.requoted other ∧
      (memory.askBuiltin other).1 = builtin.requoted other := by
  intro memory found builtin
  have new := sound_empty tree folder
  have sound : Sound tree folder memory := new.after history
  have files : ∀ language, (memory.askFolder tree folder language).1 = folderSource tree folder language :=
    fun language => (sound.askFolder language).1
  have words : ∀ language, (memory.askBuiltin language).1 = builtinSource language :=
    fun language => (sound.askBuiltin language).1
  refine ⟨⟨?_,?_⟩,fun answer => ?_,fun answer => ?_,fun other same => ⟨?_,?_⟩⟩
  · exact (files language).trans (new.askFolder language).1.symm
  · exact (words language).trans (new.askBuiltin language).1.symm
  · rw [← folderSource_iff,← files]
  · rw [← builtinSource_iff,← words]
  · have own : FromFolder tree folder language found := folderSource_iff.mp (files language).symm
    exact (files other).trans (folderSource_iff.mpr (own.respelled same))
  · have own : FromBuiltin language builtin := builtinSource_iff.mp (words language).symm
    exact (words other).trans (builtinSource_iff.mpr (own.respelled same))

-- A broken file of a region, behind a good one of the whole language that is remembered.
theorem lookups_layered_regional :
    let tree : FileTree := ⟨[([['d'],"pt.json".toList],.bytes (encodeUtf8 "\x7b\x7d".toList)),
      ([['d'],"pt-br.json".toList],.bytes (encodeUtf8 "\x7b".toList))]⟩
    let memory := empty.after tree ⟨['d']⟩ [.folder "pt".toList,.folder "pt_BR".toList]
    (memory.askFolder tree ⟨['d']⟩ "pt_BR".toList).1 = .failed (.invalid "pt-br".toList) ∧
    (memory.askFolder tree ⟨['d']⟩ " PT-br".toList).1 = .failed (.invalid "pt-br".toList) := by
  intro tree memory
  obtain ⟨_,layered,_,respelled⟩ := lookups_layered tree ⟨['d']⟩ [.folder "pt".toList,.folder "pt_BR".toList]
    "pt_BR".toList
  have code : normalCode "pt_BR".toList = "pt-br".toList := by decide
  have located : tree.locate (fileOf ⟨['d']⟩ "pt-br".toList) = some (.bytes (encodeUtf8 "\x7b".toList)) := by decide +kernel
  have decoded : decodeUtf8 (encodeUtf8 "\x7b".toList) = some "\x7b".toList := by decide +kernel
  have refused : ofJson? "pt-br".toList "\x7b".toList = none := by
    rw [← Option.isNone_iff_eq_none]
    decide
  have whole : First (HasFile tree ⟨['d']⟩) "pt_BR".toList "pt-br".toList := by
    rw [← code]
    exact .whole ⟨_,code ▸ located⟩
  have found := (layered _).mpr (.file whole located (.malformed decoded refused))
  refine ⟨found,(respelled " PT-br".toList (by decide)).1.trans ?_⟩
  rw [found]
  rfl

end Memory
end Dictionary
end ScenarioLang
