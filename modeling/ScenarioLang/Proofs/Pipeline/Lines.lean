import ScenarioLang.Proofs.Lexer.Skipping
import ScenarioLang.Proofs.Parsing.Origin
import ScenarioLang.Proofs.Text.Lines

namespace ScenarioLang

def Document.rehashed (hash : Text) (doc : Document) : Document :=
  doc.under (doc.fileInfo.map fun info => ⟨info.path,hash⟩)

def Recognizer.HashBlind (recognizer : Recognizer σ) : Prop :=
  ∀ hash language doc state, recognizer.recognize language (doc.rehashed hash) state =
    ((recognizer.recognize language doc state).1.rehashed hash,(recognizer.recognize language doc state).2)

theorem Recognizer.none_blind : none.HashBlind := fun _ _ _ _ => rfl

theorem Recognizer.HashBlind.apply {recognizer : Recognizer σ} (blind : recognizer.HashBlind) (hash language : Text)
    (doc : Document) (state : σ) : recognizer.apply language (doc.rehashed hash) state =
      ((recognizer.apply language doc state).1.rehashed hash,(recognizer.apply language doc state).2) := by
  unfold Recognizer.apply
  split
  · rfl
  · rfl
  · rename_i prepared _
    rw [blind hash language doc prepared]
    generalize recognizer.recognize language doc prepared = recognized
    obtain ⟨doc,reply⟩ := recognized
    cases reply <;> rfl

namespace Pipeline
open Text

-- A text without carriage returns, or the same with one before every line feed,
-- and the line breaks it can be cut at without a difference.
inductive Recut (t : Text) : Text → Text → Prop where
  | feeds : Recut t t ['\n']
  | feedsByDefault : Recut t t []
  | returns : Recut t (returned t) ['\r','\n']
  | returnsByFeed : Recut t (returned t) ['\n']
  | returnsByDefault : Recut t (returned t) []

theorem linesOf_recut {t content lineBreak : Text} (plain : '\r' ∉ t) (recut : Recut t content lineBreak) :
    linesOf content lineBreak = numbered (split (· = '\n') t) := by
  have feeds : (cut ['\n'] t).map dropReturn = split (· = '\n') t := by rw [cut_feeds,split_plain plain]
  have returns : (cut ['\r','\n'] (returned t)).map dropReturn = split (· = '\n') t := by
    rw [cut_returns plain,split_plain plain]
  have byFeed : (cut ['\n'] (returned t)).map dropReturn = split (· = '\n') t := by
    rw [cut_feeds,split_returned plain]
  cases recut with
  | feeds => exact congrArg numbered feeds
  | feedsByDefault => exact congrArg numbered feeds
  | returns => exact congrArg numbered returns
  | returnsByFeed => exact congrArg numbered byFeed
  | returnsByDefault => exact congrArg numbered byFeed

theorem parseLexed_rehashed (setup : LexerSetup) (lexed : Reading) (path : Path) (before hash : Text) :
    parseLexed setup lexed ⟨path,hash⟩ =
      ((parseLexed setup lexed ⟨path,before⟩).1.rehashed hash,(parseLexed setup lexed ⟨path,before⟩).2) := by
  have under : parse setup.stopOnError lexed.nodes ((Document.ofFile ⟨path,before⟩).under (some ⟨path,hash⟩)) [] = _ :=
    parse_under setup.stopOnError lexed.nodes (.ofFile ⟨path,before⟩) []
  have own : (parse setup.stopOnError lexed.nodes (.ofFile ⟨path,before⟩) []).doc.fileInfo = some ⟨path,before⟩ :=
    Parsing.run_origin _ _
  have same : (Document.ofFile ⟨path,before⟩).under (some ⟨path,hash⟩) = .ofFile ⟨path,hash⟩ := rfl
  rw [same] at under
  simp only [parseLexed,under,Document.rehashed,own]
  rfl

theorem process_lines {recognizer : Recognizer σ} (blind : recognizer.HashBlind) {content text lineBreak feed : Text}
    (lines : linesOf content lineBreak = linesOf text feed) (pipeline : Pipeline) (path : Path)
    (problems : ProblemMap) (state : σ) :
    pipeline.process recognizer path content lineBreak problems state =
      ((pipeline.process recognizer path text feed problems state).1.rehashed (Hash.ofText content),
        (pipeline.process recognizer path text feed problems state).2) := by
  simp only [process,lines]
  split
  · rfl
  · rw [parseLexed_rehashed _ _ path (Hash.ofText text)]
    generalize parseLexed _ _ _ = parsed
    obtain ⟨doc,found⟩ := parsed
    have language : languageOf pipeline.setup (doc.rehashed (Hash.ofText content)) = languageOf pipeline.setup doc := rfl
    simp only [language,blind.apply]

end Pipeline

-- The lines that lie between line feeds are read as those that end in one: a last
-- line with nothing in it is passed over.
theorem LexerState.addLines_parted (setup : LexerSetup) (state : LexerState) {content : Text}
    (unreturned : content.getLast? ≠ some '\r') :
    state.addLines setup (Pipeline.linesOf content ['\n']) = state.addLines setup (Text.numbered content.lines) := by
  have cut : Pipeline.linesOf content ['\n'] = Text.numbered ((Text.split (· = '\n') content).map Text.dropReturn) := by
    rw [← Text.cut_feeds]
    rfl
  rcases Text.lines_parted unreturned with same | more
  · rw [cut,same]
  · have last : Text.numbered (content.lines ++ [[]]) =
        Text.numbered content.lines ++ [([],1 + content.lines.length)] := by
      rw [Text.numbered,List.zipIdx_append]
      rfl
    rw [cut,more,last,addLines_append]
    cases state.addLines setup (Text.numbered content.lines) with
    | error broken => rfl
    | ok next =>
      apply addLines_skipped
      intro line member
      obtain rfl := List.mem_singleton.mp member
      exact .blank rfl

end ScenarioLang
