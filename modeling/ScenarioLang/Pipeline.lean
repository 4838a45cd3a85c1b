import ScenarioLang.Hash
import ScenarioLang.Lexer
import ScenarioLang.Parsing
import ScenarioLang.Recognition

namespace ScenarioLang

structure Pipeline where
  setup : LexerSetup
  lexer : LexerState

namespace Pipeline

def ofSetup (setup : LexerSetup) : Pipeline := ⟨setup,setup.initial⟩

-- Lines lie between line breaks. Without a line break of its own a text is cut
-- at line feeds, and a carriage return at the end of a line is always dropped.
def linesOf (content lineBreak : Text) : List (Text × Nat) :=
  let lineBreak := if lineBreak = [] then ['\n'] else lineBreak
  Text.numbered ((Text.cut lineBreak content).map Text.dropReturn)

def crash : Problem := .unlocated .internal "lexing or parsing panicked"

def parseLexed (setup : LexerSetup) (lexed : Reading) (info : FileInfo) : Document × FileProblems :=
  let parsed := parse setup.stopOnError lexed.nodes (.ofFile info) []
  (parsed.doc,
    ⟨lexed.errors.map .ofLexicalError ++ parsed.errors.map .ofSyntacticError,
      lexed.warnings.map .ofLexicalWarning⟩)

def languageOf (setup : LexerSetup) (doc : Document) : Text :=
  doc.languageCode?.getD setup.base.language

-- One file. Everything found is reported under its path. After a crash of the
-- lexer the document is empty, nothing is recognized, and the lexer recovers.
def process (pipeline : Pipeline) (recognizer : Recognizer σ) (path : Path) (content lineBreak : Text)
    (problems : ProblemMap) (state : σ) : Document × Pipeline × ProblemMap × σ :=
  let setup := pipeline.setup
  let info : FileInfo := ⟨path,Hash.ofText content⟩
  match pipeline.lexer.addLines setup (linesOf content lineBreak) with
  | .error broken => (.ofFile info,⟨setup,broken.recover setup⟩,problems.addError path crash,state)
  | .ok lexer =>
    let (lexed,lexer) := lexer.finish setup
    let (doc,found) := parseLexed setup lexed info
    let (doc,recognized,state) := recognizer.apply (languageOf setup doc) doc state
    (doc,⟨setup,lexer⟩,problems.add path (found.add recognized),state)

end Pipeline
end ScenarioLang
