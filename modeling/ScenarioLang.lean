import ScenarioLang.Compilation
import ScenarioLang.Dictionary.Memory
import ScenarioLang.Options.File
import ScenarioLang.Proofs.Parsing.Layout
import ScenarioLang.Proofs.Parsing.Admission
import ScenarioLang.Proofs.Parsing.Conservation
import ScenarioLang.Proofs.Parsing.Rules
import ScenarioLang.Proofs.Parsing.WellFormed
import ScenarioLang.Proofs.Parsing.Reached
import ScenarioLang.Proofs.Parsing.Stopping
import ScenarioLang.Proofs.Parsing.Ownership
import ScenarioLang.Proofs.Unicode.Lowercase
import ScenarioLang.Proofs.Unicode.AsciiCase
import ScenarioLang.Proofs.Unicode.CaseFold
import ScenarioLang.Proofs.Text.Words
import ScenarioLang.Proofs.Line.Opening
import ScenarioLang.Proofs.Dictionary.Source
import ScenarioLang.Proofs.Lexer
import ScenarioLang.Proofs.PathMap
import ScenarioLang.Proofs.Status
import ScenarioLang.Proofs.ProblemMap
import ScenarioLang.Proofs.Pipeline
import ScenarioLang.Proofs.Compilation.Outcome
import ScenarioLang.Proofs.Compilation.Tasks
import ScenarioLang.Proofs.Compilation.Shared
import ScenarioLang.Proofs.Compilation.Invariant
import ScenarioLang.Proofs.ImportGraph
import ScenarioLang.Proofs.ImportGraph.Built
import ScenarioLang.Proofs.Compilation.Progress
import ScenarioLang.Proofs.Compilation.Imports
import ScenarioLang.Proofs.Compilation.Termination
import ScenarioLang.Proofs.Compilation.Complete
import ScenarioLang.Proofs.ImportGraph.Drawn
import ScenarioLang.Proofs.ImportGraph.Search
import ScenarioLang.Proofs.ImportGraph.Ranking
import ScenarioLang.Proofs.ImportGraph.Cycles
import ScenarioLang.Proofs.ImportGraph.Order
import ScenarioLang.Proofs.Lexer.Reset
import ScenarioLang.Proofs.Lexer.Stopping
import ScenarioLang.Proofs.Line.Location
import ScenarioLang.Proofs.Lexer.Location
import ScenarioLang.Proofs.Lexer.Language
import ScenarioLang.Proofs.Pipeline.Stopping
import ScenarioLang.Proofs.Compilation.Stopping
import ScenarioLang.Proofs.Lexer.Nodes
import ScenarioLang.Proofs.Lexer.Followers
import ScenarioLang.Proofs.Compilation.Settled
import ScenarioLang.Proofs.Lexer.Renumbering
import ScenarioLang.Proofs.Parsing.Renumbering
import ScenarioLang.Proofs.Lexer.Skipping
import ScenarioLang.Proofs.Lexer.Frame
import ScenarioLang.Proofs.Lexer.LongString
import ScenarioLang.Proofs.Text.Quoted
import ScenarioLang.Proofs.Line.Item
import ScenarioLang.Proofs.Lexer.ItemList
import ScenarioLang.Proofs.Parsing.ItemList
import ScenarioLang.Proofs.Pipeline.ItemList
import ScenarioLang.Proofs.Path.Folding
import ScenarioLang.Proofs.Compilation.Folding
import ScenarioLang.Proofs.Dictionary.Memory
import ScenarioLang.Proofs.Lexer.Comment
import ScenarioLang.Proofs.Lexer.Declaration
import ScenarioLang.Proofs.Line.Row
import ScenarioLang.Proofs.Line.Tag
import ScenarioLang.Proofs.Line.Definition
import ScenarioLang.Proofs.Text.Spelling
import ScenarioLang.Proofs.Line.Header
import ScenarioLang.Proofs.Lexer.Header
import ScenarioLang.Proofs.Text.Cover
import ScenarioLang.Proofs.Text.Capture
import ScenarioLang.Proofs.Line.Step
import ScenarioLang.Proofs.Line.Import
import ScenarioLang.Proofs.ImportGraph.Outline
import ScenarioLang.Proofs.Specification
import ScenarioLang.Proofs.ProblemMap.Observers
import ScenarioLang.KeywordPattern
import ScenarioLang.Proofs.Text.Lines
import ScenarioLang.Proofs.Parsing.Origin
import ScenarioLang.Proofs.Pipeline.Lines
import ScenarioLang.Proofs.Compilation.Mark
import ScenarioLang.Proofs.Path.Distinct
import ScenarioLang.Proofs.Parsing.Imports
import ScenarioLang.Proofs.Text.Pattern
import ScenarioLang.Proofs.Line.Words
import ScenarioLang.Proofs.Text.Scan
