import GrammarCorpus.Argument
import GrammarCorpus.Binary64.Basic
import GrammarCorpus.Binary64.Decimal
import GrammarCorpus.Checks
import GrammarCorpus.CommandLine.CorpusCommand
import GrammarCorpus.CommandLine.Ending
import GrammarCorpus.CommandLine.GrammarCommand
import GrammarCorpus.CommandLine.Options
import GrammarCorpus.CommandLine.SurveyCommand
import GrammarCorpus.Config
import GrammarCorpus.Console
import GrammarCorpus.Corpus.Partition
import GrammarCorpus.Corpus.Pool
import GrammarCorpus.Corpus.Report
import GrammarCorpus.Corpus.Run
import GrammarCorpus.Corpus.Scratch
import GrammarCorpus.Corpus.Store
import GrammarCorpus.Corpus.Survey
import GrammarCorpus.Corpus.SurveyReport
import GrammarCorpus.Corpus.Trial
import GrammarCorpus.Datum
import GrammarCorpus.Datum.Description
import GrammarCorpus.Datum.Json
import GrammarCorpus.Files.FileTree
import GrammarCorpus.Files.Machine
import GrammarCorpus.Files.Path
import GrammarCorpus.Files.SystemError
import GrammarCorpus.Frontier
import GrammarCorpus.Generator
import GrammarCorpus.Grammar
import GrammarCorpus.Literal.Cutting
import GrammarCorpus.Literal.Insertion
import GrammarCorpus.Literal.Lexeme
import GrammarCorpus.Literal.Mistake
import GrammarCorpus.Literal.Numeral
import GrammarCorpus.Literal.Pattern
import GrammarCorpus.Literal.Phrase
import GrammarCorpus.Literal.Quotation
import GrammarCorpus.Literal.Reading
import GrammarCorpus.Literal.Refusal
import GrammarCorpus.Literal.Tree
import GrammarCorpus.Literal.Value
import GrammarCorpus.Main
import GrammarCorpus.Markup.Action
import GrammarCorpus.Markup.Basic
import GrammarCorpus.Markup.Colour
import GrammarCorpus.Markup.Error
import GrammarCorpus.Markup.Page
import GrammarCorpus.Markup.Passage
import GrammarCorpus.Markup.Picture
import GrammarCorpus.Markup.PictureTable
import GrammarCorpus.Markup.Sheet
import GrammarCorpus.Markup.Style
import GrammarCorpus.Oracle.Basic
import GrammarCorpus.Oracle.Launch
import GrammarCorpus.Oracle.Verdict
import GrammarCorpus.Productivity
import GrammarCorpus.Random.Mersenne
import GrammarCorpus.Random.Scripted
import GrammarCorpus.Random.Source
import GrammarCorpus.Reachability
import GrammarCorpus.Recount
import GrammarCorpus.Rendering
import GrammarCorpus.Sample
import GrammarCorpus.Text.Blank
import GrammarCorpus.Text.Case
import GrammarCorpus.Text.Cased
import GrammarCorpus.Text.CellWidth
import GrammarCorpus.Text.CharacterName
import GrammarCorpus.Text.CharacterNameList
import GrammarCorpus.Text.Letter
import GrammarCorpus.Text.LetterForm
import GrammarCorpus.Text.Numeral
import GrammarCorpus.Text.Quoted
import GrammarCorpus.Text.Ranges
import GrammarCorpus.Text.Scan
import GrammarCorpus.Text.Utf8
import GrammarCorpus.Text.Wrap
import GrammarCorpus.Total
import GrammarCorpus.Validation
import GrammarCorpus.Proofs.Pool.Awaited
import GrammarCorpus.Proofs.Stride
import GrammarCorpus.Proofs.Work
import GrammarCorpus.Proofs.Pool.Ending
import GrammarCorpus.Proofs.Pool.Agreement
import GrammarCorpus.Proofs.Pool.Foresight
import GrammarCorpus.Proofs.Files.Tree
import GrammarCorpus.Proofs.Files.Walk
import GrammarCorpus.Proofs.Files.Operation
import GrammarCorpus.Proofs.Files.Change
import GrammarCorpus.Proofs.Files.Discard
import GrammarCorpus.Proofs.Files.PathText
import GrammarCorpus.Proofs.Store.Site
import GrammarCorpus.Proofs.Store.Residue
import GrammarCorpus.Proofs.Store.Growth
import GrammarCorpus.Proofs.Store.Delivery
import GrammarCorpus.Proofs.Store.Staging
import GrammarCorpus.Proofs.Store.Missing
import GrammarCorpus.Proofs.Store.Settling
import GrammarCorpus.Proofs.Store.Attempt
import GrammarCorpus.Proofs.Store.AllOrNothing
import GrammarCorpus.Proofs.Draw
import GrammarCorpus.Proofs.Frontier
import GrammarCorpus.Proofs.Expansion
import GrammarCorpus.Proofs.Productivity
import GrammarCorpus.Proofs.Derivation
import GrammarCorpus.Proofs.DrawnRule
import GrammarCorpus.Proofs.Generation
import GrammarCorpus.Proofs.ReducedGrammar
import GrammarCorpus.Proofs.GrammarShape
import GrammarCorpus.Proofs.DerivationTree
import GrammarCorpus.Proofs.Search
import GrammarCorpus.Proofs.BreadthFirst
import GrammarCorpus.Proofs.Text.Splitting
import GrammarCorpus.Proofs.Recount
import GrammarCorpus.Proofs.Dialect
import GrammarCorpus.Proofs.Mersenne
import GrammarCorpus.Proofs.Rendering
import GrammarCorpus.Proofs.Keeping
import GrammarCorpus.Proofs.Files.Naming
import GrammarCorpus.Proofs.Files.Upkeep
import GrammarCorpus.Proofs.Store.Upkeep
import GrammarCorpus.Proofs.Store.Outcome
import GrammarCorpus.Proofs.Files.PathReading
import GrammarCorpus.Proofs.Corpus.Scratch
import GrammarCorpus.Proofs.Pool.Keeping
import GrammarCorpus.Proofs.Corpus.Trial
import GrammarCorpus.Proofs.Corpus.Batch
import GrammarCorpus.Proofs.Corpus.Classes
import GrammarCorpus.Proofs.Corpus.History
import GrammarCorpus.Proofs.Corpus.Layout
import GrammarCorpus.Proofs.Corpus.Survey
import GrammarCorpus.Proofs.Corpus.Report
import GrammarCorpus.Proofs.Corpus.Invariant
import GrammarCorpus.Proofs.Corpus.Judging
import GrammarCorpus.Proofs.Corpus.Reproducibility
import GrammarCorpus.Proofs.Store.Gain
import GrammarCorpus.Proofs.Corpus.Classification
import GrammarCorpus.Proofs.Corpus.Abort
import GrammarCorpus.Proofs.Text.Determination
import GrammarCorpus.Proofs.Unambiguity
import GrammarCorpus.Proofs.Corpus.Duplicates
import GrammarCorpus.Proofs.Failure
import GrammarCorpus.Proofs.Sampling
import GrammarCorpus.Proofs.Tape
import GrammarCorpus.Proofs.Totality
import GrammarCorpus.Proofs.Attainment
import GrammarCorpus.Proofs.Coverage
import GrammarCorpus.Proofs.Validation
import GrammarCorpus.Proofs.Exploration
import GrammarCorpus.Proofs.Corpus.Seeds
import GrammarCorpus.Proofs.Corpus.Accounting
import GrammarCorpus.Proofs.Corpus.Collecting
import GrammarCorpus.Proofs.Corpus.Confinement
import GrammarCorpus.Proofs.Text.Lines
import GrammarCorpus.Proofs.Text.AnyCase
import GrammarCorpus.Proofs.Oracle.MarkerLines
import GrammarCorpus.Proofs.Oracle.MarkerPresence
import GrammarCorpus.Proofs.Markup.Bare
import GrammarCorpus.Proofs.Console
import GrammarCorpus.Proofs.SampleReport
import GrammarCorpus.Proofs.Failing
import GrammarCorpus.Proofs.Files.Failing
import GrammarCorpus.Proofs.Corpus.Fatality
import GrammarCorpus.Proofs.Corpus.LastLook
import GrammarCorpus.Proofs.CommandLine.GrammarCommand
import GrammarCorpus.Proofs.CommandLine.CorpusCommand
import GrammarCorpus.Proofs.Files.Resolution
import GrammarCorpus.Proofs.Oracle.Anchoring
import GrammarCorpus.Proofs.Asking
import GrammarCorpus.Proofs.Scarcity
import GrammarCorpus.Proofs.SampleGrowth
import GrammarCorpus.Proofs.Store.Listing
import GrammarCorpus.Proofs.Text.Quotation
import GrammarCorpus.Proofs.Lexer
import GrammarCorpus.Proofs.Redrawing
import GrammarCorpus.Proofs.Store.Foretelling
