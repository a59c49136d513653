import Dealer.Admission
import Dealer.ByName
import Dealer.Decimal.Dyadic
import Dealer.Decimal.Layout
import Dealer.Decimal.Reading
import Dealer.Decimal.Shortest
import Dealer.Distinct
import Dealer.Document
import Dealer.Document.Filler
import Dealer.Document.Nesting
import Dealer.Document.Number
import Dealer.Document.Quotation
import Dealer.Document.Reader
import Dealer.Document.SyntaxError
import Dealer.Eval.Count
import Dealer.Eval.Deck
import Dealer.Eval.Error
import Dealer.Eval.Flag
import Dealer.Eval.LabelSet
import Dealer.Eval.Matcher
import Dealer.Eval.Memo
import Dealer.Eval.Quantity
import Dealer.Eval.State
import Dealer.Expr.Deck
import Dealer.Expr.Flag
import Dealer.Expr.LabelSet
import Dealer.Expr.Matcher
import Dealer.Expr.Quantity
import Dealer.Generator.Basic
import Dealer.Generator.Block
import Dealer.Generator.Sample
import Dealer.Hands
import Dealer.Holdings
import Dealer.Import
import Dealer.Limits
import Dealer.Overflow
import Dealer.Pages
import Dealer.Pattern
import Dealer.Pattern.Basic
import Dealer.Pattern.Brackets
import Dealer.Pattern.Escape
import Dealer.Pattern.Footprint
import Dealer.Pattern.Modes
import Dealer.Pattern.Reader
import Dealer.Pattern.Search
import Dealer.Pattern.Source
import Dealer.Play
import Dealer.Rule
import Dealer.Script
import Dealer.Session
import Dealer.Setup
import Dealer.Shape
import Dealer.Table
import Dealer.Text.Breaks
import Dealer.Text.Casing
import Dealer.Text.CharSet
import Dealer.Text.Chart.Added
import Dealer.Text.Chart.Ages
import Dealer.Text.Chart.CaseFold
import Dealer.Text.Chart.Casing
import Dealer.Text.Chart.Emoji
import Dealer.Text.Chart.Ideographs
import Dealer.Text.Chart.Letters
import Dealer.Text.Chart.Marks
import Dealer.Text.Chart.Numbers
import Dealer.Text.Chart.Punctuation
import Dealer.Text.Chart.Scripts
import Dealer.Text.Chart.Separators
import Dealer.Text.Chart.SharedScripts
import Dealer.Text.Chart.Symbols
import Dealer.Text.Chart.WordParts
import Dealer.Text.Label
import Dealer.Text.Letter
import Dealer.Text.Name
import Dealer.Text.Property
import Dealer.Text.Quoted
import Dealer.Text.Script
import Dealer.Text.Utf8
import Dealer.Transcript
import Dealer.Proofs.References
import Dealer.Proofs.Compose
import Dealer.Proofs.Growth
import Dealer.Proofs.Answers
import Dealer.Proofs.Depth
import Dealer.Proofs.Metered
import Dealer.Proofs.Course
import Dealer.Proofs.Budget
import Dealer.Proofs.Choices
import Dealer.Proofs.Meaning
import Dealer.Proofs.Classes
import Dealer.Proofs.Entries
import Dealer.Proofs.Grammar
import Dealer.Proofs.Filler
import Dealer.Proofs.Quotation
import Dealer.Proofs.Rounding
import Dealer.Proofs.Doubles
import Dealer.Proofs.Tokens
import Dealer.Proofs.Literals
import Dealer.Proofs.Rendering
import Dealer.Proofs.BreakingOff
import Dealer.Proofs.WholeNumbers
import Dealer.Proofs.Skimming
import Dealer.Proofs.Bodies
import Dealer.Proofs.Json
import Dealer.Proofs.JsonReading
import Dealer.Proofs.Turns
import Dealer.Proofs.Rounds
import Dealer.Proofs.Telling
import Dealer.Proofs.Ensuring
import Dealer.Proofs.Dealing
import Dealer.Proofs.Moderator
import Dealer.Proofs.Secrecy
import Dealer.Proofs.Kinds
import Dealer.Proofs.Grounded
import Dealer.Proofs.Replay
import Dealer.Proofs.Aliases
import Dealer.Proofs.OneKind
import Dealer.Proofs.Blaming
import Dealer.Proofs.Desk
import Dealer.Proofs.Failing
import Dealer.Proofs.Importing
import Dealer.Proofs.Records
import Dealer.Proofs.Sizes
import Dealer.Proofs.Paging
import Dealer.Proofs.Delivery
import Dealer.Proofs.Revealing
import Dealer.Proofs.Announcing
import Dealer.Proofs.Joining
import Dealer.Proofs.SetAlgebra
import Dealer.Proofs.SizeBounds
import Dealer.Proofs.Chance
import Dealer.Proofs.KeyShapes
import Dealer.Proofs.RuleShapes
import Dealer.Proofs.Sampling
import Dealer.Proofs.Hiding
import Dealer.Proofs.KnownDecks
import Dealer.Proofs.NormalLabels
import Dealer.Proofs.Seams
import Dealer.Proofs.Counting
import Dealer.Proofs.Admitting
import Dealer.Proofs.DealingOrder
import Dealer.Proofs.Grouping
import Dealer.Proofs.LastWrites
import Dealer.Proofs.ImportingInTurn
