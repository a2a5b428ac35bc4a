import VuePrecompiler.Binding.Comments
import VuePrecompiler.Binding.Found
import VuePrecompiler.Binding.Marker
import VuePrecompiler.Build.Diagnostic
import VuePrecompiler.Build.Pipeline
import VuePrecompiler.Build.Registry
import VuePrecompiler.Build.RenderModule
import VuePrecompiler.Build.Resolution
import VuePrecompiler.Build.RuntimeBuilds
import VuePrecompiler.Build.Task
import VuePrecompiler.Build.Templates
import VuePrecompiler.Build.Toolchain
import VuePrecompiler.Command.Arguments
import VuePrecompiler.Command.Help
import VuePrecompiler.Command.Program
import VuePrecompiler.Command.Report
import VuePrecompiler.Command.Run
import VuePrecompiler.Es5.BlockNames
import VuePrecompiler.Es5.Blocks
import VuePrecompiler.Es5.Brackets
import VuePrecompiler.Es5.Build
import VuePrecompiler.Es5.Capture
import VuePrecompiler.Es5.Cases
import VuePrecompiler.Es5.Classes
import VuePrecompiler.Es5.Constructors
import VuePrecompiler.Es5.Destructuring
import VuePrecompiler.Es5.Exits
import VuePrecompiler.Es5.Functions
import VuePrecompiler.Es5.Generators
import VuePrecompiler.Es5.Helpers
import VuePrecompiler.Es5.Hoisting
import VuePrecompiler.Es5.Iteration
import VuePrecompiler.Es5.Keys
import VuePrecompiler.Es5.Literals
import VuePrecompiler.Es5.Loops
import VuePrecompiler.Es5.Lowering
import VuePrecompiler.Es5.NewTarget
import VuePrecompiler.Es5.ObjectMethods
import VuePrecompiler.Es5.Occurrences
import VuePrecompiler.Es5.Parameters
import VuePrecompiler.Es5.Properties
import VuePrecompiler.Es5.Renaming
import VuePrecompiler.Es5.Rounds
import VuePrecompiler.Es5.Scope
import VuePrecompiler.Es5.Sequences
import VuePrecompiler.Es5.Spread
import VuePrecompiler.Es5.Steps
import VuePrecompiler.Es5.SuperMembers
import VuePrecompiler.Es5.TypeTests
import VuePrecompiler.Es5.Yields
import VuePrecompiler.Files.Normal
import VuePrecompiler.Files.Path
import VuePrecompiler.Files.Snapshot
import VuePrecompiler.Javascript.Grammar.Class
import VuePrecompiler.Javascript.Grammar.Expression
import VuePrecompiler.Javascript.Grammar.Function
import VuePrecompiler.Javascript.Grammar.Program
import VuePrecompiler.Javascript.Grammar.Statement
import VuePrecompiler.Javascript.Grammar.Target
import VuePrecompiler.Javascript.Printing
import VuePrecompiler.Javascript.Program
import VuePrecompiler.Javascript.Reader
import VuePrecompiler.Javascript.StringLiteral
import VuePrecompiler.Javascript.Token
import VuePrecompiler.Javascript.Tree
import VuePrecompiler.Javascript.Validity
import VuePrecompiler.Javascript.Words
import VuePrecompiler.Main
import VuePrecompiler.Render.Assignment
import VuePrecompiler.Render.Children
import VuePrecompiler.Render.Code
import VuePrecompiler.Render.Data
import VuePrecompiler.Render.Directive
import VuePrecompiler.Render.Entities
import VuePrecompiler.Render.Handler
import VuePrecompiler.Render.Listeners
import VuePrecompiler.Render.Model
import VuePrecompiler.Render.Style
import VuePrecompiler.Settings.Comments
import VuePrecompiler.Settings.File
import VuePrecompiler.Settings.Glob
import VuePrecompiler.Settings.Json
import VuePrecompiler.Settings.Resolved
import VuePrecompiler.Source.Edits
import VuePrecompiler.Source.Lines
import VuePrecompiler.Source.Span
import VuePrecompiler.Template.Arrangement
import VuePrecompiler.Template.Chain
import VuePrecompiler.Template.Error
import VuePrecompiler.Template.Loop
import VuePrecompiler.Template.Reading
import VuePrecompiler.Template.SlotContent
import VuePrecompiler.Template.StartTag
import VuePrecompiler.Template.Syntax
import VuePrecompiler.Template.Token
import VuePrecompiler.Text.Blank
import VuePrecompiler.Text.Bytes
import VuePrecompiler.Text.Camel
import VuePrecompiler.Text.Cursor
import VuePrecompiler.Text.Cut
import VuePrecompiler.Text.IdentifierChars
import VuePrecompiler.Text.Number
import VuePrecompiler.Text.Ranges
import VuePrecompiler.Text.WordChars
import VuePrecompiler.Proofs.Cuts
import VuePrecompiler.Proofs.Splicing
import VuePrecompiler.Proofs.SpannedTrees
import VuePrecompiler.Proofs.ConvertibleBindings
import VuePrecompiler.Proofs.TemplateSteps
import VuePrecompiler.Proofs.Rewriting
import VuePrecompiler.Proofs.PathParts
import VuePrecompiler.Proofs.Registration
import VuePrecompiler.Proofs.NormalPaths
import VuePrecompiler.Proofs.Quotation
import VuePrecompiler.Proofs.Specifiers
import VuePrecompiler.Proofs.CursorMoves
import VuePrecompiler.Proofs.Markup
import VuePrecompiler.Proofs.MarkupTokens
import VuePrecompiler.Proofs.MarkupReading
import VuePrecompiler.Proofs.NodesInside
import VuePrecompiler.Proofs.Nesting
import VuePrecompiler.Proofs.LexemePlaces
import VuePrecompiler.Proofs.Listings
import VuePrecompiler.Proofs.ChildItems
import VuePrecompiler.Proofs.Flattening
import VuePrecompiler.Proofs.SlotTags
import VuePrecompiler.Proofs.Conditionals
import VuePrecompiler.Proofs.CodeParts
import VuePrecompiler.Proofs.RenderedContent
import VuePrecompiler.Proofs.ReadingSteps
import VuePrecompiler.Proofs.Slices
import VuePrecompiler.Proofs.OpenElements
import VuePrecompiler.Proofs.LexemeSlices
import VuePrecompiler.Proofs.PlacedNodes
import VuePrecompiler.Proofs.FaultSpans
import VuePrecompiler.Proofs.StackedReading
import VuePrecompiler.Proofs.ReadingEnds
import VuePrecompiler.Proofs.AccessPaths
import VuePrecompiler.Proofs.LastAccess
import VuePrecompiler.Proofs.BalancedParts
import VuePrecompiler.Proofs.BalancedData
import VuePrecompiler.Proofs.BalancedCode
import VuePrecompiler.Proofs.Balance
import VuePrecompiler.Proofs.Results
import VuePrecompiler.Proofs.StandingPaths
import VuePrecompiler.Proofs.SettledRoots
import VuePrecompiler.Proofs.OutputPlaces
import VuePrecompiler.Proofs.RuntimeBuildPaths
import VuePrecompiler.Proofs.PipelineCalls
import VuePrecompiler.Proofs.Plans
import VuePrecompiler.Proofs.ModulePlans
import VuePrecompiler.Proofs.RunOrder
import VuePrecompiler.Proofs.ConvertedModules
import VuePrecompiler.Proofs.RequiredOutput
import VuePrecompiler.Proofs.ExactEdits
import VuePrecompiler.Proofs.ChainGrammar
import VuePrecompiler.Proofs.Changes
import VuePrecompiler.Proofs.ChangedCode
import VuePrecompiler.Proofs.CommentFreeCode
import VuePrecompiler.Proofs.Pieces
import VuePrecompiler.Proofs.ArrangedSiblings
import VuePrecompiler.Proofs.KeptPieces
import VuePrecompiler.Proofs.ConservedPieces
import VuePrecompiler.Proofs.Separators
import VuePrecompiler.Proofs.AttributeNames
import VuePrecompiler.Proofs.SlotNames
import VuePrecompiler.Proofs.LoopExpressions
import VuePrecompiler.Proofs.Unplaced
import VuePrecompiler.Proofs.UnplacedCode
import VuePrecompiler.Proofs.Sayings
import VuePrecompiler.Proofs.TokenSteps
import VuePrecompiler.Proofs.MovedLexemes
import VuePrecompiler.Proofs.PartingTexts
import VuePrecompiler.Proofs.RespelledLexemes
import VuePrecompiler.Proofs.Spellings
import VuePrecompiler.Proofs.References
import VuePrecompiler.Proofs.ElementHeads
import VuePrecompiler.Proofs.TextRuns
import VuePrecompiler.Proofs.GatheredData
import VuePrecompiler.Proofs.ConstantAttributes
import VuePrecompiler.Proofs.KeptAttributes
import VuePrecompiler.Proofs.GroupedListeners
import VuePrecompiler.Proofs.StrictLiterals
import VuePrecompiler.Proofs.QuotedLiterals
import VuePrecompiler.Proofs.AdjacentComments
import VuePrecompiler.Proofs.LocatedSpecifiers
import VuePrecompiler.Proofs.CanonicalPaths
import VuePrecompiler.Proofs.LinePositions
import VuePrecompiler.Proofs.DeletedComments
import VuePrecompiler.Proofs.MachineLines
import VuePrecompiler.Proofs.ReferenceFields
import VuePrecompiler.Proofs.LoopDepth
import VuePrecompiler.Proofs.WrittenStyles
