import DirectiveScan.CommandLine.Arguments
import DirectiveScan.CommandLine.Command
import DirectiveScan.CommandLine.Run
import DirectiveScan.Config.Basic
import DirectiveScan.Config.Load
import DirectiveScan.Directive.Basic
import DirectiveScan.Extract.Analysis
import DirectiveScan.Extract.Attempt
import DirectiveScan.Extract.Error
import DirectiveScan.Extract.Source
import DirectiveScan.File.Source
import DirectiveScan.File.System
import DirectiveScan.File.Update
import DirectiveScan.File.Walk
import DirectiveScan.Glob.Expand
import DirectiveScan.Glob.Pattern
import DirectiveScan.Grammar.Assignment
import DirectiveScan.Grammar.Class
import DirectiveScan.Grammar.Declaration
import DirectiveScan.Grammar.Expression
import DirectiveScan.Grammar.Function
import DirectiveScan.Grammar.Markup
import DirectiveScan.Grammar.Module
import DirectiveScan.Grammar.Parser
import DirectiveScan.Grammar.Program
import DirectiveScan.Grammar.Rule
import DirectiveScan.Grammar.Statement
import DirectiveScan.Grammar.Template
import DirectiveScan.Grammar.Type
import DirectiveScan.Json.Basic
import DirectiveScan.Json.Read
import DirectiveScan.Main
import DirectiveScan.Number.Binary64
import DirectiveScan.Number.Decimal
import DirectiveScan.Number.Shortest
import DirectiveScan.Path.Absolute
import DirectiveScan.Path.Basic
import DirectiveScan.Project.Discovery
import DirectiveScan.Project.Scan
import DirectiveScan.Query.Field
import DirectiveScan.Query.Name
import DirectiveScan.Query.Role
import DirectiveScan.Query.Search
import DirectiveScan.Query.View
import DirectiveScan.Query.Walker
import DirectiveScan.Report.Basic
import DirectiveScan.Report.Style
import DirectiveScan.Source.Character
import DirectiveScan.Source.CharacterReference
import DirectiveScan.Source.CodePoints
import DirectiveScan.Source.Gap
import DirectiveScan.Source.IdentifierRanges
import DirectiveScan.Source.Lexeme
import DirectiveScan.Source.Literal
import DirectiveScan.Source.Text
import DirectiveScan.Source.Token
import DirectiveScan.Source.Word
import DirectiveScan.Template.Document
import DirectiveScan.Template.Element
import DirectiveScan.Template.Lookup
import DirectiveScan.Template.Tag
import DirectiveScan.Text.Split
import DirectiveScan.Text.Trim
import DirectiveScan.Tree.Basic
import DirectiveScan.Tree.Construct
import DirectiveScan.Tree.Kind
import DirectiveScan.Tree.Pattern
import DirectiveScan.Proofs.Extract.Attempt
import DirectiveScan.Proofs.Query.View
import DirectiveScan.Proofs.Query.Walk
import DirectiveScan.Proofs.Query.Walker
import DirectiveScan.Proofs.Directive.InPlace
import DirectiveScan.Proofs.Query.Occurrence
import DirectiveScan.Proofs.Query.Field
import DirectiveScan.Proofs.Query.FieldPath
import DirectiveScan.Proofs.Directive.Recognition
import DirectiveScan.Proofs.Extract.AllOrNothing
import DirectiveScan.Proofs.Extract.EarliestFailure
import DirectiveScan.Proofs.Extract.FailureCondition
import DirectiveScan.Proofs.Query.Address
import DirectiveScan.Proofs.Query.Standing
import DirectiveScan.Proofs.Query.DocumentOrder
import DirectiveScan.Proofs.Query.Slot
import DirectiveScan.Proofs.Query.Position
import DirectiveScan.Proofs.Query.Subwalk
import DirectiveScan.Proofs.Path.Join
import DirectiveScan.Proofs.Path.Absolute
import DirectiveScan.Proofs.Path.Required
import DirectiveScan.Proofs.Path.Parent
import DirectiveScan.Proofs.Path.Resolved
import DirectiveScan.Proofs.Path.Extension
import DirectiveScan.Proofs.Path.Descent
import DirectiveScan.Proofs.Path.Ascent
import DirectiveScan.Proofs.Path.LastName
import DirectiveScan.Proofs.File.Lookup
import DirectiveScan.Proofs.File.Closed
import DirectiveScan.Proofs.File.Site
import DirectiveScan.Proofs.File.Twin
import DirectiveScan.Proofs.File.Stored
import DirectiveScan.Proofs.File.Entry
import DirectiveScan.Proofs.File.LinkFree
import DirectiveScan.Proofs.Glob.Literal
import DirectiveScan.Proofs.Glob.Bound
import DirectiveScan.Proofs.Glob.Depth
import DirectiveScan.Proofs.Glob.Location
import DirectiveScan.Proofs.Glob.Accept
import DirectiveScan.Proofs.Glob.Invariant
import DirectiveScan.Proofs.Project.Order
import DirectiveScan.Proofs.Project.Location
import DirectiveScan.Proofs.Query.Name
import DirectiveScan.Proofs.Query.Assertion
import DirectiveScan.Proofs.Json.RoundTrip
import DirectiveScan.Proofs.Config.RoundTrip
import DirectiveScan.Proofs.Config.Nearest
import DirectiveScan.Proofs.Extract.Dependence
import DirectiveScan.Proofs.Project.Absolute
import DirectiveScan.Proofs.Project.Reports
import DirectiveScan.Proofs.Project.Selection
import DirectiveScan.Proofs.Project.IgnoreForms
import DirectiveScan.Proofs.Project.TestFiles
import DirectiveScan.Proofs.Project.Spelling
import DirectiveScan.Proofs.Template.Companion
import DirectiveScan.Proofs.Template.CustomElements
import DirectiveScan.Proofs.Directive.Chain
import DirectiveScan.Proofs.Directive.Scope
import DirectiveScan.Proofs.Query.EntryRole
import DirectiveScan.Proofs.Query.ObjectLiteral
import DirectiveScan.Proofs.Query.Variable
