import Formwork.AppShell
import Formwork.Artifact
import Formwork.Check
import Formwork.Command
import Formwork.CommandLine.Arguments
import Formwork.CommandLine.Help
import Formwork.CommandLine.Option
import Formwork.CommandLine.Program
import Formwork.CommandLine.Word
import Formwork.ComponentFiles
import Formwork.Console.CellWidth
import Formwork.Console.CellWidthTable
import Formwork.Console.Emoji
import Formwork.Console.EmojiTable
import Formwork.Console.Item
import Formwork.Console.Markup
import Formwork.Console.Style
import Formwork.Console.Styled
import Formwork.Console.Table
import Formwork.Console.Wrap
import Formwork.Directive
import Formwork.Document
import Formwork.Duration
import Formwork.FieldKind
import Formwork.FieldMarkup
import Formwork.FileTree.Basic
import Formwork.FileTree.Path
import Formwork.Generation.Error
import Formwork.Generator
import Formwork.Issue
import Formwork.Json.Decode
import Formwork.Json.Encode
import Formwork.Json.Strict
import Formwork.Layout
import Formwork.Literal.Brackets
import Formwork.Literal.Calls
import Formwork.Literal.Evaluate
import Formwork.Literal.Expression
import Formwork.Literal.Grammar
import Formwork.Literal.Operators
import Formwork.Literal.Reading
import Formwork.Literal.Text
import Formwork.Literal.Token
import Formwork.Main
import Formwork.Naming
import Formwork.Number.Binary64
import Formwork.Number.Limit
import Formwork.Number.Reading
import Formwork.Number.Shortest
import Formwork.Prompt
import Formwork.Proofs.Application.Agreement
import Formwork.Proofs.Application.Bindings
import Formwork.Proofs.Application.Choices
import Formwork.Proofs.Application.Constraints
import Formwork.Proofs.Application.Defaults
import Formwork.Proofs.Application.Form
import Formwork.Proofs.Application.Grid
import Formwork.Proofs.Application.Kinds
import Formwork.Proofs.Application.Members
import Formwork.Proofs.Application.OneLine
import Formwork.Proofs.Application.Paths
import Formwork.Proofs.Application.StyleSheet
import Formwork.Proofs.Application.Targets
import Formwork.Proofs.Application.Text
import Formwork.Proofs.Application.Validation
import Formwork.Proofs.Application.Views
import Formwork.Proofs.Application.Workspace
import Formwork.Proofs.Check.Duplicates
import Formwork.Proofs.Check.Issues
import Formwork.Proofs.Check.Positions
import Formwork.Proofs.Check.Verdict
import Formwork.Proofs.CommandLine.Merging
import Formwork.Proofs.CommandLine.Occurrences
import Formwork.Proofs.Console.Escape
import Formwork.Proofs.Console.Headings
import Formwork.Proofs.Console.Showing
import Formwork.Proofs.Console.Tags
import Formwork.Proofs.FileTree.Contents
import Formwork.Proofs.FileTree.Names
import Formwork.Proofs.FileTree.Paths
import Formwork.Proofs.FileTree.Territory
import Formwork.Proofs.FileTree.Texts
import Formwork.Proofs.Generation.Alike
import Formwork.Proofs.Generation.History
import Formwork.Proofs.Generation.Pages
import Formwork.Proofs.Generation.Result
import Formwork.Proofs.Generation.Total
import Formwork.Proofs.Json.Escapes
import Formwork.Proofs.Json.Faults
import Formwork.Proofs.Json.Integers
import Formwork.Proofs.Json.RoundTrip
import Formwork.Proofs.Naming
import Formwork.Proofs.Number.Limited
import Formwork.Proofs.Number.Writable
import Formwork.Proofs.Outcome
import Formwork.Proofs.Routing.Declarations
import Formwork.Proofs.Routing.Resolution
import Formwork.Proofs.Run.Coherence
import Formwork.Proofs.Run.Commands
import Formwork.Proofs.Run.Completions
import Formwork.Proofs.Run.Endings
import Formwork.Proofs.Run.Files
import Formwork.Proofs.Run.History
import Formwork.Proofs.Run.Oversized
import Formwork.Proofs.Run.Plan
import Formwork.Proofs.Run.Rehearsal
import Formwork.Proofs.Run.Standing
import Formwork.Proofs.Run.Steps
import Formwork.Proofs.Run.Telling
import Formwork.Proofs.Run.Territory
import Formwork.Proofs.Schema.Keys
import Formwork.Proofs.Schema.Values
import Formwork.Proofs.Settings.Environment
import Formwork.Proofs.Settings.Saved
import Formwork.Proofs.Shell
import Formwork.Proofs.SpecificationFile.Faults
import Formwork.Proofs.SpecificationFile.Loading
import Formwork.Proofs.Subprocess
import Formwork.Proofs.Template.Origin
import Formwork.Proofs.Template.Rendering
import Formwork.Proofs.Template.Shape
import Formwork.Proofs.Template.Survey
import Formwork.Proofs.Text.Case
import Formwork.Proofs.Text.Lines
import Formwork.Proofs.Text.Utf8
import Formwork.Proofs.TypeScript.Items
import Formwork.Proofs.TypeScript.Literals
import Formwork.Proofs.TypeScript.Numbers
import Formwork.Proofs.TypeScript.Objects
import Formwork.Proofs.TypeScript.Reading
import Formwork.Proofs.TypeScript.Sequences
import Formwork.Proofs.TypeScript.Strict
import Formwork.Proofs.Writer.Concurrent
import Formwork.Proofs.Writer.Confined
import Formwork.Proofs.Writer.Frame
import Formwork.Proofs.Writer.Separate
import Formwork.Proofs.Yaml.Faults
import Formwork.Proofs.Yaml.Nodes
import Formwork.Proofs.Yaml.Tokens
import Formwork.Proofs.Yaml.Words
import Formwork.Report
import Formwork.Routing
import Formwork.Run
import Formwork.Schema.Artifact
import Formwork.Schema.Reading
import Formwork.Schema.Route
import Formwork.Schema.Specification
import Formwork.Settings.Basic
import Formwork.Settings.Environment
import Formwork.Settings.File
import Formwork.Settings.Loose
import Formwork.Shell.Child
import Formwork.Shell.Syntax
import Formwork.Skeleton
import Formwork.Specification
import Formwork.SpecificationFile
import Formwork.Stage
import Formwork.Subprocess
import Formwork.Template.App
import Formwork.Template.Basic
import Formwork.Template.Fields
import Formwork.Template.Library
import Formwork.Template.Pages
import Formwork.Template.Parse
import Formwork.Text.Base64
import Formwork.Text.Blank
import Formwork.Text.Case
import Formwork.Text.CaseTable
import Formwork.Text.Digit
import Formwork.Text.Lines
import Formwork.Text.PrintableTable
import Formwork.Text.Quoted
import Formwork.Text.Surrogate
import Formwork.Text.Utf8
import Formwork.Text.WordTable
import Formwork.TypeScript.Literal
import Formwork.Value
import Formwork.Writer
import Formwork.Yaml.Cursor
import Formwork.Yaml.Data
import Formwork.Yaml.Decode
import Formwork.Yaml.Graph
import Formwork.Yaml.Node
import Formwork.Yaml.Plain
import Formwork.Yaml.Scalar
import Formwork.Yaml.ScalarData
import Formwork.Yaml.Token
import Formwork.Yaml.Tokenize
