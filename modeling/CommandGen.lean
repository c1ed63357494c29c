import CommandGen.Check.Diagnostic
import CommandGen.Check.Lint
import CommandGen.Check.Pipeline
import CommandGen.Command.Basic
import CommandGen.Command.Index
import CommandGen.Command.Json
import CommandGen.Command.Set
import CommandGen.CommandLine.Arguments
import CommandGen.CommandLine.Help
import CommandGen.CommandLine.Run
import CommandGen.Files.Commit
import CommandGen.Files.Path
import CommandGen.Files.Program
import CommandGen.Files.Tree
import CommandGen.Layout
import CommandGen.Main
import CommandGen.NameMap
import CommandGen.Output.Basic
import CommandGen.Output.Behaviour
import CommandGen.Output.Definitions
import CommandGen.Output.Files
import CommandGen.Output.Names
import CommandGen.Output.Registry
import CommandGen.Scan.Basic
import CommandGen.Scan.Declaration
import CommandGen.Scan.Directory
import CommandGen.Scan.Error
import CommandGen.Settings.Basic
import CommandGen.Settings.Load
import CommandGen.Settings.Read
import CommandGen.Source.File
import CommandGen.Source.Grammar
import CommandGen.Source.Grammar.Expression
import CommandGen.Source.Grammar.Item
import CommandGen.Source.Grammar.Parser
import CommandGen.Source.Grammar.Path
import CommandGen.Source.Grammar.Pattern
import CommandGen.Source.Grammar.Shape
import CommandGen.Source.Grammar.Statement
import CommandGen.Source.Grammar.Type
import CommandGen.Source.Literal
import CommandGen.Source.Name
import CommandGen.Source.Position
import CommandGen.Source.Token
import CommandGen.Source.Tree
import CommandGen.Source.Trivia
import CommandGen.Tag.Basic
import CommandGen.Tag.Metadata
import CommandGen.Tag.Vocabulary
import CommandGen.Text.Blank
import CommandGen.Text.Hex
import CommandGen.Text.IdentifierChar
import CommandGen.Text.Json
import CommandGen.Text.LetterCase
import CommandGen.Text.Pieces
import CommandGen.Text.Quoted
import CommandGen.Text.Ranges
import CommandGen.Text.Visible
import CommandGen.Text.Words
import CommandGen.Toml.Document
import CommandGen.Toml.Scalar
import CommandGen.Toml.Value
import CommandGen.Proofs.Files.Path
import CommandGen.Proofs.Files.Tree
import CommandGen.Proofs.Files.Program
import CommandGen.Proofs.Files.Spots
import CommandGen.Proofs.Files.Replacing
import CommandGen.Proofs.Files.Commit
import CommandGen.Proofs.Files.Passing
import CommandGen.Proofs.Files.Interrupted
import CommandGen.Proofs.Output.Failing
import CommandGen.Proofs.Output.Lost
import CommandGen.Proofs.Output.Promise
import CommandGen.Proofs.NameMap
import CommandGen.Proofs.Check.Pipeline
import CommandGen.Proofs.Command.Index
import CommandGen.Proofs.Output.Tables
import CommandGen.Proofs.Scan.Declaration
import CommandGen.Proofs.Scan.Outline
import CommandGen.Proofs.Scan.Source
import CommandGen.Proofs.Files.Frame
import CommandGen.Proofs.Scan.Directory
import CommandGen.Proofs.Scan.Beside
import CommandGen.Proofs.Output.Regenerate
import CommandGen.Proofs.Check.Acceptance
import CommandGen.Proofs.Output.Agreement
import CommandGen.Proofs.Layout
import CommandGen.Proofs.Indentation
import CommandGen.Proofs.Output.Behaviour
import CommandGen.Proofs.Output.Routines
import CommandGen.Proofs.Files.Reading
import CommandGen.Proofs.CommandLine.Arguments
import CommandGen.Proofs.CommandLine.Prediction
import CommandGen.Proofs.Output.Decoding
import CommandGen.Proofs.Scan.Labels
import CommandGen.Proofs.Scan.Usable
import CommandGen.Proofs.Tag.Written
import CommandGen.Proofs.Tag.Metadata
import CommandGen.Proofs.Check.Reporting
import CommandGen.Proofs.Source.Offset
import CommandGen.Proofs.Command.Params
import CommandGen.Proofs.Scan.FieldOrder
import CommandGen.Proofs.Scan.NormalForm
import CommandGen.Proofs.Scan.Marks
import CommandGen.Proofs.Text.Order
import CommandGen.Proofs.Command.Grouping
import CommandGen.Proofs.Output.Renaming
import CommandGen.Proofs.Text.LetterCase
import CommandGen.Proofs.Text.Words
import CommandGen.Proofs.Text.Spelling
import CommandGen.Proofs.Source.SnakeCase
import CommandGen.Proofs.Output.Methods
import CommandGen.Proofs.Output.Traits
import CommandGen.Proofs.Check.Duplicates
import CommandGen.Proofs.Output.EmptyCall
import CommandGen.Proofs.Output.Literals
import CommandGen.Proofs.Text.Template
import CommandGen.Proofs.Output.Messages
