import BlockTemplates.Bundle
import BlockTemplates.Command
import BlockTemplates.Command.Arguments
import BlockTemplates.Command.Run
import BlockTemplates.Compose.Block
import BlockTemplates.Compose.Directive
import BlockTemplates.Compose.Emit
import BlockTemplates.Compose.Event
import BlockTemplates.Compose.Render
import BlockTemplates.Compose.Segment
import BlockTemplates.Data
import BlockTemplates.Decimal.Binary64
import BlockTemplates.Decimal.Fixed
import BlockTemplates.Decimal.Notation
import BlockTemplates.Decimal.Numeral
import BlockTemplates.Decimal.Power
import BlockTemplates.Decimal.Remainder
import BlockTemplates.Decimal.Shortest
import BlockTemplates.Dict
import BlockTemplates.Expr.Access
import BlockTemplates.Expr.Argument
import BlockTemplates.Expr.Arithmetic
import BlockTemplates.Expr.Call
import BlockTemplates.Expr.Display
import BlockTemplates.Expr.Environment
import BlockTemplates.Expr.Error
import BlockTemplates.Expr.Eval
import BlockTemplates.Expr.Filter
import BlockTemplates.Expr.Format
import BlockTemplates.Expr.Grammar
import BlockTemplates.Expr.Literal
import BlockTemplates.Expr.Order
import BlockTemplates.Expr.Samples
import BlockTemplates.Expr.Syntax
import BlockTemplates.Expr.Test
import BlockTemplates.Expr.Token
import BlockTemplates.Expr.Value
import BlockTemplates.Expr.Weight
import BlockTemplates.Failure
import BlockTemplates.Files.Discovery
import BlockTemplates.Files.Exclusion
import BlockTemplates.Files.FileSystem
import BlockTemplates.Files.Glob
import BlockTemplates.Files.Path
import BlockTemplates.Json
import BlockTemplates.Json.Document
import BlockTemplates.Json.Token
import BlockTemplates.Json.Writer
import BlockTemplates.Main
import BlockTemplates.Minify
import BlockTemplates.Project.Config
import BlockTemplates.Project.DataFile
import BlockTemplates.Project.Folder
import BlockTemplates.Proofs.Bundle.Text
import BlockTemplates.Proofs.Bundle.Version
import BlockTemplates.Proofs.Command.Arguments
import BlockTemplates.Proofs.Command.Building
import BlockTemplates.Proofs.Command.Failing
import BlockTemplates.Proofs.Command.Refusing
import BlockTemplates.Proofs.Command.Rendering
import BlockTemplates.Proofs.Command.Writing
import BlockTemplates.Proofs.Compose.Blocks
import BlockTemplates.Proofs.Compose.Collection
import BlockTemplates.Proofs.Compose.Confinement
import BlockTemplates.Proofs.Compose.Fates
import BlockTemplates.Proofs.Compose.Inheritance
import BlockTemplates.Proofs.Compose.Marker
import BlockTemplates.Proofs.Compose.Overlay
import BlockTemplates.Proofs.Compose.Production
import BlockTemplates.Proofs.Compose.Regions
import BlockTemplates.Proofs.Compose.Reporting
import BlockTemplates.Proofs.Compose.Restating
import BlockTemplates.Proofs.Compose.Shape
import BlockTemplates.Proofs.Compose.Sharing
import BlockTemplates.Proofs.Compose.Spacing
import BlockTemplates.Proofs.Compose.Stripping
import BlockTemplates.Proofs.Compose.Weaving
import BlockTemplates.Proofs.Decimal.Rounding
import BlockTemplates.Proofs.Dict
import BlockTemplates.Proofs.Expr.Braces
import BlockTemplates.Proofs.Expr.Calling
import BlockTemplates.Proofs.Expr.PageText
import BlockTemplates.Proofs.Expr.StringLiteral
import BlockTemplates.Proofs.Expr.Truth
import BlockTemplates.Proofs.Files.Chain
import BlockTemplates.Proofs.Files.Cycle
import BlockTemplates.Proofs.Files.Discovering
import BlockTemplates.Proofs.Files.Entry
import BlockTemplates.Proofs.Files.Flat
import BlockTemplates.Proofs.Files.Growth
import BlockTemplates.Proofs.Files.Leading
import BlockTemplates.Proofs.Files.Naming
import BlockTemplates.Proofs.Files.Path
import BlockTemplates.Proofs.Files.Reading
import BlockTemplates.Proofs.Files.Route
import BlockTemplates.Proofs.Files.Walking
import BlockTemplates.Proofs.Files.Writing
import BlockTemplates.Proofs.Json.Document
import BlockTemplates.Proofs.Json.Writer
import BlockTemplates.Proofs.Parallel
import BlockTemplates.Proofs.Project.DataFile
import BlockTemplates.Proofs.Project.Folder
import BlockTemplates.Proofs.Result
import BlockTemplates.Proofs.Source.Concatenation
import BlockTemplates.Proofs.Source.Hole
import BlockTemplates.Proofs.Source.Image
import BlockTemplates.Proofs.Source.Layout
import BlockTemplates.Proofs.Source.Place
import BlockTemplates.Proofs.Source.Quoted
import BlockTemplates.Proofs.Source.Reading
import BlockTemplates.Proofs.Template.DeclaredBase
import BlockTemplates.Proofs.Template.Helpers
import BlockTemplates.Proofs.Template.Loading
import BlockTemplates.Proofs.Template.Minified
import BlockTemplates.Proofs.Template.Soundness
import BlockTemplates.Proofs.Template.Sources
import BlockTemplates.Proofs.Template.Validation
import BlockTemplates.Proofs.Text.Spacing
import BlockTemplates.Proofs.Text.Thinning
import BlockTemplates.Proofs.Toml.Data
import BlockTemplates.Source.Quoted
import BlockTemplates.Source.Split
import BlockTemplates.Source.Token
import BlockTemplates.SystemError
import BlockTemplates.Template
import BlockTemplates.TemplateSet
import BlockTemplates.Text.Blank
import BlockTemplates.Text.Case
import BlockTemplates.Text.CaseTable
import BlockTemplates.Text.CodeRun
import BlockTemplates.Text.Indent
import BlockTemplates.Text.Markup
import BlockTemplates.Text.PrintTable
import BlockTemplates.Text.Quoted
import BlockTemplates.Text.Search
import BlockTemplates.Text.Utf8
import BlockTemplates.Toml
import BlockTemplates.Toml.Document
import BlockTemplates.Toml.Draft
import BlockTemplates.Toml.Moment
import BlockTemplates.Toml.Quoted
import BlockTemplates.Toml.Scalar
import BlockTemplates.Toml.Token
import BlockTemplates.Truth
import BlockTemplates.Yaml.Block
import BlockTemplates.Yaml.Folding
import BlockTemplates.Yaml.Glyph
import BlockTemplates.Yaml.Layout
import BlockTemplates.Yaml.Node
import BlockTemplates.Yaml.Plain
import BlockTemplates.Yaml.Quoted
import BlockTemplates.Yaml.Reading
import BlockTemplates.Yaml.Tag
import BlockTemplates.Yaml.Tree
