import SqlRoutes.Command.Arguments
import SqlRoutes.Command.Display
import SqlRoutes.Command.Run
import SqlRoutes.Command.Screen
import SqlRoutes.Decimal.Nearest
import SqlRoutes.Decimal.Notation
import SqlRoutes.Decimal.Places
import SqlRoutes.Decimal.Shortest
import SqlRoutes.Driver.Table
import SqlRoutes.Encoding.Base64
import SqlRoutes.Encoding.Charset
import SqlRoutes.Encoding.Chinese
import SqlRoutes.Encoding.CodePage
import SqlRoutes.Encoding.DoubleByte
import SqlRoutes.Encoding.Escape
import SqlRoutes.Encoding.Fault
import SqlRoutes.Encoding.Front
import SqlRoutes.Encoding.Grid
import SqlRoutes.Encoding.Grid.Big5
import SqlRoutes.Encoding.Grid.Gb18030
import SqlRoutes.Encoding.Grid.Hkscs
import SqlRoutes.Encoding.Grid.Jisx0208
import SqlRoutes.Encoding.Grid.Jisx0212
import SqlRoutes.Encoding.Grid.Jisx0213
import SqlRoutes.Encoding.Grid.Ksx1001
import SqlRoutes.Encoding.HostName
import SqlRoutes.Encoding.HostName.Table
import SqlRoutes.Encoding.Japanese
import SqlRoutes.Encoding.Korean
import SqlRoutes.Encoding.Name
import SqlRoutes.Encoding.Punycode
import SqlRoutes.Encoding.Shifted
import SqlRoutes.Encoding.Utf16
import SqlRoutes.Encoding.Utf32
import SqlRoutes.Encoding.Utf7
import SqlRoutes.Encoding.Utf8
import SqlRoutes.Failure
import SqlRoutes.Fields
import SqlRoutes.Files.Entry
import SqlRoutes.Files.Path
import SqlRoutes.Files.Tree
import SqlRoutes.Json.Reader
import SqlRoutes.Json.Writer
import SqlRoutes.Log.Layout
import SqlRoutes.Log.Record
import SqlRoutes.Log.Setup
import SqlRoutes.Log.Template
import SqlRoutes.Main
import SqlRoutes.Placeholder
import SqlRoutes.Proofs.Command.Routes
import SqlRoutes.Proofs.Log.Traced
import SqlRoutes.Proofs.Query.Colons
import SqlRoutes.Proofs.Query.Exchange
import SqlRoutes.Proofs.Query.Execution
import SqlRoutes.Proofs.Query.Layout
import SqlRoutes.Proofs.Query.Sealed
import SqlRoutes.Proofs.Query.Sequence
import SqlRoutes.Proofs.Query.Settled
import SqlRoutes.Proofs.Query.Splice
import SqlRoutes.Proofs.Query.Supply
import SqlRoutes.Proofs.Route.Continuation
import SqlRoutes.Proofs.Route.Driver
import SqlRoutes.Proofs.Route.Failures
import SqlRoutes.Proofs.Route.Formats
import SqlRoutes.Proofs.Route.Grammar
import SqlRoutes.Proofs.Route.Location
import SqlRoutes.Proofs.Route.Outline
import SqlRoutes.Proofs.Route.Parameters
import SqlRoutes.Proofs.Route.Reading
import SqlRoutes.Proofs.Route.Separators
import SqlRoutes.Proofs.Route.Spacing
import SqlRoutes.Proofs.Route.Statement
import SqlRoutes.Proofs.Route.WellFormed
import SqlRoutes.Proofs.Sql.Boundary
import SqlRoutes.Proofs.Sql.Comment
import SqlRoutes.Proofs.Sql.Extent
import SqlRoutes.Proofs.Sql.Munch
import SqlRoutes.Proofs.Sql.Number
import SqlRoutes.Proofs.Sql.Operator
import SqlRoutes.Proofs.Sql.Place
import SqlRoutes.Proofs.Sql.Quote
import SqlRoutes.Proofs.Sql.Rule
import SqlRoutes.Proofs.Sql.Scanner
import SqlRoutes.Proofs.Sql.Standing
import SqlRoutes.Proofs.Sql.Stretch
import SqlRoutes.Proofs.Text.Blank
import SqlRoutes.Proofs.Text.Lines
import SqlRoutes.Proofs.Value.Display
import SqlRoutes.Query.Basic
import SqlRoutes.Query.Splice
import SqlRoutes.Route.Basic
import SqlRoutes.Route.Conf
import SqlRoutes.Route.Document
import SqlRoutes.Route.Problem
import SqlRoutes.Route.Source
import SqlRoutes.Sql.Lexeme
import SqlRoutes.Sql.Token
import SqlRoutes.Text.Blank
import SqlRoutes.Text.Case
import SqlRoutes.Text.CaseTable
import SqlRoutes.Text.Digit
import SqlRoutes.Text.Lines
import SqlRoutes.Text.Names
import SqlRoutes.Text.Names.African
import SqlRoutes.Text.Names.American
import SqlRoutes.Text.Names.Ancient
import SqlRoutes.Text.Names.Arabic
import SqlRoutes.Text.Names.CentralAsian
import SqlRoutes.Text.Names.EastAsian
import SqlRoutes.Text.Names.European
import SqlRoutes.Text.Names.Further
import SqlRoutes.Text.Names.Latin
import SqlRoutes.Text.Names.Marks
import SqlRoutes.Text.Names.Mathematical
import SqlRoutes.Text.Names.Musical
import SqlRoutes.Text.Names.Pictorial
import SqlRoutes.Text.Names.Series
import SqlRoutes.Text.Names.Signing
import SqlRoutes.Text.Names.SouthAsian
import SqlRoutes.Text.Names.SoutheastAsian
import SqlRoutes.Text.Names.Technical
import SqlRoutes.Text.Names.WestAsian
import SqlRoutes.Text.Normal
import SqlRoutes.Text.Normal.Table
import SqlRoutes.Text.Printable
import SqlRoutes.Text.Quoted
import SqlRoutes.Text.Similarity
import SqlRoutes.Value.Atom
import SqlRoutes.Value.Basic
import SqlRoutes.Value.Calendar
import SqlRoutes.Value.Graph
import SqlRoutes.Value.Scalar
import SqlRoutes.Value.Slots
import SqlRoutes.Yaml.Block
import SqlRoutes.Yaml.Cursor
import SqlRoutes.Yaml.Document
import SqlRoutes.Yaml.Event
import SqlRoutes.Yaml.Lexer
import SqlRoutes.Yaml.Merge
import SqlRoutes.Yaml.Node
import SqlRoutes.Yaml.Plain
import SqlRoutes.Yaml.Quoted
import SqlRoutes.Yaml.Tag
import SqlRoutes.Yaml.Token
import SqlRoutes.Proofs.Driver.Resolution
import SqlRoutes.Proofs.Command.Printed
import SqlRoutes.Proofs.Files.Path
import SqlRoutes.Proofs.Route.Lookup
import SqlRoutes.Proofs.Json.Portable
import SqlRoutes.Proofs.Log.Namespace
import SqlRoutes.Proofs.Route.Journal
import SqlRoutes.Proofs.Route.Conservation
