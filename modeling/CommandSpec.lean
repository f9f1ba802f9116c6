import CommandSpec.Command
import CommandSpec.Command.Call
import CommandSpec.Command.Declaration
import CommandSpec.Command.Declared
import CommandSpec.Command.Derivation
import CommandSpec.Command.Help
import CommandSpec.Command.Layout
import CommandSpec.Command.Lineage
import CommandSpec.Command.Path
import CommandSpec.Command.Reader
import CommandSpec.Command.Reading
import CommandSpec.Command.Signature
import CommandSpec.Command.Storage
import CommandSpec.Converters
import CommandSpec.Datum
import CommandSpec.Distance
import CommandSpec.Docs
import CommandSpec.Docs.Entry
import CommandSpec.Docs.Reader
import CommandSpec.Event
import CommandSpec.Fault
import CommandSpec.Fault.Code
import CommandSpec.Fault.Making
import CommandSpec.Fault.Part
import CommandSpec.Field
import CommandSpec.Fold.Fault
import CommandSpec.Fold.Help
import CommandSpec.Fold.Plain
import CommandSpec.Fold.Suggested
import CommandSpec.Fold.Trace
import CommandSpec.Log
import CommandSpec.Logged
import CommandSpec.Main
import CommandSpec.Misuse
import CommandSpec.Naming
import CommandSpec.Number.Binary64
import CommandSpec.Number.Decimal
import CommandSpec.Number.Residue
import CommandSpec.Proofs.Text.Blank
import CommandSpec.Proofs.Text.Case
import CommandSpec.Proofs.Trie.Abbreviation
import CommandSpec.Proofs.Suggest.Ranking
import CommandSpec.Proofs.Number.Binary64
import CommandSpec.Proofs.Suggest.Distance
import CommandSpec.Proofs.Suggest.Typo
import CommandSpec.Proofs.Command.Nested
import CommandSpec.Proofs.Text.Lines
import CommandSpec.Proofs.Trie.Lookup
import CommandSpec.Proofs.Trie.Tree
import CommandSpec.Proofs.Usage.Form
import CommandSpec.Release
import CommandSpec.Repeat
import CommandSpec.Session
import CommandSpec.Session.Answer
import CommandSpec.Session.Attribute
import CommandSpec.Session.Basic
import CommandSpec.Session.Change
import CommandSpec.Session.Compare
import CommandSpec.Session.DatumAttribute
import CommandSpec.Session.Declaring
import CommandSpec.Session.Help
import CommandSpec.Session.Operand
import CommandSpec.Session.PathMaking
import CommandSpec.Session.Reading
import CommandSpec.Session.Route
import CommandSpec.Session.Row
import CommandSpec.Session.Slot
import CommandSpec.Session.Stream
import CommandSpec.Snapshot
import CommandSpec.Styled.Fault
import CommandSpec.Styled.Fragment
import CommandSpec.Styled.Help
import CommandSpec.Styled.Layout
import CommandSpec.Styled.Markup
import CommandSpec.Styled.Palette
import CommandSpec.Styled.Text
import CommandSpec.Suggest
import CommandSpec.Text.Alphanumeric
import CommandSpec.Text.Blank
import CommandSpec.Text.Case
import CommandSpec.Text.CaseTable
import CommandSpec.Text.CellWidth
import CommandSpec.Text.Clipped
import CommandSpec.Text.DecimalDigit
import CommandSpec.Text.Identifier
import CommandSpec.Text.Lines
import CommandSpec.Text.Margin
import CommandSpec.Text.Paragraph
import CommandSpec.Text.Printable
import CommandSpec.Text.Quoted
import CommandSpec.Text.Ranges
import CommandSpec.Text.Relaxed
import CommandSpec.Tinygit
import CommandSpec.Token.Split
import CommandSpec.Token.Stream
import CommandSpec.Topic
import CommandSpec.Topic.Making
import CommandSpec.Trie
import CommandSpec.Usage
import CommandSpec.Usage.Printer
import CommandSpec.Usage.Reader
import CommandSpec.Value
import CommandSpec.Proofs.Usage.Scan
import CommandSpec.Proofs.Usage.Grammar
import CommandSpec.Proofs.Command.TokenReading
import CommandSpec.Proofs.Command.Follows
import CommandSpec.Proofs.Command.Layout
import CommandSpec.Proofs.Command.Built
import CommandSpec.Proofs.Command.Succeeds
import CommandSpec.Proofs.Command.Canonical
import CommandSpec.Proofs.Command.Unparse
import CommandSpec.Proofs.Command.Texts
import CommandSpec.Proofs.Tinygit
import CommandSpec.Proofs.Docs.Page
import CommandSpec.Proofs.Text.Paragraph
import CommandSpec.Proofs.Text.Margin
import CommandSpec.Proofs.Text.Relaxed
import CommandSpec.Proofs.Docs.Header
import CommandSpec.Proofs.Docs.Entries
import CommandSpec.Proofs.Docs.RoundTrip
import CommandSpec.Proofs.Command.Declared
import CommandSpec.Proofs.Command.Selection
import CommandSpec.Proofs.Command.Arity
import CommandSpec.Proofs.Command.Delegation
import CommandSpec.Proofs.Command.Advances
import CommandSpec.Proofs.Command.Consumption
import CommandSpec.Proofs.Usage.Printed
import CommandSpec.Proofs.Command.Paths
import CommandSpec.Proofs.Command.Chain
import CommandSpec.Proofs.Command.Failures
import CommandSpec.Proofs.Token.Writing
import CommandSpec.Proofs.Token.Cursor
import CommandSpec.Proofs.Session.Help
import CommandSpec.Proofs.Styled.Fault
import CommandSpec.Proofs.Command.Topics
import CommandSpec.Proofs.Styled.Uncoloured
import CommandSpec.Proofs.Usage.Leading
import CommandSpec.Proofs.Command.Binding
import CommandSpec.Proofs.Text.Widened
import CommandSpec.Proofs.Docs.Indented
import CommandSpec.Proofs.Docs.Closed
import CommandSpec.Proofs.Trie.Membership
import CommandSpec.Proofs.Text.Cleaned
import CommandSpec.Proofs.Command.Family
import CommandSpec.Proofs.Command.Construction
import CommandSpec.Proofs.Text.Words
import CommandSpec.Proofs.Token.Kept
import CommandSpec.Proofs.Token.Enclosed
import CommandSpec.Proofs.Usage.Names
import CommandSpec.Proofs.Usage.Layouts
import CommandSpec.Proofs.Text.Runs
import CommandSpec.Proofs.Text.OneLine
import CommandSpec.Proofs.Text.BlankLines
import CommandSpec.Proofs.Text.CleanedWords
import CommandSpec.Proofs.Docs.Summary
import CommandSpec.Proofs.Styled.Marks
import CommandSpec.Proofs.Styled.Highlight
import CommandSpec.Proofs.Tinygit.Run
