import FilterQuery.Text.CodePointSet
import FilterQuery.Text.Alphabetic
import FilterQuery.Text.Numeric
import FilterQuery.Text.Visible
import FilterQuery.Text.CaseTables
import FilterQuery.Text.Blank
import FilterQuery.Text.Lowercase
import FilterQuery.Text.Quoted
import FilterQuery.Text.Escaped
import FilterQuery.Query.Word
import FilterQuery.Query.Syntax
import FilterQuery.Query.Error
import FilterQuery.Query.Token
import FilterQuery.Query.Parser
import FilterQuery.Query.Printer
import FilterQuery.Number.Integer
import FilterQuery.Number.Numeral
import FilterQuery.Number.Shortest
import FilterQuery.Number.Double
import FilterQuery.Text.Split
import FilterQuery.Calendar.Date
import FilterQuery.Calendar.Time
import FilterQuery.Calendar.Printer
import FilterQuery.Calendar.Reader
import FilterQuery.Calendar.Relative
import FilterQuery.Value
import FilterQuery.Value.Error
import FilterQuery.Address.Email
import FilterQuery.Text.HexRows
import FilterQuery.Text.CompositionTable
import FilterQuery.Address.Direction
import FilterQuery.Address.Joiner
import FilterQuery.Address.DomainTable
import FilterQuery.Text.Composition
import FilterQuery.Address.Punycode
import FilterQuery.Address.Domain
import FilterQuery.Address.Host
import FilterQuery.Address.Url
import FilterQuery.Value.Reader
import FilterQuery.Predicate
import FilterQuery.Predicate.Precedence
import FilterQuery.QueryError
import FilterQuery.Filter.Operators
import FilterQuery.Filter
import FilterQuery.Filter.Kinds
import FilterQuery.Registry
import FilterQuery.Compile
import FilterQuery.Bound
import FilterQuery.Calendar.Iso
import FilterQuery.Interchange.Data
import FilterQuery.Interchange.Forms
import FilterQuery.Proofs.Predicate.Precedence
import FilterQuery.Proofs.Predicate.Combining
import FilterQuery.Proofs.Predicate.Regrouping
import FilterQuery.Proofs.Query.Grammar
import FilterQuery.Proofs.Query.Words
import FilterQuery.Proofs.Query.Tokens
import FilterQuery.Proofs.Query.Completeness
import FilterQuery.Proofs.Query.Soundness
import FilterQuery.Proofs.Query.Language
import FilterQuery.Proofs.Query.Printing
import FilterQuery.Proofs.Query.Joined
import FilterQuery.Proofs.Number.Integer
import FilterQuery.Proofs.Number.Bare
import FilterQuery.Proofs.Text.Lowercase
import FilterQuery.Proofs.Registry
import FilterQuery.Proofs.Compile
import FilterQuery.Proofs.Bound
import FilterQuery.Proofs.Bound.Query
import FilterQuery.Proofs.Number.Padded
import FilterQuery.Proofs.Text.Parts
import FilterQuery.Proofs.Calendar.Clocks
import FilterQuery.Proofs.Calendar.Dates
import FilterQuery.Proofs.Calendar.ReadBack
import FilterQuery.Proofs.Value.ReadBack
import FilterQuery.Proofs.Query.Cursor
import FilterQuery.Proofs.Query.Shape
import FilterQuery.Proofs.Query.Offsets
import FilterQuery.Proofs.Compile.Outcome
import FilterQuery.Proofs.Registry.Indexed
import FilterQuery.Proofs.Registry.Runs
import FilterQuery.Proofs.Compile.Reach
import FilterQuery.Proofs.Compile.Composed
import FilterQuery.Proofs.Query.Viable
import FilterQuery.Proofs.Predicate.Canonical
import FilterQuery.Proofs.Compile.Origins
import FilterQuery.Proofs.Compile.Canonical
import FilterQuery.Proofs.Compile.Extension
import FilterQuery.Proofs.Compile.Addressed
import FilterQuery.Proofs.Kinds
import FilterQuery.Proofs.Bound.Search
import FilterQuery.Proofs.Predicate.Meaning
import FilterQuery.Proofs.Compile.Literals
import FilterQuery.Proofs.Predicate.Stretches
import FilterQuery.Proofs.Compile.Parentheses
import FilterQuery.Proofs.Compile.Faults
import FilterQuery.Proofs.Compile.NameCase
import FilterQuery.Proofs.Compile.Opposites
import FilterQuery.Proofs.Compile.FieldReferences
import FilterQuery.Proofs.Query.Limits
import FilterQuery.Proofs.Calendar.DayNumber
import FilterQuery.Proofs.Calendar.Weekdays
import FilterQuery.Proofs.Calendar.Widths
import FilterQuery.Proofs.Calendar.Relative
import FilterQuery.Proofs.Calendar.Months
import FilterQuery.Proofs.Value.Moments
import FilterQuery.Proofs.Query.Names
import FilterQuery.Proofs.Query.Quoted
