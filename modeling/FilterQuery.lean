import FilterQuery.Compile.Event
import FilterQuery.Compile.Predicate
import FilterQuery.Compile.Result
import FilterQuery.Compile.Session
import FilterQuery.Document.ExtendedJson
import FilterQuery.Document.Typed
import FilterQuery.Main
import FilterQuery.Proofs.Compile.Simulation
import FilterQuery.Proofs.Sql.Condition
import FilterQuery.Sql.Clause
import FilterQuery.Proofs.Sql.Recipe
import FilterQuery.Proofs.Sql.Lexing
import FilterQuery.Proofs.Sql.Precedence
import FilterQuery.Proofs.Token.Pattern
import FilterQuery.Proofs.Token.Scan
import FilterQuery.Proofs.Tree.Grouping
import FilterQuery.Proofs.Compile.Composition
import FilterQuery.Proofs.Compile.Leaves
import FilterQuery.Proofs.Document.Keys
import FilterQuery.Proofs.Compile.Completeness
import FilterQuery.Proofs.Compile.Literals
import FilterQuery.Proofs.Sql.Independence
import FilterQuery.Proofs.Tree.Grammar
import FilterQuery.Proofs.Tree.Parsing
import FilterQuery.Proofs.Tree.ValidPrefix
import FilterQuery.Proofs.Sql.Placeholders
import FilterQuery.Proofs.Sql.Ledger
import FilterQuery.Proofs.Sql.Numbering
import FilterQuery.Proofs.Sql.Sessions
import FilterQuery.Proofs.Compile.Distribution
import FilterQuery.Proofs.Compile.Parametricity
import FilterQuery.Proofs.Compile.Offences
import FilterQuery.Proofs.Compile.Meaning
import FilterQuery.Proofs.Document.Decoding
import FilterQuery.Proofs.Compile.Lockstep
import FilterQuery.Proofs.Document.Refinement
import FilterQuery.Proofs.Token.Stability
import FilterQuery.Proofs.Token.Numbers
import FilterQuery.Proofs.Token.Words
import FilterQuery.Proofs.Token.Layout
import FilterQuery.Proofs.Tree.Printing
import FilterQuery.Proofs.Tree.Reprinting
import FilterQuery.Proofs.Tree.RoundTrip
import FilterQuery.Proofs.Compile.Wildcards
import FilterQuery.Proofs.Sql.Like
import FilterQuery.Proofs.Sql.Wildcards
import FilterQuery.Proofs.Number.Single
import FilterQuery.Proofs.Document.Coercion
import FilterQuery.Proofs.Document.Regex
import FilterQuery.Proofs.Token.Matching
import FilterQuery.Proofs.Token.Run
import FilterQuery.Proofs.Token.Strays
import FilterQuery.Proofs.Token.Coverage
import FilterQuery.Proofs.Token.Respacing
import FilterQuery.Proofs.Tree.Signs
import FilterQuery.Proofs.Number.Numerals
import FilterQuery.Proofs.Instant.Calendar
import FilterQuery.Proofs.Instant.Spelling
import FilterQuery.Proofs.Instant.Reading
import FilterQuery.Proofs.Value.Literals
import FilterQuery.Proofs.Document.Walks
import FilterQuery.Proofs.Compile.Renaming
import FilterQuery.Proofs.Sql.Columns
import FilterQuery.Proofs.Compile.Fragments
import FilterQuery.Proofs.Number.Overflow
import FilterQuery.Proofs.Tree.Comparisons
import FilterQuery.Proofs.Document.Identifiers
import FilterQuery.Proofs.Command.Columns
import FilterQuery.Proofs.Command.Configuration
