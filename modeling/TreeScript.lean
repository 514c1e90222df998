import TreeScript.Binary64.Basic
import TreeScript.Binary64.Shortest
import TreeScript.Command.Disk
import TreeScript.Command.FileTree
import TreeScript.Command.Path
import TreeScript.Command.Run
import TreeScript.Compile
import TreeScript.Diagnostic
import TreeScript.Json.Draft
import TreeScript.Json.Fault
import TreeScript.Json.Numeral
import TreeScript.Json.Quoted
import TreeScript.Json.Reader
import TreeScript.Json.Value
import TreeScript.Library.Basic
import TreeScript.Library.Closure
import TreeScript.Library.Standard
import TreeScript.Library.Usage
import TreeScript.Lowering.Expr
import TreeScript.Lowering.Program
import TreeScript.Lowering.Stmt
import TreeScript.Main
import TreeScript.Reading.Decoder
import TreeScript.Reading.Document
import TreeScript.Reading.Mismatch
import TreeScript.Reading.Schema
import TreeScript.Script.Basic
import TreeScript.Script.Identifier
import TreeScript.Script.Literal
import TreeScript.Script.Text
import TreeScript.Table
import TreeScript.Text.Alphabetic
import TreeScript.Text.CharSet
import TreeScript.Text.Cut
import TreeScript.Text.Escaped
import TreeScript.Text.GraphemeExtend
import TreeScript.Text.Numeric
import TreeScript.Text.Unprintable
import TreeScript.Text.Uppercase
import TreeScript.Tree.Basic
import TreeScript.Tree.Dispatch
import TreeScript.Proofs.Rounding
import TreeScript.Proofs.Tokens
import TreeScript.Proofs.Spelling
import TreeScript.Proofs.Grammar
import TreeScript.Proofs.Unambiguous
import TreeScript.Proofs.ReadBack
import TreeScript.Proofs.Templates
import TreeScript.Proofs.Parentheses
import TreeScript.Proofs.Literals
import TreeScript.Proofs.Execution
import TreeScript.Proofs.Clauses
import TreeScript.Proofs.SingleClause
import TreeScript.Proofs.FirstMatch
import TreeScript.Proofs.Gathering
import TreeScript.Proofs.Nodes
import TreeScript.Proofs.Usage
import TreeScript.Proofs.Refusals
import TreeScript.Proofs.RuntimeNames
import TreeScript.Proofs.Closure
import TreeScript.Proofs.Levels
import TreeScript.Proofs.Calls
import TreeScript.Proofs.Segments
import TreeScript.Proofs.FreeNames
import TreeScript.Proofs.Concatenation
import TreeScript.Proofs.Occurrences
import TreeScript.Proofs.References
import TreeScript.Proofs.Aliasing
import TreeScript.Proofs.Capture
import TreeScript.Proofs.Scanning
import TreeScript.Proofs.Compositional
import TreeScript.Proofs.Balance
import TreeScript.Proofs.Imports
import TreeScript.Proofs.Paths
import TreeScript.Proofs.Staging
import TreeScript.Proofs.JsonGrammar
import TreeScript.Proofs.JsonReading
import TreeScript.Proofs.Serialized
import TreeScript.Proofs.Decoding
import TreeScript.Proofs.RoundTrip
import TreeScript.Proofs.Indentation
import TreeScript.Proofs.Bindings
import TreeScript.Proofs.Leading
import TreeScript.Proofs.ExplicitReturns
import TreeScript.Proofs.Validation
import TreeScript.Proofs.Quoted
import TreeScript.Proofs.Headers
import TreeScript.Proofs.FirstFault
import TreeScript.Proofs.Classification
import TreeScript.Proofs.Coincidence
import TreeScript.Proofs.StagedContents
import TreeScript.Proofs.WholeText
import TreeScript.Proofs.IdentifierTables
import TreeScript.Proofs.ObjectKeys
