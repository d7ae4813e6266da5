import LiveJson.Cli.Arguments
import LiveJson.Cli.Run
import LiveJson.Cli.Usage
import LiveJson.Debouncer
import LiveJson.Decimal.Shortest
import LiveJson.Duration
import LiveJson.Json.Cause
import LiveJson.Json.Document
import LiveJson.Json.Grammar
import LiveJson.Json.Lexeme
import LiveJson.Json.Literal
import LiveJson.Json.Number
import LiveJson.Json.Numeral
import LiveJson.Json.Printer
import LiveJson.Json.Value
import LiveJson.Locale.Basic
import LiveJson.Locale.Bundle
import LiveJson.Locale.Entries
import LiveJson.Locale.Record
import LiveJson.Main
import LiveJson.Proofs.Json.Bounds
import LiveJson.Proofs.Json.Faults
import LiveJson.Proofs.Json.Moves
import LiveJson.Proofs.Json.RoundTrip
import LiveJson.Proofs.Json.Runs
import LiveJson.Proofs.Json.Scalars
import LiveJson.Proofs.Json.Values
import LiveJson.Proofs.Session.Consistency
import LiveJson.Proofs.Session.Folding
import LiveJson.Proofs.Session.Steps
import LiveJson.Proofs.Text.Digits
import LiveJson.Proofs.Tree.Folding
import LiveJson.Proofs.Tree.Nodes
import LiveJson.Proofs.Tree.Rendering
import LiveJson.Proofs.Tree.Spelling
import LiveJson.Proofs.Tree.Written
import LiveJson.Proofs.Validation.Completion
import LiveJson.Proofs.Validation.CutShort
import LiveJson.Proofs.Validation.Scan
import LiveJson.Sample
import LiveJson.Session
import LiveJson.Text.Blank
import LiveJson.Text.Bytes
import LiveJson.Text.Columns
import LiveJson.Text.Controls
import LiveJson.Text.Fold
import LiveJson.Text.LineBreak
import LiveJson.Text.LineClass
import LiveJson.Text.Markless
import LiveJson.Text.Numeral
import LiveJson.Text.Position
import LiveJson.Text.Quoted
import LiveJson.Tree.Collapse
import LiveJson.Tree.Line
import LiveJson.Tree.Path
import LiveJson.Tree.Render
import LiveJson.Validation
import LiveJson.Validation.Hint
import LiveJson.View
import LiveJson.Watch
import LiveJson.Proofs.Session.Burst
import LiveJson.Proofs.Session.Replay
import LiveJson.Proofs.Watch.Looks
import LiveJson.Proofs.Tree.Equality
import LiveJson.Proofs.Watch.Changes
import LiveJson.Proofs.Watch.Rendering
import LiveJson.Proofs.Tree.Sorting
import LiveJson.Proofs.Json.Characters
import LiveJson.Proofs.Session.Outcome
import LiveJson.Proofs.Tree.Tour
import LiveJson.Proofs.Json.Notation
import LiveJson.Proofs.Json.Soundness
import LiveJson.Proofs.Json.Unambiguity
import LiveJson.Proofs.Tree.RepeatedKeys
import LiveJson.Proofs.Text.Boundaries
import LiveJson.Proofs.Validation.Labels
import LiveJson.Proofs.Validation.Repair
import LiveJson.Proofs.Debouncer.Calls
import LiveJson.Proofs.Debouncer.Firing
import LiveJson.Proofs.Cli.Switches
import LiveJson.Proofs.Text.Lines
import LiveJson.Proofs.Validation.Blank
import LiveJson.Proofs.Cli.Piping
import LiveJson.Proofs.View.Columns
import LiveJson.Proofs.Tree.Injectivity
import LiveJson.Proofs.Cli.Alignment
import LiveJson.Proofs.Locale.Notation
import LiveJson.Proofs.Locale.Soundness
import LiveJson.Proofs.Locale.Bundle
import LiveJson.Proofs.Locale.Completeness
import LiveJson.Proofs.Tree.Escapes
