import ClientMigration.Main
import ClientMigration.Proofs.Text.Literal
import ClientMigration.Proofs.Text.Overlap
import ClientMigration.Proofs.Text.Substitution
import ClientMigration.Proofs.Conversion.Outcome
import ClientMigration.Proofs.Regex.Literal
import ClientMigration.Proofs.Detection
import ClientMigration.Proofs.Catalog.Builtin
import ClientMigration.Proofs.Catalog.Interference
import ClientMigration.Proofs.Conversion.Idempotence
import ClientMigration.Proofs.Conversion.Survival
import ClientMigration.Proofs.Conversion.Unfound
import ClientMigration.Proofs.Conversion.Reordering
import ClientMigration.Proofs.Batch
import ClientMigration.Proofs.Conversion.Provenance
import ClientMigration.Proofs.Conversion.Replay
import ClientMigration.Proofs.Catalog.Independence
import ClientMigration.Proofs.Scanning
import ClientMigration.Proofs.Supplied.Failure
import ClientMigration.Proofs.Settings.Reading
import ClientMigration.Proofs.Settings.Fallback
import ClientMigration.Proofs.Conversion.Classification
import ClientMigration.Proofs.Conversion.LineByLine
import ClientMigration.Proofs.CommandLine.Accounting
import ClientMigration.Proofs.Supplied.RoundTrip
import ClientMigration.Proofs.Text.FirstLine
import ClientMigration.Proofs.Conversion.Location
import ClientMigration.Proofs.Text.Separate
import ClientMigration.Proofs.Conversion.Renaming
import ClientMigration.Proofs.Findings
import ClientMigration.Proofs.Ranking
import ClientMigration.Proofs.Regex.Outcomes
import ClientMigration.Proofs.Regex.Passing
import ClientMigration.Proofs.Source.Declarations
import ClientMigration.Proofs.Source.Enclosing
import ClientMigration.Proofs.Assessment.RelevantLines
import ClientMigration.Proofs.Planning.Phases
import ClientMigration.Proofs.Planning.Priorities
import ClientMigration.Proofs.Catalog.Registration
import ClientMigration.Proofs.Supplied.Loading
import ClientMigration.Proofs.Text.Newlines
import ClientMigration.Proofs.Folder
import ClientMigration.Proofs.CommandLine.Preservation
import ClientMigration.Proofs.Number.Rounding
import ClientMigration.Proofs.Number.Sign
import ClientMigration.Proofs.Planning.Duration
import ClientMigration.Proofs.Text.Cutting
import ClientMigration.Proofs.Conversion.Rewriting
import ClientMigration.Proofs.Source.Methods
import ClientMigration.Proofs.Text.NormalForm
import ClientMigration.Proofs.Dialect
import ClientMigration.Proofs.CommandLine.Messages
