import SqlSelect.Dialect.Known
import SqlSelect.Query.Inspect
import SqlSelect.ResultSet.Document
import SqlSelect.Session
import SqlSelect.Settings.Document
import SqlSelect.Settings.Inspect
import SqlSelect.Value.Conversion
import SqlSelect.Value.Document
import SqlSelect.Proofs.Address
import SqlSelect.Proofs.Defaults
import SqlSelect.Proofs.Flattening
import SqlSelect.Proofs.Group
import SqlSelect.Proofs.History
import SqlSelect.Proofs.Independence
import SqlSelect.Proofs.Interleaving
import SqlSelect.Proofs.Join
import SqlSelect.Proofs.Label
import SqlSelect.Proofs.Lookup
import SqlSelect.Proofs.Placeholders
import SqlSelect.Proofs.Qualifier
import SqlSelect.Proofs.Quoting
import SqlSelect.Proofs.Readability
import SqlSelect.Proofs.Refusal
import SqlSelect.Proofs.RoundTrip
import SqlSelect.Proofs.Scalars
import SqlSelect.Proofs.Selection
import SqlSelect.Proofs.Shown
import SqlSelect.Proofs.Skeleton
import SqlSelect.Proofs.WellFormed
