import AppCatalog.Main
import AppCatalog.Proofs.Store.Ledger
import AppCatalog.Proofs.Database.Creation
import AppCatalog.Proofs.Database.Table
import AppCatalog.Proofs.Store.Recorded
import AppCatalog.Proofs.Http.Acceptance
import AppCatalog.Proofs.Http.Interchange
import AppCatalog.Proofs.Http.History
import AppCatalog.Proofs.Form.Joining
import AppCatalog.Proofs.Form.Spelling
import AppCatalog.Proofs.Form.Serializer
import AppCatalog.Proofs.Http.Joining
import AppCatalog.Proofs.Http.Carried
import AppCatalog.Proofs.Http.Serving
import AppCatalog.Proofs.Json.Grammar
import AppCatalog.Proofs.Json.Reading
import AppCatalog.Proofs.Http.RoundTrip
import AppCatalog.Proofs.Http.Disclosure
import AppCatalog.Proofs.Text.Digit
import AppCatalog.Proofs.Text.Repetition
import AppCatalog.Proofs.Toml.Spelling
import AppCatalog.Proofs.Settings.Layout
import AppCatalog.Proofs.Settings.Loading
import AppCatalog.Proofs.Toml.Distinct
import AppCatalog.Proofs.Toml.Rearranging
import AppCatalog.Proofs.Settings.Places
import AppCatalog.Proofs.Settings.Fitting
import AppCatalog.Proofs.Database.Resting
import AppCatalog.Proofs.Database.Rows
import AppCatalog.Proofs.Store.Outside
import AppCatalog.Proofs.Store.Views
import AppCatalog.Proofs.Json.Listing
import AppCatalog.Proofs.Database.Unwritten
import AppCatalog.Proofs.Files.Parents
import AppCatalog.Proofs.Store.Opening
import AppCatalog.Proofs.Store.Restarts
import AppCatalog.Proofs.Database.Naming
import AppCatalog.Proofs.Database.Migration
import AppCatalog.Proofs.Store.Finding
import AppCatalog.Proofs.Store.Seat
import AppCatalog.Proofs.Store.Incidents
import AppCatalog.Proofs.Store.Migrating
import AppCatalog.Proofs.Store.Alike
import AppCatalog.Proofs.Store.Likeness
import AppCatalog.Proofs.Store.Failing
import AppCatalog.Proofs.Store.Shelf
import AppCatalog.Proofs.Store.Verdict
import AppCatalog.Proofs.Store.Usable
import AppCatalog.Proofs.Text.Damage
import AppCatalog.Proofs.Form.Damage
import AppCatalog.Proofs.Http.Sent
import AppCatalog.Proofs.Settings.Positions
import AppCatalog.Proofs.Files.Making
import AppCatalog.Proofs.Database.Confinement
import AppCatalog.Proofs.Store.Untouched
