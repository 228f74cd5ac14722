import Upsert.Builder.Basic
import Upsert.Builder.Build
import Upsert.Builder.Field
import Upsert.Builder.Seed
import Upsert.Builder.Session
import Upsert.Calendar
import Upsert.Choice.Basic
import Upsert.Choice.Read
import Upsert.Columns
import Upsert.Decimal.Binary
import Upsert.Decimal.Round
import Upsert.Decimal.Shortest
import Upsert.Fault
import Upsert.Frame
import Upsert.Frame.Cells
import Upsert.Frame.Show
import Upsert.Model.Basic
import Upsert.Model.Issue
import Upsert.Model.Lax
import Upsert.Model.Validate
import Upsert.Settings.Basic
import Upsert.Settings.Files
import Upsert.Settings.Source
import Upsert.Text.Basic
import Upsert.Text.Blank
import Upsert.Text.Case
import Upsert.Text.Digit
import Upsert.Text.Path
import Upsert.Text.Pattern
import Upsert.Text.Printable
import Upsert.Text.Quoted
import Upsert.Text.Utf8
import Upsert.Text.Word
import Upsert.Toml.Flags
import Upsert.Toml.Reader
import Upsert.Toml.Scan
import Upsert.Value.Basic
import Upsert.Value.Convert
import Upsert.Value.Printer
import Upsert.Proofs.Basic
import Upsert.Proofs.BuildChecks
import Upsert.Proofs.TableSeed
import Upsert.Proofs.Rebuild
import Upsert.Proofs.Choices
import Upsert.Proofs.SettingsLayers
import Upsert.Proofs.SchemaColumns
import Upsert.Proofs.ColumnChecks
import Upsert.Proofs.FrameChecks
import Upsert.Proofs.SettingsStops
import Upsert.Proofs.SettingsKinds
import Upsert.Proofs.SetterWiring
import Upsert.Proofs.LowerSnake
import Upsert.Proofs.SchemaStages
import Upsert.Proofs.Freezing
