import Dossier.Main
import Dossier.Wizard.Engine
import Dossier.Log.Record
import Dossier.Log.Setup
import Dossier.FailureByName
import Dossier.Records
import Dossier.Trace.Block
import Dossier.Trace.Shared
import Dossier.Json.Printer
import Dossier.Proofs.Wizard.Form
import Dossier.Proofs.Template.Resolve
import Dossier.Proofs.Blueprint.Overrides
import Dossier.Proofs.Document.Schema
import Dossier.Proofs.Wizard.Labels
import Dossier.Proofs.Wizard.Dependence
import Dossier.Proofs.Template.Seclusion
import Dossier.Proofs.Blueprint.Conditions
import Dossier.Proofs.Wizard.Printable
import Dossier.Proofs.Schema.Records
import Dossier.Proofs.Catalog.Checked
import Dossier.Proofs.Wizard.Ledger
import Dossier.Proofs.Source.Limit
import Dossier.Proofs.Blueprint.Outcomes
import Dossier.Proofs.Document.Companions
import Dossier.Proofs.Document.Saved
import Dossier.Proofs.Template.Leaves
import Dossier.Proofs.Template.Missing
import Dossier.Proofs.Template.Blank
import Dossier.Proofs.Number.Shown
import Dossier.Proofs.Wizard.Stale
import Dossier.Proofs.Document.Instants
import Dossier.Proofs.Document.Sizing
import Dossier.Proofs.Value.Ordering
import Dossier.Proofs.Trace.Forest
import Dossier.Proofs.Catalog.Loading
import Dossier.Proofs.Catalog.Remembered
import Dossier.Proofs.Catalog.Registration
