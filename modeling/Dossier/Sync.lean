import Dossier.Schema.Reading
import Dossier.Value.Wire
import Dossier.Period

/-!
# Syncs

A sync is the saved configuration of one document collection. A viewer has the preferences by
which dates are shown.
-/

set_option autoImplicit false

namespace Dossier

open Schema

inductive FileFormat where
  | pdf
  | excel
  deriving DecidableEq, Repr, Inhabited

namespace FileFormat

def name : FileFormat → String
  | .pdf => "pdf"
  | .excel => "excel"

def options : List (String × FileFormat) := [("pdf", .pdf), ("excel", .excel)]

end FileFormat

structure Viewer where
  timeZone : Option String
  language : Option String
  locale : Option String
  deriving DecidableEq, Repr, Inhabited

namespace Viewer

def read : Reader Viewer :=
  record "UserContext" fun fields =>
    Viewer.mk <$> maybe fields ⟨"timeZone", "time_zone"⟩ text
      <*> maybe fields (.word "language") text
      <*> maybe fields (.word "locale") text

def toWire (v : Viewer) : Value :=
  .ofEntries [("timeZone", Value.ofText? v.timeZone), ("language", Value.ofText? v.language),
    ("locale", Value.ofText? v.locale)]

end Viewer

structure SyncSettings where
  name : String
  criteria : Fields
  fileFormat : FileFormat
  period : Period
  useVersioning : Bool
  deriving Repr, Inhabited

namespace SyncSettings

def read : Reader SyncSettings :=
  record "HypersyncSettings" fun fields =>
    SyncSettings.mk <$> required fields (.word "name") text
      <*> defaulted fields (.word "criteria") [] object
      <*> defaulted fields ⟨"proofFormat", "proof_format"⟩ .pdf (among FileFormat.options)
      <*> defaulted fields (.word "period") .monthly (among Period.options)
      <*> defaulted fields ⟨"useVersioning", "use_versioning"⟩ false flag

def toWire (s : SyncSettings) : Value :=
  .ofEntries [("name", some (.text s.name)),
    ("criteria", some (Value.freeObject s.criteria)),
    ("proofFormat", some (.text s.fileFormat.name)),
    ("period", some (.text s.period.name)),
    ("useVersioning", some (.bool s.useVersioning))]

end SyncSettings

structure Sync where
  id : Option String
  settings : SyncSettings
  deriving Repr, Inhabited

namespace Sync

def read : Reader Sync :=
  record "Hypersync" fun fields =>
    Sync.mk <$> maybe fields (.word "id") text
      <*> required fields (.word "settings") SyncSettings.read

def toWire (s : Sync) : Value :=
  .ofEntries [("id", Value.ofText? s.id), ("settings", some s.settings.toWire)]

end Sync

end Dossier
