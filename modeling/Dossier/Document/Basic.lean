import Dossier.Blueprint.Basic
import Dossier.Sync
import Dossier.Source.Batch

/-!
# Documents

A finished document: its texts, its layout and its rows. A delivery holds the documents of one
page of a sync, or, while the data source is not ready, what is needed to ask again.
-/

set_option autoImplicit false

namespace Dossier

open Schema Number

/-- A column as it is printed; a column without a type holds text. -/
structure LayoutColumn where
  property : String
  label : String
  width : Option String
  type : Option ColumnType
  format : Option ColumnFormat
  deriving DecidableEq, Repr, Inhabited

namespace LayoutColumn

def read : Reader LayoutColumn :=
  record "ProofLayoutField" fun fields =>
    LayoutColumn.mk <$> required fields (.word "property") text
      <*> required fields (.word "label") text
      <*> maybe fields (.word "width") text
      <*> maybe fields (.word "type") (among ColumnType.options)
      <*> maybe fields (.word "format") (among ColumnFormat.options)

def toWire (c : LayoutColumn) : Value :=
  .ofEntries [("property", some (.text c.property)),
    ("label", some (.text c.label)),
    ("width", Value.ofText? c.width),
    ("type", c.type.map fun t => .text t.name),
    ("format", c.format.map fun f => .text f.name)]

end LayoutColumn

structure Layout where
  shape : Shape
  columns : List LayoutColumn
  noResultsMessage : String
  deriving Repr, Inhabited

namespace Layout

def read : Reader Layout :=
  record "ProofLayout" fun fields =>
    Layout.mk <$> required fields (.word "format") (among Shape.options)
      <*> defaulted fields (.word "fields") [] (list LayoutColumn.read)
      <*> defaulted fields ⟨"noResultsMessage", "no_results_message"⟩ "" text

def toWire (l : Layout) : Value :=
  .ofEntries [("format", some (.text l.shape.name)),
    ("fields", some (.list (l.columns.map LayoutColumn.toWire))),
    ("noResultsMessage", some (.text l.noResultsMessage))]

end Layout

inductive RenderTemplate where
  | universal
  deriving DecidableEq, Repr, Inhabited

namespace RenderTemplate

def name : RenderTemplate → String
  | .universal => "universal"

def options : List (String × RenderTemplate) := [("universal", .universal)]

end RenderTemplate

structure Contents where
  type : String
  title : String
  subtitle : String
  source : Option String
  webPageUrl : Option String
  orientation : Option Orientation
  zoom : Binary
  userTimeZone : Option String
  criteria : List PrintedCriterion
  fileFormat : FileFormat
  template : RenderTemplate
  layout : Layout
  rows : List Fields
  authorizedUser : String
  collector : String
  collectedOn : String
  deriving Repr, Inhabited

namespace Contents

def fullSize : Binary := .ofQuotient false 1 1

def read : Reader Contents :=
  record "ProofContents" fun fields =>
    Contents.mk <$> required fields (.word "type") text
      <*> required fields (.word "title") text
      <*> required fields (.word "subtitle") text
      <*> maybe fields (.word "source") text
      <*> maybe fields ⟨"webPageUrl", "web_page_url"⟩ text
      <*> maybe fields (.word "orientation") (among Orientation.options)
      <*> defaulted fields (.word "zoom") fullSize number
      <*> maybe fields ⟨"userTimeZone", "user_time_zone"⟩ text
      <*> defaulted fields (.word "criteria") [] (list PrintedCriterion.read)
      <*> required fields ⟨"proofFormat", "proof_format"⟩ (among FileFormat.options)
      <*> defaulted fields (.word "template") .universal (among RenderTemplate.options)
      <*> required fields (.word "layout") Layout.read
      <*> defaulted fields (.word "proof") [] (list object)
      <*> required fields ⟨"authorizedUser", "authorized_user"⟩ text
      <*> required fields (.word "collector") text
      <*> required fields ⟨"collectedOn", "collected_on"⟩ text

def toWire (c : Contents) : Value :=
  .ofEntries [("type", some (.text c.type)),
    ("title", some (.text c.title)),
    ("subtitle", some (.text c.subtitle)),
    ("source", Value.ofText? c.source),
    ("webPageUrl", Value.ofText? c.webPageUrl),
    ("orientation", c.orientation.map fun o => .text o.name),
    ("zoom", some (.float c.zoom)),
    ("userTimeZone", Value.ofText? c.userTimeZone),
    ("criteria", some (.list (c.criteria.map PrintedCriterion.toWire))),
    ("proofFormat", some (.text c.fileFormat.name)),
    ("template", some (.text c.template.name)),
    ("layout", some c.layout.toWire),
    ("proof", some (.list (c.rows.map Value.freeObject))),
    ("authorizedUser", some (.text c.authorizedUser)),
    ("collector", some (.text c.collector)),
    ("collectedOn", some (.text c.collectedOn))]

end Contents

structure Document where
  filename : String
  contents : Contents
  deriving Repr, Inhabited

namespace Document

def read : Reader Document :=
  record "ProofFile" fun fields =>
    Document.mk <$> required fields (.word "filename") text
      <*> required fields (.word "contents") Contents.read

def toWire (d : Document) : Value :=
  .ofEntries [("filename", some (.text d.filename)), ("contents", some d.contents.toWire)]

end Document

structure Delivery where
  documents : List Document
  nextPage : Option String
  combine : Option Bool
  status : Option Progress
  metadata : Value
  delay : Option Binary
  maxRetry : Option Int
  deriving Repr, Inhabited

namespace Delivery

def read : Reader Delivery :=
  record "ProofDataResponse" fun fields =>
    Delivery.mk <$> defaulted fields (.word "data") [] (list Document.read)
      <*> maybe fields ⟨"nextPage", "next_page"⟩ text
      <*> maybe fields (.word "combine") flag
      <*> maybe fields (.word "status") (among Progress.options)
      <*> defaulted fields (.word "metadata") .null any
      <*> maybe fields (.word "delay") number
      <*> maybe fields ⟨"maxRetry", "max_retry"⟩ whole

def toWire (d : Delivery) : Value :=
  .ofEntries [("data", some (.list (d.documents.map Document.toWire))),
    ("nextPage", Value.ofText? d.nextPage),
    ("combine", Value.ofFlag? d.combine),
    ("status", d.status.map fun s => .text s.name),
    ("metadata", d.metadata.free),
    ("delay", d.delay.map .float),
    ("maxRetry", d.maxRetry.map .int)]

def isPending (d : Delivery) : Bool := d.status == some .pending

end Delivery

end Dossier
