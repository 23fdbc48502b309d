import Dossier.Criterion.Basic
import Dossier.Period

/-!
# Blueprints

A blueprint declares one kind of document: the data set it is made from, lookups that are fetched
first, its columns and its texts. Entries that no key declares are kept.
-/

set_option autoImplicit false

namespace Dossier

open Schema

inductive Shape where
  | tabular
  | stacked
  | hierarchical
  deriving DecidableEq, Repr, Inhabited

namespace Shape

def name : Shape → String
  | .tabular => "tabular"
  | .stacked => "stacked"
  | .hierarchical => "hierarchical"

def options : List (String × Shape) :=
  [.tabular, .stacked, .hierarchical].map fun s => (s.name, s)

end Shape

inductive Orientation where
  | portrait
  | landscape
  deriving DecidableEq, Repr, Inhabited

namespace Orientation

def name : Orientation → String
  | .portrait => "portrait"
  | .landscape => "landscape"

def options : List (String × Orientation) :=
  [.portrait, .landscape].map fun o => (o.name, o)

end Orientation

inductive ColumnType where
  | text
  | number
  | date
  | boolean
  deriving DecidableEq, Repr, Inhabited

namespace ColumnType

def name : ColumnType → String
  | .text => "text"
  | .number => "number"
  | .date => "date"
  | .boolean => "boolean"

def options : List (String × ColumnType) :=
  [.text, .number, .date, .boolean].map fun t => (t.name, t)

end ColumnType

inductive ColumnFormat where
  | percent
  deriving DecidableEq, Repr, Inhabited

namespace ColumnFormat

def name : ColumnFormat → String
  | .percent => "percent"

def options : List (String × ColumnFormat) := [("percent", .percent)]

end ColumnFormat

structure Lookup where
  name : String
  dataSet : String
  dataSetParams : Option Fields
  deriving Repr, Inhabited

namespace Lookup

def read : Reader Lookup :=
  record "Lookup" fun fields =>
    Lookup.mk <$> required fields (.word "name") text
      <*> required fields ⟨"dataSet", "data_set"⟩ text
      <*> maybe fields ⟨"dataSetParams", "data_set_params"⟩ object

def toWire (l : Lookup) : Value :=
  .ofEntries [("name", some (.text l.name)),
    ("dataSet", some (.text l.dataSet)),
    ("dataSetParams", l.dataSetParams.map Value.freeObject)]

end Lookup

structure Column where
  property : String
  label : String
  width : Option String
  type : Option ColumnType
  format : Option ColumnFormat
  deriving DecidableEq, Repr, Inhabited

namespace Column

def read : Reader Column :=
  record "ProofField" fun fields =>
    Column.mk <$> required fields (.word "property") text
      <*> defaulted fields (.word "label") "" text
      <*> maybe fields (.word "width") text
      <*> maybe fields (.word "type") (among ColumnType.options)
      <*> maybe fields (.word "format") (among ColumnFormat.options)

def toWire (c : Column) : Value :=
  .ofEntries [("property", some (.text c.property)),
    ("label", some (.text c.label)),
    ("width", Value.ofText? c.width),
    ("type", c.type.map fun t => .text t.name),
    ("format", c.format.map fun f => .text f.name)]

end Column

structure Blueprint where
  period : Period
  useVersioning : Bool
  suggestedName : String
  shape : Shape
  orientation : Option Orientation
  title : String
  subtitle : String
  dataSet : String
  dataSetParams : Option Fields
  noResultsMessage : Option String
  lookups : List Lookup
  columns : List Column
  webPageUrl : Option String
  autoLayout : Bool
  /-- Entries under keys that are not declared. -/
  extras : Fields
  deriving Repr, Inhabited

namespace Blueprint

def keys : List Key :=
  [.word "period", ⟨"useVersioning", "use_versioning"⟩, ⟨"suggestedName", "suggested_name"⟩,
    .word "format", .word "orientation", .word "title", .word "subtitle",
    ⟨"dataSet", "data_set"⟩, ⟨"dataSetParams", "data_set_params"⟩,
    ⟨"noResultsMessage", "no_results_message"⟩, .word "lookups", .word "fields",
    ⟨"webPageUrl", "web_page_url"⟩, ⟨"autoLayout", "auto_layout"⟩]

def read : Reader Blueprint :=
  record "ProofSpec" fun fields =>
    Blueprint.mk <$> defaulted fields (.word "period") .monthly (among Period.options)
      <*> defaulted fields ⟨"useVersioning", "use_versioning"⟩ false flag
      <*> defaulted fields ⟨"suggestedName", "suggested_name"⟩ "" text
      <*> defaulted fields (.word "format") .tabular (among Shape.options)
      <*> maybe fields (.word "orientation") (among Orientation.options)
      <*> defaulted fields (.word "title") "" text
      <*> defaulted fields (.word "subtitle") "" text
      <*> required fields ⟨"dataSet", "data_set"⟩ text
      <*> maybe fields ⟨"dataSetParams", "data_set_params"⟩ object
      <*> maybe fields ⟨"noResultsMessage", "no_results_message"⟩ text
      <*> defaulted fields (.word "lookups") [] (list Lookup.read)
      <*> defaulted fields (.word "fields") [] (list Column.read)
      <*> maybe fields ⟨"webPageUrl", "web_page_url"⟩ text
      <*> defaulted fields ⟨"autoLayout", "auto_layout"⟩ false flag
      <*> pure (leftovers keys fields)

def orNull (v : Option Value) : Value := v.getD .null

def lookupEntries (l : Lookup) : Value :=
  .object [("name", .text l.name), ("dataSet", .text l.dataSet),
    ("dataSetParams", orNull (l.dataSetParams.map .object))]

def columnEntries (c : Column) : Value :=
  .object [("property", .text c.property), ("label", .text c.label),
    ("width", orNull (Value.ofText? c.width)),
    ("type", orNull (c.type.map fun t => .text t.name)),
    ("format", orNull (c.format.map fun f => .text f.name))]

def entries (b : Blueprint) : Fields :=
  Fields.merge [("period", .text b.period.name),
    ("useVersioning", .bool b.useVersioning),
    ("suggestedName", .text b.suggestedName),
    ("format", .text b.shape.name),
    ("orientation", orNull (b.orientation.map fun o => .text o.name)),
    ("title", .text b.title),
    ("subtitle", .text b.subtitle),
    ("dataSet", .text b.dataSet),
    ("dataSetParams", orNull (b.dataSetParams.map .object)),
    ("noResultsMessage", orNull (Value.ofText? b.noResultsMessage)),
    ("lookups", .list (b.lookups.map lookupEntries)),
    ("fields", .list (b.columns.map columnEntries)),
    ("webPageUrl", orNull (Value.ofText? b.webPageUrl)),
    ("autoLayout", .bool b.autoLayout)] b.extras

def toWire (b : Blueprint) : Value :=
  .ofEntries ([("period", some (.text b.period.name)),
    ("useVersioning", some (.bool b.useVersioning)),
    ("suggestedName", some (.text b.suggestedName)),
    ("format", some (.text b.shape.name)),
    ("orientation", b.orientation.map fun o => .text o.name),
    ("title", some (.text b.title)),
    ("subtitle", some (.text b.subtitle)),
    ("dataSet", some (.text b.dataSet)),
    ("dataSetParams", b.dataSetParams.map Value.freeObject),
    ("noResultsMessage", Value.ofText? b.noResultsMessage),
    ("lookups", some (.list (b.lookups.map Lookup.toWire))),
    ("fields", some (.list (b.columns.map Column.toWire))),
    ("webPageUrl", Value.ofText? b.webPageUrl),
    ("autoLayout", some (.bool b.autoLayout))] ++
    b.extras.map fun (key, v) => (key, v.free))

end Blueprint

end Dossier
