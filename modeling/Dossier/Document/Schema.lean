import Dossier.Blueprint.Basic

/-!
# Document schemas and sync plans

What a host is told about a type of document ahead of time: its columns, and how the pages of a
sync are put together.
-/

set_option autoImplicit false

namespace Dossier

open Schema

structure SchemaColumn where
  property : String
  label : String
  type : ColumnType
  deriving DecidableEq, Repr, Inhabited

namespace SchemaColumn

def read : Reader SchemaColumn :=
  record "SchemaField" fun fields =>
    SchemaColumn.mk <$> required fields (.word "property") text
      <*> required fields (.word "label") text
      <*> defaulted fields (.word "type") .text (among ColumnType.options)

def toWire (c : SchemaColumn) : Value :=
  .ofEntries [("property", some (.text c.property)), ("label", some (.text c.label)),
    ("type", some (.text c.type.name))]

end SchemaColumn

structure DocumentSchema where
  shape : Shape
  isHierarchical : Bool
  columns : List SchemaColumn
  deriving Repr, Inhabited

namespace DocumentSchema

def read : Reader DocumentSchema :=
  record "ProofSchema" fun fields =>
    DocumentSchema.mk <$> required fields (.word "format") (among Shape.options)
      <*> defaulted fields ⟨"isHierarchical", "is_hierarchical"⟩ false flag
      <*> defaulted fields (.word "fields") [] (list SchemaColumn.read)

def toWire (s : DocumentSchema) : Value :=
  .ofEntries [("format", some (.text s.shape.name)),
    ("isHierarchical", some (.bool s.isHierarchical)),
    ("fields", some (.list (s.columns.map SchemaColumn.toWire)))]

end DocumentSchema

structure SyncPlan where
  combine : Bool
  deriving DecidableEq, Repr, Inhabited

namespace SyncPlan

def read : Reader SyncPlan :=
  record "SyncPlan" fun fields =>
    SyncPlan.mk <$> defaulted fields (.word "combine") true flag

def toWire (p : SyncPlan) : Value := .ofEntries [("combine", some (.bool p.combine))]

def envelope (p : SyncPlan) : Value := .ofEntries [("syncPlan", some p.toWire)]

end SyncPlan

end Dossier
