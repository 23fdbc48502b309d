import Dossier.Blueprint.Basic

/-!
# Definitions

A definition is a complete declared type of document: its criteria, its blueprint, and overrides
that patch the blueprint when a condition holds. A listing announces a type in the catalog.
-/

set_option autoImplicit false

namespace Dossier

open Schema

/-- Two templates; the condition holds when they resolve to equal texts. -/
structure Condition where
  value : String
  criteria : String
  deriving DecidableEq, Repr, Inhabited

namespace Condition

def read : Reader Condition :=
  record "OverrideCondition" fun fields =>
    Condition.mk <$> required fields (.word "value") text
      <*> required fields (.word "criteria") text

def toWire (c : Condition) : Value :=
  .ofEntries [("value", some (.text c.value)), ("criteria", some (.text c.criteria))]

end Condition

structure Override where
  condition : Condition
  patch : Fields
  deriving Repr, Inhabited

namespace Override

def read : Reader Override :=
  record "ProofSpecOverride" fun fields =>
    Override.mk <$> required fields (.word "condition") Condition.read
      <*> defaulted fields ⟨"proofSpec", "proof_spec"⟩ [] object

def toWire (o : Override) : Value :=
  .ofEntries [("condition", some o.condition.toWire),
    ("proofSpec", some (Value.freeObject o.patch))]

end Override

structure Definition where
  description : String
  criteria : List Placement
  blueprint : Blueprint
  overrides : List Override
  deriving Repr, Inhabited

namespace Definition

def read : Reader Definition :=
  record "ProofTypeDefinition" fun fields =>
    Definition.mk <$> defaulted fields (.word "description") "" text
      <*> defaulted fields (.word "criteria") [] (list Placement.read)
      <*> required fields ⟨"proofSpec", "proof_spec"⟩ Blueprint.read
      <*> defaulted fields (.word "overrides") [] (list Override.read)

def toWire (d : Definition) : Value :=
  .ofEntries [("description", some (.text d.description)),
    ("criteria", some (.list (d.criteria.map Placement.toWire))),
    ("proofSpec", some d.blueprint.toWire),
    ("overrides", some (.list (d.overrides.map Override.toWire)))]

end Definition

structure Listing where
  label : String
  category : Option String
  criteria : Option Fields
  definition : Option Definition
  deriving Repr, Inhabited

namespace Listing

def read : Reader Listing :=
  record "ProofTypeConfig" fun fields =>
    Listing.mk <$> required fields (.word "label") text
      <*> maybe fields (.word "category") text
      <*> maybe fields (.word "criteria") object
      <*> maybe fields (.word "definition") Definition.read

def toWire (l : Listing) : Value :=
  .ofEntries [("label", some (.text l.label)),
    ("category", Value.ofText? l.category),
    ("criteria", l.criteria.map Value.freeObject),
    ("definition", l.definition.map Definition.toWire)]

end Listing

end Dossier
