import Dossier.Schema.Reading
import Dossier.Value.Wire

/-!
# Criteria

A criterion describes one input of the wizard: its control, the property of the criteria it sets,
and for a select control where the choices come from. A placement puts a criterion on a page.
-/

set_option autoImplicit false

namespace Dossier

open Schema

inductive Control where
  | select
  | text
  deriving DecidableEq, Repr, Inhabited

namespace Control

def name : Control → String
  | .select => "select"
  | .text => "text"

def options : List (String × Control) := [("select", .select), ("text", .text)]

end Control

structure Choice where
  value : Value
  label : Option String
  deriving Repr, Inhabited

namespace Choice

def read : Reader Choice :=
  record "SelectOption" fun fields =>
    Choice.mk <$> defaulted fields (.word "value") .null scalar
      <*> maybe fields (.word "label") text

def toWire (c : Choice) : Value :=
  .ofEntries [("value", if c.value.isNull then none else some c.value),
    ("label", Value.ofText? c.label)]

end Choice

structure Placement where
  name : String
  page : Nat
  deriving DecidableEq, Repr, Inhabited

namespace Placement

def read : Reader Placement :=
  record "CriterionRef" fun fields =>
    (fun name page => Placement.mk name (Int.toNat page))
      <$> required fields (.word "name") text
      <*> defaulted fields (.word "page") 0 (wholeFrom 0)

def toWire (p : Placement) : Value :=
  .ofEntries [("name", some (.text p.name)), ("page", some (.int p.page))]

end Placement

structure Criterion where
  control : Control
  property : String
  label : String
  isRequired : Option Bool
  placeholder : Option String
  defaultDisplay : Option String
  dataSet : Option String
  dataSetParams : Option Fields
  valueProperty : Option String
  labelProperty : Option String
  fixedChoices : Option (List Choice)
  deriving Repr, Inhabited

namespace Criterion

def read : Reader Criterion :=
  record "CriteriaFieldConfig" fun fields =>
    Criterion.mk
      <$> required fields (.word "type") (among Control.options)
      <*> required fields (.word "property") text
      <*> defaulted fields (.word "label") "" text
      <*> maybe fields ⟨"isRequired", "is_required"⟩ flag
      <*> maybe fields (.word "placeholder") text
      <*> maybe fields ⟨"defaultDisplayValue", "default_display_value"⟩ text
      <*> maybe fields ⟨"dataSet", "data_set"⟩ text
      <*> maybe fields ⟨"dataSetParams", "data_set_params"⟩ object
      <*> maybe fields ⟨"valueProperty", "value_property"⟩ text
      <*> maybe fields ⟨"labelProperty", "label_property"⟩ text
      <*> maybe fields ⟨"fixedValues", "fixed_values"⟩ (list Choice.read)

def toWire (c : Criterion) : Value :=
  .ofEntries [("type", some (.text c.control.name)),
    ("property", some (.text c.property)),
    ("label", some (.text c.label)),
    ("isRequired", Value.ofFlag? c.isRequired),
    ("placeholder", Value.ofText? c.placeholder),
    ("defaultDisplayValue", Value.ofText? c.defaultDisplay),
    ("dataSet", Value.ofText? c.dataSet),
    ("dataSetParams", c.dataSetParams.map Value.freeObject),
    ("valueProperty", Value.ofText? c.valueProperty),
    ("labelProperty", Value.ofText? c.labelProperty),
    ("fixedValues", c.fixedChoices.map fun cs => .list (cs.map Choice.toWire))]

structure Wiring where
  dataSet : String
  valueProperty : String
  labelProperty : String
  deriving DecidableEq, Repr

def filled? (s : Option String) : Option String := s.filter (· != "")

def wiring? (c : Criterion) : Option Wiring := do
  let dataSet ← filled? c.dataSet
  let valueProperty ← filled? c.valueProperty
  let labelProperty ← filled? c.labelProperty
  some ⟨dataSet, valueProperty, labelProperty⟩

def hasDataSet (c : Criterion) : Bool := c.wiring?.isSome

end Criterion

abbrev Criteria := List (String × Criterion)

structure PrintedCriterion where
  name : String
  label : String
  value : Value
  deriving Repr, Inhabited

namespace PrintedCriterion

def read : Reader PrintedCriterion :=
  record "ProofCriterionValue" fun fields =>
    PrintedCriterion.mk <$> required fields (.word "name") text
      <*> required fields (.word "label") text
      <*> defaulted fields (.word "value") .null any

def toWire (c : PrintedCriterion) : Value :=
  .ofEntries [("name", some (.text c.name)), ("label", some (.text c.label)),
    ("value", c.value.free)]

end PrintedCriterion

end Dossier
