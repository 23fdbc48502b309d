import Dossier.Criterion.Basic
import Dossier.Period

/-!
# Wizard pages

What a host renders: inputs on pages, and the form that holds the pages together with what the
chosen document type suggests for the sync.
-/

set_option autoImplicit false

namespace Dossier.Wizard

open Schema

structure Input where
  name : String
  control : Control
  label : String
  choices : List Choice
  value : Value
  placeholder : Option String
  isRequired : Option Bool
  isDisabled : Bool
  deriving Repr, Inhabited

namespace Input

def read : Reader Input :=
  record "CriteriaField" fun fields =>
    Input.mk <$> required fields (.word "name") text
      <*> required fields (.word "type") (among Control.options)
      <*> required fields (.word "label") text
      <*> defaulted fields (.word "options") [] (list Choice.read)
      <*> defaulted fields (.word "value") .null any
      <*> maybe fields (.word "placeholder") text
      <*> maybe fields ⟨"isRequired", "is_required"⟩ flag
      <*> defaulted fields ⟨"isDisabled", "is_disabled"⟩ false flag

def toWire (i : Input) : Value :=
  .ofEntries [("name", some (.text i.name)),
    ("type", some (.text i.control.name)),
    ("label", some (.text i.label)),
    ("options", some (.list (i.choices.map Choice.toWire))),
    ("value", i.value.free),
    ("placeholder", Value.ofText? i.placeholder),
    ("isRequired", Value.ofFlag? i.isRequired),
    ("isDisabled", some (.bool i.isDisabled))]

end Input

structure Page where
  inputs : List Input
  isValid : Bool
  deriving Repr, Inhabited

namespace Page

def empty : Page := ⟨[], false⟩

def read : Reader Page :=
  record "CriteriaPage" fun fields =>
    Page.mk <$> defaulted fields (.word "fields") [] (list Input.read)
      <*> defaulted fields ⟨"isValid", "is_valid"⟩ false flag

def toWire (p : Page) : Value :=
  .ofEntries [("fields", some (.list (p.inputs.map Input.toWire))),
    ("isValid", some (.bool p.isValid))]

end Page

structure Form where
  pages : List Page
  period : Period
  useVersioning : Bool
  suggestedName : String
  description : String
  enableExcel : Bool
  deriving Repr, Inhabited

namespace Form

def read : Reader Form :=
  record "CriteriaMetadata" fun fields =>
    Form.mk <$> required fields (.word "pages") (list Page.read)
      <*> defaulted fields (.word "period") .monthly (among Period.options)
      <*> defaulted fields ⟨"useVersioning", "use_versioning"⟩ false flag
      <*> defaulted fields ⟨"suggestedName", "suggested_name"⟩ "" text
      <*> defaulted fields (.word "description") "" text
      <*> defaulted fields ⟨"enableExcelOutput", "enable_excel_output"⟩ true flag

def toWire (f : Form) : Value :=
  .ofEntries [("pages", some (.list (f.pages.map Page.toWire))),
    ("period", some (.text f.period.name)),
    ("useVersioning", some (.bool f.useVersioning)),
    ("suggestedName", some (.text f.suggestedName)),
    ("description", some (.text f.description)),
    ("enableExcelOutput", some (.bool f.enableExcel))]

end Form

end Dossier.Wizard
