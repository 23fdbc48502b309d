import Dossier.Criterion.Choices

/-!
# Draft criteria

A draft is the description of an input taken as it was given, without a check. Its parts may be
values of any kind and are read only where they are used: what is missing or cannot be used there
ends the work, and what does not matter there goes unnoticed.
-/

set_option autoImplicit false

namespace Dossier

open Run Schema

inductive DraftChoices where
  | read (choices : List Choice)
  | given (v : Value)
  deriving Repr, Inhabited

/-- A criterion without a check. Control and property may be missing; a part that is left out
otherwise is null, or empty for the label. -/
structure Draft where
  control : Option Value
  property : Option Value
  label : Value
  isRequired : Value
  placeholder : Value
  defaultDisplay : Value
  dataSet : Value
  dataSetParams : Value
  valueProperty : Value
  labelProperty : Value
  fixedChoices : DraftChoices
  deriving Repr, Inhabited

namespace Draft

def ofFields (fields : Fields) : Draft :=
  let given (key : Key) : Option Value := (key.find? fields).map Prod.snd
  let part (key : Key) : Value := (given key).getD .null
  { control := given (.word "type")
    property := given (.word "property")
    label := (given (.word "label")).getD (.text "")
    isRequired := part ⟨"isRequired", "is_required"⟩
    placeholder := part (.word "placeholder")
    defaultDisplay := part ⟨"defaultDisplayValue", "default_display_value"⟩
    dataSet := part ⟨"dataSet", "data_set"⟩
    dataSetParams := part ⟨"dataSetParams", "data_set_params"⟩
    valueProperty := part ⟨"valueProperty", "value_property"⟩
    labelProperty := part ⟨"labelProperty", "label_property"⟩
    fixedChoices := .given (part ⟨"fixedValues", "fixed_values"⟩) }

def ofCriterion (c : Criterion) : Draft :=
  let text (s : Option String) : Value := (s.map Value.text).getD .null
  { control := some (.text c.control.name)
    property := some (.text c.property)
    label := .text c.label
    isRequired := (c.isRequired.map Value.bool).getD .null
    placeholder := text c.placeholder
    defaultDisplay := text c.defaultDisplay
    dataSet := text c.dataSet
    dataSetParams := (c.dataSetParams.map Value.object).getD .null
    valueProperty := text c.valueProperty
    labelProperty := text c.labelProperty
    fixedChoices := .read (c.fixedChoices.getD []) }

def toWire (d : Draft) : Value :=
  .ofEntries [("type", d.control.bind Value.free),
    ("property", d.property.bind Value.free),
    ("label", d.label.free),
    ("isRequired", d.isRequired.free),
    ("placeholder", d.placeholder.free),
    ("defaultDisplayValue", d.defaultDisplay.free),
    ("dataSet", d.dataSet.free),
    ("dataSetParams", d.dataSetParams.free),
    ("valueProperty", d.valueProperty.free),
    ("labelProperty", d.labelProperty.free),
    ("fixedValues", match d.fixedChoices with
      | .read [] => none
      | .read choices => some (.list (choices.map Choice.toWire))
      | .given v => v.free)]

def needed (part : Option Value) : Except Failure Value :=
  match part with
  | some v => .ok v
  | none => .error (.fault .missingPart)

/-- The value of a key that may be no text: then it is the key of nothing, and a list or an object
can be no key. -/
def lookUp (fields : Fields) (key : Value) : Except Failure Value :=
  match key with
  | .text key => .ok (fields.get key)
  | .list _ => .error (.fault .notAKey)
  | .object _ => .error (.fault .notAKey)
  | _ => .ok .null

def resolvePart (scope : Fields) (part : Value) : Run Value :=
  resolveValue none none scope false part

def resolveFilled (scope : Fields) (part empty : Value) : Run Value :=
  if part.isTruthy then resolvePart scope part else pure empty

def params (d : Draft) (criteria : Fields) : Run (Option Fields) :=
  match d.dataSetParams with
  | .null => pure none
  | .object params => resolveParams none [("criteria", .object criteria)] (some params)
  | _ => throw (.fault .missingPart)

def project (d : Draft) (dataSet : String) : Value → Except Failure Choice
  | .object row => do
    let label ← lookUp row d.labelProperty
    let value ← lookUp row d.valueProperty
    Criterion.projected value label
  | _ => .error (.invalidDataSet dataSet)

def fetchChoices (source : Source) (maxPages : Option Int) (d : Draft) (criteria : Fields) :
    Run (List Choice) :=
  if d.dataSet.isTruthy && d.valueProperty.isTruthy && d.labelProperty.isTruthy then do
    let params ← d.params criteria
    match d.dataSet with
    | .text dataSet =>
      let batches ← source.fetchAll dataSet params maxPages
      let choices ← lift (Criterion.projectPages dataSet (d.project dataSet) batches)
      pure (Choice.sortByLabel choices)
    | .list _ => throw (.fault .notAKey)
    | .object _ => throw (.fault .notAKey)
    | _ => throw (.fault .noSuchData)
  else pure []

/-- The fixed choices with their texts resolved. What was given in place of choices has no items
that are choices. -/
def fixed (d : Draft) (scope : Fields) : Run (List Choice) :=
  match d.fixedChoices with
  | .read choices => Criterion.resolveChoices scope choices
  | .given v =>
    if !v.isTruthy then pure []
    else match v with
      | .list _ => throw (.fault .missingPart)
      | .object _ => throw (.fault .missingPart)
      | .text _ => throw (.fault .missingPart)
      | _ => throw (.fault .rowNotIterable)

def choices (source : Source) (maxPages : Option Int) (d : Draft) (criteria scope : Fields) :
    Run (List Choice) := do
  let fetched ← d.fetchChoices source maxPages criteria
  let fixed ← d.fixed scope
  pure (fixed ++ fetched)

def checked {α : Type} (x : Checked α) : Run α :=
  match x with
  | .ok a => pure a
  | .bad issues => throw (.invalid issues)

def printed (property label value : Value) : Run PrintedCriterion :=
  checked (PrintedCriterion.mk <$> (text property).under (.key "name")
    <*> (text label).under (.key "label") <*> .ok value)

def printedValue (source : Source) (d : Draft) (values scope : Fields) (value : Value) :
    Run Value := do
  let control ← lift (needed d.control)
  match control with
  | .text "select" =>
    let choices ← d.choices source none values scope
    match choices.find? fun choice => choice.value.same value with
    | some choice => pure ((choice.label.map Value.text).getD .null)
    | none => pure .null
  | .text "text" => pure value
  | control => throw (.unsupportedControl control)

/-- A draft as printed. One that is declared optional and has no value shows its default. -/
def printOne (source : Source) (d : Draft) (values scope : Fields) : Run PrintedCriterion := do
  let label ← resolvePart scope d.label
  let property ← lift (needed d.property)
  let value ← lift (lookUp values property)
  match d.isRequired, value with
  | .bool false, .null =>
    let shown ← resolveFilled scope d.defaultDisplay (.text "")
    printed property label shown
  | _, _ =>
    let shown ← d.printedValue source values scope value
    printed property label shown

end Draft

abbrev Drafts := List (String × Draft)

def Drafts.print (source : Source) (drafts : Drafts) (values scope : Fields) :
    List Placement → Run (List PrintedCriterion)
  | [] => pure []
  | p :: rest =>
    match drafts.lookup p.name with
    | none => throw (.unknownCriterion p.name)
    | some d => do
      let printed ← d.printOne source values scope
      let rest ← print source drafts values scope rest
      pure (printed :: rest)

end Dossier
