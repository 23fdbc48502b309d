import Dossier.Catalog.Basic

/-!
# The wizard of a connector

The first page starts with the input for the category, if there is one, and the input for the
document type. Once a type is chosen its own inputs follow, and when they are all there the
blueprint suggests a name for the sync.
-/

set_option autoImplicit false

namespace Dossier

open Run Wizard

def proofTypeName : String := "proofType"

def otherCategory : Choice := ⟨.text "other", some "Other"⟩

/-- The labels of the chosen options, found on the pages. The last input of a name counts. -/
def chosenLabels (pages : List Page) (criteria : Fields) : Fields :=
  let inputs := (pages.flatMap (·.inputs)).reverse
  criteria.filterMap fun (name, value) =>
    match inputs.find? (·.name == name) with
    | none => none
    | some input =>
      if input.choices.isEmpty then none
      else
        let choice := input.choices.find? fun choice => choice.value.same value
        some (name, ((choice.bind (·.label)).map Value.text).getD .null)

structure Engine where
  catalog : Catalog
  source : Source
  provider : Provider

namespace Engine

def service (e : Engine) (proofType : Value) : Run Catalog.Service :=
  e.catalog.service proofType e.source e.provider

/-- The document type that criteria name; an empty one is unknown. -/
def requireProofType (criteria : Fields) : Run Value :=
  let proofType := criteria.get proofTypeName
  if proofType.isTruthy then pure proofType
  else throw (.unknownProofType (.text proofType.display))

def suggest (source : Source) (d : Definition) (scope : Fields) (criteria : Fields)
    (pages : List Page) : Run (Period × Bool × String × Fields) := do
  if (pages.getLast?.map Page.isValid).getD false then
    let b ← d.compose scope
    let scope ← b.runLookups source scope
    let labels := chosenLabels pages criteria
    let name ← resolve (scope.put "criteriaLabels" (.object labels)) b.suggestedName
    pure (b.period, b.useVersioning, name, scope)
  else pure (.monthly, false, "", scope)

def declaredForm (builder : Builder) (provider : Provider) (d : Definition) (criteria : Fields)
    (pages : List Page) : Run Form := do
  let scope := Scope.start criteria builder.messages
  let assembled ← provider.addInputs builder.source criteria scope d.criteria pages
  match assembled.failure with
  | some e => throw e
  | none =>
    let pages := assembled.pages
    let (period, useVersioning, name, scope) ← suggest builder.source d scope criteria pages
    let description ← resolve scope d.description
    pure ⟨pages, period, useVersioning, name, description, true⟩

def serviceForm (e : Engine) (service : Catalog.Service) (criteria : Fields) (pages : List Page) :
    Run Form :=
  match service with
  | .handler h => h.form criteria pages
  | .declared proofType builder => do
    let d ← e.catalog.definition proofType
    declaredForm builder e.provider d criteria pages

def checkCategory (input : Input) : Except Failure Unit :=
  match input.control, input.choices with
  | .select, ⟨.text _, _⟩ :: _ => .ok ()
  | _, _ => .error (.invalidCategoryField input.name)

def categoryInput (e : Engine) (criteria : Fields) : Run (Option Input) := do
  let scope := Scope.start criteria e.catalog.messages
  match ← e.provider.categoryInput e.source criteria scope with
  | none => pure none
  | some input =>
    lift (checkCategory input)
    if e.catalog.categories.contains "other" then
      pure (some { input with choices := input.choices ++ [otherCategory] })
    else pure (some input)

def onFirstPage (pages : List Page) (inputs : List Input) : List Page :=
  pages.modify 0 fun page => { page with inputs := page.inputs ++ inputs }

def typeInput (choices : List Choice) (value : Value) (isDisabled : Bool) : Input :=
  ⟨proofTypeName, .select, "Proof", choices, value, none, some true, isDisabled⟩

def openForm (pages : List Page) : Form := ⟨pages, .monthly, true, "", "", false⟩

/-- The form for the criteria chosen so far. A document type that is no longer offered is
dropped. -/
def form (e : Engine) (criteria : Fields) (pages : List Page) : Run Form := do
  let pages := if pages.isEmpty then [Page.empty] else pages
  let category ← e.categoryInput criteria
  let pages := onFirstPage pages category.toList
  let chosen := (category.map Input.value).getD .null
  let choices ← e.catalog.options (some criteria) chosen
  let named := criteria.get proofTypeName
  let isStale := named.isTruthy && !choices.any fun choice => choice.value.same named
  let criteria := if isStale then criteria.erase proofTypeName else criteria
  let proofType := if isStale then .null else named
  let isDisabled := category.any fun input => !input.value.isTruthy
  let pages := onFirstPage pages [typeInput choices proofType isDisabled]
  if proofType.isTruthy then
    let pages := pages.modify 0 fun page => { page with isValid := true }
    let service ← e.service proofType
    e.serviceForm service criteria pages
  else pure (openForm pages)

def schemaColumns (scope : Fields) : List Column → Run (List SchemaColumn)
  | [] => pure []
  | c :: rest => do
    let label ← resolve scope c.label
    let rest ← schemaColumns scope rest
    pure (⟨c.property, label, c.type.getD .text⟩ :: rest)

def declaredSchema (d : Definition) (messages criteria : Fields) : Run DocumentSchema := do
  let scope := Scope.start criteria messages
  let b ← d.compose scope
  let columns ← schemaColumns scope b.columns
  pure ⟨b.shape, false, columns⟩

def schema (e : Engine) (criteria : Fields) : Run DocumentSchema := do
  let proofType ← requireProofType criteria
  match ← e.service proofType with
  | .handler h => h.schema criteria
  | .declared key builder => do
    let d ← e.catalog.definition key
    declaredSchema d builder.messages criteria

def syncPlan (e : Engine) (criteria : Fields) : Run SyncPlan := do
  let proofType ← requireProofType criteria
  let _ ← e.service proofType
  pure ⟨true⟩

/-- Deliver one page of a sync. When a document type is expected the sync must be of that type. -/
def deliver (e : Engine) (o : Order) (expected : Option String) : Run Delivery := do
  let proofType ← requireProofType o.sync.settings.criteria
  match expected with
  | some key =>
    if (Value.text key).same proofType then pure ()
    else throw (.proofTypeMismatch key proofType)
  | none => pure ()
  match ← e.service proofType with
  | .handler h => h.deliver o
  | .declared key builder => do
    let d ← e.catalog.definition key
    builder.build d o

end Engine

end Dossier
