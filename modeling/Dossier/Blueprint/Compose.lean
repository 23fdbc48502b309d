import Dossier.Blueprint.Definition
import Dossier.Source.Fetch
import Dossier.Scope

/-!
# Composing a blueprint

The overrides of a definition whose conditions hold are laid over its blueprint, in order. A patch
replaces entries as a whole; only the parameters of the data set are merged key by key. Then the
lookups are fetched, each of which later ones can refer to.
-/

set_option autoImplicit false

namespace Dossier

open Run

def defaultNoResults : String := "No results were found."

def paramsKey : String := "dataSetParams"

namespace Blueprint

def ownKey (key : String) : String :=
  match keys.find? fun k => k.underscored == key with
  | some k => k.name
  | none => key

def ownKeys (patch : Fields) : Fields :=
  Fields.ofEntries (patch.map fun (key, v) => (ownKey key, v))

/-- Lay a patch over entries. The parameters of the data set are merged when the patch has any. -/
def overlay (entries patch : Fields) : Except Failure Fields :=
  let patch := ownKeys patch
  let merged := entries.merge patch
  let given := patch.get paramsKey
  if given.isTruthy then
    match given with
    | .object params =>
      match entries.get paramsKey with
      | .object base => .ok (merged.put paramsKey (.object (Fields.merge base params)))
      | v =>
        if v.isTruthy then .error (.fault .notMergeable)
        else .ok (merged.put paramsKey (.object (Fields.merge [] params)))
    | _ => .error (.fault .notMergeable)
  else .ok merged

def withMessage (entries : Fields) : Fields :=
  if (entries.get "noResultsMessage").isTruthy then entries
  else entries.put "noResultsMessage" (.text defaultNoResults)

def ofEntries (entries : Fields) : Except Failure Blueprint :=
  match read (.object (withMessage entries)) with
  | .ok b => .ok b
  | .bad issues => .error (.invalidComposition issues)

end Blueprint

namespace Condition

def isUnsetCriterion (scope : Fields) (body : List Char) : Bool :=
  match (Template.names (Text.trim body)).map String.ofList, scope.get? "criteria" with
  | ["criteria", name], some (.object criteria) => !Fields.has criteria name
  | _, _ => false

/-- One side of a condition; none for a criterion that is not set. With `orMissing` a placeholder
that stands for nothing makes the side missing as well. -/
def operand (scope : Fields) (orMissing : Bool) (template : String) : Run (Option String) := do
  let setting ← templateSetting none none
  let rules : Template.Rules :=
    ⟨Template.meaning setting.environment scope, false, if orMissing then none else some []⟩
  match Template.passes rules setting.limit.toNat template.toList with
  | .ok result => pure (result.map String.ofList)
  | .error (.invalid body) =>
    if isUnsetCriterion scope body then pure none
    else throw ((Template.Halt.invalid body).toFailure setting.limit)
  | .error halt => throw (halt.toFailure setting.limit)

/-- Whether both sides resolve to the same text. The side of the criteria comes first. When it is
the mark of an optional value that was not chosen, a missing value matches too. -/
def holds (c : Condition) (scope : Fields) : Run Bool := do
  match ← operand scope false c.criteria with
  | none => pure false
  | some chosen =>
    if chosen = idUndefined then
      match ← operand scope true c.value with
      | none => pure true
      | some value => pure (value == chosen)
    else
      match ← operand scope false c.value with
      | none => pure false
      | some value => pure (value == chosen)

end Condition

namespace Definition

def applyOverrides (scope : Fields) : List Override → Fields → Run Fields
  | [], entries => pure entries
  | o :: rest, entries => do
    if ← o.condition.holds scope then
      let entries ← lift (Blueprint.overlay entries o.patch)
      applyOverrides scope rest entries
    else applyOverrides scope rest entries

def compose (d : Definition) (scope : Fields) : Run Blueprint := do
  let entries ← applyOverrides scope d.overrides d.blueprint.entries
  lift (Blueprint.ofEntries entries)

end Definition

structure Looked where
  scope : Fields
  failure : Option Failure

namespace Scope

def lookups (scope : Fields) : Fields :=
  match scope.get "lookups" with
  | .object fields => fields
  | _ => []

def takesLookups (scope : Fields) : Bool :=
  ((scope.get? "lookups").map fun v => v.object?.isSome).getD true

def addLookup (scope : Fields) (name : String) (data : Value) : Fields :=
  scope.put "lookups" (.object ((lookups scope).put name data))

end Scope

namespace Lookup

def fetch (source : Source) (l : Lookup) (scope : Fields) : Run Value := do
  let params ← resolveParams none scope l.dataSetParams
  let batch ← source.fetch ⟨l.dataSet, params, none, .null⟩
  if batch.status ≠ .complete then throw (.pendingLookup l.dataSet)
  else if Scope.takesLookups scope then pure batch.data
  else throw (.fault .notMergeable)

def fetchAll (source : Source) : List Lookup → Fields → Run Looked
  | [], scope => pure ⟨scope, none⟩
  | l :: rest, scope => do
    match ← observe (l.fetch source scope) with
    | .error e => pure ⟨scope, some e⟩
    | .ok data => fetchAll source rest (Scope.addLookup scope l.name data)

end Lookup

def Blueprint.runLookups (source : Source) (b : Blueprint) (scope : Fields) : Run Fields := do
  let looked ← Lookup.fetchAll source b.lookups scope
  match looked.failure with
  | some e => throw e
  | none => pure looked.scope

end Dossier
