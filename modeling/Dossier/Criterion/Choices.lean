import Dossier.Criterion.Basic
import Dossier.Source.Fetch
import Dossier.Value.Order

/-!
# Choices of a select control

Fetched choices are projected from the rows of a data set and sorted by label. Fixed choices stand
before them in their declared order. Fetched data must be complete, and be lists of objects.
-/

set_option autoImplicit false

namespace Dossier

open Run

/-- The order of labels; a choice without a label comes last. -/
def Choice.labelOrder (a b : Choice) : Ordering :=
  match a.label, b.label with
  | none, none => .eq
  | some _, none => .lt
  | none, some _ => .gt
  | some s, some t => Value.orderOf (Text.collationKey s) (Text.collationKey t)

/-- Sort choices by label; equal labels keep their order. -/
def Choice.sortByLabel (choices : List Choice) : List Choice :=
  choices.mergeSort fun a b => a.labelOrder b != .gt

namespace Criterion

def projected (value label : Value) : Except Failure Choice :=
  let label := match label with
    | .null => none
    | v => some v.display
  match (Schema.scalar value).under (.key "value") with
  | .ok value => .ok ⟨value, label⟩
  | .bad issues => .error (.invalid issues)

def project (w : Wiring) : Value → Except Failure Choice
  | .object row => projected (Fields.get row w.valueProperty) (Fields.get row w.labelProperty)
  | _ => .error (.invalidDataSet w.dataSet)

def projectAll (project : Value → Except Failure Choice) :
    List Value → Except Failure (List Choice)
  | [] => .ok []
  | row :: rest =>
    match project row with
    | .error e => .error e
    | .ok c => (projectAll project rest).map (c :: ·)

def projectPages (dataSet : String) (project : Value → Except Failure Choice) :
    List Batch → Except Failure (List Choice)
  | [] => .ok []
  | batch :: rest =>
    if batch.status ≠ .complete then .error (.pendingChoices dataSet)
    else match batch.data with
      | .list rows =>
        match projectAll project rows with
        | .error e => .error e
        | .ok choices => (projectPages dataSet project rest).map (choices ++ ·)
      | _ => .error (.invalidDataSet dataSet)

/-- Fetch choices. The parameters see the criteria alone. -/
def fetchChoices (source : Source) (maxPages : Option Int) (w : Wiring) (c : Criterion)
    (criteria : Fields) : Run (List Choice) := do
  let params ← resolveParams none [("criteria", .object criteria)] c.dataSetParams
  let batches ← source.fetchAll w.dataSet params maxPages
  let choices ← lift (projectPages w.dataSet (project w) batches)
  pure (Choice.sortByLabel choices)

def resolveChoice (scope : Fields) (c : Choice) : Run Choice := do
  let value ← match c.value with
    | .text s => .text <$> resolve scope s
    | v => pure v
  let label ← resolve scope (c.label.getD "")
  pure ⟨value, some label⟩

def resolveChoices (scope : Fields) : List Choice → Run (List Choice)
  | [] => pure []
  | c :: rest => do
    let c ← resolveChoice scope c
    let rest ← resolveChoices scope rest
    pure (c :: rest)

def choices (source : Source) (maxPages : Option Int) (c : Criterion) (criteria scope : Fields) :
    Run (List Choice) := do
  let fetched ← match c.wiring? with
    | some w => fetchChoices source maxPages w c criteria
    | none => pure []
  let fixed ← resolveChoices scope (c.fixedChoices.getD [])
  pure (fixed ++ fetched)

end Criterion

end Dossier
