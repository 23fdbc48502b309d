import Dossier.Wizard.Drafting

/-!
# Criteria providers

A provider supplies the inputs of a wizard and the criteria printed in a document. The usual one
has criteria by name, which may also be drafts. A plain one has none: it takes every type of
document to be ready, and prints nothing.
-/

set_option autoImplicit false

namespace Dossier

open Run Wizard

inductive Provider where
  | declared (criteria : Criteria)
  | drafted (drafts : Drafts)
  | plain
  deriving Inhabited

def categoryNames : List String := ["hp_proofCategory", "proofCategory"]

def addNamed {α : Type} (entries : List (String × α)) (name : String) (a : α) :
    Except Failure (List (String × α)) :=
  if (entries.lookup name).isSome then .error (.duplicateCriterion name)
  else .ok (entries ++ [(name, a)])

def categoryOf? {α : Type} (entries : List (String × α)) : Option α :=
  categoryNames.findSome? fun name => entries.lookup name

namespace Criteria

/-- The value under which a criterion is printed: the label of the chosen option for a select
control, the value itself for a text. -/
def printedValue (source : Source) (c : Criterion) (values scope : Fields) (value : Value) :
    Run Value :=
  match c.control with
  | .select => do
    let choices ← c.choices source none values scope
    match choices.find? fun choice => choice.value.same value with
    | some choice => pure ((choice.label.map Value.text).getD .null)
    | none => pure .null
  | .text => pure value

/-- A criterion as printed. One that is declared optional and has no value shows its default. -/
def printOne (source : Source) (c : Criterion) (values scope : Fields) : Run PrintedCriterion := do
  let label ← resolve scope c.label
  let value := values.get c.property
  if c.isRequired = some false ∧ value.isNull then
    let shown ← resolve scope (c.defaultDisplay.getD "")
    pure ⟨c.property, label, .text shown⟩
  else
    let shown ← printedValue source c values scope value
    pure ⟨c.property, label, shown⟩

def print (source : Source) (criteria : Criteria) (values scope : Fields) :
    List Placement → Run (List PrintedCriterion)
  | [] => pure []
  | p :: rest =>
    match criteria.lookup p.name with
    | none => throw (.unknownCriterion p.name)
    | some c => do
      let printed ← printOne source c values scope
      let rest ← print source criteria values scope rest
      pure (printed :: rest)

end Criteria

namespace Provider

def drafts : Provider → Drafts
  | .declared criteria => criteria.map fun (name, c) => (name, .ofCriterion c)
  | .drafted drafts => drafts
  | .plain => []

def add (p : Provider) (name : String) (c : Criterion) : Except Failure Provider :=
  match p with
  | .declared criteria => (addNamed criteria name c).map .declared
  | .drafted drafts => (addNamed drafts name (.ofCriterion c)).map .drafted
  | .plain => .ok (.declared [(name, c)])

def addDraft (p : Provider) (name : String) (d : Draft) : Except Failure Provider :=
  (addNamed p.drafts name d).map .drafted

def categoryInput (p : Provider) (source : Source) (values scope : Fields) : Run (Option Input) :=
  match p with
  | .declared criteria =>
    match categoryOf? criteria with
    | some c => some <$> buildInput source none c values scope false
    | none => pure none
  | .drafted drafts =>
    match categoryOf? drafts with
    | some d => some <$> d.input source none values scope false
    | none => pure none
  | .plain => pure none

def addInputs (p : Provider) (source : Source) (values scope : Fields)
    (placements : List Placement) (pages : List Page) : Run Assembled :=
  match p with
  | .declared criteria => assemble source criteria values scope placements pages
  | .drafted drafts => drafts.assemble source values scope placements pages
  | .plain => pure ⟨if pages.isEmpty then pages else markLast pages, none⟩

def printedCriteria (p : Provider) (source : Source) (values scope : Fields)
    (placements : List Placement) : Run (List PrintedCriterion) :=
  match p with
  | .declared criteria => Criteria.print source criteria values scope placements
  | .drafted drafts => drafts.print source values scope placements
  | .plain => pure []

end Provider

end Dossier
