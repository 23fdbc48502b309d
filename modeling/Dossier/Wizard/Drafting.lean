import Dossier.Criterion.Draft
import Dossier.Wizard.Assembly

/-!
# Assembling wizard pages from drafts

Drafts are put on pages as checked criteria are, with the same rules for disabled inputs and valid
pages. A draft is checked when its input is built, so that a page may have been added for it when
it is refused.
-/

set_option autoImplicit false

namespace Dossier

open Run Wizard Schema

namespace Draft

def input (source : Source) (maxPages : Option Int) (d : Draft) (values scope : Fields)
    (isDisabled : Bool) : Run Input := do
  let choices ← if isDisabled then pure [] else do
    match ← lift (needed d.control) with
    | .text "select" => d.choices source maxPages values scope
    | _ => pure []
  let property ← lift (needed d.property)
  let control ← lift (needed d.control)
  let label ← resolvePart scope d.label
  let value ← lift (lookUp values property)
  let placeholder ← resolveFilled scope d.placeholder .null
  checked (Input.mk <$> (text property).under (.key "name")
    <*> (among Control.options control).under (.key "type")
    <*> (text label).under (.key "label")
    <*> .ok choices
    <*> .ok value
    <*> (optional text placeholder).under (.key "placeholder")
    <*> (optional flag d.isRequired).under (.key "is_required")
    <*> .ok isDisabled)

def hasValue (d : Draft) (values : Fields) : Except Failure Bool := do
  let property ← needed d.property
  let value ← lookUp values property
  pure !value.isNull

end Draft

namespace Drafts

def find (drafts : Drafts) (name : String) : Except Failure Draft :=
  match drafts.lookup name with
  | none => .error (.unknownCriterion name)
  | some d =>
    match d.control with
    | none => .error (.fault .missingPart)
    | some (.list _) => .error (.fault .notAKey)
    | some (.object _) => .error (.fault .notAKey)
    | some control =>
      if (among Control.options control).isOk then .ok d
      else .error (.unsupportedControl control)

/-- Put drafts on pages one after the other. `locked` says whether the next input is disabled
whatever the value of the one before it, which is that of `last`. -/
def place (source : Source) (drafts : Drafts) (values scope : Fields) :
    List Placement → Bool → Option Draft → List Page → Run Assembled
  | [], _, _, pages => pure ⟨pages, none⟩
  | p :: rest, locked, last, pages =>
    let known : Except Failure (Draft × Bool) := do
      let d ← find drafts p.name
      match locked, last with
      | false, some last => pure (d, !(← last.hasValue values))
      | locked, _ => pure (d, locked)
    match known with
    | .error e => pure ⟨pages, some e⟩
    | .ok (d, isDisabled) => do
      let pages := grow pages p.page
      match ← observe (d.input source none values scope isDisabled) with
      | .error e => pure ⟨pages, some e⟩
      | .ok input =>
        let isValid := !isDisabled && (!d.isRequired.isTruthy || !input.value.isNull)
        place source drafts values scope rest isDisabled (some d)
          (addInput pages p.page input isValid)

def assemble (source : Source) (drafts : Drafts) (values scope : Fields)
    (placements : List Placement) (pages : List Page) : Run Assembled :=
  if placements.isEmpty then pure ⟨markLast pages, none⟩
  else place source drafts values scope placements false none pages

end Drafts

end Dossier
