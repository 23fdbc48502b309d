import Dossier.Wizard.Page
import Dossier.Criterion.Choices

/-!
# Assembling wizard pages

Criteria are put on pages in the order of their placements. An input is disabled until the input
before it has a value, and once one is disabled all later ones are. A page is valid when the last
input put on it is enabled and has a value or needs none.
-/

set_option autoImplicit false

namespace Dossier.Wizard

open Run

/-- Build the input of a criterion. A disabled input and one that is not a select control have no
choices. -/
def buildInput (source : Source) (maxPages : Option Int) (c : Criterion)
    (values scope : Fields) (isDisabled : Bool) : Run Input := do
  let choices ← match isDisabled, c.control with
    | false, .select => c.choices source maxPages values scope
    | _, _ => pure []
  let label ← resolve scope c.label
  let placeholder ← match Criterion.filled? c.placeholder with
    | some s => some <$> resolve scope s
    | none => pure none
  pure ⟨c.property, c.control, label, choices, values.get c.property, placeholder, c.isRequired,
    isDisabled⟩

def grow (pages : List Page) (index : Nat) : List Page :=
  pages ++ List.replicate (index + 1 - pages.length) Page.empty

def isSatisfied (c : Criterion) (values : Fields) : Bool :=
  c.isRequired != some true || !(values.get c.property).isNull

def addInput (pages : List Page) (index : Nat) (input : Input) (isValid : Bool) : List Page :=
  pages.modify index fun page => ⟨page.inputs ++ [input], isValid⟩

structure Assembled where
  pages : List Page
  failure : Option Failure

/-- Put criteria on pages one after the other. `locked` says whether the next input is disabled
whatever the value of the one before it; `last` is the property of the one before it. -/
def place (source : Source) (criteria : Criteria) (values scope : Fields) :
    List Placement → Bool → Option String → List Page → Run Assembled
  | [], _, _, pages => pure ⟨pages, none⟩
  | p :: rest, locked, last, pages =>
    match criteria.lookup p.name with
    | none => pure ⟨pages, some (.unknownCriterion p.name)⟩
    | some c => do
      let isDisabled := locked || last.any fun property => (values.get property).isNull
      let pages := grow pages p.page
      match ← observe (buildInput source none c values scope isDisabled) with
      | .error e => pure ⟨pages, some e⟩
      | .ok input =>
        place source criteria values scope rest isDisabled (some c.property)
          (addInput pages p.page input (!isDisabled && isSatisfied c values))

/-- The last page marked as valid; there is at least one page. -/
def markLast (pages : List Page) : List Page :=
  let pages := if pages.isEmpty then [Page.empty] else pages
  pages.modify (pages.length - 1) fun page => { page with isValid := true }

/-- Put all placements on the pages. A type of document without criteria is ready at once. -/
def assemble (source : Source) (criteria : Criteria) (values scope : Fields)
    (placements : List Placement) (pages : List Page) : Run Assembled :=
  if placements.isEmpty then pure ⟨markLast pages, none⟩
  else place source criteria values scope placements false none pages

end Dossier.Wizard
