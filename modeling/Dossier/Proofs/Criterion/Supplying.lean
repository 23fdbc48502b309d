import Dossier.Proofs.Source.Orderly
import Dossier.Proofs.Wizard.Step
import Dossier.Criterion.Provider

/-!
# What a provider supplies

A provider puts inputs on pages and prints criteria, and on the way it resolves texts and fetches
choices. All of that is orderly, and how it fails has nothing to do with a configuration, except for
a placement of which the provider knows no criterion.
-/

set_option autoImplicit false

namespace Dossier

open Run Wizard

/-! ## Choices from rows -/

section Rows

variable {project : Value → Except Failure Choice}

theorem projectAll_unrelated (hproject : ∀ row, Unrelated (project row)) (rows : List Value) :
    Unrelated (Criterion.projectAll project rows) := by
  induction rows with
  | nil => exact unrelated_ok _
  | cons row rest ih =>
    rw [Criterion.projectAll]
    split
    · next he => exact unrelated_error (hproject row _ he)
    · exact unrelated_map _ ih

theorem projectPages_unrelated (dataSet : String) (hproject : ∀ row, Unrelated (project row))
    (batches : List Batch) : Unrelated (Criterion.projectPages dataSet project batches) := by
  induction batches with
  | nil => exact unrelated_ok _
  | cons batch rest ih =>
    rw [Criterion.projectPages]
    split
    · exact unrelated_error id
    · split
      · split
        · next he => exact unrelated_error (projectAll_unrelated hproject _ _ he)
        · exact unrelated_map _ ih
      · exact unrelated_error id

theorem projected_unrelated (value label : Value) :
    Unrelated (Criterion.projected value label) := by
  unfold Criterion.projected
  dsimp only
  split
  · exact unrelated_ok _
  · exact unrelated_error id

theorem project_unrelated (w : Criterion.Wiring) (row : Value) :
    Unrelated (Criterion.project w row) := by
  unfold Criterion.project
  split
  · exact projected_unrelated _ _
  · exact unrelated_error id

end Rows

namespace Run

variable {source : Source} {inv : Host → Prop} {fails : Failure → Prop}

/-! ## Declared criteria -/

section Declared

variable (hallows : Allows source inv fails) (maxPages : Option Int) (values scope : Fields)
include hallows

theorem resolveChoice_tidy (c : Choice) :
    Tidy source inv fails (Criterion.resolveChoice scope c) := by
  have labelled (value : Value) : Tidy source inv fails (do
      let label ← resolve scope (c.label.getD "")
      pure (⟨value, some label⟩ : Choice)) :=
    bind_tidy (resolve_tidy hallows scope _) fun _ => pure_tidy _
  unfold Criterion.resolveChoice
  cases c.value with
  | text s => exact bind_tidy (map_tidy _ (resolve_tidy hallows scope s)) labelled
  | _ => exact bind_tidy (pure_tidy _) labelled

theorem resolveChoices_tidy (choices : List Choice) :
    Tidy source inv fails (Criterion.resolveChoices scope choices) := by
  induction choices with
  | nil => exact pure_tidy _
  | cons c rest ih =>
    exact bind_tidy (resolveChoice_tidy hallows scope c) fun _ => bind_tidy ih fun _ => pure_tidy _

theorem fetchChoices_tidy (w : Criterion.Wiring) (c : Criterion) :
    Tidy source inv fails (Criterion.fetchChoices source maxPages w c values) :=
  bind_tidy (resolveParams_tidy hallows none _ _) fun _ =>
    bind_tidy (fetchAll_tidy hallows _ _ _) fun batches =>
      bind_tidy (lift_tidy hallows (projectPages_unrelated _ (project_unrelated w) batches))
        fun _ => pure_tidy _

theorem choices_tidy (c : Criterion) :
    Tidy source inv fails (c.choices source maxPages values scope) := by
  have withFixed (fetched : List Choice) : Tidy source inv fails (do
      let fixed ← Criterion.resolveChoices scope (c.fixedChoices.getD [])
      pure (fixed ++ fetched)) :=
    bind_tidy (resolveChoices_tidy hallows scope _) fun _ => pure_tidy _
  unfold Criterion.choices
  cases c.wiring? with
  | some w => exact bind_tidy (fetchChoices_tidy hallows maxPages values w c) withFixed
  | none => exact bind_tidy (pure_tidy _) withFixed

theorem printOne_tidy (c : Criterion) :
    Tidy source inv fails (Criteria.printOne source c values scope) := by
  refine bind_tidy (resolve_tidy hallows scope _) fun label => ?_
  dsimp only
  split
  · exact bind_tidy (resolve_tidy hallows scope _) fun _ => pure_tidy _
  · refine bind_tidy ?_ fun _ => pure_tidy _
    unfold Criteria.printedValue
    cases c.control with
    | select =>
      refine bind_tidy (choices_tidy hallows none values scope c) fun choices => ?_
      split <;> exact pure_tidy _
    | text => exact pure_tidy _

theorem buildInput_tidy (c : Criterion) (isDisabled : Bool) :
    Tidy source inv fails (buildInput source maxPages c values scope isDisabled) := by
  rw [buildInput_eq]
  refine bind_tidy ?_ fun choices => bind_tidy (resolve_tidy hallows scope _) fun label => ?_
  · unfold offered
    split
    · exact choices_tidy hallows maxPages values scope c
    · exact pure_tidy _
  · cases Criterion.filled? c.placeholder with
    | some s => exact bind_tidy (map_tidy _ (resolve_tidy hallows scope s)) fun _ => pure_tidy _
    | none => exact bind_tidy (pure_tidy _) fun _ => pure_tidy _

variable {criteria : Criteria} {placements : List Placement}
  (hplaced : ∀ p ∈ placements, criteria.lookup p.name = none → fails (.unknownCriterion p.name))
include hplaced

theorem print_tidy : Tidy source inv fails (criteria.print source values scope placements) := by
  induction placements with
  | nil => exact pure_tidy _
  | cons p rest ih =>
    obtain ⟨hp, hrest⟩ := List.forall_mem_cons.mp hplaced
    unfold Criteria.print
    cases hlookup : criteria.lookup p.name with
    | none => exact throw_orderly (hp hlookup)
    | some c =>
      exact bind_tidy (printOne_tidy hallows values scope c) fun _ =>
        bind_tidy (ih hrest) fun _ => pure_tidy _

/-- The failure that ends an assembly is that of an input, or of a placement without a criterion. -/
theorem place_orderly (locked : Bool) (last : Option String) (pages : List Page) :
    Orderly source inv fails (fun assembled => ∀ e ∈ assembled.failure, fails e)
      (place source criteria values scope placements locked last pages) := by
  induction placements generalizing locked last pages with
  | nil => exact pure_orderly (by simp)
  | cons p rest ih =>
    obtain ⟨hp, hrest⟩ := List.forall_mem_cons.mp hplaced
    unfold place
    cases hlookup : criteria.lookup p.name with
    | none => exact pure_orderly (by simpa using hp hlookup)
    | some c =>
      refine bind_orderly (observe_orderly (buildInput_tidy hallows none values scope c _))
        fun result hresult => ?_
      cases result with
      | error e => exact pure_orderly (by simpa using hresult)
      | ok input => exact ih hrest _ _ _

theorem assemble_orderly (pages : List Page) :
    Orderly source inv fails (fun assembled => ∀ e ∈ assembled.failure, fails e)
      (assemble source criteria values scope placements pages) := by
  unfold assemble
  split
  · exact pure_orderly (by simp)
  · exact place_orderly hallows values scope hplaced false none pages

end Declared

/-! ## Drafts -/

section Drafts

/-- Where any failure is allowed, what was computed without the host may fail as it likes. -/
theorem liftAny_tidy (hany : ∀ e, fails e) {α : Type} (x : Except Failure α) :
    Tidy source inv fails (lift x) := by
  apply lift_orderly
  · exact fun _ _ => trivial
  · exact fun e _ => hany e

variable (hallows : Allows source inv fails) (hany : ∀ e, fails e) (values scope : Fields)
include hallows

theorem checked_tidy {α : Type} (x : Schema.Checked α) :
    Tidy source inv fails (Draft.checked x) := by
  cases x with
  | ok a => exact pure_tidy a
  | bad issues => exact throw_tidy hallows id

theorem draftFilled_tidy (part empty : Value) :
    Tidy source inv fails (Draft.resolveFilled scope part empty) := by
  unfold Draft.resolveFilled
  split
  · exact resolveValue_tidy hallows none none scope false part
  · exact pure_tidy _

include hany

theorem draftChoices_tidy (maxPages : Option Int) (d : Draft) :
    Tidy source inv fails (d.choices source maxPages values scope) := by
  refine bind_tidy ?_ fun fetched => bind_tidy ?_ fun _ => pure_tidy _
  · unfold Draft.fetchChoices
    split
    · refine bind_tidy ?_ fun params => ?_
      · unfold Draft.params
        split
        · exact pure_tidy _
        · exact resolveParams_tidy hallows none _ _
        · exact throw_orderly (hany _)
      · split
        · exact bind_tidy (fetchAll_tidy hallows _ _ _) fun _ =>
            bind_tidy (liftAny_tidy hany _) fun _ => pure_tidy _
        all_goals exact throw_orderly (hany _)
    · exact pure_tidy _
  · unfold Draft.fixed
    split
    · exact resolveChoices_tidy hallows scope _
    · split
      · exact pure_tidy _
      · split <;> exact throw_orderly (hany _)

theorem draftPrintOne_tidy (d : Draft) :
    Tidy source inv fails (d.printOne source values scope) := by
  refine bind_tidy (resolveValue_tidy hallows none none scope false _) fun label => ?_
  refine bind_tidy (liftAny_tidy hany _) fun property =>
    bind_tidy (liftAny_tidy hany _) fun value => ?_
  split
  · exact bind_tidy (draftFilled_tidy hallows scope _ _) fun _ =>
      checked_tidy hallows _
  · refine bind_tidy ?_ fun _ => checked_tidy hallows _
    refine bind_tidy (liftAny_tidy hany _) fun control => ?_
    split
    · refine bind_tidy (draftChoices_tidy hallows hany values scope none d) fun choices => ?_
      split <;> exact pure_tidy _
    · exact pure_tidy _
    · exact throw_orderly (hany _)

theorem draftInput_tidy (maxPages : Option Int) (d : Draft) (isDisabled : Bool) :
    Tidy source inv fails (d.input source maxPages values scope isDisabled) := by
  -- all but the choices, which a disabled input and one of another control are without
  have dressed (choices : List Choice) : Tidy source inv fails (do
      let property ← lift (Draft.needed d.property)
      let control ← lift (Draft.needed d.control)
      let label ← Draft.resolvePart scope d.label
      let value ← lift (Draft.lookUp values property)
      let placeholder ← Draft.resolveFilled scope d.placeholder .null
      Draft.checked (Input.mk <$> (Schema.text property).under (.key "name")
        <*> (Schema.among Control.options control).under (.key "type")
        <*> (Schema.text label).under (.key "label")
        <*> .ok choices
        <*> .ok value
        <*> (Schema.optional Schema.text placeholder).under (.key "placeholder")
        <*> (Schema.optional Schema.flag d.isRequired).under (.key "is_required")
        <*> .ok isDisabled)) :=
    bind_tidy (liftAny_tidy hany _) fun _ => bind_tidy (liftAny_tidy hany _) fun _ =>
      bind_tidy (resolveValue_tidy hallows none none scope false _) fun _ =>
        bind_tidy (liftAny_tidy hany _) fun _ =>
          bind_tidy (draftFilled_tidy hallows scope _ _) fun _ =>
          checked_tidy hallows _
  unfold Draft.input
  cases isDisabled with
  | true => exact bind_tidy (pure_tidy _) dressed
  | false =>
    refine bind_tidy (liftAny_tidy hany _) fun control => ?_
    split
    · exact bind_tidy (draftChoices_tidy hallows hany values scope maxPages d) dressed
    · exact bind_tidy (pure_tidy _) dressed

variable (drafts : Drafts) (placements : List Placement)

theorem draftsPrint_tidy : Tidy source inv fails (drafts.print source values scope placements) := by
  induction placements with
  | nil => exact pure_tidy _
  | cons p rest ih =>
    unfold Drafts.print
    cases drafts.lookup p.name with
    | none => exact throw_orderly (hany _)
    | some d =>
      exact bind_tidy (draftPrintOne_tidy hallows hany values scope d) fun _ =>
        bind_tidy ih fun _ => pure_tidy _

theorem draftsPlace_tidy (locked : Bool) (last : Option Draft) (pages : List Page) :
    Tidy source inv fails (drafts.place source values scope placements locked last pages) := by
  induction placements generalizing locked last pages with
  | nil => exact pure_tidy _
  | cons p rest ih =>
    unfold Drafts.place
    dsimp only
    split
    · exact pure_tidy _
    · refine bind_tidy (observe_orderly (draftInput_tidy hallows hany values scope none _ _)).tidy
        fun result => ?_
      cases result with
      | error e => exact pure_tidy _
      | ok input => exact ih _ _ _

end Drafts

end Run

/-! ## Providers -/

namespace Provider

/-- A provider that has a criterion for every placement, or may fail for want of one. Drafts may
fail in any way. -/
def Covers (fails : Failure → Prop) (placements : List Placement) : Provider → Prop
  | .declared criteria =>
    ∀ p ∈ placements, criteria.lookup p.name = none → fails (.unknownCriterion p.name)
  | .drafted _ => ∀ e, fails e
  | .plain => True

variable {source : Source} {inv : Host → Prop} {fails : Failure → Prop} {p : Provider}
  {placements : List Placement}
  (hallows : Allows source inv fails) (hcovers : p.Covers fails placements) (values scope : Fields)
include hallows hcovers

theorem printedCriteria_tidy :
    Tidy source inv fails (p.printedCriteria source values scope placements) := by
  cases p with
  | declared criteria => exact print_tidy hallows values scope hcovers
  | drafted drafts => exact draftsPrint_tidy hallows hcovers values scope drafts placements
  | plain => exact pure_tidy _

theorem addInputs_orderly (pages : List Page) :
    Orderly source inv fails (fun assembled => ∀ e ∈ assembled.failure, fails e)
      (p.addInputs source values scope placements pages) := by
  cases p with
  | declared criteria => exact assemble_orderly hallows values scope hcovers pages
  | drafted drafts =>
    have hplace := draftsPlace_tidy hallows hcovers values scope drafts placements false none pages
    unfold Provider.addInputs Drafts.assemble
    dsimp only
    split
    · exact pure_orderly (by simp)
    · exact ⟨hplace.keeps, fun _ _ _ _ e _ => hcovers e, hplace.failed, hplace.traced⟩
  | plain => exact pure_orderly (by simp)

theorem categoryInput_tidy : Tidy source inv fails (p.categoryInput source values scope) := by
  cases p with
  | declared criteria =>
    unfold Provider.categoryInput
    dsimp only
    split
    · exact map_tidy _ (buildInput_tidy hallows none values scope _ false)
    · exact pure_tidy _
  | drafted drafts =>
    unfold Provider.categoryInput
    dsimp only
    split
    · exact map_tidy _ (draftInput_tidy hallows hcovers values scope none _ false)
    · exact pure_tidy _
  | plain => exact pure_tidy _

end Provider

end Dossier
