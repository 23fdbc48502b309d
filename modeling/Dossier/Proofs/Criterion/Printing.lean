import Dossier.Proofs.Host.Narrow
import Dossier.Criterion.Provider

/-!
# Printing criteria is narrow

The criteria printed in a document come from resolved texts, and for select controls from fetched
choices. The same holds of drafts, which are checked only on the way.
-/

set_option autoImplicit false

namespace Dossier.Run

variable (source : Source) (maxPages : Option Int) (values scope : Fields)

/-! ## Declared criteria -/

theorem resolveChoice_quiet (c : Choice) : Quiet (Criterion.resolveChoice scope c) := by
  have labelled (value : Value) : Quiet (do
      let label ← resolve scope (c.label.getD "")
      pure (⟨value, some label⟩ : Choice)) :=
    bind_quiet (resolve_quiet scope _) fun _ => pure_quiet _
  unfold Criterion.resolveChoice
  cases c.value with
  | text s => exact bind_quiet (map_quiet _ (resolve_quiet scope s)) labelled
  | _ => exact bind_quiet (pure_quiet _) labelled

theorem resolveChoices_quiet (choices : List Choice) :
    Quiet (Criterion.resolveChoices scope choices) := by
  induction choices with
  | nil => exact pure_quiet _
  | cons c rest ih =>
    exact bind_quiet (resolveChoice_quiet scope c) fun _ => bind_quiet ih fun _ => pure_quiet _

theorem fetchChoices_narrow (w : Criterion.Wiring) (c : Criterion) (criteria : Fields) :
    Narrow (Criterion.fetchChoices source maxPages w c criteria) :=
  bind_narrow (quiet_narrow (resolveParams_quiet none _ _)) fun _ =>
    bind_narrow (fetchAll_narrow source _ _ _) fun _ =>
      bind_narrow (lift_narrow _) fun _ => pure_narrow _

theorem choices_narrow (c : Criterion) :
    Narrow (c.choices source maxPages values scope) := by
  have withFixed (fetched : List Choice) : Narrow (do
      let fixed ← Criterion.resolveChoices scope (c.fixedChoices.getD [])
      pure (fixed ++ fetched)) :=
    bind_narrow (quiet_narrow (resolveChoices_quiet scope _)) fun _ => pure_narrow _
  unfold Criterion.choices
  cases c.wiring? with
  | some w => exact bind_narrow (fetchChoices_narrow source maxPages w c values) withFixed
  | none => exact bind_narrow (pure_narrow _) withFixed

theorem printedValue_narrow (c : Criterion) (value : Value) :
    Narrow (Criteria.printedValue source c values scope value) := by
  unfold Criteria.printedValue
  cases c.control with
  | select =>
    refine bind_narrow (choices_narrow source none values scope c) fun choices => ?_
    cases choices.find? fun choice => choice.value.same value <;> exact pure_narrow _
  | text => exact pure_narrow _

theorem printOne_narrow (c : Criterion) :
    Narrow (Criteria.printOne source c values scope) := by
  refine bind_narrow (quiet_narrow (resolve_quiet scope _)) fun label => ?_
  dsimp only
  split
  · exact bind_narrow (quiet_narrow (resolve_quiet scope _)) fun _ => pure_narrow _
  · exact bind_narrow (printedValue_narrow source values scope c _) fun _ => pure_narrow _

theorem print_narrow (criteria : Criteria) (placements : List Placement) :
    Narrow (criteria.print source values scope placements) := by
  induction placements with
  | nil => exact pure_narrow _
  | cons p rest ih =>
    unfold Criteria.print
    cases criteria.lookup p.name with
    | none => exact throw_narrow _
    | some c =>
      exact bind_narrow (printOne_narrow source values scope c) fun _ =>
        bind_narrow ih fun _ => pure_narrow _

/-! ## Drafts -/

theorem resolveValue_quiet (env? : Option Template.Environment) (limit? : Option Int)
    (suppress : Bool) (v : Value) : Quiet (resolveValue env? limit? scope suppress v) := by
  unfold resolveValue
  split
  · exact bind_quiet (templateSetting_quiet env? limit?) fun _ => lift_quiet _
  · exact pure_quiet _

theorem resolvePart_quiet (part : Value) : Quiet (Draft.resolvePart scope part) :=
  resolveValue_quiet scope none none false part

theorem checked_quiet {α : Type} (x : Schema.Checked α) : Quiet (Draft.checked x) := by
  cases x with
  | ok a => exact pure_quiet a
  | bad issues => exact throw_quiet _

theorem draftParams_quiet (d : Draft) : Quiet (d.params values) := by
  unfold Draft.params
  split
  · exact pure_quiet _
  · exact resolveParams_quiet none _ _
  · exact throw_quiet _

theorem draftFetchChoices_narrow (d : Draft) :
    Narrow (d.fetchChoices source maxPages values) := by
  unfold Draft.fetchChoices
  split
  · refine bind_narrow (quiet_narrow (draftParams_quiet values d)) fun params => ?_
    split
    · exact bind_narrow (fetchAll_narrow source _ _ _) fun _ =>
        bind_narrow (lift_narrow _) fun _ => pure_narrow _
    all_goals exact throw_narrow _
  · exact pure_narrow _

theorem draftFixed_quiet (d : Draft) : Quiet (d.fixed scope) := by
  unfold Draft.fixed
  split
  · exact resolveChoices_quiet scope _
  · split
    · exact pure_quiet _
    · split <;> exact throw_quiet _

theorem draftChoices_narrow (d : Draft) :
    Narrow (d.choices source maxPages values scope) :=
  bind_narrow (draftFetchChoices_narrow source maxPages values d) fun _ =>
    bind_narrow (quiet_narrow (draftFixed_quiet scope d)) fun _ => pure_narrow _

theorem draftPrintedValue_narrow (d : Draft) (value : Value) :
    Narrow (d.printedValue source values scope value) := by
  refine bind_narrow (lift_narrow _) fun control => ?_
  split
  · refine bind_narrow (draftChoices_narrow source none values scope d) fun choices => ?_
    cases choices.find? fun choice => choice.value.same value <;> exact pure_narrow _
  · exact pure_narrow _
  · exact throw_narrow _

theorem draftPrintOne_narrow (d : Draft) : Narrow (d.printOne source values scope) := by
  refine bind_narrow (quiet_narrow (resolvePart_quiet scope _)) fun label => ?_
  refine bind_narrow (lift_narrow _) fun property => ?_
  refine bind_narrow (lift_narrow _) fun value => ?_
  split
  · refine bind_narrow ?_ fun _ => quiet_narrow (checked_quiet _)
    unfold Draft.resolveFilled
    split
    · exact quiet_narrow (resolvePart_quiet scope _)
    · exact pure_narrow _
  · exact bind_narrow (draftPrintedValue_narrow source values scope d _) fun _ =>
      quiet_narrow (checked_quiet _)

theorem draftsPrint_narrow (drafts : Drafts) (placements : List Placement) :
    Narrow (drafts.print source values scope placements) := by
  induction placements with
  | nil => exact pure_narrow _
  | cons p rest ih =>
    unfold Drafts.print
    cases drafts.lookup p.name with
    | none => exact throw_narrow _
    | some d =>
      exact bind_narrow (draftPrintOne_narrow source values scope d) fun _ =>
        bind_narrow ih fun _ => pure_narrow _

/-- What a provider prints depends on settings, environment and calls only. -/
theorem printedCriteria_narrow (p : Provider) (placements : List Placement) :
    Narrow (p.printedCriteria source values scope placements) := by
  cases p with
  | declared criteria => exact print_narrow source values scope criteria placements
  | drafted drafts => exact draftsPrint_narrow source values scope drafts placements
  | plain => exact pure_narrow _

end Dossier.Run
