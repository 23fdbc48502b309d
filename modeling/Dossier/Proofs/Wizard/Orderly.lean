import Dossier.Proofs.Catalog.Definition
import Dossier.Proofs.Document.Orderly
import Dossier.Wizard.Engine

/-!
# Requests are orderly

Whatever an engine is asked for, it serves by definitions from its catalog, by its provider and by
its handlers. When these are orderly the whole request is.
-/

set_option autoImplicit false

namespace Dossier

open Run Wizard

structure Handler.Regular (source : Source) (inv : Host → Prop) (fails : Failure → Prop)
    (handler : Handler) : Prop where
  form : ∀ criteria pages, Tidy source inv fails (handler.form criteria pages)
  schema : ∀ criteria, Tidy source inv fails (handler.schema criteria)
  deliver : ∀ o, Tidy source inv fails (handler.deliver o)

structure Engine.Regular (source : Source) (inv : Host → Prop) (fails : Failure → Prop)
    (e : Engine) : Prop where
  asks : e.source = source
  category : e.provider.Covers fails []
  definition : ∀ key, Orderly source inv fails (fun d => e.provider.Covers fails d.criteria)
    (e.catalog.definition key)
  handler : ∀ key handler, e.catalog.entries.lookup key = some (.handler handler) →
    handler.Regular source inv fails

theorem Catalog.definition_traced (source : Source) (catalog : Catalog) (key : String) (h : Host) :
    h.Traced source (catalog.definition key h).2 := by
  obtain ⟨definitions, hdefinitions, -⟩ := catalog.definition_host key h
  rw [hdefinitions]
  exact .aside rfl rfl

section Orderly

variable {source : Source} {inv : Host → Prop} {fails : Failure → Prop}
  (hallows : Allows source inv fails)
include hallows

namespace Catalog

theorem labelAll_tidy (messages : Fields) (entries : List (String × Entry)) :
    Tidy source inv fails (labelAll messages entries) := by
  induction entries with
  | nil => exact pure_tidy _
  | cons entry rest ih =>
    refine bind_tidy ?_ fun _ => bind_tidy ih fun _ => pure_tidy _
    cases entry.2 with
    | declared l => exact resolve_tidy hallows _ _
    | handler handler => exact pure_tidy _

theorem options_tidy (catalog : Catalog) (criteria : Option Fields) (category : Value) :
    Tidy source inv fails (catalog.options criteria category) :=
  bind_tidy (labelAll_tidy hallows _ _) fun _ => pure_tidy _

end Catalog

namespace Engine

def Serves (source : Source) (inv : Host → Prop) (fails : Failure → Prop) (e : Engine) :
    Catalog.Service → Prop
  | .declared _ builder => builder.source = source ∧ builder.provider = some e.provider
  | .handler handler => handler.Regular source inv fails

theorem suggest_tidy (d : Definition) (scope criteria : Fields) (pages : List Page) :
    Tidy source inv fails (suggest source d scope criteria pages) := by
  unfold suggest
  split
  · exact bind_tidy (compose_tidy hallows d scope) fun b =>
      bind_tidy (runLookups_tidy hallows b scope) fun scope =>
        bind_tidy (resolve_tidy hallows _ _) fun _ => pure_tidy _
  · exact pure_tidy _

theorem declaredForm_tidy {builder : Builder} {provider : Provider} {d : Definition}
    (hsource : builder.source = source) (hcovers : provider.Covers fails d.criteria)
    (criteria : Fields) (pages : List Page) :
    Tidy source inv fails (declaredForm builder provider d criteria pages) := by
  unfold declaredForm
  rw [hsource]
  refine bind_orderly (Provider.addInputs_orderly hallows hcovers _ _ pages)
    fun assembled hassembled => ?_
  split
  · next he => exact throw_orderly (hassembled _ he)
  · exact bind_tidy (suggest_tidy hallows d _ criteria _) fun _ =>
      bind_tidy (resolve_tidy hallows _ _) fun _ => pure_tidy _

theorem schemaColumns_tidy (scope : Fields) (columns : List Column) :
    Tidy source inv fails (schemaColumns scope columns) := by
  induction columns with
  | nil => exact pure_tidy _
  | cons c rest ih =>
    exact bind_tidy (resolve_tidy hallows scope c.label) fun _ => bind_tidy ih fun _ => pure_tidy _

theorem declaredSchema_tidy (d : Definition) (messages criteria : Fields) :
    Tidy source inv fails (declaredSchema d messages criteria) :=
  bind_tidy (compose_tidy hallows d _) fun b =>
    bind_tidy (schemaColumns_tidy hallows _ b.columns) fun _ => pure_tidy _

omit hallows in
theorem checkCategory_unrelated (input : Input) : Unrelated (checkCategory input) := by
  unfold checkCategory
  split
  · exact unrelated_ok _
  · exact unrelated_error id

theorem requireProofType_tidy (criteria : Fields) :
    Tidy source inv fails (requireProofType criteria) := by
  unfold requireProofType
  dsimp only
  split
  · exact pure_tidy _
  · exact throw_tidy hallows id

variable {e : Engine} (he : e.Regular source inv fails)
include he

theorem categoryInput_tidy (criteria : Fields) :
    Tidy source inv fails (e.categoryInput criteria) := by
  unfold Engine.categoryInput
  rw [he.asks]
  refine bind_tidy (Provider.categoryInput_tidy hallows he.category _ _) fun category => ?_
  cases category with
  | none => exact pure_tidy _
  | some input =>
    refine bind_tidy (lift_tidy hallows (checkCategory_unrelated input)) fun _ => ?_
    split <;> exact pure_tidy _

theorem service_orderly (proofType : Value) :
    Orderly source inv fails (e.Serves source inv fails) (e.service proofType) := by
  unfold Engine.service Catalog.service
  split
  · split
    · have built : Orderly source inv fails (fun builder : Builder =>
          builder.source = source ∧ builder.provider = some e.provider)
          (Builder.new e.source (some e.provider) e.catalog.messages (some e.catalog.connector)
            none) :=
        bind_orderly (settings_tidy hallows) fun _ _ => pure_orderly ⟨he.asks, rfl⟩
      exact bind_orderly built fun builder hbuilder => pure_orderly hbuilder
    · next hlookup => exact pure_orderly (he.handler _ _ hlookup)
    · exact throw_orderly (hallows.unrelated _ id)
  all_goals exact throw_orderly (hallows.unrelated _ id)

theorem serviceForm_tidy {service : Catalog.Service} (hservice : e.Serves source inv fails service)
    (criteria : Fields) (pages : List Page) :
    Tidy source inv fails (e.serviceForm service criteria pages) := by
  cases service with
  | handler handler => exact hservice.form criteria pages
  | declared key builder =>
    exact bind_orderly (he.definition key) fun d hd =>
      declaredForm_tidy hallows hservice.1 hd criteria pages

theorem form_tidy (criteria : Fields) (pages : List Page) :
    Tidy source inv fails (e.form criteria pages) := by
  refine bind_tidy (categoryInput_tidy hallows he criteria) fun category => ?_
  refine bind_tidy (Catalog.options_tidy hallows _ _ _) fun choices => ?_
  -- with or without a type that is no longer offered
  dsimp only
  split
  all_goals
    split
    · exact bind_orderly (service_orderly hallows he _) fun service hservice =>
        serviceForm_tidy hallows he hservice _ _
    · exact pure_tidy _

theorem schema_tidy (criteria : Fields) : Tidy source inv fails (e.schema criteria) := by
  refine bind_tidy (requireProofType_tidy hallows criteria) fun proofType => ?_
  refine bind_orderly (service_orderly hallows he proofType) fun service hservice => ?_
  cases service with
  | handler handler => exact hservice.schema criteria
  | declared key builder =>
    exact bind_tidy (he.definition key).tidy fun d => declaredSchema_tidy hallows d _ criteria

theorem syncPlan_tidy (criteria : Fields) : Tidy source inv fails (e.syncPlan criteria) :=
  bind_tidy (requireProofType_tidy hallows criteria) fun proofType =>
    bind_tidy (service_orderly hallows he proofType).tidy fun _ => pure_tidy _

theorem serviceDelivery_tidy {service : Catalog.Service}
    (hservice : e.Serves source inv fails service) (o : Order) :
    Tidy source inv fails (match service with
      | .handler h => h.deliver o
      | .declared key builder => do
        let d ← e.catalog.definition key
        builder.build d o) := by
  cases service with
  | handler handler => exact hservice.deliver o
  | declared key builder =>
    obtain ⟨hsource, hprovider⟩ := hservice
    refine bind_orderly (he.definition key) fun d hd => Builder.build_tidy hallows hsource d o ?_
    rw [hprovider]
    rintro p ⟨⟩
    exact hd

theorem deliver_tidy (o : Order) (expected : Option String) :
    Tidy source inv fails (e.deliver o expected) := by
  refine bind_tidy (requireProofType_tidy hallows _) fun proofType => ?_
  have served := bind_orderly (service_orderly hallows he proofType) fun service hservice =>
    serviceDelivery_tidy hallows he hservice o
  -- the check of the expected type comes before the service is asked for
  cases expected with
  | none => exact served
  | some key =>
    dsimp only
    split
    · exact served
    · exact throw_tidy hallows id

end Engine

end Orderly

end Dossier
