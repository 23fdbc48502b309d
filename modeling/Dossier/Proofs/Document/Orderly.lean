import Dossier.Proofs.Criterion.Supplying
import Dossier.Proofs.Document.Building

/-!
# Builds are orderly

A build composes a blueprint, fetches lookups and data, formats rows and writes a document. The span
around it belongs to another tracer than the spans of its fetches.
-/

set_option autoImplicit false

namespace Dossier

open Run Calendar

/-! ## Failures of rows and blueprints -/

theorem ofEntries_unrelated (entries : Fields) : Unrelated (Blueprint.ofEntries entries) := by
  unfold Blueprint.ofEntries
  split
  · exact unrelated_ok _
  · exact unrelated_error id

theorem overlay_unrelated (entries patch : Fields) :
    Unrelated (Blueprint.overlay entries patch) := by
  unfold Blueprint.overlay
  dsimp only
  split
  · split
    · split
      · exact unrelated_ok _
      · split
        · exact unrelated_error id
        · exact unrelated_ok _
    · exact unrelated_error id
  · exact unrelated_ok _

namespace Row

theorem pair?_unrelated (v : Value) : Unrelated (pair? v) := by
  unfold pair?
  split
  case h_7 =>
    split
    · exact unrelated_ok _
    · exact unrelated_error id
  all_goals first | exact unrelated_ok _ | exact unrelated_error id

theorem addPairs_unrelated (items : List Value) (r : Row) : Unrelated (addPairs r items) := by
  induction items generalizing r with
  | nil => exact unrelated_ok _
  | cons v rest ih =>
    rw [addPairs]
    split
    · next he => exact unrelated_error (pair?_unrelated v _ he)
    · exact ih _

theorem ofValue_unrelated (v : Value) : Unrelated (ofValue v) := by
  unfold ofValue
  split
  · exact unrelated_ok _
  · exact addPairs_unrelated _ _
  · split
    · exact unrelated_ok _
    · exact unrelated_error id
  · exact unrelated_error id

theorem ofValues_unrelated (items : List Value) : Unrelated (ofValues items) := by
  induction items with
  | nil => exact unrelated_ok _
  | cons v rest ih =>
    rw [ofValues]
    split
    · next he => exact unrelated_error (ofValue_unrelated v _ he)
    · exact unrelated_map _ ih

theorem ofData_unrelated (data : Value) : Unrelated (ofData data) := by
  unfold ofData
  split
  · exact unrelated_ok _
  · exact ofValues_unrelated _
  · exact unrelated_map _ (ofValue_unrelated _)

end Row

namespace Format

theorem zone_unrelated (zones : Zones) (name : String) : Unrelated (zone zones name) := by
  unfold zone
  split
  · exact unrelated_ok _
  · exact unrelated_ok _
  · exact unrelated_ok _
  · exact unrelated_error id
  · exact unrelated_error id

theorem showInstant_unrelated (zone : Zone) (instant : Int) :
    Unrelated (showInstant zone instant) := by
  unfold showInstant
  split
  · exact unrelated_error id
  · dsimp only
    split
    · exact unrelated_error id
    · exact unrelated_ok _

theorem plain_unrelated (v : Value) : Unrelated (plain v) := by
  unfold plain
  split
  · split
    · exact unrelated_ok _
    · exact unrelated_error id
  · exact unrelated_ok _
  · exact unrelated_ok _
  · exact unrelated_error id

theorem toBinary_unrelated (v : Value) : Unrelated (toBinary v) := by
  unfold toBinary
  split
  · split
    · exact unrelated_ok _
    · exact unrelated_error id
  · exact unrelated_ok _
  · exact unrelated_ok _
  · exact unrelated_error id

theorem withPlaces_unrelated (v : Value) : Unrelated (withPlaces v) := by
  unfold withPlaces
  split
  · exact unrelated_ok _
  · exact unrelated_ok _
  · exact unrelated_ok _
  · exact unrelated_error id
  · exact unrelated_map _ (toBinary_unrelated _)

theorem number_unrelated (v : Value) (column : Column) : Unrelated (number v column) := by
  unfold number percent
  split
  · split
    · exact unrelated_map _ (withPlaces_unrelated v)
    · exact unrelated_ok _
  · exact plain_unrelated v

theorem addNumbers_unrelated (columns : List Column) (row : Fields) :
    Unrelated (addNumbers columns row) := by
  induction columns generalizing row with
  | nil => exact unrelated_ok _
  | cons c rest ih =>
    have hfirst : Unrelated (addNumber row c) := by
      unfold addNumber
      dsimp only
      split
      · exact unrelated_ok _
      · split
        · exact unrelated_map _ (number_unrelated _ c)
        · exact unrelated_map _ (number_unrelated _ c)
        · exact unrelated_ok _
    rw [addNumbers]
    split
    · next he => exact unrelated_error (hfirst _ he)
    · exact ih _

end Format

section Orderly

variable {source : Source} {inv : Host → Prop} {fails : Failure → Prop}
  (hallows : Allows source inv fails)
include hallows

namespace Run

/-! ## Composing -/

theorem operand_tidy (scope : Fields) (orMissing : Bool) (template : String) :
    Tidy source inv fails (Condition.operand scope orMissing template) := by
  refine bind_tidy (templateSetting_tidy hallows none none) fun setting => ?_
  dsimp only
  split
  · exact pure_tidy _
  · split
    · exact pure_tidy _
    · exact throw_tidy hallows (Template.toFailure_unrelated _ _)
  · exact throw_tidy hallows (Template.toFailure_unrelated _ _)

theorem holds_tidy (c : Condition) (scope : Fields) : Tidy source inv fails (c.holds scope) := by
  refine bind_tidy (operand_tidy hallows scope false _) fun chosen => ?_
  cases chosen with
  | none => exact pure_tidy _
  | some chosen =>
    dsimp only
    split
    all_goals
      refine bind_tidy (operand_tidy hallows scope _ _) fun value => ?_
      cases value <;> exact pure_tidy _

theorem applyOverrides_tidy (scope : Fields) (overrides : List Override) (entries : Fields) :
    Tidy source inv fails (Definition.applyOverrides scope overrides entries) := by
  induction overrides generalizing entries with
  | nil => exact pure_tidy _
  | cons o rest ih =>
    refine bind_tidy (holds_tidy hallows o.condition scope) fun holds => ?_
    cases holds with
    | false => exact ih entries
    | true => exact bind_tidy (lift_tidy hallows (overlay_unrelated _ _)) fun _ => ih _

theorem compose_tidy (d : Definition) (scope : Fields) : Tidy source inv fails (d.compose scope) :=
  bind_tidy (applyOverrides_tidy hallows scope d.overrides _) fun _ =>
    lift_tidy hallows (ofEntries_unrelated _)

/-! ## Lookups -/

theorem lookup_tidy (l : Lookup) (scope : Fields) :
    Tidy source inv fails (l.fetch source scope) := by
  refine bind_tidy (resolveParams_tidy hallows none scope _) fun params => ?_
  refine bind_tidy (fetch_tidy hallows _) fun batch => ?_
  split
  · exact throw_tidy hallows id
  · split
    · exact pure_tidy _
    · exact throw_tidy hallows id

theorem lookups_orderly (lookups : List Lookup) (scope : Fields) :
    Orderly source inv fails (fun looked => ∀ e ∈ looked.failure, fails e)
      (Lookup.fetchAll source lookups scope) := by
  induction lookups generalizing scope with
  | nil => exact pure_orderly (by simp)
  | cons l rest ih =>
    refine bind_orderly (observe_orderly (lookup_tidy hallows l scope)) fun result hresult => ?_
    cases result with
    | error e => exact pure_orderly (by simpa using hresult)
    | ok data => exact ih _

theorem runLookups_tidy (b : Blueprint) (scope : Fields) :
    Tidy source inv fails (b.runLookups source scope) := by
  refine bind_orderly (lookups_orderly hallows b.lookups scope) fun looked hlooked => ?_
  split
  · next he => exact throw_orderly (hlooked _ he)
  · exact pure_tidy _

/-! ## Rows and texts of a document -/

theorem date_tidy (zones : Zones) (v : Value) (viewer : Viewer) :
    Tidy source inv fails (Format.date zones v viewer) := by
  unfold Format.date
  split
  · split
    · exact pure_tidy _
    · refine bind_tidy ?_ fun name => ?_
      · unfold Format.zoneName
        split
        · exact pure_tidy _
        · exact map_tidy _ (settings_tidy hallows)
      · exact bind_tidy (lift_tidy hallows (Format.zone_unrelated zones name)) fun zone =>
          map_tidy _ (lift_tidy hallows (Format.showInstant_unrelated zone _))
  · exact pure_tidy _

theorem addDates_tidy (zones : Zones) (viewer : Viewer) (columns : List Column) (row : Fields) :
    Tidy source inv fails (Format.addDates zones viewer columns row) := by
  induction columns generalizing row with
  | nil => exact pure_tidy _
  | cons c rest ih =>
    refine bind_tidy ?_ ih
    unfold Format.addDate
    dsimp only
    split
    · exact pure_tidy _
    · refine bind_tidy (date_tidy hallows zones _ viewer) fun shown => ?_
      cases shown <;> exact pure_tidy _

theorem rows_tidy (zones : Zones) (dates numbers : List Column) (viewer : Viewer)
    (rs : List Fields) : Tidy source inv fails (Format.rows zones dates numbers viewer rs) := by
  induction rs with
  | nil => exact pure_tidy _
  | cons r rest ih =>
    refine bind_tidy ?_ fun _ => bind_tidy ih fun _ => pure_tidy _
    exact bind_tidy (addDates_tidy hallows zones viewer dates r) fun _ =>
      lift_tidy hallows (Format.addNumbers_unrelated numbers _)

theorem columns_tidy (scope : Fields) (columns : List Column) :
    Tidy source inv fails (LayoutColumn.resolveAll scope columns) := by
  induction columns with
  | nil => exact pure_tidy _
  | cons c rest ih =>
    refine bind_tidy ?_ fun _ => bind_tidy ih fun _ => pure_tidy _
    exact bind_tidy (resolve_tidy hallows scope c.label) fun _ => pure_tidy _

theorem resolveFilled_tidy (scope : Fields) (s : Option String) :
    Tidy source inv fails (resolveFilled scope s) := by
  unfold resolveFilled
  split
  · exact map_tidy _ (resolve_tidy hallows scope _)
  · exact pure_tidy _

end Run

namespace Builder

variable {builder : Builder} (hsource : builder.source = source) (d : Definition) (o : Order)

theorem contents_tidy (zones : Zones) (b : Blueprint) (batch : Batch) (rows : List Fields)
    (columns : List LayoutColumn) (zoom : Number.Binary) (criteria : List PrintedCriterion)
    (scope : Fields) :
    Tidy source inv fails (builder.contents zones b o batch rows columns zoom criteria scope) := by
  have dated (f : Option String → Contents) : Tidy source inv fails (do
      let collectedOn ← Format.date zones (.moment o.start) o.viewer
      pure (f collectedOn)) :=
    bind_tidy (date_tidy hallows zones _ o.viewer) fun _ => pure_tidy _
  refine bind_tidy (resolve_tidy hallows scope _) fun title => ?_
  refine bind_tidy (resolve_tidy hallows scope _) fun subtitle => ?_
  refine bind_tidy (resolveFilled_tidy hallows scope _) fun webPageUrl => ?_
  dsimp only
  split
  · exact bind_tidy (resolveFilled_tidy hallows scope _) fun _ => dated _
  · exact bind_tidy (pure_tidy _) fun _ => dated _

variable (hcovers : ∀ p ∈ builder.provider, p.Covers fails d.criteria)
include hsource hcovers

theorem document_tidy (f : Fetched) :
    Tidy source inv fails (builder.document d f.blueprint o f.batch f.scope) := by
  rw [document_eq]
  refine bind_tidy zones_tidy fun zones => ?_
  refine bind_tidy (lift_tidy hallows (Row.ofData_unrelated _)) fun fetched => ?_
  refine bind_tidy ?_ fun rows => bind_tidy (columns_tidy hallows _ _) fun columns => ?_
  · unfold formatRows
    dsimp only
    split
    · exact pure_tidy _
    · exact rows_tidy hallows zones _ _ o.viewer _
  · refine bind_tidy ?_ fun criteria =>
      bind_tidy (contents_tidy hallows o zones _ _ _ _ _ _ _) fun _ => ?_
    · unfold Builder.printed
      split
      · next hprovider =>
        rw [hsource]
        exact Provider.printedCriteria_tidy hallows (hcovers _ hprovider) _ _
      · exact pure_tidy _
    · split
      · exact pure_tidy _
      · exact throw_tidy hallows id

theorem buildInside_tidy : Tidy source inv fails (builder.buildInside d o) := by
  rw [buildInside_eq]
  refine bind_tidy ?_ fun f => ?_
  · unfold fetched
    rw [hsource]
    refine bind_tidy (compose_tidy hallows d _) fun b => ?_
    refine bind_tidy (runLookups_tidy hallows b _) fun scope => ?_
    refine bind_tidy ?_ fun params => bind_tidy (fetch_tidy hallows _) fun _ => pure_tidy _
    exact bind_tidy (resolveParams_tidy hallows none scope _) fun _ => pure_tidy _
  · unfold deliver
    split
    · exact bind_tidy (document_tidy hallows hsource d o hcovers f) fun _ =>
        bind_tidy (onBuildTracer_tidy hallows _) fun _ => pure_tidy _
    · exact bind_tidy (onBuildTracer_tidy hallows _) fun _ => pure_tidy _

/-- However a build ends, it was orderly. -/
theorem build_tidy : Tidy source inv fails (builder.build d o) := by
  refine bind_tidy (onBuildTracer_tidy hallows _) fun _ => ?_
  refine bind_orderly (observe_orderly (buildInside_tidy hallows hsource d o hcovers))
    fun result hresult => ?_
  cases result with
  | ok a => exact bind_tidy (onBuildTracer_tidy hallows _) fun _ => pure_tidy a
  | error e => exact bind_tidy (onBuildTracer_tidy hallows _) fun _ => throw_orderly hresult

end Builder

end Orderly

end Dossier
