import Dossier.Proofs.Schema.Codec
import Dossier.Document.Basic
import Dossier.Document.Schema
import Dossier.Blueprint.Definition
import Dossier.Wizard.Page

/-!
# The records on the wire

Every record that travels between a host and a connector, entry by entry, and what follows for all
of them: a record that was read from JSON is read again from what it is written as.
-/

set_option autoImplicit false

namespace Dossier

open Schema

/-! ## Words -/

namespace Schema

def Codec.control : Codec Control := .word Control.options Control.name fun a => by cases a <;> rfl

def Codec.period : Codec Period := .word Period.options Period.name fun a => by cases a <;> rfl

def Codec.shape : Codec Shape := .word Shape.options Shape.name fun a => by cases a <;> rfl

def Codec.orientation : Codec Orientation :=
  .word Orientation.options Orientation.name fun a => by cases a <;> rfl

def Codec.columnType : Codec ColumnType :=
  .word ColumnType.options ColumnType.name fun a => by cases a <;> rfl

def Codec.columnFormat : Codec ColumnFormat :=
  .word ColumnFormat.options ColumnFormat.name fun a => by cases a; rfl

def Codec.fileFormat : Codec FileFormat :=
  .word FileFormat.options FileFormat.name fun a => by cases a <;> rfl

def Codec.progress : Codec Progress :=
  .word Progress.options Progress.name fun a => by cases a <;> rfl

def Codec.renderTemplate : Codec RenderTemplate :=
  .word RenderTemplate.options RenderTemplate.name fun a => by cases a; rfl

theorem scalar_same {v w : Value} (hread : scalar v = .ok w) : w = v := by
  cases v <;> cases hread <;> rfl

/-- A page is read as a whole number and taken as a natural one. -/
theorem natural_ok_iff {fields : Fields} {key : Key} {n : Nat} :
    defaulted fields key 0 Codec.natural.read = .ok n ↔
      ∃ page, defaulted fields key 0 (wholeFrom 0) = .ok page ∧ Int.toNat page = n := by
  cases hfound : key.find? fields with
  | none => simp [defaulted_missing hfound]
  | some entry =>
    simp only [defaulted_found hfound]
    change (wholeFrom 0 entry.2).map Int.toNat = _ ↔ _
    cases wholeFrom 0 entry.2 <;> simp [Checked.map]

def Part.anything {ρ : Type} (key : Key) (get : ρ → Value) : Part ρ :=
  .free key any get (fun m => (get m).free) (fun hread => by cases hread; rfl) fun _ =>
    Value.free_of_isJson

end Schema

/-! ## Criteria -/

def Choice.entrywise : Entrywise Choice where
  read := read
  write := toWire
  parts :=
    [.free (.word "value") scalar value (fun c => if c.value.isNull then none else some c.value)
      scalar_same fun _ _ => rfl,
    .maybe .text (.word "label") label]
  extras := none
  apart := by decide
  reads {v m} := by
    obtain ⟨⟩ := m
    simp [read]
    tauto
  writes _ := rfl

def Placement.entrywise : Entrywise Placement where
  read := read
  write := toWire
  parts := [.required .text (.word "name") name,
    .defaulted .natural (.word "page") 0 page rfl]
  extras := none
  apart := by decide
  reads {v m} := by
    obtain ⟨⟩ := m
    simp [read, Part.defaulted, natural_ok_iff]
    tauto
  writes _ := rfl

def Criterion.entrywise : Entrywise Criterion where
  read := read
  write := toWire
  parts := [.required .control (.word "type") control,
    .required .text (.word "property") property,
    .defaulted .text (.word "label") "" label rfl,
    .maybe .flag ⟨"isRequired", "is_required"⟩ isRequired,
    .maybe .text (.word "placeholder") placeholder,
    .maybe .text ⟨"defaultDisplayValue", "default_display_value"⟩ defaultDisplay,
    .maybe .text ⟨"dataSet", "data_set"⟩ dataSet,
    .maybe .object ⟨"dataSetParams", "data_set_params"⟩ dataSetParams,
    .maybe .text ⟨"valueProperty", "value_property"⟩ valueProperty,
    .maybe .text ⟨"labelProperty", "label_property"⟩ labelProperty,
    .maybe (.list Choice.entrywise.codec) ⟨"fixedValues", "fixed_values"⟩ fixedChoices]
  extras := none
  apart := by decide
  reads {v m} := by
    obtain ⟨⟩ := m
    simp [read]
    tauto
  writes _ := rfl

def PrintedCriterion.entrywise : Entrywise PrintedCriterion where
  read := read
  write := toWire
  parts := [.required .text (.word "name") name,
    .required .text (.word "label") label,
    .anything (.word "value") value]
  extras := none
  apart := by decide
  reads {v m} := by
    obtain ⟨⟩ := m
    simp [read]
    tauto
  writes _ := rfl

/-! ## The wizard -/

namespace Wizard

def Input.entrywise : Entrywise Input where
  read := read
  write := toWire
  parts := [.required .text (.word "name") name,
    .required .control (.word "type") control,
    .required .text (.word "label") label,
    .defaulted (.list Choice.entrywise.codec) (.word "options") [] choices rfl,
    .anything (.word "value") value,
    .maybe .text (.word "placeholder") placeholder,
    .maybe .flag ⟨"isRequired", "is_required"⟩ isRequired,
    .defaulted .flag ⟨"isDisabled", "is_disabled"⟩ false isDisabled rfl]
  extras := none
  apart := by decide
  reads {v m} := by
    obtain ⟨⟩ := m
    simp [read, -Bool.exists_bool]
    tauto
  writes _ := rfl

def Page.entrywise : Entrywise Page where
  read := read
  write := toWire
  parts := [.defaulted (.list Input.entrywise.codec) (.word "fields") [] inputs rfl,
    .defaulted .flag ⟨"isValid", "is_valid"⟩ false isValid rfl]
  extras := none
  apart := by decide
  reads {v m} := by
    obtain ⟨⟩ := m
    simp [read, -Bool.exists_bool]
    tauto
  writes _ := rfl

def Form.entrywise : Entrywise Form where
  read := read
  write := toWire
  parts := [.required (.list Page.entrywise.codec) (.word "pages") pages,
    .defaulted .period (.word "period") .monthly period rfl,
    .defaulted .flag ⟨"useVersioning", "use_versioning"⟩ false useVersioning rfl,
    .defaulted .text ⟨"suggestedName", "suggested_name"⟩ "" suggestedName rfl,
    .defaulted .text (.word "description") "" description rfl,
    .defaulted .flag ⟨"enableExcelOutput", "enable_excel_output"⟩ true enableExcel rfl]
  extras := none
  apart := by decide
  reads {v m} := by
    obtain ⟨⟩ := m
    simp [read, -Bool.exists_bool]
    tauto
  writes _ := rfl

end Wizard

/-! ## Blueprints and definitions -/

def Lookup.entrywise : Entrywise Lookup where
  read := read
  write := toWire
  parts := [.required .text (.word "name") name,
    .required .text ⟨"dataSet", "data_set"⟩ dataSet,
    .maybe .object ⟨"dataSetParams", "data_set_params"⟩ dataSetParams]
  extras := none
  apart := by decide
  reads {v m} := by
    obtain ⟨⟩ := m
    simp [read]
    tauto
  writes _ := rfl

def Column.entrywise : Entrywise Column where
  read := read
  write := toWire
  parts := [.required .text (.word "property") property,
    .defaulted .text (.word "label") "" label rfl,
    .maybe .text (.word "width") width,
    .maybe .columnType (.word "type") type,
    .maybe .columnFormat (.word "format") format]
  extras := none
  apart := by decide
  reads {v m} := by
    obtain ⟨⟩ := m
    simp [read]
    tauto
  writes _ := rfl

def Blueprint.entrywise : Entrywise Blueprint where
  read := read
  write := toWire
  parts := [.defaulted .period (.word "period") .monthly period rfl,
    .defaulted .flag ⟨"useVersioning", "use_versioning"⟩ false useVersioning rfl,
    .defaulted .text ⟨"suggestedName", "suggested_name"⟩ "" suggestedName rfl,
    .defaulted .shape (.word "format") .tabular shape rfl,
    .maybe .orientation (.word "orientation") orientation,
    .defaulted .text (.word "title") "" title rfl,
    .defaulted .text (.word "subtitle") "" subtitle rfl,
    .required .text ⟨"dataSet", "data_set"⟩ dataSet,
    .maybe .object ⟨"dataSetParams", "data_set_params"⟩ dataSetParams,
    .maybe .text ⟨"noResultsMessage", "no_results_message"⟩ noResultsMessage,
    .defaulted (.list Lookup.entrywise.codec) (.word "lookups") [] lookups rfl,
    .defaulted (.list Column.entrywise.codec) (.word "fields") [] columns rfl,
    .maybe .text ⟨"webPageUrl", "web_page_url"⟩ webPageUrl,
    .defaulted .flag ⟨"autoLayout", "auto_layout"⟩ false autoLayout rfl]
  extras := some extras
  apart := by decide
  reads {v m} := by
    obtain ⟨⟩ := m
    simp [read, pure_ok_iff, -Bool.exists_bool]
    tauto
  writes _ := rfl

def Condition.entrywise : Entrywise Condition where
  read := read
  write := toWire
  parts := [.required .text (.word "value") value,
    .required .text (.word "criteria") criteria]
  extras := none
  apart := by decide
  reads {v m} := by
    obtain ⟨⟩ := m
    simp [read]
    tauto
  writes _ := rfl

def Override.entrywise : Entrywise Override where
  read := read
  write := toWire
  parts := [.required Condition.entrywise.codec (.word "condition") condition,
    .defaulted .object ⟨"proofSpec", "proof_spec"⟩ [] patch rfl]
  extras := none
  apart := by decide
  reads {v m} := by
    obtain ⟨⟩ := m
    simp [read]
    tauto
  writes _ := rfl

def Definition.entrywise : Entrywise Definition where
  read := read
  write := toWire
  parts := [.defaulted .text (.word "description") "" description rfl,
    .defaulted (.list Placement.entrywise.codec) (.word "criteria") [] criteria rfl,
    .required Blueprint.entrywise.codec ⟨"proofSpec", "proof_spec"⟩ blueprint,
    .defaulted (.list Override.entrywise.codec) (.word "overrides") [] overrides rfl]
  extras := none
  apart := by decide
  reads {v m} := by
    obtain ⟨⟩ := m
    simp [read]
    tauto
  writes _ := rfl

def Listing.entrywise : Entrywise Listing where
  read := read
  write := toWire
  parts := [.required .text (.word "label") label,
    .maybe .text (.word "category") category,
    .maybe .object (.word "criteria") criteria,
    .maybe Definition.entrywise.codec (.word "definition") definition]
  extras := none
  apart := by decide
  reads {v m} := by
    obtain ⟨⟩ := m
    simp [read]
    tauto
  writes _ := rfl

/-! ## Syncs and batches -/

def Viewer.entrywise : Entrywise Viewer where
  read := read
  write := toWire
  parts := [.maybe .text ⟨"timeZone", "time_zone"⟩ timeZone,
    .maybe .text (.word "language") language,
    .maybe .text (.word "locale") locale]
  extras := none
  apart := by decide
  reads {v m} := by
    obtain ⟨⟩ := m
    simp [read]
    tauto
  writes _ := rfl

def SyncSettings.entrywise : Entrywise SyncSettings where
  read := read
  write := toWire
  parts := [.required .text (.word "name") name,
    .defaulted .object (.word "criteria") [] criteria rfl,
    .defaulted .fileFormat ⟨"proofFormat", "proof_format"⟩ .pdf fileFormat rfl,
    .defaulted .period (.word "period") .monthly period rfl,
    .defaulted .flag ⟨"useVersioning", "use_versioning"⟩ false useVersioning rfl]
  extras := none
  apart := by decide
  reads {v m} := by
    obtain ⟨⟩ := m
    simp [read, -Bool.exists_bool]
    tauto
  writes _ := rfl

def Sync.entrywise : Entrywise Sync where
  read := read
  write := toWire
  parts := [.maybe .text (.word "id") id,
    .required SyncSettings.entrywise.codec (.word "settings") settings]
  extras := none
  apart := by decide
  reads {v m} := by
    obtain ⟨⟩ := m
    simp [read]
    tauto
  writes _ := rfl

def SyncPlan.entrywise : Entrywise SyncPlan where
  read := read
  write := toWire
  parts := [.defaulted .flag (.word "combine") true combine rfl]
  extras := none
  apart := by decide
  reads {v m} := by
    obtain ⟨⟩ := m
    simp [read, map_ok_iff, -Bool.exists_bool]
    tauto
  writes _ := rfl

def Batch.entrywise : Entrywise Batch where
  read := read
  write := toWire
  parts := [.required .progress (.word "status") status,
    .anything (.word "data") data,
    .maybe .text ⟨"nextPage", "next_page"⟩ nextPage,
    .maybe .object (.word "context") context,
    .maybe .text ⟨"apiUrl", "api_url"⟩ apiUrl,
    .maybe .text (.word "source") source,
    .anything (.word "metadata") metadata,
    .maybe .number (.word "delay") delay,
    .maybe .whole ⟨"maxRetry", "max_retry"⟩ maxRetry]
  extras := some extras
  apart := by decide
  reads {v m} := by
    obtain ⟨⟩ := m
    simp [read, pure_ok_iff]
    tauto
  writes _ := rfl

/-! ## Documents and their schemas -/

def LayoutColumn.entrywise : Entrywise LayoutColumn where
  read := read
  write := toWire
  parts := [.required .text (.word "property") property,
    .required .text (.word "label") label,
    .maybe .text (.word "width") width,
    .maybe .columnType (.word "type") type,
    .maybe .columnFormat (.word "format") format]
  extras := none
  apart := by decide
  reads {v m} := by
    obtain ⟨⟩ := m
    simp [read]
    tauto
  writes _ := rfl

def Layout.entrywise : Entrywise Layout where
  read := read
  write := toWire
  parts := [.required .shape (.word "format") shape,
    .defaulted (.list LayoutColumn.entrywise.codec) (.word "fields") [] columns rfl,
    .defaulted .text ⟨"noResultsMessage", "no_results_message"⟩ "" noResultsMessage rfl]
  extras := none
  apart := by decide
  reads {v m} := by
    obtain ⟨⟩ := m
    simp [read]
    tauto
  writes _ := rfl

def Contents.entrywise : Entrywise Contents where
  read := read
  write := toWire
  parts := [.required .text (.word "type") type,
    .required .text (.word "title") title,
    .required .text (.word "subtitle") subtitle,
    .maybe .text (.word "source") source,
    .maybe .text ⟨"webPageUrl", "web_page_url"⟩ webPageUrl,
    .maybe .orientation (.word "orientation") orientation,
    .defaulted .number (.word "zoom") fullSize zoom rfl,
    .maybe .text ⟨"userTimeZone", "user_time_zone"⟩ userTimeZone,
    .defaulted (.list PrintedCriterion.entrywise.codec) (.word "criteria") [] criteria rfl,
    .required .fileFormat ⟨"proofFormat", "proof_format"⟩ fileFormat,
    .defaulted .renderTemplate (.word "template") .universal template rfl,
    .required Layout.entrywise.codec (.word "layout") layout,
    .defaulted (.list .object) (.word "proof") [] rows rfl,
    .required .text ⟨"authorizedUser", "authorized_user"⟩ authorizedUser,
    .required .text (.word "collector") collector,
    .required .text ⟨"collectedOn", "collected_on"⟩ collectedOn]
  extras := none
  apart := by decide
  reads {v m} := by
    obtain ⟨⟩ := m
    simp [read]
    tauto
  writes _ := rfl

def Document.entrywise : Entrywise Document where
  read := read
  write := toWire
  parts := [.required .text (.word "filename") filename,
    .required Contents.entrywise.codec (.word "contents") contents]
  extras := none
  apart := by decide
  reads {v m} := by
    obtain ⟨⟩ := m
    simp [read]
    tauto
  writes _ := rfl

def Delivery.entrywise : Entrywise Delivery where
  read := read
  write := toWire
  parts := [.defaulted (.list Document.entrywise.codec) (.word "data") [] documents rfl,
    .maybe .text ⟨"nextPage", "next_page"⟩ nextPage,
    .maybe .flag (.word "combine") combine,
    .maybe .progress (.word "status") status,
    .anything (.word "metadata") metadata,
    .maybe .number (.word "delay") delay,
    .maybe .whole ⟨"maxRetry", "max_retry"⟩ maxRetry]
  extras := none
  apart := by decide
  reads {v m} := by
    obtain ⟨⟩ := m
    simp [read]
    tauto
  writes _ := rfl

def SchemaColumn.entrywise : Entrywise SchemaColumn where
  read := read
  write := toWire
  parts := [.required .text (.word "property") property,
    .required .text (.word "label") label,
    .defaulted .columnType (.word "type") .text type rfl]
  extras := none
  apart := by decide
  reads {v m} := by
    obtain ⟨⟩ := m
    simp [read]
    tauto
  writes _ := rfl

def DocumentSchema.entrywise : Entrywise DocumentSchema where
  read := read
  write := toWire
  parts := [.required .shape (.word "format") shape,
    .defaulted .flag ⟨"isHierarchical", "is_hierarchical"⟩ false isHierarchical rfl,
    .defaulted (.list SchemaColumn.entrywise.codec) (.word "fields") [] columns rfl]
  extras := none
  apart := by decide
  reads {v m} := by
    obtain ⟨⟩ := m
    simp [read, -Bool.exists_bool]
    tauto
  writes _ := rfl

/-! ## All records -/

inductive WireRecord where
  | choice | placement | criterion | input | page | form | printedCriterion | lookup | column
  | blueprint | condition | override | definition | listing | viewer | syncSettings | sync | batch
  | layoutColumn | layout | contents | document | delivery | schemaColumn | documentSchema
  | syncPlan
  deriving DecidableEq, Repr

namespace WireRecord

def Carrier : WireRecord → Type
  | .choice => Choice
  | .placement => Placement
  | .criterion => Criterion
  | .input => Wizard.Input
  | .page => Wizard.Page
  | .form => Wizard.Form
  | .printedCriterion => PrintedCriterion
  | .lookup => Lookup
  | .column => Column
  | .blueprint => Blueprint
  | .condition => Condition
  | .override => Override
  | .definition => Definition
  | .listing => Listing
  | .viewer => Viewer
  | .syncSettings => SyncSettings
  | .sync => Sync
  | .batch => Batch
  | .layoutColumn => LayoutColumn
  | .layout => Layout
  | .contents => Contents
  | .document => Document
  | .delivery => Delivery
  | .schemaColumn => SchemaColumn
  | .documentSchema => DocumentSchema
  | .syncPlan => SyncPlan

def read : (r : WireRecord) → Reader r.Carrier
  | .choice => Choice.read
  | .placement => Placement.read
  | .criterion => Criterion.read
  | .input => Wizard.Input.read
  | .page => Wizard.Page.read
  | .form => Wizard.Form.read
  | .printedCriterion => PrintedCriterion.read
  | .lookup => Lookup.read
  | .column => Column.read
  | .blueprint => Blueprint.read
  | .condition => Condition.read
  | .override => Override.read
  | .definition => Definition.read
  | .listing => Listing.read
  | .viewer => Viewer.read
  | .syncSettings => SyncSettings.read
  | .sync => Sync.read
  | .batch => Batch.read
  | .layoutColumn => LayoutColumn.read
  | .layout => Layout.read
  | .contents => Contents.read
  | .document => Document.read
  | .delivery => Delivery.read
  | .schemaColumn => SchemaColumn.read
  | .documentSchema => DocumentSchema.read
  | .syncPlan => SyncPlan.read

def toWire : (r : WireRecord) → r.Carrier → Value
  | .choice => Choice.toWire
  | .placement => Placement.toWire
  | .criterion => Criterion.toWire
  | .input => Wizard.Input.toWire
  | .page => Wizard.Page.toWire
  | .form => Wizard.Form.toWire
  | .printedCriterion => PrintedCriterion.toWire
  | .lookup => Lookup.toWire
  | .column => Column.toWire
  | .blueprint => Blueprint.toWire
  | .condition => Condition.toWire
  | .override => Override.toWire
  | .definition => Definition.toWire
  | .listing => Listing.toWire
  | .viewer => Viewer.toWire
  | .syncSettings => SyncSettings.toWire
  | .sync => Sync.toWire
  | .batch => Batch.toWire
  | .layoutColumn => LayoutColumn.toWire
  | .layout => Layout.toWire
  | .contents => Contents.toWire
  | .document => Document.toWire
  | .delivery => Delivery.toWire
  | .schemaColumn => SchemaColumn.toWire
  | .documentSchema => DocumentSchema.toWire
  | .syncPlan => SyncPlan.toWire

def kept : (r : WireRecord) → r.Carrier → List Kept
  | .blueprint, b => [⟨Blueprint.keys, b.extras⟩]
  | .definition, d => [⟨Blueprint.keys, d.blueprint.extras⟩]
  | .listing, l => l.definition.toList.map fun d => ⟨Blueprint.keys, d.blueprint.extras⟩
  | .batch, b => [⟨Batch.keys, b.extras⟩]
  | _, _ => []

def entrywise : (r : WireRecord) → Entrywise r.Carrier
  | .choice => Choice.entrywise
  | .placement => Placement.entrywise
  | .criterion => Criterion.entrywise
  | .input => Wizard.Input.entrywise
  | .page => Wizard.Page.entrywise
  | .form => Wizard.Form.entrywise
  | .printedCriterion => PrintedCriterion.entrywise
  | .lookup => Lookup.entrywise
  | .column => Column.entrywise
  | .blueprint => Blueprint.entrywise
  | .condition => Condition.entrywise
  | .override => Override.entrywise
  | .definition => Definition.entrywise
  | .listing => Listing.entrywise
  | .viewer => Viewer.entrywise
  | .syncSettings => SyncSettings.entrywise
  | .sync => Sync.entrywise
  | .batch => Batch.entrywise
  | .layoutColumn => LayoutColumn.entrywise
  | .layout => Layout.entrywise
  | .contents => Contents.entrywise
  | .document => Document.entrywise
  | .delivery => Delivery.entrywise
  | .schemaColumn => SchemaColumn.entrywise
  | .documentSchema => DocumentSchema.entrywise
  | .syncPlan => SyncPlan.entrywise

theorem entrywise_read (r : WireRecord) : r.entrywise.read = r.read := by cases r <;> rfl

theorem entrywise_write (r : WireRecord) : r.entrywise.write = r.toWire := by cases r <;> rfl

theorem entrywise_places (r : WireRecord) {m : r.Carrier} (hkept : ∀ kept ∈ r.kept m, kept.Proper) :
    KeptProper r.entrywise.places m := by
  have nowhere (hnone : r.entrywise.places = []) : KeptProper r.entrywise.places m := by
    rw [hnone]
    exact fun _ hplace => nomatch hplace
  cases r with
  | blueprint => exact List.forall_mem_singleton.mpr hkept
  | definition => exact List.forall_mem_singleton.mpr hkept
  | batch => exact List.forall_mem_singleton.mpr hkept
  | listing =>
    refine List.forall_mem_singleton.mpr fun kept hmem => hkept kept ?_
    obtain ⟨d, hd, hone⟩ := List.mem_flatMap.mp hmem
    exact List.mem_map.mpr ⟨d, hd, (List.mem_singleton.mp hone).symm⟩
  | _ => exact nowhere rfl

/-- Whatever record was validated from JSON, with finite numbers: written to the wire and validated
again it is the same record, and is written the same way. Of the entries that are kept without being
declared none may be null or stand under the underscored spelling of a declared key. -/
theorem read_toWire (r : WireRecord) {x : Value} {m : r.Carrier} (hx : x.isJson = true)
    (hread : r.read x = .ok m) (hkept : ∀ kept ∈ r.kept m, kept.Proper) :
    ∃ again, r.read (r.toWire m) = .ok again ∧ again = m ∧ r.toWire again = r.toWire m := by
  refine ⟨m, ?_, rfl, rfl⟩
  rw [← entrywise_read] at hread
  rw [← entrywise_read, ← entrywise_write]
  exact r.entrywise.read_write hx hread (entrywise_places r hkept)

/-- A listing with a definition, some of it spelled with underscores, with numbers and truth values
given as texts, and with an entry beside the declared ones. -/
def givenListing : Value :=
  .object [("label", .text "Users"), ("category", .null), ("criteria", .object [("type", .null)]),
    ("definition", .object
      [("criteria", .list [.object [("name", .text "group"), ("page", .text "+1")]]),
      ("proof_spec", .object [("data_set", .text "users"), ("useVersioning", .text "yes"),
        ("dataSetParams", .object [("group", .null), ("limit", .int 5)]), ("orientation", .null),
        ("audience", .list [.null])]),
      ("overrides", .list [])])]

def readListing : Listing :=
  ⟨"Users", none, some [("type", .null)], some ⟨"", [⟨"group", 1⟩],
    ⟨.monthly, true, "", .tabular, none, "", "", "users",
      some [("group", .null), ("limit", .int 5)],
      none, [], [], none, false, [("audience", .list [.null])]⟩, []⟩⟩

theorem read_toWire_listing :
    givenListing.isJson = true ∧ Listing.read givenListing = .ok readListing ∧
      ∃ again, Listing.read readListing.toWire = .ok again ∧ again = readListing ∧
        again.toWire = readListing.toWire := by
  have hjson : givenListing.isJson = true := by decide
  have hread : Listing.read givenListing = .ok readListing := by rfl
  refine ⟨hjson, hread, read_toWire .listing hjson hread ?_⟩
  intro kept hmem
  obtain rfl : kept = ⟨Blueprint.keys, [("audience", .list [.null])]⟩ := by
    simpa [WireRecord.kept, readListing] using hmem
  refine List.forall_mem_singleton.mpr ⟨rfl, ?_⟩
  decide

end WireRecord

end Dossier
