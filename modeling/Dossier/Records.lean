import Dossier.Catalog.Basic
import Dossier.Document.Schema
import Dossier.Wizard.Engine

/-!
# Records by name

The records of a configuration and of documents, by the names under which issues speak of them: how
each is read and written, what it tells beside its members, and which members may be changed
afterwards. What a member is changed to is not checked.
-/

set_option autoImplicit false

namespace Dossier

inductive Changeable where
  | nothing
  | members (names : List String)
  | anything
  deriving DecidableEq, Repr

structure RecordKind where
  read : Value → Schema.Checked (Value × Fields)
  changeable : Changeable

namespace RecordKind

def of {α : Type} (read : Schema.Reader α) (write : α → Value) (changeable : Changeable)
    (more : α → Fields := fun _ => []) : RecordKind :=
  ⟨fun v => (read v).map fun a => (write a, more a), changeable⟩

def all : List (String × RecordKind) :=
  [("SelectOption", of Choice.read Choice.toWire (.members ["value", "label"])),
   ("CriterionRef", of Placement.read Placement.toWire .nothing),
   ("CriteriaFieldConfig", of Criterion.read Criterion.toWire .nothing
      fun c => [("has_data_set", .bool c.hasDataSet)]),
   ("CriteriaField", of Wizard.Input.read Wizard.Input.toWire
     (.members ["name", "type", "label", "options", "value", "placeholder", "is_required",
       "is_disabled"])),
   ("CriteriaPage", of Wizard.Page.read Wizard.Page.toWire (.members ["fields", "is_valid"])),
   ("CriteriaMetadata", of Wizard.Form.read Wizard.Form.toWire
     (.members ["pages", "period", "use_versioning", "suggested_name", "description",
       "enable_excel_output"])),
   ("ProofCriterionValue", of PrintedCriterion.read PrintedCriterion.toWire
     (.members ["name", "label", "value"])),
   ("Lookup", of Lookup.read Lookup.toWire .nothing),
   ("ProofField", of Column.read Column.toWire .nothing),
   ("ProofSpec", of Blueprint.read Blueprint.toWire .nothing),
   ("OverrideCondition", of Condition.read Condition.toWire .nothing),
   ("ProofSpecOverride", of Override.read Override.toWire .nothing),
   ("ProofTypeDefinition", of Definition.read Definition.toWire .nothing),
   ("ProofTypeConfig", of Listing.read Listing.toWire .nothing),
   ("UserContext", of Viewer.read Viewer.toWire (.members ["time_zone", "language", "locale"])),
   ("HypersyncSettings", of SyncSettings.read SyncSettings.toWire
     (.members ["name", "criteria", "proof_format", "period", "use_versioning"])),
   ("Hypersync", of Sync.read Sync.toWire (.members ["id", "settings"])),
   ("DataSetResult", of Batch.read Batch.toWire .anything),
   ("ProofLayoutField", of LayoutColumn.read LayoutColumn.toWire
     (.members ["property", "label", "width", "type", "format"])),
   ("ProofLayout", of Layout.read Layout.toWire
     (.members ["format", "fields", "no_results_message"])),
   ("ProofContents", of Contents.read Contents.toWire
     (.members ["type", "title", "subtitle", "source", "web_page_url", "orientation", "zoom",
       "user_time_zone", "criteria", "proof_format", "template", "layout", "proof",
       "authorized_user", "collector", "collected_on"])),
   ("ProofFile", of Document.read Document.toWire (.members ["filename", "contents"])),
   ("ProofDataResponse", of Delivery.read Delivery.toWire
     (.members ["data", "next_page", "combine", "status", "metadata", "delay", "max_retry"])
      fun d => [("is_pending", .bool d.isPending)]),
   ("SchemaField", of SchemaColumn.read SchemaColumn.toWire
     (.members ["property", "label", "type"])),
   ("ProofSchema", of DocumentSchema.read DocumentSchema.toWire
     (.members ["format", "is_hierarchical", "fields"])),
   ("SyncPlan", of SyncPlan.read SyncPlan.toWire (.members ["combine"]))]

end RecordKind

namespace Changeable

def camel (name : String) : String :=
  match name.splitOn "_" with
  | [] => name
  | head :: rest => head ++ String.join (rest.map String.capitalize)

/-- The wire spelling of a member. A record that takes any member has only some by itself; another
one stays as it is. -/
def wireName (c : Changeable) (name : String) : String :=
  match c with
  | .anything => if ["next_page", "api_url", "max_retry"].contains name then camel name else name
  | _ => camel name

def put (c : Changeable) (wire : Fields) (entry : String × Value) : Fields :=
  match entry.2 with
  | .null => wire.erase (c.wireName entry.1)
  | v => wire.put (c.wireName entry.1) v.toWire

def change (c : Changeable) (wire : Fields) : Fields → Except Failure Fields
  | [] => .ok wire
  | changes@((name, _) :: _) =>
    match c with
    | .nothing => .error (.invalid [⟨.frozen, [.key name]⟩])
    | .members names =>
      if changes.all fun entry => names.contains entry.1 then .ok (changes.foldl c.put wire)
      else .error (.fault .noSuchMember)
    | .anything => .ok (changes.foldl c.put wire)

end Changeable

end Dossier
