import Dossier.Catalog.Configuration
import Dossier.Document.Build
import Dossier.Document.Schema

/-!
# The catalog of document types

A catalog maps the key of every document type to its entry: a declared listing or a handler. It
offers types for the criteria chosen so far, and reads the definition of a declared type when it
is first needed.
-/

set_option autoImplicit false

namespace Dossier

open Run Wizard

structure Handler where
  proofType : String
  label : String
  category : Option String
  /-- Whether the type is offered for the criteria chosen so far. -/
  offers : Fields → Bool
  form : Fields → List Page → Run Form
  schema : Fields → Run DocumentSchema
  deliver : Order → Run Delivery

inductive Entry where
  | declared (listing : Listing)
  | handler (h : Handler)

/-- Whether a type belongs to a chosen category; without a choice every type does. -/
def inCategory (own : Option String) (chosen : Value) : Bool :=
  chosen.isNull || own.isNone || (own.map Value.text).any (·.same chosen)

def Fields.matchesAll (criteria pattern : Fields) : Bool :=
  pattern.all fun (key, v) => (criteria.get key).same v

namespace Entry

def isOffered (e : Entry) (criteria : Option Fields) (category : Value) : Bool :=
  match e with
  | .declared l =>
    inCategory l.category category &&
      (criteria.all fun values => values.matchesAll (l.criteria.getD []))
  | .handler h => criteria.all h.offers && inCategory h.category category

/-- The label of an entry; declared ones may refer to messages. -/
def label (e : Entry) (messages : Fields) : Run String :=
  match e with
  | .declared l => resolve [("messages", .object messages)] l.label
  | .handler h => pure h.label

def declaredCategory? : Entry → Option String
  | .declared l => Criterion.filled? l.category
  | .handler _ => none

end Entry

structure Catalog where
  entries : List (String × Entry)
  messages : Fields
  dir : Path
  connector : String

namespace Catalog

/-- Add handlers to entries; a key may not be used twice. -/
def addHandlers : List (String × Entry) → List Handler → Except Failure (List (String × Entry))
  | entries, [] => .ok entries
  | entries, h :: rest =>
    if (entries.lookup h.proofType).isSome then .error (.duplicateProofType h.proofType)
    else addHandlers (entries ++ [(h.proofType, .handler h)]) rest

/-- A catalog of listings and handlers. No definition has been read yet, and those of the catalog
that was open before are forgotten. -/
def new (listings : List (String × Listing)) (handlers : List Handler) (messages : Fields)
    (dir : Option Path) (connector : Option String) : Run Catalog := do
  let s ← settings
  let declared := listings.map fun (key, l) => (key, Entry.declared l)
  let entries ← lift (addHandlers declared handlers)
  modify fun h => { h with definitions := [] }
  pure ⟨entries, messages, dir.getD s.configDir, (Criterion.filled? connector).getD s.connectorName⟩

def ofFolder (dir : Option Path) (handlers : List Handler) (connector : Option String) :
    Run Catalog := do
  let dir ← match dir with
    | some dir => pure dir
    | none => (·.configDir) <$> settings
  let h ← get
  let listings ← lift (Configuration.listings h dir)
  let messages ← lift (Configuration.messages h dir)
  new listings handlers messages (some dir) connector

def labelAll (messages : Fields) : List (String × Entry) → Run (List Choice)
  | [] => pure []
  | (key, e) :: rest => do
    let label ← e.label messages
    let rest ← labelAll messages rest
    pure (⟨.text key, some label⟩ :: rest)

def options (c : Catalog) (criteria : Option Fields) (category : Value) : Run (List Choice) := do
  let offered := c.entries.filter fun (_, e) => e.isOffered criteria category
  let choices ← labelAll c.messages offered
  pure (Choice.sortByLabel choices)

def categories (c : Catalog) : List String :=
  (c.entries.filterMap fun (_, e) => e.declaredCategory?).eraseDups

/-- The definition of a declared type: the one in its listing, one read before, or the one in its
file, which is then kept. -/
def definition (c : Catalog) (proofType : String) : Run Definition :=
  match c.entries.lookup proofType with
  | some (.declared l) =>
    match l.definition with
    | some d => pure d
    | none => do
      let h ← get
      match h.definitions.lookup proofType with
      | some d => pure d
      | none =>
        let d ← lift (Configuration.definition h c.dir proofType)
        set { h with definitions := h.definitions ++ [(proofType, d)] }
        pure d
  | _ => throw (.unknownProofType (.text proofType))

inductive Service where
  | declared (proofType : String) (builder : Builder)
  | handler (h : Handler)

def service (c : Catalog) (proofType : Value) (source : Source) (provider : Provider) :
    Run Service :=
  match proofType with
  | .text key =>
    match c.entries.lookup key with
    | some (.declared _) => do
      let builder ← Builder.new source (some provider) c.messages (some c.connector) none
      pure (.declared key builder)
    | some (.handler h) => pure (.handler h)
    | none => throw (.unknownProofType proofType)
  | .list _ => throw (.fault .notAKey)
  | .object _ => throw (.fault .notAKey)
  | _ => throw (.unknownProofType proofType)

end Catalog

end Dossier
