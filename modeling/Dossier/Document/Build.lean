import Dossier.Document.Sizing
import Dossier.Document.Format
import Dossier.Blueprint.Compose
import Dossier.Criterion.Provider

/-!
# Building documents

One page of a sync becomes a document: the blueprint is composed, lookups are fetched, then the
data set, and the rows are formatted and laid out. A fetch that is pending gives a delivery without
documents that says how to go on.
-/

set_option autoImplicit false

namespace Dossier

open Run Calendar

def savedSuffix : String := "SavedCriterion"

def addSaved (criteria : Fields) (params : Fields) : Fields :=
  criteria.foldl (fun params entry =>
    match entry.2 with
    | .object saved =>
      if entry.1.endsWith savedSuffix then params.put entry.1 (Fields.get saved "data") else params
    | _ => params) params

/-- A row of fetched data. A row of pairs may have keys that are no texts, each once; they show in
no document, and a document with such a row is refused in the end. -/
structure Row where
  entries : Fields
  strayKeys : List Value
  deriving Repr, Inhabited

namespace Row

/-- Two items that make an entry: a list of two, an object of two keys, or a text of two
characters. -/
def pair? : Value → Except Failure (Value × Value)
  | .list [.list _, _] => .error (.fault .notAKey)
  | .list [.object _, _] => .error (.fault .notAKey)
  | .list [key, v] => .ok (key, v)
  | .list _ => .error (.fault .rowNotPairs)
  | .object [(key, _), (value, _)] => .ok (.text key, .text value)
  | .object _ => .error (.fault .rowNotPairs)
  | .text s =>
    match s.toList with
    | [a, b] => .ok (.text (String.singleton a), .text (String.singleton b))
    | _ => .error (.fault .rowNotPairs)
  | _ => .error (.fault .rowNotIterable)

def put (r : Row) (key v : Value) : Row :=
  match key with
  | .text key => { r with entries := r.entries.put key v }
  | key =>
    if r.strayKeys.any (·.same key) then r else { r with strayKeys := r.strayKeys ++ [key] }

def addPairs : Row → List Value → Except Failure Row
  | r, [] => .ok r
  | r, v :: rest =>
    match pair? v with
    | .error e => .error e
    | .ok (key, v) => addPairs (r.put key v) rest

def ofValue : Value → Except Failure Row
  | .object fields => .ok ⟨fields, []⟩
  | .list items => addPairs ⟨[], []⟩ items
  | .text s => if s.isEmpty then .ok ⟨[], []⟩ else .error (.fault .rowNotPairs)
  | _ => .error (.fault .rowNotIterable)

def ofValues : List Value → Except Failure (List Row)
  | [] => .ok []
  | v :: rest =>
    match ofValue v with
    | .error e => .error e
    | .ok row => (ofValues rest).map (row :: ·)

def ofData : Value → Except Failure (List Row)
  | .null => .ok []
  | .list items => ofValues items
  | v => (ofValue v).map ([·])

def keyStep (key : Value) : Schema.Step :=
  match key with
  | .bool b => .index (if b then 1 else 0)
  | .int n => if Schema.isSmall n then .index n else .key key.displayInside
  | key => .key key.displayInside

def issues (rows : List Row) : List Schema.Issue :=
  rows.zipIdx.flatMap fun (r, k) =>
    r.strayKeys.map fun key => ⟨.notText, [.key "proof", .index k, keyStep key, .key "[key]"]⟩

def inScope (data : Value) (rows : List Fields) : Value :=
  match data with
  | .list _ => .list (rows.map .object)
  | _ =>
    match rows with
    | row :: _ => .object row
    | [] => .null

end Row

structure Builder where
  source : Source
  provider : Option Provider
  messages : Fields
  connector : String
  integration : String

structure Order where
  sync : Sync
  viewer : Viewer
  authorizedUser : String
  start : Moment
  page : Option String
  metadata : Value

def LayoutColumn.resolve (scope : Fields) (c : Column) : Run LayoutColumn := do
  let label ← Run.resolve scope c.label
  pure ⟨c.property, label, c.width, c.type.filter (· ≠ .text), c.format⟩

def LayoutColumn.resolveAll (scope : Fields) : List Column → Run (List LayoutColumn)
  | [] => pure []
  | c :: rest => do
    let c ← LayoutColumn.resolve scope c
    let rest ← LayoutColumn.resolveAll scope rest
    pure (c :: rest)

def resolveFilled (scope : Fields) (s : Option String) : Run (Option String) :=
  match Criterion.filled? s with
  | some s => some <$> resolve scope s
  | none => pure none

namespace Builder

/-- A builder; the connector's name and the type of integration come from the settings unless they
are given. -/
def new (source : Source) (provider : Option Provider) (messages : Fields)
    (connector integration : Option String) : Run Builder := do
  let s ← settings
  pure ⟨source, provider, messages, (Criterion.filled? connector).getD s.connectorName,
    integration.getD s.integrationType⟩

def params (criteria scope : Fields) (b : Blueprint) : Run (Option Fields) := do
  let params ← resolveParams none scope b.dataSetParams
  pure (params.map (addSaved criteria))

def formatRows (zones : Zones) (b : Blueprint) (viewer : Viewer) (rows : List Fields) :
    Run (List Fields) :=
  let dates := b.columns.filter (·.type == some .date)
  let numbers := b.columns.filter (·.type == some .number)
  if dates.isEmpty && numbers.isEmpty then pure rows
  else Format.rows zones dates numbers viewer rows

def printed (builder : Builder) (d : Definition) (o : Order) (scope : Fields) :
    Run (List PrintedCriterion) :=
  match o.page, builder.provider with
  | none, some p => p.printedCriteria builder.source o.sync.settings.criteria scope d.criteria
  | _, _ => pure []

def pending (batch : Batch) : Delivery where
  documents := []
  nextPage := batch.nextPage
  combine := none
  status := some batch.status
  metadata := batch.metadata
  delay := batch.delay
  maxRetry := batch.maxRetry

def contents (builder : Builder) (zones : Zones) (b : Blueprint) (o : Order) (batch : Batch)
    (rows : List Fields) (columns : List LayoutColumn) (zoom : Number.Binary)
    (criteria : List PrintedCriterion) (scope : Fields) : Run Contents := do
  let title ← resolve scope b.title
  let subtitle ← resolve scope b.subtitle
  let webPageUrl ← resolveFilled scope b.webPageUrl
  let message ← if rows.isEmpty then resolveFilled scope b.noResultsMessage else pure none
  let collectedOn ← Format.date zones (.moment o.start) o.viewer
  pure {
    type := builder.integration
    title := title
    subtitle := subtitle
    source := (Criterion.filled? batch.source).or batch.apiUrl
    webPageUrl := webPageUrl
    orientation := b.orientation
    zoom := zoom
    userTimeZone := o.viewer.timeZone
    criteria := criteria
    fileFormat := o.sync.settings.fileFormat
    template := .universal
    layout := ⟨b.shape, columns, message.getD ""⟩
    rows := rows
    authorizedUser := o.authorizedUser
    collector := builder.connector
    collectedOn := collectedOn.getD "" }

def document (builder : Builder) (d : Definition) (b : Blueprint) (o : Order) (batch : Batch)
    (scope : Fields) : Run Document := do
  let scope := match batch.context with
    | some context => if context.isEmpty then scope else scope.put "dataSource" (.object context)
    | none => scope
  let zones ← Run.zones
  let fetched ← lift (Row.ofData batch.data)
  let rows ← formatRows zones b o.viewer (fetched.map (·.entries))
  let columns ← LayoutColumn.resolveAll scope b.columns
  let sized := Sizing.size columns rows Sizing.defaultMaxZoom
  let (columns, zoom) :=
    if b.autoLayout then (sized.columns, sized.zoom) else (columns, Contents.fullSize)
  let criteria ← builder.printed d o scope
  let scope := scope.put "data" (Row.inScope batch.data rows)
  let contents ← builder.contents zones b o batch rows columns zoom criteria scope
  match Row.issues fetched with
  | [] => pure ⟨o.sync.settings.name, contents⟩
  | issues => throw (.invalid issues)

def buildInside (builder : Builder) (d : Definition) (o : Order) : Run Delivery := do
  let criteria := o.sync.settings.criteria
  let scope := Scope.start criteria builder.messages
  let b ← d.compose scope
  let scope ← b.runLookups builder.source scope
  let params ← Builder.params criteria scope b
  let batch ← builder.source.fetch ⟨b.dataSet, params, o.page, o.metadata⟩
  if batch.status = .complete then
    let document ← builder.document d b o batch scope
    onBuildTracer (·.setAttribute "rows" (.int document.contents.rows.length))
    pure ⟨[document], batch.nextPage, some true, none, .null, none, none⟩
  else
    onBuildTracer (·.setAttribute "pending" (.bool true))
    pure (pending batch)

def build (builder : Builder) (d : Definition) (o : Order) : Run Delivery := do
  onBuildTracer (·.enter "build_proof" .internal [("filename", .text o.sync.settings.name)])
  let result ← observe (builder.buildInside d o)
  finishSpan onBuildTracer result

end Builder

end Dossier
