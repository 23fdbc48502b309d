import Dossier.Host.Folder
import Dossier.Host.Settings
import Dossier.Template.Resolve
import Dossier.Trace.Tracer
import Dossier.Calendar.Zone
import Dossier.Blueprint.Definition

/-!
# The host

What a connector runs in: variables and files, the settings and the environment as they were when
first asked for, the calls made to the data source, and the tracers. A run changes the host and
gives a value or a failure; what was done before a failure stays done.

The tracers of fetching and building are made when the program is loaded, which is taken to happen
outside debug mode: they write nothing out. What becomes of a block whose span cannot be written out
is told in `Dossier.Trace.Work`.

One catalog is open at a time. The definitions it has read lie with the host, and making another
catalog forgets them.
-/

set_option autoImplicit false

namespace Dossier

structure Call where
  dataSet : String
  params : Option Fields
  page : Option String
  metadata : Value
  deriving Repr, Inhabited

abbrev Source := List Call → Call → Except Failure Value

structure TraceLine where
  traceId : String
  span : Trace.Span
  deriving Repr, Inhabited

structure Host where
  root : Path
  accounts : Accounts
  vars : Variables
  files : Folder
  zones : Calendar.Zones
  settings : Option Settings
  environment : Option Template.Environment
  calls : List Call
  fetchTracer : Trace.Tracer
  buildTracer : Trace.Tracer
  tracers : List (String × Trace.Tracer)
  exported : List TraceLine
  /-- The definitions that the open catalog has read so far. -/
  definitions : List (String × Definition)

abbrev Run (α : Type) := ExceptT Failure (StateM Host) α

namespace Host

def start (root : Path) (accounts : Accounts) (vars : Variables) (files : Folder)
    (zones : Calendar.Zones) : Host where
  root := root
  accounts := accounts
  vars := vars
  files := (files.make [Path.root]).make root
  zones := zones
  settings := none
  environment := none
  calls := []
  fetchTracer := .new "proofspec.datasource" none false
  buildTracer := .new "proofspec.proofs" none false
  tracers := []
  exported := []
  definitions := []

/-- The place that a path leads to. A path that does not start at a root is taken from the working
folder. -/
def place (h : Host) (p : Path) : Path :=
  if p.head? = some Path.root ∨ p.head? = some Path.doubleRoot ∨ p.head? = h.root.head? then
    p.settled
  else h.root ++ p

def look (h : Host) (p : Path) : Folder.Found := h.files.look (h.place p)

/-- What the file at a path holds; none when there is nothing. -/
def content? (h : Host) (p : Path) : Except Failure (Option ByteArray) :=
  match h.look p with
  | .nothing => .ok none
  | .file content => .ok (some content)
  | .folder => .error (.fault .isFolder)
  | .tooLong => .error (.fault .nameTooLong)

def surroundings (h : Host) : Except Failure Surroundings :=
  match h.look [".env"] with
  | .file content =>
    match String.fromUTF8? content with
    | some s => .ok ⟨h.vars, EnvFile.bindings h.vars s⟩
    | none => .error (.fault .undecodableText)
  | _ => .ok ⟨h.vars, []⟩

def expand? (h : Host) (s : String) : Option Path :=
  h.accounts.place? (h.vars.lookup "HOME") h.root s

def readSettings (h : Host) : Except Failure Settings :=
  match h.surroundings with
  | .error e => .error e
  | .ok s => Settings.read h.expand? s

end Host

namespace Run

def lift {α : Type} : Except Failure α → Run α
  | .ok a => pure a
  | .error e => throw e

def observe {α : Type} (x : Run α) : Run (Except Failure α) := fun h =>
  let (result, h) := x h
  (.ok result, h)

def settings : Run Settings := do
  let h ← get
  match h.settings with
  | some s => pure s
  | none =>
    let s ← lift h.readSettings
    set { h with settings := some s }
    pure s

def zones : Run Calendar.Zones := (·.zones) <$> get

def environment : Run Template.Environment := do
  let h ← get
  match h.environment with
  | some env => pure env
  | none =>
    set { h with environment := some h.vars }
    pure h.vars

/-- What is known when a text is resolved; an environment and a limit may be given. -/
def templateSetting (env? : Option Template.Environment) (limit? : Option Int) :
    Run Template.Setting := do
  let env ← match env? with
    | some env => pure env
    | none => environment
  let limit ← match limit?.filter (· ≠ 0) with
    | some limit => pure limit
    | none => (·.maxPasses) <$> settings
  pure ⟨env, limit⟩

def resolve (scope : Fields) (s : String) : Run String := do
  let setting ← templateSetting none none
  lift (Template.resolve setting scope false s)

def resolveOrMissing (env? : Option Template.Environment) (limit? : Option Int) (scope : Fields)
    (suppress : Bool) (s : String) : Run (Option String) := do
  let setting ← templateSetting env? limit?
  lift (Template.resolveOrMissing setting scope suppress s)

/-- Resolve every text inside a value. Without a text neither environment nor limit is needed. -/
def resolveValue (env? : Option Template.Environment) (limit? : Option Int) (scope : Fields)
    (suppress : Bool) (v : Value) : Run Value := do
  if Template.hasText v then
    let setting ← templateSetting env? limit?
    lift (Template.resolveValue setting scope suppress v)
  else pure v

def resolveParams (env? : Option Template.Environment) (scope : Fields) :
    Option Fields → Run (Option Fields)
  | none => pure none
  | some params =>
    if params.any fun entry => entry.2.text?.isSome then do
      let setting ← templateSetting env? none
      some <$> lift (Template.resolveEntries setting scope params)
    else pure (some params)

end Run

end Dossier
