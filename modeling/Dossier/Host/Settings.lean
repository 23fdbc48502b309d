import Dossier.Schema.Reading
import Dossier.Json.Reader
import Dossier.Host.Home
import Dossier.Host.Variables
import Dossier.Failure

/-!
# Settings

Settings come in groups, which are read one after the other. Each setting of a group has a variable
of its own. A group may also be given as a whole, as a JSON object in a variable of the group's
name; its entries go before the variables.

The issues of groups given as a whole are collected, under the names of the groups. A group that is
not given ends the reading when it has issues, and only its own are reported.
-/

set_option autoImplicit false

namespace Dossier

open Schema

inductive LogLevel where
  | debug
  | info
  | warning
  | error
  deriving DecidableEq, Repr, Inhabited

namespace LogLevel

def name : LogLevel → String
  | .debug => "DEBUG"
  | .info => "INFO"
  | .warning => "WARNING"
  | .error => "ERROR"

def options : List (String × LogLevel) :=
  [.debug, .info, .warning, .error].map fun l => (l.name, l)

end LogLevel

inductive LogFormat where
  | json
  | text
  deriving DecidableEq, Repr, Inhabited

namespace LogFormat

def name : LogFormat → String
  | .json => "json"
  | .text => "text"

def options : List (String × LogFormat) := [("json", .json), ("text", .text)]

end LogFormat

structure Settings where
  configDir : Path
  connectorName : String
  integrationType : String
  maxPasses : Int
  maxPages : Int
  defaultTimeZone : String
  logLevel : LogLevel
  logFormat : LogFormat
  debug : Bool
  deriving Repr, Inhabited

namespace Settings

structure Sources where
  entries : Fields
  surroundings : Surroundings
  deriving Inhabited

def Sources.value? (s : Sources) (name : String) : Option Value :=
  (lastNamed? s.entries name).or ((s.surroundings.valueOf? name).map .text)

def setting {α : Type} (s : Sources) (name : String) (default : α) (read : Reader α) : Checked α :=
  match s.value? name with
  | none => .ok default
  | some v => (read v).under (.key name)

def literal {α : Type} (options : List (String × α)) : Reader α
  | .text s =>
    match options.lookup s with
    | some a => .ok a
    | none => .fail (.notLiteral (options.map Prod.fst))
  | _ => .fail (.notLiteral (options.map Prod.fst))

abbrev Outcome (α : Type) := Except Failure (Checked α)

structure Group (α : Type) where
  name : String
  record : String
  read : Sources → Outcome α

/-- A group given as a whole, from the process and from the environment file. The entries of the
process come last and so go before those of the file. -/
def given? (s : Surroundings) (name : String) : Except Failure (Option Value) :=
  let parse (text : Option String) : Except Failure (Option Value) :=
    match text with
    | none => .ok none
    | some t =>
      match Json.read t with
      | .ok .null => .ok none
      | .ok v => .ok (some v)
      | .error .tooDeep => .error (.fault .tooDeep)
      | .error _ => .error (.fault .malformedSetting)
  match parse (lastNamed? s.process name), parse (s.filed? name) with
  | .error e, _ => .error e
  | _, .error e => .error e
  | .ok (some (.object own)), .ok (some (.object filed)) => .ok (some (.object (filed ++ own)))
  | .ok own, .ok filed => .ok (own.or filed)

def Group.readGiven {α : Type} (g : Group α) (s : Surroundings) (given : Option Value) :
    Outcome α :=
  match given with
  | none =>
    match g.read ⟨[], s⟩ with
    | .error e => .error e
    | .ok (.ok a) => .ok (.ok a)
    | .ok (.bad issues) => .error (.invalid issues)
  | some (.object entries) => (g.read ⟨entries, s⟩).map (Checked.under (.key g.name))
  | some _ => .ok ((Checked.fail (.notRecord g.record)).under (.key g.name))

/-! ## Groups -/

/-- A folder without double points. A written path is first put into the working folder or into a
home, unless there is no such home. -/
def folder (home : String → Option Path) : Value → Outcome Path
  | .text s =>
    match home s with
    | none => .error (.fault .noHome)
    | some p =>
      if s.toList.contains '\x00' then .ok (.fail .nullCharacter) else .ok (.ok p.normal)
  | _ => .error (.fault .notAPath)

def engine (home : String → Option Path) : Group (Path × String × String) where
  name := "engine"
  record := "EngineSettings"
  read s :=
    let name := "PROOFSPEC_CONFIG_DIR"
    (folder home ((s.value? name).getD (.text "json"))).map fun dir =>
      (fun dir connector integration => (dir, connector, integration))
        <$> dir.under (.key name)
        <*> setting s "PROOFSPEC_CONNECTOR_NAME" "proofspec" text
        <*> setting s "INTEGRATION_TYPE" "" text

def tokens : Group Int where
  name := "tokens"
  record := "TokenSettings"
  read s := .ok (setting s "PROOFSPEC_TOKEN_MAX_PASSES" 32 (wholeBetween 1 1000))

def pagination : Group Int where
  name := "pagination"
  record := "PaginationSettings"
  read s := .ok (setting s "PROOFSPEC_MAX_PAGES" 500 (wholeFrom 1))

def localization : Group String where
  name := "localization"
  record := "LocalizationSettings"
  read s := .ok (setting s "PROOFSPEC_DEFAULT_TIME_ZONE" "UTC" text)

def logging : Group (LogLevel × LogFormat) where
  name := "logging"
  record := "LoggingSettings"
  read s := .ok ((fun level format => (level, format))
    <$> setting s "LOG_LEVEL" .info (literal LogLevel.options)
    <*> setting s "LOG_FORMAT" .json (literal LogFormat.options))

def features : Group Bool where
  name := "features"
  record := "FeatureFlags"
  read s := .ok (setting s "PROOFSPEC_DEBUG" false flag)

/-- Read all settings, group by group. Every group given as a whole is JSON before any is read. -/
def read (home : String → Option Path) (s : Surroundings) : Except Failure Settings :=
  do
  let engine := engine home
  let givenEngine ← given? s engine.name
  let givenTokens ← given? s tokens.name
  let givenPagination ← given? s pagination.name
  let givenLocalization ← given? s localization.name
  let givenLogging ← given? s logging.name
  let givenFeatures ← given? s features.name
  let engine ← engine.readGiven s givenEngine
  let tokens ← tokens.readGiven s givenTokens
  let pagination ← pagination.readGiven s givenPagination
  let localization ← localization.readGiven s givenLocalization
  let logging ← logging.readGiven s givenLogging
  let features ← features.readGiven s givenFeatures
  let all : Checked Settings :=
    (fun (dir, connector, integration) passes pages zone (level, format) debug =>
      ⟨dir, connector, integration, passes, pages, zone, level, format, debug⟩)
    <$> engine <*> tokens <*> pagination <*> localization <*> logging <*> features
  match all with
  | .ok settings => pure settings
  | .bad issues => throw (.invalid issues)

def tracePath (s : Settings) : Path := s.configDir.parent ++ ["traces"]

end Settings

end Dossier
