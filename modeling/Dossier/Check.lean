import Dossier.Catalog.Basic

/-!
# Checking a configuration

The check loads everything a configuration folder holds and lists each document type with its
criteria and data set. It ends at the first configuration failure.
-/

set_option autoImplicit false

namespace Dossier.Check

open Run

structure Listing where
  lines : List String
  failure : Option Failure

structure Report where
  status : Nat
  output : List String
  errors : List String

def criteriaLines (criteria : Criteria) : List Placement → Listing
  | [] => ⟨[], none⟩
  | p :: rest =>
    if (criteria.lookup p.name).isSome then
      let more := criteriaLines criteria rest
      ⟨("     page " ++ Number.intText p.page ++ ": " ++ p.name) :: more.lines, more.failure⟩
    else ⟨[], some (.unknownCriterion p.name)⟩

def heading (c : Catalog) (key : String) (label : String) : String :=
  let category := match (c.entries.lookup key).bind (·.declaredCategory?) with
    | some s => " [" ++ s ++ "]"
    | none => ""
  "   " ++ key ++ ": " ++ label ++ category

def typeLines (c : Catalog) (criteria : Criteria) (key : String) : Run Listing := do
  match ← observe (c.definition key) with
  | .error e => pure ⟨[], some e⟩
  | .ok d =>
    let placed := criteriaLines criteria d.criteria
    match placed.failure with
    | some e => pure ⟨placed.lines, some e⟩
    | none => pure ⟨placed.lines ++ ["     dataSet: " ++ d.blueprint.dataSet], none⟩

def allLines (c : Catalog) (criteria : Criteria) : List Choice → Run Listing
  | [] => pure ⟨[], none⟩
  | choice :: rest => do
    let key := (choice.value.text?).getD ""
    let head := ["", heading c key (choice.label.getD "")]
    let own ← typeLines c criteria key
    match own.failure with
    | some e => pure ⟨head ++ own.lines, some e⟩
    | none =>
      let more ← allLines c criteria rest
      pure ⟨head ++ own.lines ++ more.lines, more.failure⟩

def folder (dir : Path) : Run (Listing × Nat) := do
  let h ← get
  match Configuration.criteria h dir with
  | .error e => pure (⟨[], some e⟩, 0)
  | .ok criteria =>
    match ← observe (Catalog.ofFolder (some dir) [] none) with
    | .error e => pure (⟨[], some e⟩, 0)
    | .ok catalog =>
      let head := ["📁 " ++ dir.text, "   Criteria fields: " ++ Number.intText criteria.length]
      match ← observe (catalog.options none .null) with
      | .error e => pure (⟨head, some e⟩, 0)
      | .ok choices =>
        let all ← allLines catalog criteria choices
        pure (⟨head ++ all.lines, all.failure⟩, catalog.entries.length)

/-- Run a part with a catalog of its own; the definitions of the open one stay as they are. -/
def withOwnCatalog {α : Type} (x : Run α) : Run α := do
  let before := (← get).definitions
  let result ← observe x
  modify fun h => { h with definitions := before }
  lift result

/-- Check the folder that is asked for, or that of the settings. A configuration failure is
reported; any other failure stays one. -/
def report (dir : Option Path) : Run Report := do
  let s ← settings
  let (listing, count) ← withOwnCatalog (folder (dir.getD s.configDir))
  match listing.failure with
  | none =>
    pure ⟨0, listing.lines ++ ["", "✅ " ++ Number.intText count ++ " proof types valid"], []⟩
  | some e =>
    if e.isConfiguration then pure ⟨1, listing.lines, ["", "❌ " ++ e.text]⟩
    else throw e

inductive Request where
  | check (dir : Option String)
  | help
  | wrong (message : String)
  deriving DecidableEq, Repr

def usage : String := "usage: dossier [-h] [--config-dir CONFIG_DIR]"

def dirOption : String := "--config-dir"

def longOption? (arg : String) : Option (Bool × Option String) :=
  let chars := arg.toList
  let name := chars.takeWhile (· != '=')
  let value := match chars.drop name.length with
    | [] => none
    | _ :: rest => some (String.ofList rest)
  if name.length ≤ 2 then none
  else if name.isPrefixOf dirOption.toList then some (true, value)
  else if name.isPrefixOf "--help".toList then some (false, value)
  else none

def isNegativeNumber (arg : String) : Bool :=
  match arg.toList with
  | '-' :: number =>
    let whole := number.takeWhile Char.isDigit
    match number.drop whole.length with
    | [] => !whole.isEmpty
    | '.' :: places => !places.isEmpty && places.all Char.isDigit
    | _ => false
  | _ => false

def isKnownOption (arg : String) : Bool :=
  (longOption? arg).isSome ||
    match arg.toList with
    | '-' :: 'c' :: _ => true
    | '-' :: 'h' :: _ => true
    | _ => false

/-- An argument that cannot be the value of an option: it starts with a minus sign and is an
option of the command, or neither a negative number nor a text with a space. -/
def isOption (arg : String) : Bool :=
  "-".toList.isPrefixOf arg.toList && arg.length > 1 &&
    (isKnownOption arg || !(isNegativeNumber arg || arg.toList.contains ' '))

def missingValue : Request := .wrong "argument --config-dir/-c: expected one argument"

/-- Read the arguments of the command line; of several folders the last counts. -/
def request (dir : Option String) (unknown : List String) : List String → Request
  | [] =>
    if unknown.isEmpty then .check dir
    else .wrong ("unrecognized arguments: " ++ String.intercalate " " unknown)
  | "-h" :: _ => .help
  | "--" :: rest =>
    .wrong ("unrecognized arguments: " ++ String.intercalate " " (unknown ++ "--" :: rest))
  | ["-c"] => missingValue
  | "-c" :: value :: rest =>
    if isOption value then missingValue else request (some value) unknown rest
  | arg :: rest =>
    match longOption? arg with
    | some (false, none) => .help
    | some (false, some value) =>
      .wrong ("argument -h/--help: ignored explicit argument " ++ Text.quoted value)
    | some (true, some value) => request (some value) unknown rest
    | some (true, none) =>
      match rest with
      | [] => missingValue
      | value :: rest =>
        if isOption value then missingValue else request (some value) unknown rest
    | none =>
      match arg.toList with
      | '-' :: 'c' :: '=' :: value => request (some (String.ofList value)) unknown rest
      | '-' :: 'c' :: value => request (some (String.ofList value)) unknown rest
      | _ => request dir (unknown ++ [arg]) rest

def helpLines : List String :=
  [usage, "", "Validate proofspec configuration", "", "options:",
    "  -h, --help            show this help message and exit",
    "  --config-dir CONFIG_DIR, -c CONFIG_DIR",
    "                        Configuration directory (default: PROOFSPEC_CONFIG_DIR)"]

def namedFolder (s : String) : Path := Path.join [] s

def command (args : List String) : Run Report :=
  match request none [] args with
  | .help => pure ⟨0, helpLines, []⟩
  | .wrong message => pure ⟨2, [], [usage, "dossier: error: " ++ message]⟩
  | .check dir => report (dir.map namedFolder)

end Dossier.Check
