import Dossier.Host.Basic
import Dossier.Criterion.Basic

/-!
# Configuration files

A configuration folder holds the criteria, the listings of declared document types, their
definitions and the messages. A file of entries that is not there counts as empty. A reference to
a JSON schema is not an entry.
-/

set_option autoImplicit false

namespace Dossier.Configuration

open Schema

def criteriaFile : String := "criteriaFields.json"

def listingsFile : String := "proofTypes.json"

def messagesFile : String := "messages.json"

def definitionsFolder : String := "proofs"

def schemaKey : String := "$schema"

def entries (h : Host) (p : Path) : Except Failure Fields :=
  match h.content? p with
  | .error e => .error e
  | .ok none => .ok []
  | .ok (some content) =>
    match Folder.readJson content p with
    | .error e => .error e
    | .ok (.object fields) => .ok (Fields.erase fields schemaKey)
    | .ok _ => .error (.notAnObject p.fileName p.text)

def entry {α : Type} (read : Reader α) (name : String) (v : Value) (p : Path) :
    Except Failure α :=
  match read v with
  | .ok a => .ok a
  | .bad issues => .error (.invalidEntry name p.fileName p.text issues)

/-- Read all entries in order; the first one with issues is reported. -/
def readAll {α : Type} (read : Reader α) (p : Path) : Fields → Except Failure (List (String × α))
  | [] => .ok []
  | (name, v) :: rest =>
    match entry read name v p with
    | .error e => .error e
    | .ok a => (readAll read p rest).map ((name, a) :: ·)

def load {α : Type} (read : Reader α) (h : Host) (p : Path) : Except Failure (List (String × α)) :=
  match entries h p with
  | .error e => .error e
  | .ok fields => readAll read p fields

def criteria (h : Host) (dir : Path) : Except Failure Criteria :=
  load Criterion.read h (dir ++ [criteriaFile])

def listings (h : Host) (dir : Path) : Except Failure (List (String × Listing)) :=
  load Listing.read h (dir ++ [listingsFile])

/-- The messages; one that is no text is displayed. -/
def messages (h : Host) (dir : Path) : Except Failure Fields :=
  (entries h (dir ++ [messagesFile])).map fun fields =>
    fields.map fun (key, v) => (key, .text v.display)

def definitionPath (dir : Path) (proofType : String) : Path :=
  Path.join (dir ++ [definitionsFolder]) (proofType ++ ".json")

def definition (h : Host) (dir : Path) (proofType : String) : Except Failure Definition :=
  let p := definitionPath dir proofType
  match h.content? p with
  | .error e => .error e
  | .ok none => .error (.definitionNotFound proofType (some p.text))
  | .ok (some content) =>
    match Folder.readJson content p with
    | .error e => .error e
    | .ok (.object fields) =>
      entry Definition.read proofType (.object (Fields.erase fields schemaKey)) p
    | .ok v => entry Definition.read proofType v p

end Dossier.Configuration
