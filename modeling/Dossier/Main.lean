import Dossier.Check
import Dossier.Calendar.ZoneTable

/-!
# The command line

Gathers the variables and the files that a check reads, runs the check and prints its report.
-/

set_option autoImplicit false

namespace Dossier.Main

def processVariables : IO Variables := do
  let content ← try IO.FS.readBinFile "/proc/self/environ" catch _ => pure ByteArray.empty
  let text := (String.fromUTF8? content).getD ""
  pure ((text.splitOn "\x00").filterMap fun line =>
    match line.splitOn "=" with
    | name :: value :: more => some (name, String.intercalate "=" (value :: more))
    | _ => none)

/-- The lines of a file of the system; none if it cannot be read. -/
def systemLines (name : String) : IO (List String) := do
  let content ← try IO.FS.readBinFile name catch _ => pure ByteArray.empty
  pure (((String.fromUTF8? content).getD "").splitOn "\n")

def systemAccounts : IO Accounts := do
  let status ← systemLines "/proc/self/status"
  let own := status.findSome? fun line =>
    match line.splitOn "\t" with
    | "Uid:" :: id :: _ => some id
    | _ => none
  let entries := (← systemLines "/etc/passwd").filterMap fun line =>
    match line.splitOn ":" with
    | [name, _, id, _, _, home, _] => some (id, name, home)
    | _ => none
  let (first, others) := entries.partition fun entry => some entry.1 == own
  pure ((first ++ others).map Prod.snd)

def withFile (files : Folder) (p : Path) : IO Folder := do
  try
    let content ← IO.FS.readBinFile p.text
    pure (files.write p content)
  catch
    | .inappropriateType .. => pure (files.make p)
    | _ => pure files

def withFolder (h : Host) (dir : Path) : IO Host := do
  let place := h.place dir
  let fixed := [Configuration.criteriaFile, Configuration.listingsFile, Configuration.messagesFile]
  let mut files := h.files
  for name in fixed do
    files ← withFile files (place ++ [name])
  match Configuration.listings { h with files := files } place with
  | .error _ => pure ()
  | .ok listings =>
    for (key, _) in listings do
      files ← withFile files (Configuration.definitionPath place key)
  pure { h with files := files }

def host (args : List String) : IO Host := do
  let root := Path.join [] (toString (← IO.currentDir))
  let files ← withFile .empty (root ++ [".env"])
  let h := Host.start root (← systemAccounts) (← processVariables) files .table
  let dir := match Check.request none [] args, h.readSettings with
    | .check (some s), _ => some (Check.namedFolder s)
    | .check none, .ok s => some s.configDir
    | _, _ => none
  match dir with
  | none => pure h
  | some dir => withFolder h dir

end Dossier.Main

def main (args : List String) : IO UInt32 := do
  let h ← Dossier.Main.host args
  match (Dossier.Check.command args h).1 with
  | .ok report =>
    for line in report.output do
      IO.println line
    for line in report.errors do
      IO.eprintln line
    pure report.status.toUInt32
  | .error e =>
    IO.eprintln (Dossier.Run.errorLine e)
    pure 1
