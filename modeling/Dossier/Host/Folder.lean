import Dossier.Host.Path
import Dossier.Json.Reader
import Dossier.Failure

/-!
# Files

The files and folders a host gives access to, by their paths. A folder stays when the last file in
it is deleted. A path is followed name by name through folders that exist; a name or a path that is
too long for the file system cannot be followed, and no file has a name with a null character.
-/

set_option autoImplicit false

namespace Dossier

structure Folder where
  files : List (Path × ByteArray)
  folders : List Path

namespace Folder

def empty : Folder := ⟨[], []⟩

inductive Found where
  | nothing
  | file (content : ByteArray)
  | folder
  | tooLong

def above (p : Path) : List Path := (List.range p.length).map fun k => p.take (k + 1)

def isFolder (f : Folder) (p : Path) : Bool := f.folders.contains p

def make (f : Folder) (p : Path) : Folder :=
  { f with folders := f.folders ++ (above p).filter fun q => !f.isFolder q }

def write (f : Folder) (p : Path) (content : ByteArray) : Folder :=
  let f := f.make p.dropLast
  { f with files := (f.files.filter (·.1 ≠ p)) ++ [(p, content)] }

def delete (f : Folder) (p : Path) : Folder := { f with files := f.files.filter (·.1 ≠ p) }

def nameLimit : Nat := 255

def pathLimit : Nat := 4096

def at? (f : Folder) (p : Path) : Found :=
  if f.isFolder p then .folder
  else match f.files.lookup p with
    | some content => .file content
    | none => .nothing

def follow (f : Folder) : Path → List String → Found
  | p, [] => f.at? p
  | p, name :: rest =>
    if !f.isFolder p then .nothing
    else if name.utf8ByteSize > nameLimit then .tooLong
    else f.follow (if name = ".." then p.parent else p ++ [name]) rest

def look (f : Folder) (p : Path) : Found :=
  match p with
  | [] => .nothing
  | root :: names =>
    if p.any fun name => name.toList.contains '\x00' then .nothing
    else if p.text.utf8ByteSize ≥ pathLimit then .tooLong
    else f.follow [root] names

def readJson (content : ByteArray) (p : Path) : Except Failure Value :=
  match String.fromUTF8? content with
  | none => .error (.fault .undecodableText)
  | some s =>
    match Json.read s with
    | .ok v => .ok v
    | .error .malformed => .error (.malformedFile p.fileName p.text)
    | .error .tooManyDigits => .error (.fault .tooManyDigits)
    | .error .tooDeep => .error (.fault .tooDeep)

end Folder

end Dossier
