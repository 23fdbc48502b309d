/-!
# Paths

A path is a list of names; an absolute one starts with the name of its root. Written paths have no
empty parts and no single points. Exactly two slashes at the head of a written path are a root of
their own, which leads to the same place as one slash. Resolving a path against a folder removes
double points and writes its root with one slash.
-/

set_option autoImplicit false

namespace Dossier

abbrev Path := List String

namespace Path

def parts (s : String) : List String :=
  let rec cut : List Char → List (List Char)
    | [] => [[]]
    | c :: rest =>
      if c = '/' then [] :: cut rest
      else match cut rest with
        | [] => [[c]]
        | part :: more => (c :: part) :: more
  ((cut s.toList).map String.ofList).filter fun part => part != "" && part != "."

def isAbsolute (s : String) : Bool := s.toList.head? == some '/'

def root : String := ""

def doubleRoot : String := "/"

def rootOf (s : String) : String :=
  match s.toList with
  | ['/', '/'] => doubleRoot
  | '/' :: '/' :: c :: _ => if c = '/' then root else doubleRoot
  | _ => root

def text : Path → String
  | [] => "."
  | [name] => if name = root ∨ name = doubleRoot then name ++ "/" else name
  | names => String.intercalate "/" names

/-- A written path put after a folder; an absolute one stands alone. -/
def join (folder : Path) (s : String) : Path :=
  if isAbsolute s then rootOf s :: parts s else folder ++ parts s

def settled : Path → Path
  | [] => []
  | name :: names => (if name = doubleRoot then root else name) :: names

def step (folder : Path) (name : String) : Path :=
  if name = ".." then (if folder.length ≤ 1 then folder else folder.dropLast) else folder ++ [name]

def normal (p : Path) : Path :=
  match p.settled with
  | [] => []
  | first :: names => names.foldl step [first]

def parent (p : Path) : Path := if p.length ≤ 1 then p else p.dropLast

def fileName (p : Path) : String := p.getLastD ""

end Path

end Dossier
