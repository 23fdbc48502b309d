import Dossier.Text.Blank

/-!
# Environment files

A file of bindings, each a key alone or `KEY=VALUE` on a line, with an `export` before it and a
comment after it as one likes. A value in quotes may span lines. A line that is no binding is
passed over, and reading goes on behind it. When all bindings are read, references such as
`${NAME}` and `${NAME:-default}` in their values are replaced, in order, by what the earlier
bindings and the variables of the process say.

Every binding and every line passed over takes at least one character, and so does every reference;
the fuel is the length of the text.
-/

set_option autoImplicit false

namespace Dossier

abbrev Variables := List (String × String)

namespace EnvFile

/-- Keys with their values; a key that stands alone has none. -/
abbrev Bindings := List (String × Option String)

def Bindings.put : Bindings → String → Option String → Bindings
  | [], key, value => [(key, value)]
  | (k, v) :: rest, key, value =>
    if k = key then (k, value) :: rest else (k, v) :: put rest key value

/-! ## Lines -/

def unified : List Char → List Char
  | [] => []
  | '\r' :: '\n' :: rest => '\n' :: unified rest
  | '\r' :: rest => '\n' :: unified rest
  | c :: rest => c :: unified rest

def withoutMark : List Char → List Char
  | '\uFEFF' :: rest => rest
  | s => s

def isGap (c : Char) : Bool := Text.isBlank c && c != '\n'

def skipGap (s : List Char) : List Char := s.dropWhile isGap

def restOfLine (s : List Char) : List Char := s.takeWhile (· != '\n')

def afterLine (s : List Char) : List Char := (s.dropWhile (· != '\n')).drop 1

def skipComment (s : List Char) : List Char :=
  match skipGap s with
  | '#' :: rest => rest.dropWhile (· != '\n')
  | _ => s

/-- What follows the end of a line; none when something else stands before it. -/
def endOfLine? (s : List Char) : Option (List Char) :=
  match skipGap s with
  | [] => some []
  | '\n' :: rest => some rest
  | _ => none

/-! ## Keys and values -/

def skipExport (s : List Char) : List Char :=
  let word := "export".toList
  let rest := s.drop word.length
  if word.isPrefixOf s && (rest.head?.any isGap) then skipGap rest else s

def key? (s : List Char) : Option (List Char × List Char) :=
  let (key, rest) := match s with
    | '\'' :: inside =>
      let key := inside.takeWhile (· != '\'')
      match inside.drop key.length with
      | '\'' :: rest => (key, rest)
      | _ => ([], s)
    | _ =>
      let key := s.takeWhile fun c => c != '=' && c != '#' && !Text.isBlank c
      (key, s.drop key.length)
  if key.isEmpty then none else some (key, rest)

/-- The inside of a quoted text, as it is written, and what follows the closing quote. A backslash
takes the next character with it. -/
def inside? (quote : Char) : List Char → Option (List Char × List Char)
  | [] => none
  | ['\\'] => none
  | '\\' :: c :: rest => (inside? quote rest).map fun (s, after) => ('\\' :: c :: s, after)
  | c :: rest =>
    if c = quote then some ([], rest)
    else (inside? quote rest).map fun (s, after) => (c :: s, after)

def escaped? (quote : Char) : Char → Option Char
  | '\\' => some '\\'
  | '\'' => some '\''
  | c =>
    if quote = '\'' then none
    else match c with
      | '"' => some '"'
      | 'a' => some '\x07'
      | 'b' => some '\x08'
      | 'f' => some '\x0c'
      | 'n' => some '\n'
      | 'r' => some '\r'
      | 't' => some '\t'
      | 'v' => some '\x0b'
      | _ => none

/-- A quoted text with its escapes restored; a backslash before anything else stays. -/
def restored (quote : Char) : List Char → List Char
  | '\\' :: c :: rest =>
    match escaped? quote c with
    | some d => d :: restored quote rest
    | none => '\\' :: c :: restored quote rest
  | c :: rest => c :: restored quote rest
  | [] => []

def beforeComment : List Char → List Char
  | [] => []
  | c :: rest =>
    if Text.isBlank c && rest.head? == some '#' then [] else c :: beforeComment rest

def trimEnd (s : List Char) : List Char := (s.reverse.dropWhile Text.isBlank).reverse

/-- The value at the head of a text and what follows it; none for an open quote. -/
def value? (s : List Char) : Option (List Char × List Char) :=
  match s with
  | '\'' :: rest => (inside? '\'' rest).map fun (v, after) => (restored '\'' v, after)
  | '"' :: rest => (inside? '"' rest).map fun (v, after) => (restored '"' v, after)
  | _ =>
    let line := restOfLine s
    some (trimEnd (beforeComment line), s.drop line.length)

/-! ## Bindings -/

/-- What stands on a line: perhaps a binding, and the text behind it; or the place from which the
rest of the line is passed over. -/
inductive Line where
  | read (binding : Option (String × Option String)) (rest : List Char)
  | stuck (rest : List Char)

def Line.close (binding : Option (String × Option String)) (s : List Char) : Line :=
  let s := skipComment s
  match endOfLine? s with
  | some rest => .read binding rest
  | none => .stuck s

def Line.ofText (s : List Char) : Line :=
  let s := skipExport s
  match s with
  | '#' :: _ => .close none s
  | _ =>
    match key? s with
    | none => .stuck s
    | some (key, rest) =>
      match skipGap rest with
      | '=' :: rest =>
        let rest := skipGap rest
        match value? rest with
        | none => .stuck rest
        | some (v, rest) => .close (some (String.ofList key, some (String.ofList v))) rest
      | rest => .close (some (String.ofList key, none)) rest

def written : Nat → List Char → Bindings
  | 0, _ => []
  | fuel + 1, s =>
    match s.dropWhile Text.isBlank with
    | [] => []
    | s =>
      match Line.ofText s with
      | .read binding rest => binding.toList ++ written fuel rest
      | .stuck rest => written fuel (afterLine rest)

/-! ## References -/

def reference? (s : List Char) : Option (String × String × List Char) :=
  let name := s.takeWhile fun c => c != '\x7d' && c != ':'
  match s.drop name.length with
  | '\x7d' :: rest => some (String.ofList name, "", rest)
  | ':' :: '-' :: rest =>
    let default := rest.takeWhile (· != '\x7d')
    match rest.drop default.length with
    | '\x7d' :: rest => some (String.ofList name, String.ofList default, rest)
    | _ => none
  | _ => none

/-- What a name stands for: its binding, which without a value is empty, or else the variable of
the process. -/
def meaning? (vars : Variables) (known : Bindings) (name : String) : Option String :=
  match known.lookup name with
  | some value => some (value.getD "")
  | none => vars.lookup name

def expanded (meaning? : String → Option String) : Nat → List Char → List Char
  | 0, s => s
  | _ + 1, [] => []
  | fuel + 1, '$' :: '\x7b' :: body =>
    match reference? body with
    | some (name, default, after) =>
      ((meaning? name).getD default).toList ++ expanded meaning? fuel after
    | none => '$' :: '\x7b' :: expanded meaning? fuel body
  | fuel + 1, c :: rest => c :: expanded meaning? fuel rest

/-- Replace the references in every value; a value sees the bindings before it. -/
def settled (vars : Variables) (known : Bindings) : Bindings → Bindings
  | [] => known
  | (key, value) :: rest =>
    let value := value.map fun s =>
      String.ofList (expanded (meaning? vars known) s.length s.toList)
    settled vars (known.put key value) rest

def bindings (vars : Variables) (s : String) : Bindings :=
  let chars := withoutMark (unified s.toList)
  settled vars [] (written (chars.length + 1) chars)

end EnvFile

end Dossier
