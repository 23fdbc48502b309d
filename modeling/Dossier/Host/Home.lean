import Dossier.Host.Path

/-!
# Home folders

A relative path may start with a tilde for the user's own home or with a tilde and the name of an
account for that account's home.
-/

set_option autoImplicit false

namespace Dossier

/-- The home folders of the accounts of a system, as they are written. The first account is the one
that the program runs under. -/
abbrev Accounts := List (String × String)

namespace Accounts

/-- A home folder without slashes at its end; of slashes alone one stays. -/
def trimmed (home : String) : String :=
  let kept := (home.toList.reverse.dropWhile (· == '/')).reverse
  if kept.isEmpty then "/" else String.ofList kept

/-- The home that stands behind a tilde: of a named account, or the user's own, which a variable
may set. -/
def home? (accounts : Accounts) (own : Option String) (name : String) : Option String :=
  let own := own.or ((accounts.head?).map Prod.snd)
  (if name = "" then own else accounts.lookup name).map trimmed

/-- A written path in a folder, with a home in place of a tilde. None when there is no such home,
or when the home itself starts with a tilde. No account has a null character in its name, and a
path with such a name stays as it is. -/
def place? (accounts : Accounts) (own : Option String) (folder : Path) (s : String) :
    Option Path :=
  match Path.isAbsolute s, Path.parts s with
  | false, first :: rest =>
    match first.toList with
    | '~' :: name =>
      if name.contains '\x00' then some (Path.join folder s)
      else match accounts.home? own (String.ofList name) with
      | none => none
      | some home =>
        if home.toList.head? = some '~' then none else some (Path.join folder home ++ rest)
    | _ => some (Path.join folder s)
  | _, _ => some (Path.join folder s)

end Accounts

end Dossier
