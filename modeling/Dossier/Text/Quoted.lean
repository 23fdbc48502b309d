import Dossier.Text.Printable

/-!
# Quoted texts

A text inside a displayed list or object stands in single quotes, or in double quotes when it holds
a single quote and no double one. The quote in use, the backslash and the line controls are
escaped, and characters that cannot be shown are written by number.
-/

set_option autoImplicit false

namespace Dossier.Text

def hexDigits (width n : Nat) : List Char :=
  let digits := Nat.toDigits 16 n
  List.replicate (width - digits.length) '0' ++ digits

def numbered (c : Char) : List Char :=
  if c.toNat ≤ 0xFF then '\\' :: 'x' :: hexDigits 2 c.toNat
  else if c.toNat ≤ 0xFFFF then '\\' :: 'u' :: hexDigits 4 c.toNat
  else '\\' :: 'U' :: hexDigits 8 c.toNat

def quotedChar (quote c : Char) : List Char :=
  if c = quote || c = '\\' then ['\\', c]
  else if c = '\n' then ['\\', 'n']
  else if c = '\r' then ['\\', 'r']
  else if c = '\t' then ['\\', 't']
  else if isPrintable c then [c]
  else numbered c

def quoteFor (s : List Char) : Char :=
  if s.contains '\'' && !s.contains '"' then '"' else '\''

def quoted (s : String) : String :=
  let chars := s.toList
  let quote := quoteFor chars
  String.ofList (quote :: (chars.flatMap (quotedChar quote) ++ [quote]))

def escapeBeyondAscii (s : String) : String :=
  String.ofList (s.toList.flatMap fun c => if c.toNat < 0x80 then [c] else numbered c)

end Dossier.Text
