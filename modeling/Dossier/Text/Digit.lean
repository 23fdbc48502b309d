/-!
# Decimal digits

The ten digits of ASCII and the number that a row of them stands for.
-/

set_option autoImplicit false

namespace Dossier.Text

def isDigit (c : Char) : Bool := '0' ≤ c && c ≤ '9'

def digitValue (c : Char) : Nat := c.toNat - 48

def digitsValue (s : List Char) : Nat := s.foldl (fun n c => n * 10 + digitValue c) 0

def integerDigits : Nat := 4300

end Dossier.Text
