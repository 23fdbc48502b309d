import Dossier.Text.Decomposition
import Dossier.Text.CombiningMark
import Dossier.Text.CaseFolding

/-!
# Collation keys

Labels sort without regard to case and accents. The key of a text is made character by character:
decompose, drop the combining marks, fold case.
-/

set_option autoImplicit false

namespace Dossier.Text

def baseLetters (c : Char) : List Char :=
  if c.toNat < 0x80 then [c.toLower]
  else ((decompose c).filter (!isCombining ·)).flatMap foldCase

def collationKey (s : String) : String := String.ofList (s.toList.flatMap baseLetters)

/-- Key of a concatenation. -/
theorem toList_collationKey_append (s t : String) :
    (collationKey (s ++ t)).toList = (collationKey s).toList ++ (collationKey t).toList := by
  simp [collationKey]

end Dossier.Text
