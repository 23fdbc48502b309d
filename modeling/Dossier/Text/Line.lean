/-!
# Lines

The lines of a text in the sense of Unicode: besides line feed and carriage return, which together
are one line break, there are vertical tab, form feed, the information separators but the last, next
line, and the separators of lines and paragraphs. A line break at the end starts no line.
-/

set_option autoImplicit false

namespace Dossier.Text

def isLineBreak (c : Char) : Bool :=
  let n := c.toNat
  (0x0A ≤ n && n ≤ 0x0D) || (0x1C ≤ n && n ≤ 0x1E) || n == 0x85 || n == 0x2028 || n == 0x2029

def extendFirst (c : Char) : List (List Char) → List (List Char)
  | [] => [[c]]
  | line :: more => (c :: line) :: more

def lines : List Char → List (List Char)
  | [] => []
  | '\r' :: '\n' :: rest => [] :: lines rest
  | c :: rest => if isLineBreak c then [] :: lines rest else extendFirst c (lines rest)

end Dossier.Text
