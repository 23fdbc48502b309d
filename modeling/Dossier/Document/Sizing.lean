import Dossier.Document.Basic
import Dossier.Value.Display

/-!
# Sizing a layout

Each column is made as wide as the longest value it holds, up to a limit that depends on the number
of columns; columns without a label are not sized from their values. Columns of one property share
a width. From the sum of the widths follow the orientation and the zoom with which the table fits
a page. Every step of the arithmetic is rounded to a binary number.
-/

set_option autoImplicit false

namespace Dossier.Sizing

open Number

def nearest (q : Rat) : Rat := ((Binary.ofRat q).toRat?).getD q

def pageWidth : Int := 794

def pageLength : Int := 1123

def characterWidth : Rat := 15 / 2

def columnGap : Rat := 4

def columnShare : Rat := 5 / 2

def defaultMaxZoom : Binary := .ofQuotient false 3 4

def lengthLimit (columns : Nat) : Rat :=
  nearest (nearest (nearest (pageLength / columns) * columnShare) / characterWidth)

/-- The length of a value; an empty one has none. -/
def dataLength (limit : Rat) (v : Value) : Rat :=
  if v.isTruthy then
    let length : Rat := v.display.length
    if length ≤ limit then length else limit
  else 0

def longer (a b : Rat) : Rat := if a ≤ b then b else a

def columnWidth (length : Rat) : Int :=
  (nearest (nearest (length * characterWidth) + columnGap)).ceil

def lastLabel (columns : List LayoutColumn) (property : String) : String :=
  match columns.reverse.find? (·.property == property) with
  | some c => c.label
  | none => ""

def propertyLength (limit : Rat) (columns : List LayoutColumn) (rows : List Fields)
    (property : String) : Rat :=
  let label := dataLength limit (.text (lastLabel columns property))
  if label = 0 then 0
  else rows.foldl (fun longest row => longer longest (dataLength limit (row.get property))) label

def properties (columns : List LayoutColumn) : List String :=
  (columns.map (·.property)).eraseDups

structure Sized where
  columns : List LayoutColumn
  orientation : Orientation
  zoom : Binary
  deriving Repr

def fittingZoom (width : Int) : Binary :=
  if width < pageLength then Contents.fullSize else Binary.ofRat (pageLength / width)

/-- The greater of two numbers; the first one when they have no order. -/
def larger (x y : Binary) : Binary := if Binary.compare? x y = some .lt then y else x

def size (columns : List LayoutColumn) (rows : List Fields) (maxZoom : Binary) : Sized :=
  if columns.isEmpty then ⟨[], .portrait, Contents.fullSize⟩
  else
    let limit := lengthLimit columns.length
    let width (property : String) : Int :=
      columnWidth (propertyLength limit columns rows property)
    let total := ((properties columns).map width).foldl (· + ·) 0
    let sized := columns.map fun c => { c with width := some (intText (width c.property) ++ "px") }
    ⟨sized, if total ≤ pageWidth then .portrait else .landscape,
      larger (fittingZoom total) maxZoom⟩

end Dossier.Sizing
