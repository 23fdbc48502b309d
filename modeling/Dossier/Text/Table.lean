import Std.Data.HashMap

/-!
# Character tables

Properties of characters are written as lines of compact text. A range table is a list of code
points and ranges `A-B`. A mapping has entries `A:X Y`, a character and its images, and runs
`A-B:X` or `A-B/2:X`, in which every character, or every second one, moves by the same distance.
-/

set_option autoImplicit false

namespace Dossier.Text

def hexValue (c : Char) : Nat := if c ≤ '9' then c.toNat - 48 else c.toNat - 55

def readHex (s : List Char) : Nat := s.foldl (fun n c => n * 16 + hexValue c) 0

def splitAt (separator : Char) (s : List Char) : List (List Char) :=
  s.foldr (fun c parts =>
    if c = separator then [] :: parts
    else match parts with
      | [] => [[c]]
      | part :: rest => (c :: part) :: rest) [[]]

def readSpan (s : List Char) : Nat × Nat × Nat :=
  match splitAt '/' s with
  | [] => (0, 0, 1)
  | ends :: step =>
    let step := match step with
      | [] => 1
      | digits :: _ => readHex digits
    match splitAt '-' ends with
    | [first] => (readHex first, readHex first, step)
    | first :: last :: _ => (readHex first, readHex last, step)
    | [] => (0, 0, step)

def entries (data : List String) : List (List Char) :=
  data.flatMap fun line => (splitAt ';' line.toList).filter (!·.isEmpty)

def readRanges (data : List String) : Array (Nat × Nat) :=
  ((entries data).map fun s =>
    let (first, last, _) := readSpan s
    (first, last)).toArray

/-- Search a sorted table of ranges between two positions; the fuel bounds the halvings. -/
def searchRanges (ranges : Array (Nat × Nat)) (n : Nat) : Nat → Nat → Nat → Bool
  | 0, _, _ => false
  | fuel + 1, low, high =>
    if high ≤ low then false
    else
      let middle := (low + high) / 2
      match ranges[middle]? with
      | none => false
      | some (first, last) =>
        if n < first then searchRanges ranges n fuel low middle
        else if last < n then searchRanges ranges n fuel (middle + 1) high
        else true

def inRanges (ranges : Array (Nat × Nat)) (n : Nat) : Bool :=
  searchRanges ranges n (ranges.size + 1) 0 ranges.size

def readEntry (s : List Char) : List (Nat × List Char) :=
  match splitAt ':' s with
  | span :: images :: _ =>
    let (first, last, step) := readSpan span
    let images := (splitAt ' ' images).map readHex
    (List.range ((last - first) / step + 1)).map fun k =>
      (first + k * step, images.map fun x => Char.ofNat (x + k * step))
  | _ => []

def readMapping (data : List String) : Std.HashMap Nat (List Char) :=
  (entries data).foldl
    (fun table s => (readEntry s).foldl (fun table (n, image) => table.insert n image) table) ∅

end Dossier.Text
