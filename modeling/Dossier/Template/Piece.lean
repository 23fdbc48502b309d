/-!
# Placeholders in a text

A placeholder is two opening braces, the shortest text without a line break, and two closing
braces. A text is read from the left: where two opening braces have no matching close, the first
of them is plain text. The pieces of a text, put one after the other, are the text.
-/

set_option autoImplicit false

namespace Dossier.Template

def startsTwice (c : Char) (s : List Char) : Bool :=
  s.head? == some c && s.tail.head? == some c

theorem eq_of_startsTwice {c : Char} {s : List Char} (h : startsTwice c s = true) :
    s = c :: c :: s.drop 2 := by
  match s, h with
  | [], h => simp [startsTwice] at h
  | [_], h => simp [startsTwice] at h
  | a :: b :: rest, h =>
    simp only [startsTwice, List.head?_cons, List.tail_cons, Bool.and_eq_true, beq_iff_eq,
      Option.some.injEq] at h
    simp [h.1, h.2]

/-- The text up to the first two closing braces, and what follows them. There is none when a line
break or the end comes first. -/
def closing : List Char → Option (List Char × List Char)
  | [] => none
  | c :: rest =>
    if startsTwice '\x7d' (c :: rest) then some ([], rest.drop 1)
    else if c = '\n' then none
    else (closing rest).map fun (body, after) => (c :: body, after)

/-- Splitting at the close loses nothing. -/
theorem closing_text {s body after : List Char} (h : closing s = some (body, after)) :
    s = body ++ '\x7d' :: '\x7d' :: after := by
  induction s generalizing body after with
  | nil => simp [closing] at h
  | cons c rest ih =>
    rw [closing] at h
    split at h
    · next hs =>
      simp only [Option.some.injEq, Prod.mk.injEq] at h
      obtain ⟨rfl, rfl⟩ := h
      have := eq_of_startsTwice hs
      simpa using this
    · split at h
      · simp at h
      · obtain ⟨⟨b, a⟩, hb, he⟩ := Option.map_eq_some_iff.1 h
        simp only [Prod.mk.injEq] at he
        obtain ⟨rfl, rfl⟩ := he
        simp [ih hb]

theorem closing_length {s body after : List Char} (h : closing s = some (body, after)) :
    after.length < s.length := by
  rw [closing_text h]
  simp only [List.length_append, List.length_cons]
  omega

inductive Piece where
  | plain (c : Char)
  | placeholder (body : List Char)
  deriving DecidableEq, Repr

def opening (s : List Char) : Option (List Char × List Char) :=
  if startsTwice '\x7b' s then closing (s.drop 2) else none

theorem opening_length {s body after : List Char} (h : opening s = some (body, after)) :
    after.length < s.length := by
  rw [opening] at h
  split at h
  · have := closing_length h
    simp only [List.length_drop] at this
    omega
  · simp at h

def pieces (s : List Char) : List Piece :=
  match s with
  | [] => []
  | c :: rest =>
    match _h : opening (c :: rest) with
    | some (body, after) => .placeholder body :: pieces after
    | none => .plain c :: pieces rest
termination_by s.length
decreasing_by
  · exact opening_length _h
  · simp only [List.length_cons]; omega

def wrap (body : List Char) : List Char := '\x7b' :: '\x7b' :: (body ++ ['\x7d', '\x7d'])

namespace Piece

def text : Piece → List Char
  | .plain c => [c]
  | .placeholder body => wrap body

def body? : Piece → Option (List Char)
  | .plain _ => none
  | .placeholder body => some body

end Piece

def placeholders (s : List Char) : List (List Char) := (pieces s).filterMap Piece.body?

def contains (s : String) : Bool := !(placeholders s.toList).isEmpty

theorem opening_text {s body after : List Char} (h : opening s = some (body, after)) :
    s = wrap body ++ after := by
  rw [opening] at h
  split at h
  · next hs =>
    have h1 := eq_of_startsTwice hs
    have h2 := closing_text h
    rw [h1, h2]
    simp [wrap]
  · simp at h

/-- The pieces of a text are the text. -/
theorem pieces_text (s : List Char) : (pieces s).flatMap Piece.text = s := by
  induction s using pieces.induct with
  | case1 => simp [pieces]
  | case2 c rest body after h ih =>
    rw [pieces]
    split
    · next h' =>
      rw [h] at h'
      simp only [Option.some.injEq, Prod.mk.injEq] at h'
      obtain ⟨rfl, rfl⟩ := h'
      simp [Piece.text, ih, opening_text h]
    · next h' => simp [h] at h'
  | case3 c rest h ih =>
    rw [pieces]
    split
    · next h' => simp [h] at h'
    · simp [Piece.text, ih]

end Dossier.Template
