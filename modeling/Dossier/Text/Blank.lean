/-!
# Blank characters

White space in the sense of Unicode, and the blanks, which are white space and the four
information separators. Trimming a text drops them from both ends.
-/

set_option autoImplicit false

namespace Dossier.Text

def isSpace (c : Char) : Bool :=
  let n := c.toNat
  (0x09 ≤ n && n ≤ 0x0D) || n == 0x20 || n == 0x85 || n == 0xA0 || n == 0x1680 ||
    (0x2000 ≤ n && n ≤ 0x200A) || n == 0x2028 || n == 0x2029 || n == 0x202F || n == 0x205F ||
    n == 0x3000

def isBlank (c : Char) : Bool := isSpace c || (0x1C ≤ c.toNat && c.toNat ≤ 0x1F)

def trimBy (drop : Char → Bool) (s : List Char) : List Char :=
  ((s.dropWhile drop).reverse.dropWhile drop).reverse

def trim (s : List Char) : List Char := trimBy isBlank s

/-- A trimmed text is empty exactly when every character is blank. -/
theorem trim_eq_nil_iff (s : List Char) : trim s = [] ↔ ∀ c ∈ s, isBlank c = true := by
  have tail (t : List Char) : t.dropWhile isBlank = [] ↔ ∀ c ∈ t, isBlank c = true := by
    induction t with
    | nil => simp
    | cons c t ih => by_cases h : isBlank c = true <;> simp [h, ih]
  constructor
  · intro h
    rw [trim, trimBy, List.reverse_eq_nil_iff, tail] at h
    cases hd : s.dropWhile isBlank with
    | nil => exact (tail s).1 hd
    | cons c t =>
      have hc : isBlank c = true := h c (by simp [hd])
      have : isBlank c = false := by
        have := List.head?_dropWhile_not isBlank s
        simpa [hd] using this
      simp [hc] at this
  · intro h
    simp [trim, trimBy, (tail s).2 h]

end Dossier.Text
