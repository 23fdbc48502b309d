import Dossier.Json.Reader
import Mathlib.Data.List.Infix
import Mathlib.Data.List.TakeWhile

/-!
# The limits of reading JSON

A text that is no document is malformed, unless the reader meets one of its limits first. It meets
neither in a text without long rows of digits and with few opening brackets, whatever else the text
holds.
-/

set_option autoImplicit false

namespace Dossier.Json

open Text

/-! ## What is left is the end of what was given -/

theorem skipSpace_suffix (s : List Char) : skipSpace s <:+ s := List.dropWhile_suffix _

/-- What stands behind the first character that is no blank. -/
theorem behind_suffix {s rest : List Char} {c : Char} (h : skipSpace s = c :: rest) : rest <:+ s :=
  (List.suffix_cons c rest).trans (h ▸ skipSpace_suffix s)

theorem literal?_suffix {word s rest : List Char} (h : literal? word s = some rest) :
    rest <:+ s := by
  induction word generalizing s with
  | nil => exact Option.some.inj h ▸ List.suffix_refl s
  | cons c word ih =>
    cases s with
    | nil => cases h
    | cons d s =>
      by_cases hc : c = d
      · rw [literal?, if_pos hc] at h
        exact (ih h).trans (List.suffix_cons d s)
      · rw [literal?, if_neg hc] at h
        cases h

theorem hexFour?_suffix {s rest : List Char} {n : Nat} (h : hexFour? s = some (n, rest)) :
    rest <:+ s := by
  unfold hexFour? at h
  split at h
  · next a b c d tail =>
    simp only [Option.bind_eq_bind, Option.bind_eq_some_iff, Option.some.injEq, Prod.mk.injEq] at h
    obtain ⟨_, -, _, -, _, -, _, -, -, rfl⟩ := h
    exact ⟨[a, b, c, d], rfl⟩
  · cases h

theorem unicodeEscape?_suffix {s rest : List Char} {c : Char}
    (h : unicodeEscape? s = some (c, rest)) :
    rest <:+ s := by
  unfold unicodeEscape? at h
  obtain ⟨⟨first, tail⟩, hfirst, h⟩ := Option.bind_eq_some_iff.mp h
  have htail := hexFour?_suffix hfirst
  have alone (h : some (unitChar first, tail) = some (c, rest)) : rest <:+ s := by
    obtain ⟨-, rfl⟩ := Prod.mk.inj (Option.some.inj h)
    exact htail
  dsimp only at h
  split at h
  · split at h
    · next more =>
      cases hsecond : hexFour? more with
      | none =>
        rw [hsecond] at h
        exact alone h
      | some found =>
        rw [hsecond] at h
        dsimp only at h
        split at h
        · obtain ⟨-, rfl⟩ := Prod.mk.inj (Option.some.inj h)
          exact (hexFour?_suffix hsecond).trans ((List.suffix_append ['\\', 'u'] more).trans htail)
        · exact alone h
    · exact alone h
  · exact alone h

theorem stringTail?_suffix {fuel : Nat} {done s rest : List Char} {t : String}
    (h : stringTail? fuel done s = some (t, rest)) : rest <:+ s := by
  fun_induction stringTail? fuel done s with
  | case1 => cases h
  | case2 => cases h
  | case3 _ done tail =>
    obtain ⟨-, rfl⟩ := Prod.mk.inj (Option.some.inj h)
    exact List.suffix_cons _ _
  | case4 _ _ escaped _ tail hescape ih =>
    exact (ih h).trans ((unicodeEscape?_suffix hescape).trans
      (List.suffix_append ['\\', 'u'] escaped))
  | case5 => cases h
  | case6 _ _ c tail _ _ _ ih => exact (ih h).trans (List.suffix_append ['\\', c] tail)
  | case7 => cases h
  | case8 => cases h
  | case9 _ _ c tail _ _ _ _ ih => exact (ih h).trans (List.suffix_cons c tail)

theorem string_suffix {s rest : List Char} {t : String} (h : string s = .ok (t, rest)) :
    rest <:+ s := by
  unfold string at h
  split at h
  · next hfound => exact stringTail?_suffix (hfound.trans (congrArg some (Except.ok.inj h)))
  · cases h

theorem fraction_suffix (s : List Char) : (fraction s).2 <:+ s := by
  unfold fraction
  split
  · next c rest =>
    split
    · exact (List.drop_suffix _ _).trans (List.suffix_cons _ _)
    · exact List.suffix_refl _
  · exact List.suffix_refl _

theorem exponent_suffix (s : List Char) : (exponent s).2 <:+ s := by
  unfold exponent
  split
  · next mark rest =>
    split
    · split
      next negative tail hsigned =>
        have htail : tail <:+ mark :: rest := by
          split at hsigned <;> obtain ⟨-, rfl⟩ := Prod.mk.inj hsigned
          · exact List.suffix_append [mark, '+'] _
          · exact List.suffix_append [mark, '-'] _
          · exact List.suffix_cons mark _
        dsimp only
        split
        · exact List.suffix_refl _
        · exact (List.drop_suffix _ _).trans htail
    · exact List.suffix_refl _
  · exact List.suffix_refl _

theorem word?_suffix {s rest : List Char} {v : Value} (h : word? s = some (v, rest)) :
    rest <:+ s := by
  obtain ⟨⟨word, value⟩, -, h⟩ := List.exists_of_findSome?_eq_some h
  obtain ⟨tail, hword, h⟩ := Option.map_eq_some_iff.mp h
  obtain ⟨-, rfl⟩ := Prod.mk.inj h
  exact literal?_suffix hword

/-! ## Where a reading ends -/

def openings (s : List Char) : Nat := s.countP fun c => c == '[' || c == '\x7b'

def ShortRows (s : List Char) : Prop :=
  ∀ row, row <:+: s → (∀ c ∈ row, isDigit c = true) → row.length ≤ integerDigits

/-- How a reading may end with so many levels left: in front of an end of the text, or for a reason
that lies in the text. -/
def Ends {α : Type} (levels : Nat) (s : List Char) : Reading α → Prop
  | .ok (_, rest) => rest <:+ s
  | .error .malformed => True
  | .error .tooManyDigits => ¬ ShortRows s
  | .error .tooDeep => levels < openings s

theorem openings_suffix {s t : List Char} (h : t <:+ s) : openings t ≤ openings s :=
  h.sublist.countP_le

theorem ShortRows.suffix {s t : List Char} (hs : ShortRows s) (h : t <:+ s) : ShortRows t :=
  fun row hrow => hs row (hrow.trans h.isInfix)

namespace Ends

variable {α β : Type} {levels : Nat} {s t : List Char} {r : Reading α}

theorem suffix (hr : Ends levels t r) (h : t <:+ s) : Ends levels s r := by
  rcases r with (_ | _ | _) | ⟨a, rest⟩
  · trivial
  · exact fun hs => hr (hs.suffix h)
  · exact Nat.lt_of_lt_of_le hr (openings_suffix h)
  · exact List.IsSuffix.trans hr h

theorem map (f : α → β) (hr : Ends levels s r) :
    Ends levels s (r.map fun (a, rest) => (f a, rest)) := by
  rcases r with (_ | _ | _) | ⟨a, rest⟩
  · trivial
  all_goals exact hr

/-- A reading that stops where a part of it stops ends as that part does. -/
theorem stopped {e : Trouble} (hr : Ends levels s (.error e : Reading α)) :
    Ends levels s (.error e : Reading β) := by
  cases e <;> exact hr

/-- Behind an opening bracket there is one level less. -/
theorem opened {c : Char} (hc : (c == '[' || c == '\x7b') = true) (hr : Ends levels s r) :
    Ends (levels + 1) (c :: s) r := by
  rcases r with (_ | _ | _) | ⟨a, rest⟩
  · trivial
  · exact fun hs => hr (hs.suffix (List.suffix_cons c s))
  · have hcount : openings (c :: s) = openings s + 1 := List.countP_cons_of_pos hc
    have hless : levels < openings s := hr
    show levels + 1 < openings (c :: s)
    omega
  · exact List.IsSuffix.trans hr (List.suffix_cons c s)

end Ends

section Ends

variable (levels : Nat) (s : List Char)

theorem string_ends : Ends levels s (string s) := by
  cases hread : string s with
  | ok found => exact string_suffix hread
  | error e =>
    unfold string at hread
    split at hread
    · cases hread
    · cases hread
      trivial

theorem integer_ends (negative : Bool) {row rest : List Char} (hrow : row <:+: s)
    (hdigits : ∀ c ∈ row, isDigit c = true) (hrest : rest <:+ s) :
    Ends levels s ((integer negative row).map fun v => (v, rest)) := by
  unfold integer
  split
  · next hlong => exact fun hs => absurd (hs row hrow hdigits) (by omega)
  · exact hrest

theorem number_ends : Ends levels s (number s) := by
  unfold number
  split
  next negative body hsigned =>
    have hbody : body <:+ s := by
      split at hsigned <;> obtain ⟨-, rfl⟩ := Prod.mk.inj hsigned
      · exact List.suffix_cons '-' _
      · exact List.suffix_refl _
    extract_lets whole
    have hwhole : whole <+: body ∧ ∀ c ∈ whole, isDigit c = true := by
      subst whole
      split
      · exact ⟨⟨_, rfl⟩, fun c hc => List.mem_singleton.mp hc ▸ rfl⟩
      · exact ⟨List.takeWhile_prefix _, fun c hc => List.mem_takeWhile_imp hc⟩
    clear_value whole
    split
    · trivial
    · -- what follows the places and the power is an end of the text, whether or not there are any
      have htail : (fraction (body.drop whole.length)).2 <:+ s :=
        (fraction_suffix _).trans ((List.drop_suffix _ _).trans hbody)
      generalize fraction (body.drop whole.length) = found at htail
      obtain ⟨places, tail⟩ := found
      have hrest : (exponent tail).2 <:+ s := (exponent_suffix tail).trans htail
      dsimp only
      generalize exponent tail = found at hrest
      obtain ⟨power, rest⟩ := found
      dsimp only
      split
      · exact integer_ends levels s negative (hwhole.1.isInfix.trans hbody.isInfix) hwhole.2 hrest
      · exact hrest

/-! ## Values in each other -/

structure AllEnd (fuel : Nat) : Prop where
  value : ∀ levels s, Ends levels s (value fuel levels s)
  items : ∀ levels s, Ends levels s (items fuel levels s)
  entries : ∀ levels s, Ends levels s (entries fuel levels s)

theorem allEnd_zero : AllEnd 0 := ⟨fun _ _ => trivial, fun _ _ => trivial, fun _ _ => trivial⟩

variable {fuel : Nat} (h : AllEnd fuel)
include h

theorem value_ends : Ends levels s (value (fuel + 1) levels s) := by
  unfold value
  split
  · next rest => exact ((string_ends levels rest).map _).suffix (List.suffix_cons '"' rest)
  · next rest => simp [Ends, openings]
  · next rest => simp [Ends, openings]
  · next rest levels =>
    refine Ends.opened rfl ?_
    split
    · next hclosed => exact behind_suffix hclosed
    · exact ((h.items levels _).map _).suffix (skipSpace_suffix rest)
  · next rest levels =>
    refine Ends.opened rfl ?_
    split
    · next hclosed => exact behind_suffix hclosed
    · exact ((h.entries levels _).map fun all => Value.object (Fields.ofEntries all)).suffix
        (skipSpace_suffix rest)
  · split
    · next hword => exact word?_suffix hword
    · exact number_ends levels s

theorem items_ends : Ends levels s (items (fuel + 1) levels s) := by
  unfold items
  have hvalue := (h.value levels (skipSpace s)).suffix (skipSpace_suffix s)
  split
  · next hstopped =>
    rw [hstopped] at hvalue
    exact hvalue.stopped
  · next rest hread =>
    rw [hread] at hvalue
    split
    · next more hmore =>
      exact ((h.items levels more).map _).suffix ((behind_suffix hmore).trans hvalue)
    · next hclosed => exact (behind_suffix hclosed).trans hvalue
    · trivial

theorem entries_ends : Ends levels s (entries (fuel + 1) levels s) := by
  unfold entries
  split
  · next body hquote =>
    have hkey := (string_ends levels body).suffix (behind_suffix hquote)
    split
    · next hstopped =>
      rw [hstopped] at hkey
      exact hkey.stopped
    · next rest hstring =>
      rw [hstring] at hkey
      split
      · next own hcolon =>
        have hown : skipSpace own <:+ s :=
          (skipSpace_suffix own).trans ((behind_suffix hcolon).trans hkey)
        have hvalue := (h.value levels (skipSpace own)).suffix hown
        split
        · next hstopped =>
          rw [hstopped] at hvalue
          exact hvalue.stopped
        · next left hread =>
          rw [hread] at hvalue
          split
          · next more hmore =>
            exact ((h.entries levels more).map _).suffix ((behind_suffix hmore).trans hvalue)
          · next hclosed => exact (behind_suffix hclosed).trans hvalue
          · trivial
      · trivial
  · trivial

end Ends

theorem allEnd (fuel : Nat) : AllEnd fuel := by
  induction fuel with
  | zero => exact allEnd_zero
  | succ fuel ih =>
    exact ⟨fun _ _ => value_ends _ _ ih, fun _ _ => items_ends _ _ ih,
      fun _ _ => entries_ends _ _ ih⟩

/-! ## Whole documents -/

structure Moderate (s : String) : Prop where
  rows : ShortRows s.toList
  levels : openings s.toList ≤ levelLimit

/-- A moderate text holds a value, or it is malformed. -/
theorem Moderate.read {s : String} (hs : Moderate s) {e : Trouble}
    (hread : Json.read s = .error e) :
    e = .malformed := by
  have hends := ((allEnd (2 * s.toList.length + 2)).value levelLimit (skipSpace s.toList)).suffix
    (skipSpace_suffix s.toList)
  unfold Json.read at hread
  dsimp only at hread
  split at hread
  · next cause hstopped =>
    rw [hstopped] at hends
    cases hread
    cases e with
    | malformed => rfl
    | tooManyDigits => exact absurd hs.rows hends
    | tooDeep => exact absurd hs.levels (Nat.not_le.mpr hends)
  · split at hread
    · cases hread
    · cases hread
      rfl

end Dossier.Json
