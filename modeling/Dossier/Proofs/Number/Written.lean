import Dossier.Number.Notation
import Dossier.Proofs.Number.Magnitude
import Dossier.Schema.Reading
import Mathlib.Tactic.FieldSimp

/-!
# What a written number denotes

A number is written as digits with perhaps a point and an exponent. The reader for numbers in texts
takes every such text back to its parts, so a text denotes one decimal. In every style the text of a
decimal denotes that decimal: moving the point and filling up with zeros change the digits and the
exponent together.
-/

set_option autoImplicit false

namespace Dossier.Number

open Text Schema

/-! ## Digits -/

section Digits

variable {s t : List Char} {c : Char}

theorem digitsValue_eq (s : List Char) : digitsValue s = Nat.ofDigitChars 10 s 0 := by
  rw [digitsValue, Nat.ofDigitChars_eq_foldl]
  congr 1
  funext n c
  rw [Nat.mul_comm]
  rfl

theorem digitsValue_append (s t : List Char) :
    digitsValue (s ++ t) = 10 ^ t.length * digitsValue s + digitsValue t := by
  rw [digitsValue_eq, digitsValue_eq, digitsValue_eq, Nat.ofDigitChars_append,
    Nat.ofDigitChars_eq_ofDigitChars_zero]

theorem digitsValue_zeros (k : ℕ) : digitsValue (List.replicate k '0') = 0 := by
  rw [digitsValue_eq, Nat.ofDigitChars_replicate_zero, Nat.mul_zero]

@[simp]
theorem digitsValue_natText (n : ℕ) : digitsValue (natText n) = n := by
  rw [digitsValue_eq, natText, Nat.ofDigitChars_ten_toDigits]

theorem digitsValue_padZeros (width : ℕ) (s : List Char) :
    digitsValue (padZeros width s) = digitsValue s := by
  rw [padZeros, digitsValue_append, digitsValue_zeros, Nat.mul_zero, Nat.zero_add]

def AllDigits (s : List Char) : Prop := ∀ c ∈ s, isDigit c = true

theorem allDigits_append : AllDigits (s ++ t) ↔ AllDigits s ∧ AllDigits t := List.forall_mem_append

theorem allDigits_zeros (k : ℕ) : AllDigits (List.replicate k '0') := by
  intro c hc
  rw [List.eq_of_mem_replicate hc]
  rfl

theorem AllDigits.subset (hs : AllDigits s) (hsub : t ⊆ s) : AllDigits t :=
  fun c hc => hs c (hsub hc)

theorem allDigits_natText (n : ℕ) : AllDigits (natText n) := by
  intro c hc
  have hdigit : c.isDigit = true := Nat.isDigit_of_mem_toDigits (by decide) (by decide) hc
  rw [Char.isDigit, Bool.and_eq_true, decide_eq_true_eq, decide_eq_true_eq] at hdigit
  rw [isDigit, Bool.and_eq_true, decide_eq_true_eq, decide_eq_true_eq]
  exact hdigit

theorem AllDigits.takeWhile (hs : AllDigits s) (ht : ∀ c ∈ t.head?, isDigit c = false) :
    (s ++ t).takeWhile isDigit = s := by
  rw [List.takeWhile_append_of_pos hs]
  cases t with
  | nil => simp
  | cons c t => rw [List.takeWhile_cons_of_neg (by simp [ht c rfl]), List.append_nil]

theorem AllDigits.dropWhile (hs : AllDigits s) (ht : ∀ c ∈ t.head?, isDigit c = false) :
    (s ++ t).dropWhile isDigit = t := by
  rw [List.dropWhile_append_of_pos hs]
  cases t with
  | nil => rfl
  | cons c t => rw [List.dropWhile_cons_of_neg (by simp [ht c rfl])]

end Digits

/-! ## Numerals -/

/-- A number as it is written: digits, perhaps more behind a point, and perhaps an exponent, which
is below zero or not. -/
structure Numeral where
  whole : List Char
  places : List Char
  power : Option (Bool × List Char)

namespace Numeral

/-- The point with the digits behind it; without digits there is no point. -/
def pointed (w : Numeral) : List Char := if w.places = [] then [] else '.' :: w.places

def marked (w : Numeral) : List Char :=
  match w.power with
  | none => []
  | some (below, digits) => 'e' :: (if below then '-' else '+') :: digits

def text (w : Numeral) : List Char := w.whole ++ (w.pointed ++ w.marked)

def exponent (w : Numeral) : ℤ :=
  match w.power with
  | none => 0
  | some (below, digits) => if below then -(digitsValue digits : ℤ) else digitsValue digits

def decimal (w : Numeral) (negative : Bool) : Decimal :=
  ⟨negative, digitsValue (w.whole ++ w.places), w.exponent - w.places.length⟩

structure Proper (w : Numeral) : Prop where
  nonempty : w.whole ≠ []
  whole : AllDigits w.whole
  places : AllDigits w.places
  power : ∀ below digits, w.power = some (below, digits) → digits ≠ [] ∧ AllDigits digits

def IsPlain (w : Numeral) : Prop := w.power = none

def IsScientific (w : Numeral) : Prop :=
  w.whole.length = 1 ∧ ∃ below k, k ≠ 0 ∧ w.power = some (below, natText k)

variable {w : Numeral}

theorem marked_head (w : Numeral) : ∀ c ∈ w.marked.head?, isDigit c = false := by
  intro c hc
  rw [marked] at hc
  split at hc
  · cases hc
  · cases hc
    rfl

theorem rest_head (w : Numeral) : ∀ c ∈ (w.pointed ++ w.marked).head?, isDigit c = false := by
  intro c hc
  rw [pointed] at hc
  split at hc
  · exact marked_head w c hc
  · cases hc
    rfl

def completed (negative : Bool) (digits places : List Char) : List Char → Option Decimal
  | [] => some ⟨negative, digitsValue (digits ++ places), 0 - places.length⟩
  | mark :: rest =>
    if mark != 'e' && mark != 'E' then none
    else
      let (below, power) := match rest with
        | '-' :: more => (true, more)
        | '+' :: more => (false, more)
        | _ => (false, rest)
      if power.isEmpty || !power.all isDigit then none
      else some ⟨negative, digitsValue (digits ++ places),
        (if below then -(digitsValue power : ℤ) else digitsValue power) - places.length⟩

theorem completed_marked (hw : w.Proper) (negative : Bool) :
    completed negative w.whole w.places w.marked = some (w.decimal negative) := by
  rw [decimal, exponent, marked]
  cases hpower : w.power with
  | none => rfl
  | some power =>
    obtain ⟨below, digits⟩ := power
    obtain ⟨hdigits, hall⟩ := hw.power below digits hpower
    have hread : (digits.isEmpty || !digits.all isDigit) = false := by
      rw [List.isEmpty_eq_false_iff.mpr hdigits, List.all_eq_true.mpr hall]
      rfl
    cases below <;> simp [completed, hread]

/-- The reader finds the decimal that is written. -/
theorem decimal?_text (hw : w.Proper) (negative : Bool) :
    decimal? negative w.text = some (w.decimal negative) := by
  have hwhole : w.text.takeWhile isDigit = w.whole := hw.whole.takeWhile (rest_head w)
  have hrest : w.text.drop w.whole.length = w.pointed ++ w.marked := List.drop_left
  have hsome : w.whole.isEmpty = false := List.isEmpty_eq_false_iff.mpr hw.nonempty
  rw [← completed_marked hw]
  simp only [decimal?, hwhole, hrest, hsome, Bool.false_and]
  rw [pointed]
  by_cases hplaces : w.places = []
  · rw [if_pos hplaces, hplaces, List.nil_append, marked]
    cases w.power with
    | none => rfl
    | some power => rfl
  · rw [if_neg hplaces, List.cons_append]
    simp only [hw.places.takeWhile (marked_head w), hw.places.dropWhile (marked_head w)]
    rw [marked]
    cases w.power with
    | none => rfl
    | some power => rfl

theorem text_ne_minus (hw : w.Proper) (rest : List Char) : w.text ≠ '-' :: rest := by
  intro htext
  obtain ⟨c, more, hwhole⟩ := List.exists_cons_of_ne_nil hw.nonempty
  have hdigit := hw.whole c (hwhole ▸ List.mem_cons_self)
  rw [text, hwhole] at htext
  cases htext
  cases hdigit

end Numeral

def denoted? (s : String) : Option ℚ :=
  match s.toList with
  | '-' :: body => (decimal? true body).map Decimal.toRat
  | body => (decimal? false body).map Decimal.toRat

def IsWritten (kind : Numeral → Prop) (s : String) : Prop :=
  ∃ (negative : Bool) (w : Numeral), w.Proper ∧ kind w ∧
    s.toList = if negative then '-' :: w.text else w.text

theorem denoted?_numeral {w : Numeral} (hw : w.Proper) {negative : Bool} {s : String}
    (hs : s.toList = if negative then '-' :: w.text else w.text) :
    denoted? s = some (w.decimal negative).toRat := by
  rw [denoted?, hs]
  cases negative with
  | true =>
    simp only [if_true]
    rw [Numeral.decimal?_text hw, Option.map_some]
  | false =>
    rw [if_neg Bool.false_ne_true]
    split
    · exact absurd ‹_› (Numeral.text_ne_minus hw _)
    · rw [Numeral.decimal?_text hw, Option.map_some]

/-! ## Decimals in a style -/

def plainNumeral (style : Style) (digits : List Char) (point : ℤ) : Numeral :=
  if (digits.length : ℤ) ≤ point then
    ⟨digits ++ List.replicate (point - digits.length).toNat '0',
      if style.keepsFraction then ['0'] else [], none⟩
  else if 0 < point then ⟨digits.take point.toNat, digits.drop point.toNat, none⟩
  else ⟨['0'], List.replicate (-point).toNat '0' ++ digits, none⟩

def scientificNumeral (style : Style) (digits : List Char) (point : ℤ) : Numeral :=
  ⟨digits.take 1, digits.drop 1,
    some (decide (point - 1 < 0), padZeros style.exponentDigits (natText (point - 1).natAbs))⟩

section Style

variable {style : Style} {digits : List Char} {point : ℤ} {x : Decimal}

theorem plainNumeral_text (hdigits : digits ≠ []) :
    (plainNumeral style digits point).text = positional style digits point := by
  simp only [plainNumeral, positional]
  split
  case isTrue =>
    cases hfraction : style.keepsFraction <;> simp [Numeral.text, Numeral.pointed, Numeral.marked]
  split
  case isTrue hpoint hpos =>
    have hrest : digits.drop point.toNat ≠ [] := by
      rw [Ne, List.drop_eq_nil_iff]
      omega
    simp [Numeral.text, Numeral.pointed, Numeral.marked, hrest]
  case isFalse =>
    simp [Numeral.text, Numeral.pointed, Numeral.marked, hdigits]

theorem plainNumeral_proper (hdigits : digits ≠ []) (hall : AllDigits digits) :
    (plainNumeral style digits point).Proper := by
  rw [plainNumeral]
  split
  case isTrue =>
    refine ⟨by simp [hdigits], allDigits_append.mpr ⟨hall, allDigits_zeros _⟩, ?_, nofun⟩
    split
    · exact allDigits_zeros 1
    · exact nofun
  split
  case isTrue hpos =>
    refine ⟨?_, hall.subset (List.take_subset _ _), hall.subset (List.drop_subset _ _), nofun⟩
    rw [Ne, List.take_eq_nil_iff]
    rintro (hzero | hempty)
    · omega
    · exact hdigits hempty
  case isFalse =>
    exact ⟨by simp, allDigits_zeros 1, allDigits_append.mpr ⟨allDigits_zeros _, hall⟩, nofun⟩

theorem scientificNumeral_text (hdigits : digits ≠ []) :
    (scientificNumeral style digits point).text = scientific style digits point := by
  match digits, hdigits with
  | [c], _ =>
    simp [scientificNumeral, Numeral.text, Numeral.pointed, Numeral.marked, scientific]
  | c :: d :: rest, _ =>
    simp [scientificNumeral, Numeral.text, Numeral.pointed, Numeral.marked, scientific]

theorem scientificNumeral_proper (hdigits : digits ≠ []) (hall : AllDigits digits) :
    (scientificNumeral style digits point).Proper := by
  refine ⟨?_, hall.subset (List.take_subset _ _), hall.subset (List.drop_subset _ _), ?_⟩
  · rw [scientificNumeral, Ne, List.take_eq_nil_iff]
    rintro (hzero | hempty)
    · cases hzero
    · exact hdigits hempty
  · intro below power hpower
    cases hpower
    refine ⟨?_, allDigits_append.mpr ⟨allDigits_zeros _, allDigits_natText _⟩⟩
    rw [padZeros, Ne, List.append_eq_nil_iff]
    exact fun hempty => Nat.toDigits_ne_nil hempty.2

theorem plainNumeral_size (negative : Bool) :
    ((plainNumeral style digits point).decimal negative).size =
      digitsValue digits * 10 ^ (point - digits.length) := by
  rw [plainNumeral]
  split
  case isTrue hpoint =>
    obtain ⟨k, hk⟩ : ∃ k : ℕ, point - digits.length = k :=
      ⟨_, (Int.toNat_of_nonneg (by omega)).symm⟩
    rw [hk, Int.toNat_natCast, Decimal.size, Numeral.decimal, zpow_natCast]
    cases style.keepsFraction with
    | false =>
      simp only [Bool.false_eq_true, if_false, List.append_nil, digitsValue_append,
        digitsValue_zeros,
        List.length_replicate, Numeral.exponent, List.length_nil]
      push_cast
      ring
    | true =>
      have hzero : digitsValue ['0'] = 0 := rfl
      simp only [if_true, digitsValue_append, digitsValue_zeros, hzero, List.length_replicate,
        Numeral.exponent, List.length_singleton]
      push_cast
      rw [zpow_neg_one]
      field_simp
      ring
  split
  case isTrue hpoint hpos =>
    have hexponent : (0 : ℤ) - ((digits.length - point.toNat : ℕ) : ℤ) = point - digits.length := by
      omega
    rw [Decimal.size, Numeral.decimal, List.take_append_drop, List.length_drop, Numeral.exponent]
    simp only [hexponent]
  case isFalse hpoint hpos =>
    have hexponent :
        (0 : ℤ) - (((-point).toNat + digits.length : ℕ) : ℤ) = point - digits.length := by
      omega
    have hzero : digitsValue ['0'] = 0 := rfl
    rw [Decimal.size, Numeral.decimal, Numeral.exponent]
    simp only [List.length_append, List.length_replicate, hexponent, digitsValue_append, hzero,
      digitsValue_zeros, mul_zero, zero_add]

theorem scientificNumeral_size (negative : Bool) (hdigits : digits ≠ []) :
    ((scientificNumeral style digits point).decimal negative).size =
      digitsValue digits * 10 ^ (point - digits.length) := by
  have hlength : 0 < digits.length := List.length_pos_of_ne_nil hdigits
  have hexponent : (scientificNumeral style digits point).exponent = point - 1 := by
    simp only [scientificNumeral, Numeral.exponent, digitsValue_padZeros, digitsValue_natText,
      decide_eq_true_eq]
    split <;> omega
  rw [Decimal.size, Numeral.decimal, hexponent]
  simp only [scientificNumeral, List.take_append_drop, List.length_drop]
  congr 2
  omega

def Style.numeral (style : Style) (x : Decimal) : Numeral :=
  if style.least ≤ x.point ∧ x.point ≤ style.most then plainNumeral style x.digits x.point
  else scientificNumeral style x.digits x.point

theorem digits_ne_nil (x : Decimal) : x.digits ≠ [] := Nat.toDigits_ne_nil

theorem numeral_text (style : Style) (x : Decimal) :
    (style.numeral x).text = style.magnitude x := by
  rw [Style.numeral, Style.magnitude]
  split
  · exact plainNumeral_text (digits_ne_nil x)
  · exact scientificNumeral_text (digits_ne_nil x)

theorem numeral_proper (style : Style) (x : Decimal) : (style.numeral x).Proper := by
  rw [Style.numeral]
  split
  · exact plainNumeral_proper (digits_ne_nil x) (allDigits_natText _)
  · exact scientificNumeral_proper (digits_ne_nil x) (allDigits_natText _)

/-- In every style the text of a decimal denotes that decimal. -/
theorem numeral_decimal (style : Style) (x : Decimal) :
    ((style.numeral x).decimal x.negative).toRat = x.toRat := by
  have hsize : digitsValue x.digits * (10 : ℚ) ^ (x.point - x.digits.length) = x.size := by
    rw [Decimal.size, show x.digits = natText x.coefficient from rfl, digitsValue_natText]
    congr 2
    rw [Decimal.point]
    exact add_sub_cancel_right _ _
  rw [Decimal.toRat_eq, Decimal.toRat_eq, ← hsize, Style.numeral]
  split
  · rw [plainNumeral_size]
    rfl
  · rw [scientificNumeral_size _ (digits_ne_nil x)]
    rfl

end Style

/-! ## Numbers -/

theorem write_text (style : Style) (negative : Bool) (m : ℕ) (e : ℤ) :
    (style.write (.finite negative m e)).toList =
      if negative then '-' :: (style.numeral (Decimal.shortest negative m e)).text
      else (style.numeral (Decimal.shortest negative m e)).text := by
  rw [Style.write, String.toList_ofList, numeral_text]

/-- In every style the text of a number denotes its shortest decimal. -/
theorem denoted?_write (style : Style) (negative : Bool) (m : ℕ) (e : ℤ) :
    denoted? (style.write (.finite negative m e)) = some (Decimal.shortest negative m e).toRat := by
  have hdecimal := numeral_decimal style (Decimal.shortest negative m e)
  rw [Decimal.shortest_negative] at hdecimal
  rw [denoted?_numeral (numeral_proper style _) (write_text style negative m e), hdecimal]

def wholeNumeral (n : ℕ) : Numeral := ⟨natText n, [], none⟩

theorem wholeNumeral_proper (n : ℕ) : (wholeNumeral n).Proper :=
  ⟨Nat.toDigits_ne_nil, allDigits_natText n, nofun, nofun⟩

theorem intText_text (n : ℤ) : (intText n).toList =
    if decide (n < 0) then '-' :: (wholeNumeral n.natAbs).text
      else (wholeNumeral n.natAbs).text := by
  have htext : (wholeNumeral n.natAbs).text = natText n.natAbs := List.append_nil _
  rw [intText, String.toList_ofList, htext]
  by_cases hn : n < 0 <;> simp [hn]

theorem denoted?_intText (n : ℤ) : denoted? (intText n) = some (n : ℚ) := by
  rw [denoted?_numeral (wholeNumeral_proper _) (intText_text n), Decimal.toRat_eq]
  have hsize : ((wholeNumeral n.natAbs).decimal (decide (n < 0))).size = (n.natAbs : ℚ) := by
    simp [Numeral.decimal, Numeral.exponent, wholeNumeral, Decimal.size]
  rw [hsize, signed, Nat.cast_natAbs]
  change some (if decide (n < 0) = true then -((|n| : ℤ) : ℚ) else ((|n| : ℤ) : ℚ)) = some (n : ℚ)
  by_cases hn : n < 0
  · simp [hn, abs_of_neg]
  · simp [hn, abs_of_nonneg (not_lt.mp hn)]

end Dossier.Number
