import Dossier.Document.Sizing
import Dossier.Proofs.Number.Monotone
import Dossier.Proofs.Value.Entries
import Mathlib.Data.Rat.Floor

/-!
# Widths of columns

A column is as wide as its longest value, up to the limit. The length is a running maximum over the
rows, so it depends on nothing but which values the rows hold, and more rows make it no shorter. The
width for a length follows it in order, each step of the arithmetic being rounded, and for the limit
it is at most a pixel more than what exact arithmetic gives.
-/

set_option autoImplicit false

namespace Dossier.Sizing

open Number

variable {p q limit length length' : ℚ} {columns : List LayoutColumn} {rows rows' : List Fields}
  {property : String}

/-! ## Rounded steps -/

theorem nearest_error (hq : 0 ≤ q) (hmost : q ≤ 2 ^ 53) : |q - nearest q| ≤ (q + 1) / 2 ^ 53 := by
  obtain ⟨r, hr, herror⟩ := Binary.ofRat_error hq hmost
  rwa [nearest, hr, Option.getD_some]

theorem nearest_mono (hp : 0 ≤ p) (hpq : p ≤ q) (hmost : q ≤ 2 ^ 53) : nearest p ≤ nearest q := by
  obtain ⟨r, hr, -⟩ := Binary.ofRat_error hp (hpq.trans hmost)
  obtain ⟨s, hs, -⟩ := Binary.ofRat_error (hp.trans hpq) hmost
  rw [nearest, nearest, hr, hs]
  exact Binary.ofRat_mono hp hpq hmost hr hs

theorem nearest_zero : nearest 0 = 0 := by
  rw [nearest, Binary.ofRat_zero, Option.getD_some]

theorem nearest_nonneg (hq : 0 ≤ q) (hmost : q ≤ 2 ^ 53) : 0 ≤ nearest q := by
  have := nearest_mono le_rfl hq hmost
  rwa [nearest_zero] at this

/-- What a step of the arithmetic adds at most, for the sizes that are met here. -/
theorem nearest_le (hq : 0 ≤ q) (hmost : q ≤ 4096) : nearest q ≤ q + 1 / 100 := by
  have herror := (abs_le.mp (nearest_error hq (by linarith))).1
  have : (q + 1) / 2 ^ 53 ≤ (1 : ℚ) / 100 := by
    rw [div_le_div_iff₀ (by norm_num) (by norm_num)]
    norm_num
    linarith
  linarith

/-! ## Lengths -/

theorem longer_eq_max (a b : ℚ) : longer a b = max a b := by
  rw [longer, max_def]

theorem dataLength_nonneg (hlimit : 0 ≤ limit) (v : Value) : 0 ≤ dataLength limit v := by
  rw [dataLength]
  split
  · dsimp only
    split
    · positivity
    · exact hlimit
  · exact le_rfl

theorem dataLength_le (hlimit : 0 ≤ limit) (v : Value) : dataLength limit v ≤ limit := by
  rw [dataLength]
  split
  · dsimp only
    split
    · assumption
    · exact le_rfl
  · exact hlimit

/-- A running maximum is the least bound of its start and of all it has run over. -/
theorem foldl_longer_le {α : Type} (f : α → ℚ) (start : ℚ) (items : List α) (bound : ℚ) :
    items.foldl (fun longest x => longer longest (f x)) start ≤ bound ↔
      start ≤ bound ∧ ∀ x ∈ items, f x ≤ bound := by
  induction items generalizing start with
  | nil => simp
  | cons x rest ih =>
    rw [List.foldl_cons, ih, longer_eq_max, max_le_iff, List.forall_mem_cons, and_assoc]

theorem le_foldl_longer {α : Type} (f : α → ℚ) (start : ℚ) (items : List α) :
    start ≤ items.foldl (fun longest x => longer longest (f x)) start ∧
      ∀ x ∈ items, f x ≤ items.foldl (fun longest x => longer longest (f x)) start :=
  (foldl_longer_le f start items _).mp le_rfl

def Among (rows rows' : List Fields) : Prop :=
  ∀ row ∈ rows, ∃ row' ∈ rows', ∀ property, row.get property = row'.get property

/-- More rows make no length shorter. -/
theorem propertyLength_mono (h : Among rows rows') (limit : ℚ) (columns : List LayoutColumn)
    (property : String) :
    propertyLength limit columns rows property ≤ propertyLength limit columns rows' property := by
  rw [propertyLength, propertyLength]
  split
  · exact le_rfl
  · have hlongest := le_foldl_longer (fun row : Fields => dataLength limit (row.get property))
      (dataLength limit (.text (lastLabel columns property))) rows'
    rw [foldl_longer_le]
    refine ⟨hlongest.1, fun row hrow => ?_⟩
    obtain ⟨row', hrow', hget⟩ := h row hrow
    rw [hget]
    exact hlongest.2 row' hrow'

theorem propertyLength_nonneg (hlimit : 0 ≤ limit) :
    0 ≤ propertyLength limit columns rows property := by
  rw [propertyLength]
  split
  · exact le_rfl
  · exact (dataLength_nonneg hlimit _).trans (le_foldl_longer _ _ rows).1

theorem propertyLength_le (hlimit : 0 ≤ limit) :
    propertyLength limit columns rows property ≤ limit := by
  rw [propertyLength]
  split
  · exact hlimit
  · exact (foldl_longer_le _ _ rows _).mpr
      ⟨dataLength_le hlimit _, fun row _ => dataLength_le hlimit _⟩

/-! ## Widths -/

def shareWidth (count : ℕ) : ℚ := pageLength / count * columnShare + columnGap

theorem lengthLimit_bounds {count : ℕ} (hcount : 0 < count) :
    0 ≤ lengthLimit count ∧ lengthLimit count * characterWidth ≤
      shareWidth count - columnGap + 1 / 2 ∧
      shareWidth count ≤ 2812 := by
  have hone : (1 : ℚ) ≤ count := by exact_mod_cast hcount
  rw [lengthLimit, shareWidth]
  simp only [pageLength, columnShare, characterWidth, columnGap]
  push_cast
  have hshare : (0 : ℚ) ≤ 1123 / count := by positivity
  have hmost : (1123 : ℚ) / count ≤ 1123 := div_le_self (by norm_num) hone
  generalize (1123 : ℚ) / count = u at hshare hmost ⊢
  have ha := nearest_le hshare (by linarith)
  have ha0 := nearest_nonneg hshare (by linarith)
  generalize nearest u = a at ha ha0 ⊢
  have hb0 := nearest_nonneg (q := a * (5 / 2)) (by linarith) (by linarith)
  have hb := nearest_le (q := a * (5 / 2)) (by linarith) (by linarith)
  generalize nearest (a * (5 / 2)) = b at hb hb0 ⊢
  have hc0 := nearest_nonneg (q := b / (15 / 2)) (by linarith) (by linarith)
  have hc := nearest_le (q := b / (15 / 2)) (by linarith) (by linarith)
  refine ⟨hc0, ?_, ?_⟩
  · linarith
  · linarith

theorem ceil_eq (q : ℚ) : q.ceil = ⌈q⌉ :=
  eq_of_forall_ge_iff fun _ => Rat.ceil_le_iff.trans Int.ceil_le.symm

theorem columnWidth_mono (hlength : 0 ≤ length) (hle : length ≤ length') (hmost : length' ≤ 500) :
    columnWidth length ≤ columnWidth length' := by
  rw [columnWidth, columnWidth, ceil_eq, ceil_eq]
  simp only [characterWidth, columnGap]
  have hwidth := nearest_mono (p := length * (15 / 2)) (q := length' * (15 / 2)) (by linarith)
    (by linarith) (by linarith)
  have hnonneg := nearest_nonneg (q := length * (15 / 2)) (by linarith) (by linarith)
  have hmost' := nearest_le (q := length' * (15 / 2)) (by linarith) (by linarith)
  exact Int.ceil_mono (nearest_mono (by linarith) (by linarith) (by linarith))

theorem columnWidth_pos (hlength : 0 ≤ length) (hmost : length ≤ 500) : 0 < columnWidth length :=
  lt_of_lt_of_le (by decide +kernel) (columnWidth_mono le_rfl hlength hmost)

theorem columnWidth_le {count : ℕ} (hcount : 0 < count) (hlength : 0 ≤ length)
    (hmost : length ≤ lengthLimit count) : columnWidth length ≤ ⌈shareWidth count⌉ + 1 := by
  obtain ⟨-, hlimit, hshare⟩ := lengthLimit_bounds hcount
  rw [columnWidth, ceil_eq]
  simp only [characterWidth, columnGap] at hlimit ⊢
  have hnonneg := nearest_nonneg (q := length * (15 / 2)) (by linarith) (by linarith)
  have hwidth := nearest_le (q := length * (15 / 2)) (by linarith) (by linarith)
  have hgap := nearest_le (q := nearest (length * (15 / 2)) + 4) (by linarith) (by linarith)
  calc ⌈nearest (nearest (length * (15 / 2)) + 4)⌉ ≤ ⌈shareWidth count + 1⌉ :=
        Int.ceil_mono (by linarith)
    _ = ⌈shareWidth count⌉ + 1 := Int.ceil_add_one _

end Dossier.Sizing
