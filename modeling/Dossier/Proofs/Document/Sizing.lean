import Dossier.Proofs.Document.Widths
import Dossier.Proofs.Number.Written
import Mathlib.Data.List.Perm.Basic

/-!
# Sized layouts

The widths written on the columns say how wide a table is. The page and the zoom are taken from a
sum in which every property counts once, so they go with the table's width when no property repeats.
More rows make no column narrower, turn no page back and enlarge no zoom.
-/

set_option autoImplicit false

namespace Dossier.Sizing

open Number Text

/-! ## Numbers in order -/

section Compared

variable {x y z : Binary} {p q : ℚ}

theorem compare?_of_toRat? (hx : x.toRat? = some p) (hy : y.toRat? = some q) :
    Binary.compare? x y = some (if p < q then .lt else if q < p then .gt else .eq) := by
  cases x <;> cases hx
  cases y <;> cases hy
  rfl

def AtMost (x y : Binary) : Prop := Binary.compare? x y = some .lt ∨ Binary.compare? x y = some .eq

theorem atMost_of_toRat? (hx : x.toRat? = some p) (hy : y.toRat? = some q) :
    AtMost x y ↔ p ≤ q := by
  rw [AtMost, compare?_of_toRat? hx hy]
  rcases lt_trichotomy p q with hlt | rfl | hlt
  · simp [hlt, hlt.le]
  · simp
  · simp [hlt, hlt.not_gt, hlt.not_ge]

theorem compare?_eq_iff (hx : x.toRat? = some p) (hy : y.toRat? = some q) :
    Binary.compare? x y = some .eq ↔ p = q := by
  rw [compare?_of_toRat? hx hy]
  rcases lt_trichotomy p q with hlt | rfl | hlt
  · simp [hlt, hlt.ne]
  · simp
  · simp [hlt, hlt.not_gt, hlt.ne']

theorem compare?_self_ne (x : Binary) : Binary.compare? x x ≠ some .lt := by
  cases x with
  | nan => simp [Binary.compare?]
  | infinite s => cases s <;> decide
  | finite s m e =>
    obtain ⟨p, hp⟩ : ∃ p, (Binary.finite s m e).toRat? = some p := ⟨_, rfl⟩
    rw [compare?_of_toRat? hp hp]
    simp

/-- The greater of two numbers is not less than the second one. -/
theorem larger_not_lt (x y : Binary) : Binary.compare? (larger x y) y ≠ some .lt := by
  rw [larger]
  split
  · exact compare?_self_ne y
  · assumption

theorem larger_toRat? (hx : x.toRat? = some p) (hy : y.toRat? = some q) :
    (larger x y).toRat? = some (max p q) := by
  rw [larger, compare?_of_toRat? hx hy]
  rcases lt_trichotomy p q with hlt | rfl | hlt
  · simp [hlt, hy, hlt.le]
  · simp [hx]
  · simp [hlt.not_gt, hlt, hx, hlt.le]

/-- A number that is not finite is the greater one by its sign, whatever the finite one. -/
theorem larger_infinite (hx : x.toRat? = some p) (negative : Bool) :
    larger x (.infinite negative) = if negative then x else .infinite negative := by
  cases x <;> cases hx
  cases negative <;> rfl

theorem larger_nan (hx : x.toRat? = some p) : larger x .nan = x := by
  cases x <;> cases hx
  rfl

/-- The greater of two numbers follows the first one in order. -/
theorem larger_mono {x' : Binary} {p' : ℚ} (hx : x.toRat? = some p) (hx' : x'.toRat? = some p')
    (hle : p ≤ p') (y : Binary) : AtMost (larger x y) (larger x' y) := by
  have hself : AtMost x x' := (atMost_of_toRat? hx hx').mpr hle
  cases y with
  | nan => rwa [larger_nan hx, larger_nan hx']
  | infinite negative =>
    rw [larger_infinite hx, larger_infinite hx']
    cases negative
    · exact .inr rfl
    · exact hself
  | finite s m e =>
    obtain ⟨q, hq⟩ : ∃ q, (Binary.finite s m e).toRat? = some q := ⟨_, rfl⟩
    rw [atMost_of_toRat? (larger_toRat? hx hq) (larger_toRat? hx' hq)]
    exact max_le_max_right q hle

/-- Two numbers become the same by the greater of them and a third when the third is no less than
both. -/
theorem larger_same_iff {x' : Binary} {p' : ℚ} (hx : x.toRat? = some p) (hx' : x'.toRat? = some p')
    (hle : p' ≤ p) (y : Binary) :
    Binary.compare? (larger x y) (larger x' y) = some .eq ↔ p = p' ∨ AtMost x y := by
  have hself : Binary.compare? x x' = some .eq ↔ p = p' := compare?_eq_iff hx hx'
  cases y with
  | nan =>
    have hnone : ¬ AtMost x .nan := by cases x <;> simp [AtMost, Binary.compare?]
    rw [larger_nan hx, larger_nan hx', hself, or_iff_left hnone]
  | infinite negative =>
    rw [larger_infinite hx, larger_infinite hx']
    cases negative
    · have hmost : AtMost x (.infinite false) := by
        cases x <;> cases hx
        exact .inl rfl
      exact iff_of_true rfl (.inr hmost)
    · have hleast : ¬ AtMost x (.infinite true) := by
        cases x <;> cases hx
        simp [AtMost, Binary.compare?]
      rw [if_pos rfl, if_pos rfl, hself, or_iff_left hleast]
  | finite s m e =>
    obtain ⟨q, hq⟩ : ∃ q, (Binary.finite s m e).toRat? = some q := ⟨_, rfl⟩
    rw [compare?_eq_iff (larger_toRat? hx hq) (larger_toRat? hx' hq), atMost_of_toRat? hx hq]
    constructor
    · intro hmax
      by_contra hneither
      obtain ⟨hne, hlt⟩ := not_or.mp hneither
      rw [max_eq_left (not_le.mp hlt).le] at hmax
      rcases max_choice p' q with h | h
      · exact hne (hmax.trans h)
      · exact hlt (hmax.trans h).le
    · rintro (rfl | hpq)
      · rfl
      · rw [max_eq_right hpq, max_eq_right (hle.trans hpq)]

end Compared

/-! ## The zoom -/

def zoomValue (width : ℤ) : ℚ := nearest (pageLength / max width pageLength)

theorem fullSize_toRat? : Contents.fullSize.toRat? = some 1 := by rfl

theorem nearest_one : nearest 1 = 1 := by rfl

theorem pageLength_pos : (0 : ℚ) < pageLength := by norm_num [pageLength]

/-- What is rounded to the zoom for a width lies between zero and one. -/
theorem share_bounds (width : ℤ) :
    (0 : ℚ) ≤ pageLength / max width pageLength ∧ (pageLength : ℚ) / max width pageLength ≤ 1 := by
  have hle : (pageLength : ℚ) ≤ max width pageLength := by
    exact_mod_cast le_max_right width pageLength
  have hpos := pageLength_pos.le
  exact ⟨div_nonneg hpos (hpos.trans hle), div_le_one_of_le₀ hle (hpos.trans hle)⟩

theorem zoomValue_le_one (width : ℤ) : zoomValue width ≤ 1 := by
  obtain ⟨hnonneg, hone⟩ := share_bounds width
  rw [zoomValue, ← nearest_one]
  exact nearest_mono hnonneg hone (by norm_num)

theorem zoomValue_antitone {width width' : ℤ} (hle : width ≤ width') :
    zoomValue width' ≤ zoomValue width := by
  obtain ⟨hnonneg, -⟩ := share_bounds width'
  obtain ⟨-, hone⟩ := share_bounds width
  have hpos := pageLength_pos
  have hmax : ((max width pageLength : ℤ) : ℚ) ≤ (max width' pageLength : ℤ) := by
    exact_mod_cast max_le_max_right pageLength hle
  have hleast : (pageLength : ℚ) ≤ (max width pageLength : ℤ) := by exact_mod_cast le_max_right _ _
  rw [zoomValue, zoomValue]
  refine nearest_mono hnonneg ?_ (hone.trans (by norm_num))
  have := hpos.trans_le hleast
  gcongr

theorem fittingZoom_toRat? (width : ℤ) : (fittingZoom width).toRat? = some (zoomValue width) := by
  rw [fittingZoom, zoomValue]
  split
  · next hfits =>
    rw [max_eq_right hfits.le, div_self pageLength_pos.ne', nearest_one, fullSize_toRat?]
  · next hwide =>
    obtain ⟨hnonneg, hone⟩ := share_bounds width
    rw [max_eq_left (not_lt.mp hwide)] at hnonneg hone ⊢
    obtain ⟨r, hr, -⟩ := Binary.ofRat_error hnonneg (hone.trans (by norm_num))
    rw [hr, nearest, hr, Option.getD_some]

/-! ## Widths of a table -/

section Table

variable {columns : List LayoutColumn} {rows rows' : List Fields}
  {property : String} {maxZoom : Binary}

def propertyWidth (columns : List LayoutColumn) (rows : List Fields) (property : String) : ℤ :=
  columnWidth (propertyLength (lengthLimit columns.length) columns rows property)

def onceWidth (columns : List LayoutColumn) (rows : List Fields) : ℤ :=
  ((properties columns).map (propertyWidth columns rows)).sum

def pixels (c : LayoutColumn) : ℕ := digitsValue ((c.width.getD "").toList.takeWhile isDigit)

def tableWidth (columns : List LayoutColumn) : ℤ := (columns.map fun c => (pixels c : ℤ)).sum

def sizedColumn (columns : List LayoutColumn) (rows : List Fields) (c : LayoutColumn) :
    LayoutColumn :=
  { c with width := some (intText (propertyWidth columns rows c.property) ++ "px") }

theorem size_eq (hsome : columns ≠ []) (rows : List Fields) (maxZoom : Binary) :
    size columns rows maxZoom = ⟨columns.map (sizedColumn columns rows),
      if onceWidth columns rows ≤ pageWidth then .portrait else .landscape,
      larger (fittingZoom (onceWidth columns rows)) maxZoom⟩ := by
  rw [size, if_neg (by simpa using hsome)]
  simp only [← List.sum_eq_foldl]
  rfl

/-- The lengths of values keep within the limit for so many columns, which is less than 500. -/
theorem propertyLength_bounds (hsome : columns ≠ []) (rows : List Fields) (property : String) :
    0 ≤ propertyLength (lengthLimit columns.length) columns rows property ∧
      propertyLength (lengthLimit columns.length) columns rows property ≤
        lengthLimit columns.length ∧
      lengthLimit columns.length ≤ 500 := by
  obtain ⟨hnonneg, hlimit, hshare⟩ := lengthLimit_bounds (List.length_pos_iff.mpr hsome)
  refine ⟨propertyLength_nonneg hnonneg, propertyLength_le hnonneg, ?_⟩
  simp only [characterWidth, columnGap] at hlimit
  linarith

theorem propertyWidth_pos (hsome : columns ≠ []) (rows : List Fields) (property : String) :
    0 < propertyWidth columns rows property := by
  obtain ⟨hnonneg, hlimit, hmost⟩ := propertyLength_bounds hsome rows property
  exact columnWidth_pos hnonneg (hlimit.trans hmost)

theorem propertyWidth_le (hsome : columns ≠ []) (rows : List Fields) (property : String) :
    propertyWidth columns rows property ≤ ⌈shareWidth columns.length⌉ + 1 := by
  obtain ⟨hnonneg, hlimit, -⟩ := propertyLength_bounds hsome rows property
  exact columnWidth_le (List.length_pos_iff.mpr hsome) hnonneg hlimit

theorem propertyWidth_mono (hsome : columns ≠ []) (h : Among rows rows') (property : String) :
    propertyWidth columns rows property ≤ propertyWidth columns rows' property := by
  obtain ⟨hnonneg, -, -⟩ := propertyLength_bounds hsome rows property
  obtain ⟨-, hlimit, hmost⟩ := propertyLength_bounds hsome rows' property
  exact columnWidth_mono hnonneg (propertyLength_mono h _ columns property) (hlimit.trans hmost)

theorem onceWidth_mono (hsome : columns ≠ []) (h : Among rows rows') :
    onceWidth columns rows ≤ onceWidth columns rows' :=
  List.sum_le_sum fun property _ => propertyWidth_mono hsome h property

/-- The width that is written can be read back. -/
theorem pixels_sizedColumn (hsome : columns ≠ []) (rows : List Fields) (c : LayoutColumn) :
    (pixels (sizedColumn columns rows c) : ℤ) = propertyWidth columns rows c.property := by
  have hpos := propertyWidth_pos hsome rows c.property
  have hunit : ∀ c ∈ "px".toList.head?, isDigit c = false := by
    rintro _ ⟨⟩
    rfl
  rw [pixels, sizedColumn, Option.getD_some, String.toList_append, intText, String.toList_ofList,
    if_neg (not_lt.mpr hpos.le), (allDigits_natText _).takeWhile hunit, digitsValue_natText,
    Int.natAbs_of_nonneg hpos.le]

theorem tableWidth_size (hsome : columns ≠ []) (rows : List Fields) (maxZoom : Binary) :
    tableWidth (size columns rows maxZoom).columns =
      ((columns.map (·.property)).map (propertyWidth columns rows)).sum := by
  rw [size_eq hsome, tableWidth, List.map_map, List.map_map]
  congr 1
  apply List.map_congr_left
  intro c _
  exact pixels_sizedColumn hsome rows c

/-! ## Counting once -/

section Once

variable {l l' : List String}

theorem eraseDups_sublist (l : List String) : l.eraseDups.Sublist l := by
  induction hlength : l.length using Nat.strong_induction_on generalizing l with
  | _ n ih =>
  cases l with
  | nil => exact .slnil
  | cons a l =>
    rw [List.eraseDups_cons]
    have hshorter : (l.filter fun b => !b == a).length < n := by
      have := List.length_filter_le (fun b => !b == a) l
      rw [List.length_cons] at hlength
      omega
    exact ((ih _ hshorter _ rfl).trans List.filter_sublist).cons_cons a

theorem eraseDups_eq_iff : l.eraseDups = l ↔ l.Nodup := by
  induction l with
  | nil => simp
  | cons a l ih =>
    rw [List.eraseDups_cons, List.nodup_cons, List.cons.injEq, eq_self, true_and]
    -- the rest is kept as it is only when the first item is nowhere in it
    have hkept : (l.filter fun b => !b == a) = l ↔ a ∉ l := by
      rw [List.filter_eq_self]
      constructor
      · intro h hmem
        simpa using h a hmem
      · intro h b hb
        have : b ≠ a := fun e => h (e ▸ hb)
        simpa using this
    constructor
    · intro h
      have hlength := (eraseDups_sublist (l.filter fun b => !b == a)).length_le
      rw [h] at hlength
      have hsub : (l.filter fun b => !b == a) = l := List.filter_sublist.eq_of_length_le hlength
      rw [hsub] at h
      exact ⟨hkept.mp hsub, ih.mp h⟩
    · rintro ⟨hnew, hnodup⟩
      rw [hkept.mpr hnew]
      exact ih.mpr hnodup

/-- Of what counts more than nothing, fewer count less. -/
theorem sum_sublist {f : String → ℤ} (hf : ∀ a, 0 < f a) (h : l'.Sublist l) :
    (l'.map f).sum ≤ (l.map f).sum ∧ ((l'.map f).sum = (l.map f).sum → l' = l) := by
  induction h with
  | slnil => simp
  | cons a h ih =>
    have := hf a
    rw [List.map_cons, List.sum_cons]
    exact ⟨by omega, fun heq => by omega⟩
  | cons_cons a h ih =>
    rw [List.map_cons, List.map_cons, List.sum_cons, List.sum_cons]
    exact ⟨by omega, fun heq => by rw [ih.2 (by omega)]⟩

end Once

theorem onceWidth_le (hsome : columns ≠ []) (rows : List Fields) (maxZoom : Binary) :
    onceWidth columns rows ≤ tableWidth (size columns rows maxZoom).columns ∧
      (onceWidth columns rows = tableWidth (size columns rows maxZoom).columns ↔
        (columns.map (·.property)).Nodup) := by
  obtain ⟨hle, heq⟩ := sum_sublist (propertyWidth_pos hsome rows)
    (eraseDups_sublist (columns.map (·.property)))
  rw [tableWidth_size hsome, onceWidth, properties, ← eraseDups_eq_iff]
  exact ⟨hle, heq, fun h => by rw [h]⟩

/-! ## Fitting the page -/

def Fits (sized : Sized) (maxZoom : Binary) : Prop :=
  (sized.orientation = .portrait ↔ tableWidth sized.columns ≤ pageWidth) ∧
    Binary.compare? sized.zoom (larger (fittingZoom (tableWidth sized.columns)) maxZoom) = some .eq

/-- A layout fits when its table is narrow enough for the page that is taken, or counting properties
once gives the same page, and gives the same zoom or one that the least zoom replaces. So it does
when no property repeats. -/
theorem size_fits_iff (hsome : columns ≠ []) (rows : List Fields) (maxZoom : Binary) :
    (Fits (size columns rows maxZoom) maxZoom ↔
      (tableWidth (size columns rows maxZoom).columns ≤ pageWidth ∨
        pageWidth < onceWidth columns rows) ∧
      (Binary.compare? (fittingZoom (onceWidth columns rows))
          (fittingZoom (tableWidth (size columns rows maxZoom).columns)) = some .eq ∨
        AtMost (fittingZoom (onceWidth columns rows)) maxZoom)) ∧
    ((columns.map (·.property)).Nodup → Fits (size columns rows maxZoom) maxZoom) := by
  obtain ⟨hle, heq⟩ := onceWidth_le hsome rows maxZoom
  have horientation : (size columns rows maxZoom).orientation = .portrait ↔
      onceWidth columns rows ≤ pageWidth := by
    rw [size_eq hsome]
    by_cases h : onceWidth columns rows ≤ pageWidth <;> simp [h]
  have hzoom : (size columns rows maxZoom).zoom =
      larger (fittingZoom (onceWidth columns rows)) maxZoom := by
    rw [size_eq hsome]
  rw [Fits, horientation, hzoom]
  generalize tableWidth (size columns rows maxZoom).columns = width at hle heq ⊢
  generalize onceWidth columns rows = once at hle heq ⊢
  have hvalue := zoomValue_antitone hle
  rw [larger_same_iff (fittingZoom_toRat? once) (fittingZoom_toRat? width) hvalue,
    compare?_eq_iff (fittingZoom_toRat? once) (fittingZoom_toRat? width)]
  refine ⟨and_congr_left fun _ => by omega, fun hnodup => ?_⟩
  rw [heq.mpr hnodup]
  exact ⟨Iff.rfl, .inl rfl⟩

/-- Name and address side by side: each property has one column. -/
theorem size_fits_members :
    Fits (size [⟨"name", "Name", none, none, none⟩, ⟨"email", "Email", none, none, none⟩]
      [[("name", .text "Ada Lovelace"), ("email", .text "ada@example.com")]] defaultMaxZoom)
      defaultMaxZoom ∧
    tableWidth (size [⟨"name", "Name", none, none, none⟩, ⟨"email", "Email", none, none, none⟩]
      [[("name", .text "Ada Lovelace"), ("email", .text "ada@example.com")]]
        defaultMaxZoom).columns = 211 :=
  ⟨(size_fits_iff (by simp) _ _).2 (by decide), by decide +kernel⟩

/-- A text of sixty characters in two columns of one property: 454 pixels each, and the page
upright. -/
theorem size_unfit_twins :
    (size [⟨"text", "X", none, none, none⟩, ⟨"text", "X", none, none, none⟩]
      [[("text", .text (String.ofList (List.replicate 60 'a')))]] defaultMaxZoom).orientation =
        .portrait ∧
    tableWidth (size [⟨"text", "X", none, none, none⟩, ⟨"text", "X", none, none, none⟩]
      [[("text", .text (String.ofList (List.replicate 60 'a')))]] defaultMaxZoom).columns = 908 ∧
    ¬ Fits (size [⟨"text", "X", none, none, none⟩, ⟨"text", "X", none, none, none⟩]
      [[("text", .text (String.ofList (List.replicate 60 'a')))]] defaultMaxZoom)
        defaultMaxZoom := by
  have hpage : (size [⟨"text", "X", none, none, none⟩, ⟨"text", "X", none, none, none⟩]
      [[("text", .text (String.ofList (List.replicate 60 'a')))]] defaultMaxZoom).orientation =
      .portrait := by decide +kernel
  have hwidth : tableWidth (size [⟨"text", "X", none, none, none⟩, ⟨"text", "X", none, none, none⟩]
      [[("text", .text (String.ofList (List.replicate 60 'a')))]] defaultMaxZoom).columns =
        908 := by
    decide +kernel
  refine ⟨hpage, hwidth, fun hfits => ?_⟩
  have hnarrow := hfits.1.mp hpage
  rw [hwidth, pageWidth] at hnarrow
  omega

/-! ## More rows -/

def Rearranged (rows rows' : List Fields) : Prop :=
  ∃ middle : List Fields, rows.Perm middle ∧
    List.Forall₂ (fun row row' => row.keys.Nodup ∧ row.Perm row') middle rows'

theorem among_of_subset (h : rows ⊆ rows') : Among rows rows' :=
  fun row hrow => ⟨row, h hrow, fun _ => rfl⟩

theorem among_of_forall₂ {R : Fields → Fields → Prop} (h : List.Forall₂ R rows rows')
    (hget : ∀ row row', R row row' → ∀ property, row.get property = row'.get property) :
    Among rows rows' := by
  induction h with
  | nil => exact fun _ hrow => absurd hrow List.not_mem_nil
  | @cons row row' rest rest' hrow _ ih =>
    intro x hx
    rcases List.mem_cons.mp hx with rfl | hx
    · exact ⟨row', List.mem_cons_self, hget _ _ hrow⟩
    · obtain ⟨y, hy, hsame⟩ := ih x hx
      exact ⟨y, List.mem_cons_of_mem _ hy, hsame⟩

theorem Among.trans {rows'' : List Fields} (h : Among rows rows') (h' : Among rows' rows'') :
    Among rows rows'' := by
  intro row hrow
  obtain ⟨row', hrow', hget⟩ := h row hrow
  obtain ⟨row'', hrow'', hget'⟩ := h' row' hrow'
  exact ⟨row'', hrow'', fun property => (hget property).trans (hget' property)⟩

theorem Rearranged.among (h : Rearranged rows rows') : Among rows rows' ∧ Among rows' rows := by
  obtain ⟨middle, hperm, hentries⟩ := h
  have hget (row row' : Fields) (h : row.keys.Nodup ∧ row.Perm row') (property : String) :
      row.get property = row'.get property := by
    rw [Fields.get_eq, Fields.get_eq, Fields.get?_perm h.1 h.2]
  exact ⟨(among_of_subset hperm.subset).trans (among_of_forall₂ hentries hget),
    (among_of_forall₂ hentries.flip fun row' row h property =>
      (hget row row' h property).symm).trans
      (among_of_subset hperm.symm.subset)⟩

/-- Rows with the same values give the same layout. -/
theorem size_congr (h : Among rows rows') (h' : Among rows' rows) (columns : List LayoutColumn)
    (maxZoom : Binary) : size columns rows maxZoom = size columns rows' maxZoom := by
  by_cases hsome : columns = []
  · rw [hsome]
    rfl
  have hwidth : propertyWidth columns rows = propertyWidth columns rows' :=
    funext fun property =>
      le_antisymm (propertyWidth_mono hsome h property) (propertyWidth_mono hsome h' property)
  have hsized : sizedColumn columns rows = sizedColumn columns rows' := by
    funext c
    rw [sizedColumn, sizedColumn, hwidth]
  rw [size_eq hsome, size_eq hsome, onceWidth, onceWidth, hwidth, hsized]

structure Extends (sized sized' : Sized) : Prop where
  columns : List.Forall₂ (fun c c' => pixels c ≤ pixels c') sized.columns sized'.columns
  orientation : sized.orientation = .landscape → sized'.orientation = .landscape
  zoom : AtMost sized'.zoom sized.zoom

theorem atMost_self {x : Binary} {p : ℚ} (hx : x.toRat? = some p) : AtMost x x :=
  (atMost_of_toRat? hx hx).mpr le_rfl

theorem size_extends (h : Among rows rows') (columns : List LayoutColumn) (maxZoom : Binary) :
    Extends (size columns rows maxZoom) (size columns rows' maxZoom) := by
  by_cases hsome : columns = []
  · rw [hsome]
    exact ⟨.nil, id, atMost_self fullSize_toRat?⟩
  have honce := onceWidth_mono hsome h
  rw [size_eq hsome, size_eq hsome]
  refine ⟨?_, ?_, ?_⟩
  · rw [List.forall₂_map_left_iff, List.forall₂_map_right_iff, List.forall₂_same]
    intro c _
    have := propertyWidth_mono hsome h c.property
    rw [← pixels_sizedColumn hsome, ← pixels_sizedColumn hsome] at this
    exact_mod_cast this
  · intro hlandscape
    by_cases hfits : onceWidth columns rows' ≤ pageWidth
    · rw [if_pos (honce.trans hfits)] at hlandscape
      cases hlandscape
    · simp only [if_neg hfits]
  · exact larger_mono (fittingZoom_toRat? _) (fittingZoom_toRat? _)
      (zoomValue_antitone honce) maxZoom

theorem atMost_larger {x : Binary} {p : ℚ} (hx : x.toRat? = some p) (y : Binary) :
    AtMost x (larger x y) := by
  rw [larger]
  split
  · next hlt => exact .inl hlt
  · exact atMost_self hx

/-- The zoom is not greater than full size, or the least zoom where that is greater. -/
theorem size_zoom_le (columns : List LayoutColumn) (rows : List Fields) (maxZoom : Binary) :
    AtMost (size columns rows maxZoom).zoom (larger Contents.fullSize maxZoom) := by
  by_cases hsome : columns = []
  · rw [hsome]
    exact atMost_larger fullSize_toRat? maxZoom
  · rw [size_eq hsome]
    exact larger_mono (fittingZoom_toRat? _) fullSize_toRat? (zoomValue_le_one _) maxZoom

/-- Without columns the zoom is full size, whatever the least zoom. -/
theorem size_zoom_not_lt_iff (columns : List LayoutColumn) (rows : List Fields) (maxZoom : Binary) :
    Binary.compare? (size columns rows maxZoom).zoom maxZoom ≠ some .lt ↔
      columns ≠ [] ∨ Binary.compare? Contents.fullSize maxZoom ≠ some .lt := by
  by_cases hsome : columns = []
  · rw [hsome]
    exact (or_iff_right fun h => h rfl).symm
  · rw [size_eq hsome]
    exact iff_of_true (larger_not_lt _ _) (.inl hsome)

theorem size_pixels_le (columns : List LayoutColumn) (rows : List Fields) (maxZoom : Binary) :
    ∀ c ∈ (size columns rows maxZoom).columns, (pixels c : ℤ) ≤
      ⌈shareWidth columns.length⌉ + 1 := by
  by_cases hsome : columns = []
  · rw [hsome]
    exact fun c hc => absurd hc List.not_mem_nil
  · rw [size_eq hsome]
    intro c hc
    obtain ⟨c, -, rfl⟩ := List.mem_map.mp hc
    rw [pixels_sizedColumn hsome]
    exact propertyWidth_le hsome rows c.property

/-- A layout does not depend on the order of the rows and of the entries in them. More rows make no
column narrower, turn no page back and enlarge no zoom. The zoom keeps up to full size or the least
zoom, no column takes more than its share of the page, and the zoom is below the least zoom only
where there are no columns and that is greater than full size. -/
theorem size_rows (columns : List LayoutColumn) (rows rows' : List Fields) (maxZoom : Binary) :
    (Rearranged rows rows' → size columns rows maxZoom = size columns rows' maxZoom) ∧
    (rows ⊆ rows' → Extends (size columns rows maxZoom) (size columns rows' maxZoom)) ∧
    AtMost (size columns rows maxZoom).zoom (larger Contents.fullSize maxZoom) ∧
    (∀ c ∈ (size columns rows maxZoom).columns, (pixels c : ℤ) ≤ ⌈shareWidth columns.length⌉ + 1) ∧
    (Binary.compare? (size columns rows maxZoom).zoom maxZoom ≠ some .lt ↔
      columns ≠ [] ∨ Binary.compare? Contents.fullSize maxZoom ≠ some .lt) :=
  ⟨fun h => size_congr h.among.1 h.among.2 columns maxZoom,
    fun h => size_extends (among_of_subset h) columns maxZoom, size_zoom_le columns rows maxZoom,
    size_pixels_le columns rows maxZoom, size_zoom_not_lt_iff columns rows maxZoom⟩

end Table

/-- One member, and then another with a longer name. -/
theorem size_rows_members :
    Extends
      (size [⟨"name", "Name", none, none, none⟩] [[("name", .text "Ada")]] defaultMaxZoom)
      (size [⟨"name", "Name", none, none, none⟩]
        [[("name", .text "Ada")], [("name", .text "Grace Hopper")]]
        defaultMaxZoom) ∧
    size [⟨"name", "Name", none, none, none⟩]
      [[("name", .text "Ada"), ("id", .int 1)]] defaultMaxZoom =
      size [⟨"name", "Name", none, none, none⟩]
        [[("id", .int 1), ("name", .text "Ada")]] defaultMaxZoom ∧
    Binary.compare? (size [⟨"name", "Name", none, none, none⟩] [[("name", .text "Ada")]]
      defaultMaxZoom).zoom defaultMaxZoom ≠ some .lt := by
  obtain ⟨-, hextends, -, -, hzoom⟩ := size_rows [⟨"name", "Name", none, none, none⟩]
    [[("name", .text "Ada")]]
      [[("name", .text "Ada")], [("name", .text "Grace Hopper")]] defaultMaxZoom
  obtain ⟨hsame, -⟩ := size_rows [⟨"name", "Name", none, none, none⟩]
    [[("name", .text "Ada"), ("id", .int 1)]]
      [[("id", .int 1), ("name", .text "Ada")]] defaultMaxZoom
  refine ⟨hextends (by simp), hsame ⟨_, .refl _, ?_⟩, hzoom.mpr (.inl (by simp))⟩
  exact .cons ⟨by decide, .swap _ _ _⟩ .nil

/-- Without columns the zoom is full size where twice that is the least. -/
theorem size_zoom_below_double :
    Binary.compare? (size [] [] (.ofRat 2)).zoom (.ofRat 2) = some .lt := by
  decide +kernel

end Dossier.Sizing
