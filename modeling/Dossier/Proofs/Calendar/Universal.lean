import Dossier.Proofs.Calendar.IsoText

/-!
# Dates shown by universal time

A shown date can be taken apart again: the name of the month has three letters, and after the day,
the year and the hour there is a character that is no digit. An hour of the day is the hour of the
clock before or after noon. So by universal time two instants have one text when they lie in one
minute, and not else.
-/

set_option autoImplicit false

namespace Dossier.Calendar

open Number Text

/-! ## Texts taken apart -/

section Parts

variable {s s' t t' : List Char} {c c' : Char}

/-- Digits end where the first character that is none stands. -/
theorem digits_inj (hs : AllDigits s) (hs' : AllDigits s') (hc : isDigit c = false)
    (hc' : isDigit c' = false) (h : s ++ c :: t = s' ++ c' :: t') : s = s' ∧ c :: t = c' :: t' := by
  have hhead : ∀ x ∈ (c :: t).head?, isDigit x = false := by simpa using hc
  have hhead' : ∀ x ∈ (c' :: t').head?, isDigit x = false := by simpa using hc'
  constructor
  · have := congrArg (List.takeWhile isDigit) h
    rwa [hs.takeWhile hhead, hs'.takeWhile hhead'] at this
  · have := congrArg (List.dropWhile isDigit) h
    rwa [hs.dropWhile hhead, hs'.dropWhile hhead'] at this

theorem natText_inj {n n' : ℕ} (h : natText n = natText n') : n = n' := by
  have := congrArg digitsValue h
  rwa [digitsValue_natText, digitsValue_natText] at this

theorem padded_inj {width n n' : ℕ} (h : Iso.padded width n = Iso.padded width n') : n = n' := by
  have := congrArg digitsValue h
  rwa [Iso.digitsValue_padded, Iso.digitsValue_padded] at this

/-- The twelve names have three letters each and are distinct. -/
theorem monthNames_spec : ∀ i < 12, (monthNames.getD i "").toList.length = 3 ∧
    ∀ j < 12, (monthNames.getD i "").toList = (monthNames.getD j "").toList → i = j := by
  decide +kernel

theorem twelveHour_inj {h h' : ℕ} (hh : h < 24) (hh' : h' < 24)
    (htwelve : twelveHour h = twelveHour h') (hnoon : h < 12 ↔ h' < 12) : h = h' := by
  simp only [twelveHour] at htwelve
  split at htwelve <;> split at htwelve <;> omega

end Parts

theorem meridiem_inj {h h' : ℕ} {rest rest' : List Char}
    (heq : (if h < 12 then "AM" else "PM").toList ++ rest =
      (if h' < 12 then "AM" else "PM").toList ++ rest') :
    h < 12 ↔ h' < 12 := by
  by_cases hh : h < 12 <;> by_cases hh' : h' < 12 <;> simp [hh, hh'] at heq ⊢

/-- A shown date gives back the date, the hour and the minute. -/
theorem showLocal_inj {d d' : Date} {t t' : Clock} {zone : String} (hd : 1 ≤ d.month ∧ d.month ≤ 12)
    (hd' : 1 ≤ d'.month ∧ d'.month ≤ 12) (ht : t.Valid) (ht' : t'.Valid)
    (h : showLocal d t zone = showLocal d' t' zone) :
    d = d' ∧ t.hour = t'.hour ∧ t.minute = t'.minute := by
  have hcomma : ", ".toList = [',', ' '] := rfl
  have hcolon : ":".toList = [':'] := rfl
  have hblank : " ".toList = [' '] := rfl
  have hchars := congrArg String.toList h
  simp only [showLocal, String.toList_append, String.toList_ofList,
    List.append_assoc, hcomma, hcolon,
    hblank, List.cons_append, List.nil_append] at hchars
  obtain ⟨hlength, hnames⟩ := monthNames_spec (d.month - 1) (by omega)
  obtain ⟨hlength', -⟩ := monthNames_spec (d'.month - 1) (by omega)
  obtain ⟨hname, hrest⟩ := List.append_inj hchars (hlength.trans hlength'.symm)
  have hmonth := hnames (d'.month - 1) (by omega) hname
  obtain ⟨hday, hrest⟩ := digits_inj (allDigits_natText _) (allDigits_natText _) rfl rfl
    (List.cons.inj hrest).2
  obtain ⟨hyear, hrest⟩ := digits_inj (allDigits_natText _) (allDigits_natText _) rfl rfl
    (List.cons.inj (List.cons.inj hrest).2).2
  obtain ⟨htwelve, hrest⟩ :=
    digits_inj (Iso.allDigits_padded 2 _) (Iso.allDigits_padded 2 _) rfl rfl
    (List.cons.inj (List.cons.inj hrest).2).2
  obtain ⟨hminute, hrest⟩ :=
    digits_inj (Iso.allDigits_padded 2 _) (Iso.allDigits_padded 2 _) rfl rfl
    (List.cons.inj hrest).2
  have hnoon := meridiem_inj (List.cons.inj hrest).2
  obtain ⟨year, month, day⟩ := d
  obtain ⟨year', month', day'⟩ := d'
  dsimp only at hd hd' hmonth hday hyear
  have hmonth' : month = month' := by omega
  refine ⟨?_, twelveHour_inj ht.1 ht'.1 (padded_inj htwelve) hnoon, padded_inj hminute⟩
  rw [natText_inj hday, natText_inj hyear, hmonth']

/-! ## Universal time -/

def InYears (instant : ℤ) : Prop :=
  1 ≤ instant / microsPerDay ∧ instant / microsPerDay ≤ lastOrdinal

theorem ofReading?_isSome (reading : ℤ) :
    (Moment.ofReading? reading).isSome = true ↔ InYears reading := by
  rw [Moment.ofReading?, Option.isSome_map, Date.ofOrdinal?_isSome]
  rfl

theorem showInstant_universal (instant : ℤ) : showInstant .universal instant =
    match Moment.ofReading? instant with
    | none => .error (.fault .dateOutOfRange)
    | some (d, t) => .ok (showLocal d t "UTC") := by
  have hhere : Zone.universal instant = ⟨0, "UTC"⟩ := rfl
  rw [showInstant]
  cases hreading : Moment.ofReading? instant with
  | none => rfl
  | some reading =>
    simp only [hhere, Int.zero_mul, Int.add_zero, hreading]

/-- By universal time an instant of the years that the calendar has is shown, and no other. -/
theorem showInstant_universal_out {instant : ℤ} (hout : ¬ InYears instant) :
    showInstant .universal instant = .error (.fault .dateOutOfRange) := by
  rw [← ofReading?_isSome, Option.not_isSome_iff_eq_none] at hout
  rw [showInstant_universal, hout]

theorem inYears_congr {instant instant' : ℤ}
    (h : instant / microsPerMinute = instant' / microsPerMinute) :
      InYears instant ↔ InYears instant' := by
  have hday (instant : ℤ) : instant / microsPerDay = instant / microsPerMinute / 1440 := by
    simp only [microsPerDay, microsPerMinute, microsPerSecond]
    omega
  rw [InYears, InYears, hday, hday, h]

/-- By universal time instants have one text when they lie in one minute, and not else. -/
theorem showInstant_universal_iff (instant instant' : ℤ) :
    (∃ s, showInstant .universal instant = .ok s ∧ showInstant .universal instant' = .ok s) ↔
      InYears instant ∧ instant / microsPerMinute = instant' / microsPerMinute := by
  rw [showInstant_universal, showInstant_universal]
  constructor
  · rintro ⟨s, hs, hs'⟩
    cases hreading : Moment.ofReading? instant with
    | none => rw [hreading] at hs; cases hs
    | some reading =>
      cases hreading' : Moment.ofReading? instant' with
      | none => rw [hreading'] at hs'; cases hs'
      | some reading' =>
        have h := ofReading?_readAs hreading
        have h' := ofReading?_readAs hreading'
        rw [hreading] at hs
        rw [hreading', ← hs] at hs'
        refine ⟨(ofReading?_isSome _).mp (by rw [hreading]; rfl), (h.minute_iff h').mpr ?_⟩
        exact showLocal_inj h.month h'.month h.clock h'.clock (Except.ok.inj hs').symm
  · rintro ⟨hin, hminute⟩
    obtain ⟨⟨d, t⟩, hreading⟩ := Option.isSome_iff_exists.mp ((ofReading?_isSome _).mpr hin)
    obtain ⟨⟨d', t'⟩, hreading'⟩ :=
      Option.isSome_iff_exists.mp ((ofReading?_isSome _).mpr ((inYears_congr hminute).mp hin))
    have h := ofReading?_readAs hreading
    have h' := ofReading?_readAs hreading'
    obtain ⟨rfl, hhour, hmin⟩ := (h.minute_iff h').mp hminute
    refine ⟨showLocal d t "UTC", by rw [hreading], ?_⟩
    rw [hreading']
    simp only [showLocal, hhour, hmin]

end Dossier.Calendar
