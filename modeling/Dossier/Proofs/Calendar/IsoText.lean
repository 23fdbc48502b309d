import Dossier.Proofs.Calendar.Ordinal
import Dossier.Proofs.Number.Written

/-!
# Moments read back from their texts

The text of a moment in ISO form is read as that moment again: its numbers have fixed widths, and
what stands between them says which fields follow. One thing is lost. An offset of less than a
second is read as none, so such a moment comes back as another one.
-/

set_option autoImplicit false

namespace Dossier.Calendar

open Number Text

namespace Iso

/-! ## Numbers of a fixed width -/

section Digits

variable {s rest : List Char} {n width : ℕ}

theorem digits?_go (hs : AllDigits s) (value : ℕ) : digits?.go value s.length (s ++ rest) =
    some (s.foldl (fun n c => n * 10 + digitValue c) value, rest) := by
  induction s generalizing value with
  | nil => rfl
  | cons c s ih =>
    have hc : isDigit c = true := hs c List.mem_cons_self
    have hrest : AllDigits s := fun x hx => hs x (List.mem_cons_of_mem c hx)
    rw [List.cons_append, List.length_cons, digits?.go, if_pos hc, ih hrest, List.foldl_cons]

theorem digits?_append (hs : AllDigits s) (rest : List Char) :
    digits? s.length (s ++ rest) = some (digitsValue s, rest) := digits?_go hs 0

theorem allDigits_padded (width n : ℕ) : AllDigits (padded width n) :=
  allDigits_append.mpr ⟨allDigits_zeros _, allDigits_natText n⟩

theorem digitsValue_padded (width n : ℕ) : digitsValue (padded width n) = n := by
  rw [padded, digitsValue_padZeros, digitsValue_natText]

theorem length_padded (hn : n < 10 ^ width) (hwidth : 0 < width) :
    (padded width n).length = width := by
  have hlength : (natText n).length ≤ width :=
    (Nat.length_toDigits_le_iff (by decide) hwidth).mpr hn
  rw [padded, padZeros, List.length_append, List.length_replicate]
  omega

/-- A number of a fixed width is read back, and what follows it is left. -/
theorem digits?_padded (hn : n < 10 ^ width) (hwidth : 0 < width) (rest : List Char) :
    digits? width (padded width n ++ rest) = some (n, rest) := by
  have h := digits?_append (allDigits_padded width n) rest
  rwa [length_padded hn hwidth, digitsValue_padded] at h

theorem digits?_padded_end (hn : n < 10 ^ width) (hwidth : 0 < width) :
    digits? width (padded width n) = some (n, []) := by
  have h := digits?_padded hn hwidth []
  rwa [List.append_nil] at h

theorem padded_head (hwidth : 0 < width) (n : ℕ) (rest : List Char) :
    ∃ c tail, padded width n ++ rest = c :: tail ∧ isDigit c = true := by
  have hsome : padded width n ≠ [] := by
    intro h
    have := congrArg List.length h
    rw [padded, padZeros, List.length_append, List.length_replicate, List.length_nil] at this
    omega
  obtain ⟨c, tail, htext⟩ := List.exists_cons_of_ne_nil hsome
  exact ⟨c, tail ++ rest, by rw [htext, List.cons_append],
    allDigits_padded width n c (by rw [htext]; exact List.mem_cons_self)⟩

end Digits

/-! ## Dates -/

theorem daysInMonth_lt (year month : ℕ) : daysInMonth year month < 100 := by
  have hall : ∀ leap : Bool, ∀ length ∈ monthLengths leap, length < 100 := by decide
  rw [daysInMonth, List.getD_eq_getElem?_getD]
  cases hlength : (monthLengths (isLeap year))[month - 1]? with
  | none => decide
  | some length => exact hall _ length (List.mem_of_getElem? hlength)

theorem date?_dateChars {d : Date} (hd : d.Valid) : date? (dateChars d) = some d := by
  obtain ⟨-, hyear, -, hmonth, -, hday⟩ := id hd
  have hdays := daysInMonth_lt d.year d.month
  rw [lastYear] at hyear
  have hreadYear := digits?_padded (n := d.year) (by omega : d.year < 10 ^ 4) (by decide)
  have hreadMonth := digits?_padded (by omega : d.month < 10 ^ 2) (by decide)
  have hreadDay := digits?_padded_end (by omega : d.day < 10 ^ 2) (by decide)
  rw [dateChars, List.append_assoc, List.cons_append, date?, hreadYear]
  simp only [Option.bind_eq_bind, Option.bind_some, List.head?_cons, beq_self_eq_true, if_true,
    List.drop_succ_cons, List.drop_zero]
  -- what follows the hyphen is a month, since it does not start with a letter
  obtain ⟨c, tail, hhead, hdigit⟩ := padded_head (by decide : 0 < 2) d.month ('-' :: padded 2 d.day)
  have hmonthText := hreadMonth ('-' :: padded 2 d.day)
  rw [hhead] at hmonthText ⊢
  split
  · next heq =>
    obtain rfl := (List.cons.inj heq).1
    cases hdigit
  · simp only [hmonthText, hreadDay, hyphen?, Option.bind_some, if_true]
    rw [Date.of?, if_pos hd]

/-! ## Times of day and offsets -/

def fractionChars (micro : ℕ) : List Char := if micro = 0 then [] else '.' :: padded 6 micro

def fieldChars (t : Clock) (seconds : Bool) : List Char :=
  padded 2 t.hour ++ ':' :: (padded 2 t.minute ++
    if seconds then ':' :: (padded 2 t.second ++ fractionChars t.micro) else [])

theorem clockChars_eq (t : Clock) : clockChars t = fieldChars t true := by
  simp [clockChars, fieldChars, fractionChars]

def signChar (micros : ℤ) : Char := if micros < 0 then '-' else '+'

def offsetText (micros : ℤ) : List Char :=
  let t := Clock.ofMicros micros.natAbs
  fieldChars t (decide ¬(t.second = 0 ∧ t.micro = 0))

theorem offsetChars_eq (micros : ℤ) :
    offsetChars micros = signChar micros :: offsetText micros := by
  simp only [offsetChars, offsetText, fieldChars, fractionChars, signChar]
  generalize Clock.ofMicros micros.natAbs = t
  by_cases hmicro : t.micro = 0 <;> by_cases hsecond : t.second = 0 <;> simp [hmicro, hsecond]

theorem next?_colon {rest : List Char} (hrest : rest ≠ []) :
    next? true (':' :: rest) = some (.field rest) := by
  obtain ⟨c, tail, rfl⟩ := List.exists_cons_of_ne_nil hrest
  rfl

theorem next?_point {rest : List Char} (hrest : rest ≠ []) :
    next? true ('.' :: rest) = some (.fraction rest) := by
  obtain ⟨c, tail, rfl⟩ := List.exists_cons_of_ne_nil hrest
  rfl

theorem padded_append_ne_nil {width : ℕ} (hwidth : 0 < width) (n : ℕ) (rest : List Char) :
    padded width n ++ rest ≠ [] := by
  obtain ⟨c, tail, hhead, -⟩ := padded_head hwidth n rest
  rw [hhead]
  exact List.cons_ne_nil c tail

theorem padded_ne_nil {width : ℕ} (hwidth : 0 < width) (n : ℕ) : padded width n ≠ [] := by
  have := padded_append_ne_nil hwidth n []
  rwa [List.append_nil] at this

theorem fraction?_padded {micro : ℕ} (hmicro : micro < 10 ^ 6) (hour minute second : ℕ) :
    fraction? hour minute second (padded 6 micro) = some ⟨hour, minute, second, micro, false⟩ := by
  have hlength := length_padded hmicro (by decide)
  simp only [fraction?, hlength, min_self, digits?_padded_end hmicro (by decide),
    Option.bind_eq_bind,
    Option.bind_some, List.dropWhile_nil, Nat.sub_self]
  simp [powerOfTen, isEnd]

/-- Every field is read; seconds that are not written are none. -/
theorem fields?_fieldChars {t : Clock} (ht : t.Valid) (seconds : Bool)
    (hwritten : seconds = false → t.second = 0 ∧ t.micro = 0) :
    fields? (fieldChars t seconds) = some ⟨t.hour, t.minute, t.second, t.micro, false⟩ := by
  obtain ⟨hhour, hminute, hsecond, hmicro⟩ := ht
  rw [microsPerSecond] at hmicro
  have hreadHour := digits?_padded (by omega : t.hour < 10 ^ 2) (by decide)
  have hreadMinute := digits?_padded (by omega : t.minute < 10 ^ 2) (by decide)
  have hreadSecond := digits?_padded (by omega : t.second < 10 ^ 2) (by decide)
  rw [fields?, fieldChars, hreadHour]
  simp only [Option.bind_eq_bind, Option.bind_some, List.head?_cons, beq_self_eq_true]
  rw [next?_colon (padded_append_ne_nil (by decide) _ _)]
  simp only [Option.bind_some, hreadMinute]
  cases seconds with
  | false =>
    obtain ⟨hsecond0, hmicro0⟩ := hwritten rfl
    simp [next?, hsecond0, hmicro0]
  | true =>
    rw [if_pos rfl, next?_colon (padded_append_ne_nil (by decide) _ _)]
    simp only [Option.bind_some, hreadSecond, fractionChars]
    by_cases hmicro0 : t.micro = 0
    · simp [hmicro0, next?]
    · rw [if_neg hmicro0, next?_point (padded_ne_nil (by decide) _)]
      exact fraction?_padded (by omega) _ _ _

def readOffset (micros : ℤ) : ℤ := if micros.natAbs < microsPerSecond then 0 else micros

theorem offset?_offsetText {micros : ℤ} (hmicros : micros.natAbs < microsPerDay) :
    offset? (signChar micros == '-') (offsetText micros) = some (readOffset micros) := by
  have hvalid := Clock.ofMicros_valid hmicros
  have hvalue := Clock.micros_ofMicros micros.natAbs
  rw [offsetText, offset?]
  generalize Clock.ofMicros micros.natAbs = t at hvalid hvalue ⊢
  rw [fields?_fieldChars hvalid _ (by simp)]
  have hmicro : t.micro < microsPerSecond := hvalid.2.2.2
  rw [Clock.micros] at hvalue
  have hsize : (if (t.hour * 60 + t.minute) * 60 + t.second = 0 then 0
      else ((t.hour * 60 + t.minute) * 60 + t.second) * microsPerSecond + t.micro) =
      if micros.natAbs < microsPerSecond then 0 else micros.natAbs := by
    rw [← hvalue]
    rw [microsPerSecond] at hmicro ⊢
    split <;> split <;> omega
  simp only [Option.bind_eq_bind, Option.bind_some, Bool.false_or, hsize]
  have hday : ¬ microsPerDay ≤ if micros.natAbs < microsPerSecond then 0 else micros.natAbs := by
    rw [microsPerDay] at hmicros ⊢
    split <;> omega
  rw [if_neg (by simpa using hday), readOffset, signChar]
  by_cases hsmall : micros.natAbs < microsPerSecond
  · rw [if_pos hsmall, if_pos hsmall]
    split <;> rfl
  · rw [if_neg hsmall, if_neg hsmall]
    by_cases hwest : micros < 0
    · have hneg : -(micros.natAbs : ℤ) = micros := by omega
      rw [if_pos hwest, hneg]
      rfl
    · have hpos : (micros.natAbs : ℤ) = micros := by omega
      rw [if_neg hwest, hpos]
      rfl

def zoneChars (offset : Option ℤ) : List Char :=
  match offset with
  | none => []
  | some micros => offsetChars micros

theorem zoneChars_some (micros : ℤ) :
    zoneChars (some micros) = signChar micros :: offsetText micros := offsetChars_eq micros

theorem signChar_cases (micros : ℤ) : signChar micros = '-' ∨ signChar micros = '+' := by
  rw [signChar]
  split
  · exact .inl rfl
  · exact .inr rfl

/-- Fields are written in digits, colons and points. -/
theorem fieldChars_mem {t : Clock} {seconds : Bool} {c : Char} (hc : c ∈ fieldChars t seconds) :
    isDigit c = true ∨ c = ':' ∨ c = '.' := by
  have hdigits {width n : ℕ} (h : c ∈ padded width n) : isDigit c = true :=
    allDigits_padded width n c h
  have hfraction (h : c ∈ fractionChars t.micro) : isDigit c = true ∨ c = ':' ∨ c = '.' := by
    rw [fractionChars] at h
    split at h
    · cases h
    · rcases List.mem_cons.mp h with rfl | h
      · exact .inr (.inr rfl)
      · exact .inl (hdigits h)
  rw [fieldChars, List.mem_append, List.mem_cons, List.mem_append] at hc
  rcases hc with h | rfl | h | h
  · exact .inl (hdigits h)
  · exact .inr (.inl rfl)
  · exact .inl (hdigits h)
  · split at h
    · rw [List.mem_cons, List.mem_append] at h
      rcases h with rfl | h | h
      · exact .inr (.inl rfl)
      · exact .inl (hdigits h)
      · exact hfraction h
    · cases h

theorem not_startsOffset {t : Clock} : ∀ c ∈ clockChars t, (!startsOffset c) = true := by
  intro c hc
  rw [clockChars_eq] at hc
  rcases fieldChars_mem hc with h | rfl | rfl
  · by_contra hstarts
    simp only [startsOffset, Bool.not_eq_true', Bool.not_eq_false, Bool.or_eq_true,
      beq_iff_eq] at hstarts
    rcases hstarts with (rfl | rfl) | rfl <;> cases h
  · rfl
  · rfl

theorem time?_chars {t : Clock} (ht : t.Valid) {offset : Option ℤ}
    (hoffset : ∀ micros, offset = some micros → micros.natAbs < microsPerDay) :
    time? (clockChars t ++ zoneChars offset) = some (t, offset.map readOffset) := by
  have hzone : (zoneChars offset).takeWhile (!startsOffset ·) = [] := by
    cases offset with
    | none => rfl
    | some micros =>
      rw [zoneChars_some]
      rcases signChar_cases micros with h | h <;> rw [h] <;> rfl
  have hfields := fields?_fieldChars ht true (fun h => by cases h)
  have hclock : Clock.of? t.hour t.minute t.second t.micro = some t := if_pos ht
  rw [time?, List.takeWhile_append_of_pos not_startsOffset, hzone, List.append_nil,
    clockChars_eq, hfields]
  simp only [Option.bind_eq_bind, Option.bind_some, List.drop_left]
  cases offset with
  | none => simp [zoneChars, hclock]
  | some micros =>
    have hread := offset?_offsetText (hoffset micros rfl)
    rw [zoneChars_some]
    rcases signChar_cases micros with h | h <;> rw [h] at hread ⊢
    · have hwest : offset? true (offsetText micros) = some (readOffset micros) := hread
      simp [hwest, hclock]
    · have heast : offset? false (offsetText micros) = some (readOffset micros) := hread
      simp [heast, hclock]

end Iso

structure Moment.Valid (m : Moment) : Prop where
  date : m.date.Valid
  clock : m.clock.Valid
  offset : ∀ micros, m.offset = some micros → micros.natAbs < microsPerDay

namespace Iso

theorem momentChars_eq (separator : Char) (m : Moment) :
    momentChars separator m = dateChars m.date ++ separator ::
      (clockChars m.clock ++ zoneChars m.offset) := by
  rw [momentChars, List.append_assoc, List.cons_append]
  rfl

theorem length_dateChars {d : Date} (hd : d.Valid) : (dateChars d).length = 10 := by
  obtain ⟨-, hyear, -, hmonth, -, hday⟩ := id hd
  have hdays := daysInMonth_lt d.year d.month
  rw [lastYear] at hyear
  simp only [dateChars, List.length_append, List.length_cons,
    length_padded (by omega : d.year < 10 ^ 4) (by decide),
    length_padded (by omega : d.month < 10 ^ 2) (by decide),
    length_padded (by omega : d.day < 10 ^ 2) (by decide)]

/-- With a hyphen behind the year and no week a date is ten characters long. -/
theorem separatorIndex?_dateChars {d : Date} (hd : d.Valid) (rest : List Char) :
    separatorIndex? (dateChars d ++ rest) = some 10 := by
  have hlength : (dateChars d ++ rest).length ≠ 7 := by
    rw [List.length_append, length_dateChars hd]
    omega
  obtain ⟨-, hyear, -⟩ := hd
  rw [lastYear] at hyear
  have hfour := length_padded (by omega : d.year < 10 ^ 4) (by decide)
  obtain ⟨c, tail, hmonth, hdigit⟩ := padded_head (by decide : 0 < 2) d.month
    ('-' :: (padded 2 d.day ++ rest))
  have htext : dateChars d ++ rest = padded 4 d.year ++ '-' :: c :: tail := by
    rw [← hmonth, dateChars]
    simp
  have hhyphen : (dateChars d ++ rest)[4]? = some '-' := by
    rw [htext, List.getElem?_append_right (by omega), hfour]
    rfl
  have hweek : (dateChars d ++ rest)[5]? ≠ some 'W' := by
    rw [htext, List.getElem?_append_right (by omega), hfour]
    rintro ⟨⟩
    cases hdigit
  rw [separatorIndex?]
  simp only [if_neg hlength, if_pos hhyphen, if_neg hweek]

/-- A moment's text is read as that moment, with the offset that is read for its offset. -/
theorem moment?_momentChars {m : Moment} (hm : m.Valid) :
    moment? (momentChars 'T' m) = some { m with offset := m.offset.map readOffset } := by
  have hlength := length_dateChars hm.date
  have hlong :
      ¬ (dateChars m.date ++ 'T' :: (clockChars m.clock ++ zoneChars m.offset)).length < 7 := by
    rw [List.length_append, hlength]
    omega
  rw [momentChars_eq, moment?, if_neg hlong, separatorIndex?_dateChars hm.date]
  simp only [Option.bind_eq_bind, Option.bind_some]
  rw [List.take_left' hlength, List.drop_left' hlength, date?_dateChars hm.date]
  simp only [Option.bind_some, time?_chars hm.clock hm.offset]

theorem moment?_dateChars {d : Date} (hd : d.Valid) :
    moment? (dateChars d) = some (.ofDate d) := by
  have hlength := length_dateChars hd
  have hindex := separatorIndex?_dateChars hd []
  rw [List.append_nil] at hindex
  rw [moment?, if_neg (by omega), hindex]
  simp only [Option.bind_eq_bind, Option.bind_some]
  rw [List.take_of_length_le hlength.le, List.drop_of_length_le hlength.le, date?_dateChars hd]
  rfl

/-! ## Texts without blanks -/

def marks : List Char := ['-', '+', ':', '.', 'T']

theorem isBlank_digit {c : Char} (hc : isDigit c = true) : isBlank c = false := by
  have hrange : 48 ≤ c.toNat ∧ c.toNat ≤ 57 := by
    rw [isDigit, Bool.and_eq_true, decide_eq_true_eq, decide_eq_true_eq] at hc
    exact hc
  simp only [isBlank, isSpace, Bool.or_eq_false_iff, Bool.and_eq_false_iff, decide_eq_false_iff_not,
    beq_eq_false_iff_ne]
  omega

theorem isBlank_mark {c : Char} (hc : c ∈ marks) : isBlank c = false := by
  simp only [marks, List.mem_cons, List.not_mem_nil, or_false] at hc
  rcases hc with rfl | rfl | rfl | rfl | rfl <;> rfl

theorem trim_eq_self {s : List Char} (hs : ∀ c ∈ s, isDigit c = true ∨ c ∈ marks) : trim s = s := by
  have hnone (s : List Char) (hs : ∀ c ∈ s, isDigit c = true ∨ c ∈ marks) :
      s.dropWhile isBlank = s := by
    cases s with
    | nil => rfl
    | cons c s =>
      have hc : isBlank c = false := (hs c List.mem_cons_self).elim isBlank_digit isBlank_mark
      rw [List.dropWhile_cons_of_neg (by simp [hc])]
  rw [trim, trimBy, hnone s hs, hnone s.reverse (by simpa using hs), List.reverse_reverse]

theorem dateChars_mem {d : Date} {c : Char} (hc : c ∈ dateChars d) :
    isDigit c = true ∨ c ∈ marks := by
  have hdigits {width n : ℕ} (h : c ∈ padded width n) : isDigit c = true :=
    allDigits_padded width n c h
  simp only [dateChars, List.append_assoc, List.cons_append, List.mem_append, List.mem_cons] at hc
  rcases hc with h | rfl | h | rfl | h
  · exact .inl (hdigits h)
  · exact .inr (by decide)
  · exact .inl (hdigits h)
  · exact .inr (by decide)
  · exact .inl (hdigits h)

theorem fieldChars_marks {t : Clock} {seconds : Bool} {c : Char} (hc : c ∈ fieldChars t seconds) :
    isDigit c = true ∨ c ∈ marks := by
  rcases fieldChars_mem hc with h | rfl | rfl
  · exact .inl h
  · exact .inr (by decide)
  · exact .inr (by decide)

theorem momentChars_mem {m : Moment} {c : Char} (hc : c ∈ momentChars 'T' m) :
    isDigit c = true ∨ c ∈ marks := by
  rw [momentChars_eq, List.mem_append, List.mem_cons, List.mem_append, clockChars_eq] at hc
  rcases hc with h | rfl | h | h
  · exact dateChars_mem h
  · exact .inr (by decide)
  · exact fieldChars_marks h
  · cases hoffset : m.offset with
    | none =>
      rw [hoffset] at h
      cases h
    | some micros =>
      rw [hoffset, zoneChars_some, List.mem_cons] at h
      rcases h with rfl | h
      · rcases signChar_cases micros with h | h <;> rw [h] <;> exact .inr (by decide)
      · exact fieldChars_marks h

end Iso

/-- A date written in ISO form names its midnight. -/
theorem momentOf?_dateText {d : Date} (hd : d.Valid) :
    momentOf? (.text (String.ofList (Iso.dateChars d))) = some (.ofDate d) := by
  rw [momentOf?, String.toList_ofList, Iso.trim_eq_self fun _ =>
    Iso.dateChars_mem, Iso.moment?_dateChars hd]

/-- A moment written in ISO form names that moment, with the offset that is read for its offset. -/
theorem momentOf?_momentText {m : Moment} (hm : m.Valid) :
    momentOf? (.text (String.ofList (Iso.momentChars 'T' m))) =
      some { m with offset := m.offset.map Iso.readOffset } := by
  rw [momentOf?, String.toList_ofList, Iso.trim_eq_self fun _ => Iso.momentChars_mem,
    Iso.moment?_momentChars hm]

end Dossier.Calendar
