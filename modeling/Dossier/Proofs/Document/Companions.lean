import Dossier.Proofs.Value.Entries
import Dossier.Proofs.Calendar.Shown
import Dossier.Proofs.Host.Frame
import Dossier.Document.Format
import Dossier.Value.Order

/-!
# Companions and the values of a row

Companions are added under keys of their own, and a companion that counts as present stays. One that
is there without counting as present, such as an empty text or a zero, gives way to the text of its
column. What one column does is told by the row it finds; that it is also told by the row at the
start takes an argument, since a companion may be the source of another column.
-/

set_option autoImplicit false

namespace Dossier

open Run Number Calendar Format

/-! ## Texts of numbers -/

theorem ne_empty_of_toList {s : String} (hs : s.toList ≠ []) : s ≠ "" := by
  rintro rfl
  exact hs rfl

theorem intText_ne_empty (n : Int) : intText n ≠ "" := by
  refine ne_empty_of_toList ?_
  rw [intText, String.toList_ofList]
  split
  · exact List.cons_ne_nil _ _
  · exact Nat.toDigits_ne_nil

theorem magnitude_ne_nil (style : Style) (x : Decimal) : style.magnitude x ≠ [] := by
  have hdigits : x.digits ≠ [] := Nat.toDigits_ne_nil
  unfold Style.magnitude positional scientific
  split
  · dsimp only
    split
    · simp [hdigits]
    · split <;> simp
  · simp

theorem write_ne_empty (x : Binary) : Style.shown.write x ≠ "" := by
  refine ne_empty_of_toList ?_
  cases x with
  | nan => decide
  | infinite negative => cases negative <;> decide
  | finite negative m e =>
    rw [Style.write, String.toList_ofList]
    split
    · exact List.cons_ne_nil _ _
    · exact magnitude_ne_nil _ _

theorem showBinary_ne_empty (x : Binary) : showBinary x ≠ "" := by
  unfold showBinary
  split
  · split
    · exact intText_ne_empty _
    · exact write_ne_empty x
  · exact write_ne_empty x

theorem showInt_ne_empty {n : Int} {s : String} (hs : showInt? n = some s) : s ≠ "" := by
  unfold showInt? at hs
  split at hs
  · cases hs
    exact intText_ne_empty n
  · obtain ⟨x, -, rfl⟩ := Option.map_eq_some_iff.mp hs
    exact showBinary_ne_empty x

def Value.isDated (v : Value) : Bool := v.isTruthy && (momentOf? v).isSome

def Value.isCounted (v : Value) : Bool := v.amount?.isSome

theorem percent_ne_empty {v : Value} {s : String} (hv : v.isCounted = true)
    (hs : percent v = .ok s) : s ≠ "" := by
  unfold percent at hs
  split at hs
  · obtain ⟨places, -, rfl⟩ := except_map_ok hs
    exact ne_empty_of_toList (by simp)
  · have hnumeric : v.numeric?.isSome = true := by
      cases v <;> first | rfl | cases hv
    rw [if_pos hnumeric] at hs
    cases hs
    decide

theorem number_ne_empty {v : Value} {c : Column} {s : String} (hv : v.isCounted = true)
    (hs : number v c = .ok s) : s ≠ "" := by
  unfold number at hs
  split at hs
  · exact percent_ne_empty hv hs
  · cases v with
    | int n =>
      simp only [plain] at hs
      split at hs
      · next shown hshown =>
        cases hs
        exact showInt_ne_empty hshown
      · cases hs
    | float x =>
      cases hs
      exact showBinary_ne_empty x
    | _ => cases hv

/-! ## One column -/

/-- What one column makes of a row. It leaves the row alone when the companion counts as present, or
when it does not show the value. Otherwise the companion is a text, which it would not show in its
turn. -/
inductive Companioned (shows : Value → Bool) (c : Column) (r : Fields) : Fields → Prop
  | kept (hkept : (r.get (companion c.property)).isTruthy = true ∨
    shows (r.get c.property) = false) :
      Companioned shows c r r
  | added (habsent : (r.get (companion c.property)).isTruthy = false)
      (hshown : shows (r.get c.property) = true) {s : String} (hs : s ≠ "")
      (hunshown : shows (.text s) = false) :
      Companioned shows c r (r.put (companion c.property) (.text s))

theorem date_ok {zones : Zones} {v : Value} {viewer : Viewer} {shown : Option String} {h h' : Host}
    (hrun : date zones v viewer h = (.ok shown, h')) :
    (shown = none ∧ v.isDated = false) ∨
      ∃ s, shown = some s ∧ v.isDated = true ∧ StartsWithWord s.toList := by
  by_cases htruthy : v.isTruthy = true
  · rw [date, if_pos htruthy] at hrun
    cases hmoment : momentOf? v with
    | none =>
      rw [hmoment] at hrun
      obtain ⟨rfl, -⟩ := pure_ok hrun
      exact .inl ⟨rfl, by simp [Value.isDated, hmoment]⟩
    | some m =>
      rw [hmoment] at hrun
      obtain ⟨name, h₁, -, hrun⟩ := bind_ok hrun
      obtain ⟨zone, h₂, -, hrun⟩ := bind_ok hrun
      obtain ⟨s, hshow, rfl⟩ := map_ok hrun
      obtain ⟨hshow, -⟩ := lift_ok hshow
      exact .inr ⟨s, rfl, by simp [Value.isDated, htruthy, hmoment], showInstant_word hshow⟩
  · rw [date, if_neg htruthy] at hrun
    obtain ⟨rfl, -⟩ := pure_ok hrun
    exact .inl ⟨rfl, by simp [Value.isDated, htruthy]⟩

theorem addDate_ok {zones : Zones} {r s : Fields} {c : Column} {viewer : Viewer} {h h' : Host}
    (hrun : addDate zones r c viewer h = (.ok s, h')) : Companioned Value.isDated c r s := by
  by_cases hpresent : (r.get (companion c.property)).isTruthy = true
  · rw [addDate, if_pos hpresent] at hrun
    obtain ⟨rfl, -⟩ := pure_ok hrun
    exact .kept (.inl hpresent)
  · rw [addDate, if_neg hpresent] at hrun
    obtain ⟨shown, h₁, hshown, hrun⟩ := bind_ok hrun
    obtain ⟨rfl, hdated⟩ | ⟨text, rfl, hdated, hword⟩ := date_ok hshown
    · obtain ⟨rfl, -⟩ := pure_ok hrun
      exact .kept (.inr hdated)
    · obtain ⟨rfl, -⟩ := pure_ok hrun
      have hunread : Value.isDated (.text text) = false := by
        simp [Value.isDated, momentOf?_word hword]
      exact .added (by simpa using hpresent) hdated (ne_empty_of_toList hword.ne_nil) hunread

theorem addNumber_ok {r s : Fields} {c : Column} (hrun : addNumber r c = .ok s) :
    Companioned Value.isCounted c r s := by
  have hadded (hcounted : (r.get c.property).isCounted = true)
      (habsent : (r.get (companion c.property)).isTruthy = false)
      (hput : (number (r.get c.property) c).map
        (fun text => r.put (companion c.property) (.text text)) = .ok s) :
      Companioned Value.isCounted c r s := by
    obtain ⟨text, hnumber, rfl⟩ := except_map_ok hput
    exact .added habsent hcounted (number_ne_empty hcounted hnumber) rfl
  unfold addNumber at hrun
  dsimp only at hrun
  split at hrun
  · next hpresent =>
    cases hrun
    exact .kept (.inl hpresent)
  · next hpresent =>
    have habsent := by simpa using hpresent
    cases hv : r.get c.property with
    | int n =>
      rw [hv] at hrun
      exact hadded (by rw [hv]; rfl) habsent (by rw [hv]; exact hrun)
    | float x =>
      rw [hv] at hrun
      exact hadded (by rw [hv]; rfl) habsent (by rw [hv]; exact hrun)
    | _ =>
      rw [hv] at hrun
      cases hrun
      exact .kept (.inr (by rw [hv]; rfl))

/-! ## Entries that stay -/

def Fields.KeptIn (r s : Fields) : Prop := ∀ key v, r.get? key = some v → s.get? key = some v

/-- The row has the companion of a column, as a value that does not count as present, and the column
shows what it has under its property. -/
def Column.Overwrites (shows : Value → Bool) (r : Fields) (c : Column) : Prop :=
  (∃ v, r.get? (companion c.property) = some v ∧ v.isTruthy = false) ∧
    shows (r.get c.property) = true

/-- Rows that differ only where the first one has nothing that counts as present. There the second
one has a text, which is not empty and not shown in its turn. -/
def Fields.Grown (shows : Value → Bool) (r s : Fields) : Prop :=
  ∀ key, s.get? key = r.get? key ∨
    ((r.get key).isTruthy = false ∧
      ∃ t, t ≠ "" ∧ shows (.text t) = false ∧ s.get? key = some (.text t))

theorem text_truthy {t : String} (ht : t ≠ "") : (Value.text t).isTruthy = true := by
  simpa [Value.isTruthy] using ht

namespace Fields

variable {shows : Value → Bool} {r s u : Fields} {key : String} {v : Value}

theorem KeptIn.refl (r : Fields) : r.KeptIn r := fun _ _ hv => hv

theorem KeptIn.trans (hrs : r.KeptIn s) (hsu : s.KeptIn u) : r.KeptIn u :=
  fun key v hv => hsu key v (hrs key v hv)

theorem Grown.refl (shows : Value → Bool) (r : Fields) : Grown shows r r := fun _ => .inl rfl

/-- A value that counts as present stays. -/
theorem Grown.truthy (hgrown : Grown shows r s) (hv : r.get? key = some v)
    (htruthy : v.isTruthy = true) : s.get? key = some v := by
  obtain hsame | ⟨hfalsy, -⟩ := hgrown key
  · rw [hsame, hv]
  · rw [get_of_get? hv, htruthy] at hfalsy
    cases hfalsy

/-- A value that does not count as present is not a new one. -/
theorem Grown.falsy (hgrown : Grown shows r s) (hv : s.get? key = some v)
    (hfalsy : v.isTruthy = false) : r.get? key = some v := by
  obtain hsame | ⟨-, t, ht, -, htext⟩ := hgrown key
  · rw [← hsame, hv]
  · rw [htext] at hv
    cases hv
    rw [text_truthy ht] at hfalsy
    cases hfalsy

theorem Grown.trans (hrs : Grown shows r s) (hsu : Grown shows s u) : Grown shows r u := by
  intro key
  obtain hsame | ⟨hfalsy, t, ht, hunshown, htext⟩ := hrs key
  · rw [← hsame, get_eq, ← hsame, ← get_eq]
    exact hsu key
  · exact .inr ⟨hfalsy, t, ht, hunshown, hsu.truthy htext (text_truthy ht)⟩

theorem Grown.mono {shows' : Value → Bool} (hgrown : Grown shows r s)
    (htexts : ∀ t, shows' (.text t) = false) : Grown shows' r s := fun key =>
  (hgrown key).imp_right fun ⟨hfalsy, t, ht, _, htext⟩ => ⟨hfalsy, t, ht, htexts t, htext⟩

/-- What was overwritten once does not come back. -/
theorem Grown.keptIn_iff {shows' : Value → Bool} (hrs : Grown shows r s) (hsu : Grown shows' s u) :
    r.KeptIn u ↔ r.KeptIn s ∧ s.KeptIn u := by
  refine ⟨fun hru => ⟨fun key v hv => ?_, fun key v hv => ?_⟩, fun ⟨hrs, hsu⟩ => hrs.trans hsu⟩
  · obtain hsame | ⟨hfalsy, t, ht, -, htext⟩ := hrs key
    · rw [hsame, hv]
    · have hlast := hsu.truthy htext (text_truthy ht)
      rw [hru key v hv] at hlast
      cases hlast
      rw [get_of_get? hv, text_truthy ht] at hfalsy
      cases hfalsy
  · cases htruthy : v.isTruthy with
    | true => exact hsu.truthy hv htruthy
    | false => exact hru key v (hrs.falsy hv htruthy)

/-- Later columns overwrite what they would have overwritten at the start. -/
theorem Grown.overwrites_iff {c : Column} (hgrown : Grown shows r s) (hkept : r.KeptIn s)
    (hnull : shows .null = false) : c.Overwrites shows s ↔ c.Overwrites shows r := by
  constructor
  · rintro ⟨⟨v, hv, hfalsy⟩, hshown⟩
    refine ⟨⟨v, hgrown.falsy hv hfalsy, hfalsy⟩, ?_⟩
    obtain hsame | ⟨-, t, -, hunshown, htext⟩ := hgrown c.property
    · rwa [get_eq, ← hsame, ← get_eq]
    · rw [get_of_get? htext, hunshown] at hshown
      cases hshown
  · rintro ⟨⟨v, hv, hfalsy⟩, hshown⟩
    refine ⟨⟨v, hkept _ v hv, hfalsy⟩, ?_⟩
    cases hsource : r.get? c.property with
    | none =>
      rw [get_eq, hsource, Option.getD_none, hnull] at hshown
      cases hshown
    | some w =>
      rw [get_of_get? hsource] at hshown
      rw [get_of_get? (hkept _ w hsource), hshown]

end Fields

section Columns

variable {shows : Value → Bool} {c : Column} {r s : Fields}

theorem companioned_grown (hc : Companioned shows c r s) : Fields.Grown shows r s := by
  cases hc with
  | kept => exact .refl shows r
  | added habsent hshown hs hunshown =>
    intro key
    rw [Fields.get?_put]
    split
    · next hkey => exact .inr ⟨hkey ▸ habsent, _, hs, hunshown, rfl⟩
    · exact .inl rfl

theorem companioned_kept_iff (hc : Companioned shows c r s) :
    r.KeptIn s ↔ ¬ c.Overwrites shows r := by
  cases hc with
  | kept hkept =>
    refine ⟨fun _ ⟨⟨v, hv, hfalsy⟩, hshown⟩ => ?_, fun _ => .refl r⟩
    rw [Fields.get_of_get? hv, hfalsy, hshown] at hkept
    simp at hkept
  | added habsent hshown hs hunshown =>
    constructor
    · rintro hkept ⟨⟨v, hv, hfalsy⟩, -⟩
      have hnow := hkept _ v hv
      rw [Fields.get?_put_self] at hnow
      cases hnow
      rw [text_truthy hs] at hfalsy
      cases hfalsy
    · intro hnot key v hv
      have hne : key ≠ companion c.property := by
        rintro rfl
        exact hnot ⟨⟨v, hv, Fields.get_of_get? hv ▸ habsent⟩, hshown⟩
      rw [Fields.get?_put_of_ne _ _ hne, hv]

theorem companioned_keys (hc : Companioned shows c r s) :
    ∃ added, s.keys = r.keys ++ added ∧ ∀ key ∈ added, key = companion c.property := by
  cases hc with
  | kept => exact ⟨[], by simp, by simp⟩
  | added =>
    rw [Fields.keys_put]
    split
    · exact ⟨[], by simp, by simp⟩
    · exact ⟨[companion c.property], rfl, by simp⟩

end Columns

/-! ## All columns -/

inductive CompanionedAll (shows : Value → Bool) : List Column → Fields → Fields → Prop
  | nil (r : Fields) : CompanionedAll shows [] r r
  | cons {c : Column} {rest : List Column} {r s u : Fields} (first : Companioned shows c r s)
      (later : CompanionedAll shows rest s u) : CompanionedAll shows (c :: rest) r u

theorem addDates_ok {zones : Zones} {viewer : Viewer} {columns : List Column} {r s : Fields}
    {h h' : Host} (hrun : addDates zones viewer columns r h = (.ok s, h')) :
    CompanionedAll Value.isDated columns r s := by
  induction columns generalizing r h with
  | nil =>
    obtain ⟨rfl, -⟩ := pure_ok hrun
    exact .nil _
  | cons c rest ih =>
    obtain ⟨middle, h₁, hfirst, hlater⟩ := bind_ok hrun
    exact .cons (addDate_ok hfirst) (ih hlater)

theorem addNumbers_ok {columns : List Column} {r s : Fields}
    (hrun : addNumbers columns r = .ok s) : CompanionedAll Value.isCounted columns r s := by
  induction columns generalizing r with
  | nil =>
    cases hrun
    exact .nil _
  | cons c rest ih =>
    rw [addNumbers] at hrun
    split at hrun
    · cases hrun
    · next middle hfirst => exact .cons (addNumber_ok hfirst) (ih hrun)

section Run

variable {shows : Value → Bool} {columns : List Column} {r s : Fields}

theorem companionedAll_grown (hall : CompanionedAll shows columns r s) :
    Fields.Grown shows r s := by
  induction hall with
  | nil r => exact .refl shows r
  | cons first later ih => exact (companioned_grown first).trans ih

/-- Nothing is overwritten exactly when no column overwrites anything in the row at the start. -/
theorem companionedAll_kept_iff (hall : CompanionedAll shows columns r s)
    (hnull : shows .null = false) : r.KeptIn s ↔ ∀ c ∈ columns, ¬ c.Overwrites shows r := by
  induction hall with
  | nil r => simp [Fields.KeptIn.refl]
  | cons first later ih =>
    have hgrown := companioned_grown first
    rw [hgrown.keptIn_iff (companionedAll_grown later), List.forall_mem_cons,
      ← companioned_kept_iff first, ih]
    refine and_congr_right fun hkept => ?_
    simp only [hgrown.overwrites_iff hkept hnull]

theorem companionedAll_keys (hall : CompanionedAll shows columns r s) :
    ∃ added, s.keys = r.keys ++ added ∧
      ∀ key ∈ added, ∃ c ∈ columns, key = companion c.property := by
  induction hall with
  | nil r => exact ⟨[], by simp, by simp⟩
  | @cons c rest r s u first later ih =>
    obtain ⟨before, hbefore, hfirst⟩ := companioned_keys first
    obtain ⟨after, hafter, hlater⟩ := ih
    refine ⟨before ++ after, by rw [hafter, hbefore, List.append_assoc], fun key hkey => ?_⟩
    obtain hkey | hkey := List.mem_append.mp hkey
    · exact ⟨c, List.mem_cons_self, hfirst key hkey⟩
    · obtain ⟨d, hd, hcompanion⟩ := hlater key hkey
      exact ⟨d, List.mem_cons_of_mem _ hd, hcompanion⟩

end Run

/-- A row keeps all its keys, in order, and what comes after them are companions of declared
columns. A value that counts as present stays. All values stay exactly when no column finds, in the
row at the start, its companion as a value that does not count as present next to a value that it
shows. -/
theorem row_kept_iff {zones : Zones} {dates numbers : List Column} {viewer : Viewer}
    {r final : Fields} {h h' : Host}
    (hrun : Format.row zones dates numbers viewer r h = (.ok final, h')) :
    (∃ added, final.keys = r.keys ++ added ∧
      ∀ key ∈ added, ∃ c ∈ dates ++ numbers, key = companion c.property) ∧
    (∀ key v, r.get? key = some v → v.isTruthy = true → final.get? key = some v) ∧
    ((∀ key v, r.get? key = some v → final.get? key = some v) ↔
      (∀ c ∈ dates, ¬ c.Overwrites Value.isDated r) ∧
        ∀ c ∈ numbers, ¬ c.Overwrites Value.isCounted r) := by
  obtain ⟨dated, h₁, hdates, hnumbers⟩ := bind_ok hrun
  have hdated := addDates_ok hdates
  have hcounted := addNumbers_ok (lift_ok hnumbers).1
  have hgrown := companionedAll_grown hdated
  have hlater := companionedAll_grown hcounted
  refine ⟨?_, fun key v hv htruthy => ?_, ?_⟩
  · obtain ⟨before, hbefore, hfirst⟩ := companionedAll_keys hdated
    obtain ⟨after, hafter, hsecond⟩ := companionedAll_keys hcounted
    refine ⟨before ++ after, by rw [hafter, hbefore, List.append_assoc], fun key hkey => ?_⟩
    obtain hkey | hkey := List.mem_append.mp hkey
    · obtain ⟨c, hc, hcompanion⟩ := hfirst key hkey
      exact ⟨c, List.mem_append_left _ hc, hcompanion⟩
    · obtain ⟨c, hc, hcompanion⟩ := hsecond key hkey
      exact ⟨c, List.mem_append_right _ hc, hcompanion⟩
  · exact hlater.truthy (hgrown.truthy hv htruthy) htruthy
  · change r.KeptIn final ↔ _
    rw [hgrown.keptIn_iff hlater, companionedAll_kept_iff hdated rfl,
      companionedAll_kept_iff hcounted rfl, ← companionedAll_kept_iff hdated rfl]
    refine and_congr_right fun hkept => ?_
    -- no number column shows a text, so the dates that were added are no new sources
    have hnumeric : Fields.Grown Value.isCounted r dated := hgrown.mono fun _ => rfl
    simp only [hnumeric.overwrites_iff hkept rfl]

def usageColumn : Column := ⟨"usage", "Usage", none, some .number, some .percent⟩

def dayColumn : Column := ⟨"day", "Day", none, some .date, none⟩

def anyViewer : Viewer := ⟨none, none, none⟩

/-- A text that stands as the companion of a day stays, and the share gets its companion. -/
theorem row_kept_day :
    ∃ final h', Format.row .utc [dayColumn] [usageColumn] anyViewer
        [("day", .text "2024-01-05"), ("dayFormatted", .text "today"),
          ("usage", .int 5)] Host.bare =
          (.ok final, h') ∧
      (∃ added, final.keys = ["day", "dayFormatted", "usage"] ++ added ∧
        ∀ key ∈ added, ∃ c ∈ [dayColumn, usageColumn], key = companion c.property) ∧
      final.get? "dayFormatted" = some (.text "today") := by
  have hruns : (Format.row .utc [dayColumn] [usageColumn] anyViewer
      [("day", .text "2024-01-05"), ("dayFormatted", .text "today"), ("usage", .int 5)]
      Host.bare).1.toOption.isSome = true := by
    decide +kernel
  obtain ⟨final, hfinal⟩ := Option.isSome_iff_exists.mp hruns
  have hrun := ok_of_toOption hfinal
  have hrow := row_kept_iff hrun
  exact ⟨final, _, hrun, hrow.1, hrow.2.1 "dayFormatted" _ rfl rfl⟩

/-- An empty text that stands as the companion of a share does not stay. -/
theorem row_overwrites_usage :
    ∃ final h', Format.row .utc [] [usageColumn] anyViewer
        [("usage", .float (.ofQuotient false 1 2)), ("usageFormatted", .text "")] Host.bare =
          (.ok final, h') ∧
      final.get? "usageFormatted" = some (.text "0.50%") := by
  have hruns : ((Format.row .utc [] [usageColumn] anyViewer
      [("usage", .float (.ofQuotient false 1 2)), ("usageFormatted", .text "")]
      Host.bare).1.toOption.bind fun final => (final.get? "usageFormatted").bind Value.text?) =
        some "0.50%" := by
    decide +kernel
  obtain ⟨final, hfinal, htext⟩ := Option.bind_eq_some_iff.mp hruns
  obtain ⟨v, hget, hv⟩ := Option.bind_eq_some_iff.mp htext
  cases v <;> cases hv
  exact ⟨final, _, ok_of_toOption hfinal, hget⟩

end Dossier
