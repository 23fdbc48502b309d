import Dossier.Proofs.Calendar.Ordinal

/-!
# Shown dates are not dates to read

A date as a reader sees it starts with the name of its month. A text in ISO form starts with a
digit, so a shown date names no moment. That the name of the month is never missing takes the
calendar: a day of a year falls into one of its twelve months.
-/

set_option autoImplicit false

namespace Dossier.Calendar

/-! ## Texts that name no moment -/

def StartsWithWord (s : List Char) : Prop :=
  ∃ c rest, s = c :: rest ∧ Text.isDigit c = false ∧ Text.isBlank c = false

theorem StartsWithWord.ne_nil {s : List Char} (hs : StartsWithWord s) : s ≠ [] := by
  obtain ⟨c, rest, rfl, -⟩ := hs
  exact List.cons_ne_nil c rest

theorem StartsWithWord.append {s : List Char} (hs : StartsWithWord s) (rest : List Char) :
    StartsWithWord (s ++ rest) := by
  obtain ⟨c, tail, rfl, hc⟩ := hs
  exact ⟨c, tail ++ rest, rfl, hc⟩

theorem StartsWithWord.trim {s : List Char} (hs : StartsWithWord s) :
    StartsWithWord (Text.trim s) := by
  obtain ⟨c, rest, rfl, hdigit, hblank⟩ := hs
  rw [Text.trim, Text.trimBy, List.dropWhile_cons_of_neg (by simp [hblank]), List.reverse_cons,
    List.dropWhile_append]
  split
  · exact ⟨c, [], by simp [hblank], hdigit, hblank⟩
  · exact ⟨c, (rest.reverse.dropWhile Text.isBlank).reverse, by simp, hdigit, hblank⟩

namespace Iso

theorem digits?_word {s : List Char} (hs : StartsWithWord s) (count : Nat) :
    digits? (count + 1) s = none := by
  obtain ⟨c, rest, rfl, hdigit, -⟩ := hs
  simp [digits?, digits?.go, hdigit]

theorem moment?_word {s : List Char} (hs : StartsWithWord s) : moment? s = none := by
  unfold moment?
  split
  · rfl
  · cases separatorIndex? s with
    | none => rfl
    | some index =>
      have hyear : digits? 4 (s.take index) = none := by
        cases index with
        | zero => rfl
        | succ index =>
          obtain ⟨c, rest, rfl, hc⟩ := hs
          exact digits?_word ⟨c, rest.take index, rfl, hc⟩ 3
      simp [date?, hyear]

end Iso

theorem monthNames_word {name : String} (hname : name ∈ monthNames) :
    StartsWithWord name.toList := by
  have hall : ∀ name ∈ monthNames,
      name.toList.head?.any (fun c => !Text.isDigit c && !Text.isBlank c) = true := by
    decide +kernel
  have hhead := hall name hname
  cases hs : name.toList with
  | nil => simp [hs] at hhead
  | cons c rest =>
    have hc : Text.isDigit c = false ∧ Text.isBlank c = false := by simpa [hs] using hhead
    exact ⟨c, rest, rfl, hc⟩

theorem showLocal_word {d : Date} (hmonth : 1 ≤ d.month ∧ d.month ≤ 12) (t : Clock)
    (zone : String) : StartsWithWord (showLocal d t zone).toList := by
  have hindex : d.month - 1 < monthNames.length := by
    change d.month - 1 < 12
    omega
  have hname : monthNames.getD (d.month - 1) "" ∈ monthNames := by
    rw [List.getD_eq_getElem?_getD, List.getElem?_eq_getElem hindex, Option.getD_some]
    exact List.getElem_mem hindex
  have hword := monthNames_word hname
  simp only [showLocal, String.toList_append, List.append_assoc]
  exact hword.append _

/-- A date as it is shown is a text that names no moment. -/
theorem showInstant_word {zone : Zone} {instant : Int} {s : String}
    (hs : showInstant zone instant = .ok s) : StartsWithWord s.toList := by
  unfold showInstant at hs
  split at hs
  · cases hs
  · dsimp only at hs
    split at hs
    · cases hs
    · next d t hlocal =>
      cases hs
      exact showLocal_word (ofReading?_readAs hlocal).month t _

theorem momentOf?_word {s : String} (hs : StartsWithWord s.toList) : momentOf? (.text s) = none :=
  Iso.moment?_word hs.trim

end Dossier.Calendar
