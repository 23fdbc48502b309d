import Dossier.Proofs.Template.Expansion

/-!
# The placeholder at which a pass stops

A pass goes on as long as placeholders give way to texts. The first one that does not decides how it
ends, and nothing that comes after it is looked at.
-/

set_option autoImplicit false

namespace Dossier.Template

def Rules.stops (r : Rules) (body : List Char) : Bool :=
  isBlankBody body || (r.replacement? body).isNone

/-- The end of a pass at a placeholder that gives way to no text: a failure, or a text that is
missing because the placeholder stands for nothing. -/
def Rules.ending (r : Rules) (body : List Char) : Option Halt :=
  if isBlankBody body then some (.invalid body)
  else match r.meaning (Text.trim body) with
    | .unknown => some (.invalid body)
    | .tooLarge => some .tooLarge
    | .nothing | .text _ => none

section Stopping

variable {r : Rules} {body s : List Char}

theorem Rules.stops_eq_false_iff :
    r.stops body = false ↔ isBlankBody body = false ∧ ∃ v, r.replacement? body = some v := by
  rw [stops, Bool.or_eq_false_iff, Option.isNone_eq_false_iff, Option.isSome_iff_exists]

/-- Why a placeholder gives way to no text. -/
theorem Rules.stops_cases (hstops : r.stops body = true) :
    isBlankBody body = true ∨ isBlankBody body = false ∧
      (r.meaning (Text.trim body) = .unknown ∨ r.meaning (Text.trim body) = .tooLarge ∨
        r.meaning (Text.trim body) = .nothing ∧ r.nothing = none) := by
  cases hblank : isBlankBody body with
  | true => exact .inl rfl
  | false =>
    refine .inr ⟨rfl, ?_⟩
    have hnone : r.replacement? body = none := by simpa [stops, hblank] using hstops
    rw [replacement?] at hnone
    cases hmeaning : r.meaning (Text.trim body) with
    | unknown => exact .inl rfl
    | tooLarge => exact .inr (.inl rfl)
    | nothing => exact .inr (.inr ⟨rfl, by rwa [hmeaning] at hnone⟩)
    | text t =>
      rw [hmeaning] at hnone
      cases hnone

theorem pass_replace {v : List Char} (hblank : isBlankBody body = false)
    (hv : r.replacement? body = some v) (later : List (List Char)) (s : List Char) :
    pass r (body :: later) s = pass r later (replaceFirst (wrap body) v s) := by
  rw [pass, hblank, if_neg (by simp)]
  rcases Rules.replacement_cases hv with hm | ⟨hm, hnothing⟩
  · simp only [hm]
  · simp only [hm, hnothing]

theorem pass_blank (hblank : isBlankBody body = true) (later : List (List Char)) (s : List Char) :
    pass r (body :: later) s = .error (.invalid body) := by
  rw [pass, if_pos hblank]

theorem pass_unknown (hblank : isBlankBody body = false)
    (hmeaning : r.meaning (Text.trim body) = .unknown) (later : List (List Char)) (s : List Char) :
    pass r (body :: later) s = if r.suppress then stop later s else .error (.invalid body) := by
  rw [pass, hblank, if_neg (by simp), hmeaning]

theorem pass_tooLarge (hblank : isBlankBody body = false)
    (hmeaning : r.meaning (Text.trim body) = .tooLarge) (later : List (List Char)) (s : List Char) :
    pass r (body :: later) s = .error .tooLarge := by
  rw [pass, hblank, if_neg (by simp), hmeaning]

theorem pass_missing (hblank : isBlankBody body = false)
    (hmeaning : r.meaning (Text.trim body) = .nothing) (hnothing : r.nothing = none)
    (later : List (List Char)) (s : List Char) : pass r (body :: later) s = .ok .missing := by
  rw [pass, hblank, if_neg (by simp), hmeaning]
  simp only [hnothing]

theorem pass_stops (hsuppress : r.suppress = false) (later : List (List Char)) (s : List Char) :
    match later.find? r.stops with
    | some body => pass r later s = match r.ending body with
      | some halt => .error halt
      | none => .ok .missing
    | none => ∃ t, pass r later s = .ok (.complete t) := by
  induction later generalizing s with
  | nil => exact ⟨s, rfl⟩
  | cons body later ih =>
    cases hstops : r.stops body with
    | false =>
      obtain ⟨hblank, v, hv⟩ := Rules.stops_eq_false_iff.mp hstops
      rw [List.find?_cons_of_neg (by simp [hstops]), pass_replace hblank hv]
      exact ih _
    | true =>
      rw [List.find?_cons_of_pos hstops]
      dsimp only
      rw [Rules.ending]
      rcases Rules.stops_cases hstops with hblank | ⟨hblank, hmeaning
        | hmeaning | ⟨hmeaning, hnone⟩⟩
      · rw [pass_blank hblank, if_pos hblank]
      · rw [pass_unknown hblank hmeaning, hsuppress, hblank, hmeaning]
        rfl
      · rw [pass_tooLarge hblank hmeaning, hblank, hmeaning]
        rfl
      · rw [pass_missing hblank hmeaning hnone, hblank, hmeaning]
        rfl

/-- A pass that comes to such a placeholder is not complete. -/
theorem pass_incomplete (hstops : r.stops body = true)
    (later : List (List Char)) (s t : List Char) :
    pass r (body :: later) s ≠ .ok (.complete t) := by
  rcases Rules.stops_cases hstops with hblank | ⟨hblank, hmeaning | hmeaning | ⟨hmeaning, hnone⟩⟩
  · rw [pass_blank hblank]
    nofun
  · rw [pass_unknown hblank hmeaning, stop]
    cases r.suppress with
    | false => nofun
    | true => cases later.find? isBlankBody <;> nofun
  · rw [pass_tooLarge hblank hmeaning]
    nofun
  · rw [pass_missing hblank hmeaning hnone]
    nofun

theorem pass_written (hnothing : r.nothing ≠ none) (later : List (List Char)) (s : List Char) :
    pass r later s ≠ .ok .missing := by
  induction later generalizing s with
  | nil => nofun
  | cons body later ih =>
    cases hstops : r.stops body with
    | false =>
      obtain ⟨hblank, v, hv⟩ := Rules.stops_eq_false_iff.mp hstops
      rw [pass_replace hblank hv]
      exact ih _
    | true =>
      rcases Rules.stops_cases hstops with hblank | ⟨hblank, hmeaning | hmeaning | ⟨-, hnone⟩⟩
      · rw [pass_blank hblank]
        nofun
      · rw [pass_unknown hblank hmeaning, stop]
        cases r.suppress with
        | false => nofun
        | true => cases later.find? isBlankBody <;> nofun
      · rw [pass_tooLarge hblank hmeaning]
        nofun
      · exact absurd hnone hnothing

/-- A text with placeholders is as its first pass leaves it. -/
theorem passes_succ (hs : placeholders s ≠ []) (left : Nat) :
    passes r (left + 1) s = match pass r (placeholders s) s with
      | .error halt => .error halt
      | .ok (.complete t) => passes r left t
      | .ok (.stopped t) => .ok (some t)
      | .ok .missing => .ok none := by
  cases hfound : placeholders s with
  | nil => exact absurd hfound hs
  | cons body later =>
    rewrite [passes, hfound]
    rfl

/-- Where a placeholder of the text stops the first pass, it decides. -/
theorem passes_stops (hsuppress : r.suppress = false)
    (hfound : (placeholders s).find? r.stops = some body) (left : Nat) :
    passes r (left + 1) s = match r.ending body with
      | some halt => .error halt
      | none => .ok none := by
  have hpass := pass_stops hsuppress (placeholders s) s
  rw [hfound] at hpass
  have hs : placeholders s ≠ [] := List.ne_nil_of_mem (List.mem_of_find?_eq_some hfound)
  dsimp only at hpass
  rw [passes_succ hs, hpass]
  cases r.ending body <;> rfl

end Stopping

end Dossier.Template
