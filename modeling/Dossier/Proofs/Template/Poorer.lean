import Dossier.Proofs.Host.Quiet

/-!
# Resolving with less in scope

What a scope lacks makes some placeholders unknown and leaves all others as they are. So a text
comes out as in the full scope unless one of those placeholders comes up, which then is the failure.
-/

set_option autoImplicit false

namespace Dossier

namespace Template

section Poorer

variable {poor rich : List Char → Meaning} {P : List Char → Prop}
  (hpoor : ∀ path, poor path = rich path ∨ (poor path = .unknown ∧ P path))
include hpoor

theorem pass_poorer (later : List (List Char)) (s : List Char) :
    pass ⟨poor, false, some []⟩ later s = pass ⟨rich, false, some []⟩ later s ∨
      ∃ body, P (Text.trim body) ∧ pass ⟨poor, false, some []⟩ later s =
        .error (.invalid body) := by
  induction later generalizing s with
  | nil => exact .inl rfl
  | cons body later ih =>
    by_cases hblank : isBlankBody body = true
    · exact .inl (by simp [pass, hblank])
    obtain hsame | ⟨hunknown, hP⟩ := hpoor (Text.trim body)
    · cases hmeaning : rich (Text.trim body) with
      | text t => simpa [pass, hblank, hsame, hmeaning] using ih _
      | nothing => simpa [pass, hblank, hsame, hmeaning] using ih _
      | unknown => exact .inl (by simp [pass, hblank, hsame, hmeaning])
      | tooLarge => exact .inl (by simp [pass, hblank, hsame, hmeaning])
    · exact .inr ⟨body, hP, by simp [pass, hblank, hunknown]⟩

theorem passes_poorer (left : Nat) (s : List Char) :
    passes ⟨poor, false, some []⟩ left s = passes ⟨rich, false, some []⟩ left s ∨
      ∃ body, P (Text.trim body) ∧
        passes ⟨poor, false, some []⟩ left s = .error (.invalid body) := by
  induction left generalizing s with
  | zero =>
    left
    unfold passes
    rfl
  | succ left ih =>
    unfold passes
    cases placeholders s with
    | nil => exact .inl rfl
    | cons body later =>
      dsimp only
      obtain hsame | ⟨bad, hP, hhalt⟩ := pass_poorer hpoor (body :: later) s
      · rw [hsame]
        match pass ⟨rich, false, some []⟩ (body :: later) s with
        | .error halt => exact .inl rfl
        | .ok (.complete t) => exact ih t
        | .ok (.stopped t) => exact .inl rfl
        | .ok .missing => exact .inl rfl
      · exact .inr ⟨bad, hP, by rw [hhalt]⟩

end Poorer

end Template

namespace Run

open Template

/-- A text resolves as in a richer scope, or fails at a placeholder that only the richer one knows.
-/
theorem resolve_poorer {poor rich : Fields} {P : List Char → Prop}
    (hpoor : ∀ env path, meaning env poor path = meaning env rich path ∨
      (meaning env poor path = .unknown ∧ P path)) (s : String) (h : Host) :
    (resolve poor s h).1 = (resolve rich s h).1 ∨
      ∃ body, P (Text.trim body) ∧
        (resolve poor s h).1 = .error (.invalidToken (String.ofList (wrap body))) := by
  unfold resolve
  rw [bind_apply, bind_apply]
  match templateSetting none none h with
  | (.error e, h₁) => exact .inl rfl
  | (.ok setting, h₁) =>
    dsimp only
    rw [lift_apply, lift_apply]
    unfold Template.resolve Template.run
    obtain hsame | ⟨body, hP, hhalt⟩ :=
      passes_poorer (hpoor setting.environment) setting.limit.toNat s.toList
    · exact .inl (by rw [hsame])
    · exact .inr ⟨body, hP, by rw [hhalt]; rfl⟩

end Run

end Dossier
