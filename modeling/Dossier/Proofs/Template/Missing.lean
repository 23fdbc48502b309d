import Dossier.Proofs.Template.Seclusion
import Dossier.Proofs.Template.Suppression

/-!
# Texts that come out missing

A placeholder that stands for nothing is written as the empty text, or makes the whole text missing.
Both ways look up the same placeholders until one stands for nothing. If none does on the way, in
whatever pass, they come out the same.
-/

set_option autoImplicit false

namespace Dossier

namespace Template

section Lockstep

variable {m : List Char → Meaning} {suppress : Bool}

/-! ## One pass -/

theorem pass_nothing {later : List (List Char)} {body : List Char}
    (hlooked : body ∈ Rules.looked ⟨m, suppress, some []⟩ later)
    (hnothing : m (Text.trim body) = .nothing) (s : List Char) :
    pass ⟨m, suppress, none⟩ later s = .ok .missing := by
  induction later generalizing s with
  | nil => cases hlooked
  | cons b later ih =>
    rw [Rules.looked] at hlooked
    split at hlooked
    · cases hlooked
    next hblank =>
    rw [Bool.not_eq_true] at hblank
    cases hmeaning : m (Text.trim b) with
    | nothing => exact pass_missing hblank hmeaning rfl later s
    | text t =>
      have hreplaced (nothing : Option (List Char)) :
          Rules.replacement? ⟨m, suppress, nothing⟩ b = some t := by
        simp only [Rules.replacement?, hmeaning]
      rw [hreplaced, Option.isSome_some, if_pos rfl] at hlooked
      rw [pass_replace hblank (hreplaced none)]
      rcases List.mem_cons.mp hlooked with rfl | hlater
      · rw [hmeaning] at hnothing
        cases hnothing
      · exact ih hlater _
    | _ =>
      have hstops : Rules.replacement? ⟨m, suppress, some []⟩ b = none := by
        simp only [Rules.replacement?, hmeaning]
      rw [hstops, Option.isSome_none, if_neg Bool.false_ne_true, List.mem_singleton] at hlooked
      rw [hlooked, hmeaning] at hnothing
      cases hnothing

theorem pass_something {later : List (List Char)}
    (hnone : ∀ body ∈ Rules.looked ⟨m, suppress, some []⟩ later, m (Text.trim body) ≠ .nothing)
    (s : List Char) :
    pass ⟨m, suppress, none⟩ later s = pass ⟨m, suppress, some []⟩ later s := by
  induction later generalizing s with
  | nil => rfl
  | cons b later ih =>
    by_cases hblank : isBlankBody b = true
    · rw [pass_blank hblank, pass_blank hblank]
    rw [Bool.not_eq_true] at hblank
    have hhere : m (Text.trim b) ≠ .nothing := hnone b (by simp [Rules.looked, hblank])
    cases hmeaning : m (Text.trim b) with
    | nothing => exact absurd hmeaning hhere
    | unknown => rw [pass_unknown hblank hmeaning, pass_unknown hblank hmeaning]
    | tooLarge => rw [pass_tooLarge hblank hmeaning, pass_tooLarge hblank hmeaning]
    | text t =>
      have hreplaced (nothing : Option (List Char)) :
          Rules.replacement? ⟨m, suppress, nothing⟩ b = some t := by
        simp only [Rules.replacement?, hmeaning]
      rw [looked_later hblank (hreplaced (some []))] at hnone
      rw [pass_replace hblank (hreplaced none), pass_replace hblank (hreplaced (some []))]
      exact ih (fun body hbody => hnone body (List.mem_cons_of_mem b hbody)) _

/-! ## All passes -/

theorem LooksUp.placeholders_ne_nil {r : Rules} {left : Nat} {s body : List Char}
    (hlooks : LooksUp r left s body) : placeholders s ≠ [] := by
  induction hlooks with
  | now looked => exact List.ne_nil_of_mem (looked_subset looked)
  | next run later ih =>
    intro hs
    rw [hs] at run
    cases run
    exact ih hs

/-- Where a placeholder that stands for nothing is looked up, the text is missing. -/
theorem passes_nothing {left : Nat} {s body : List Char}
    (hlooks : LooksUp ⟨m, suppress, some []⟩ left s body)
    (hnothing : m (Text.trim body) = .nothing) :
    passes ⟨m, suppress, none⟩ left s = .ok none := by
  induction hlooks with
  | now looked =>
    rw [passes_succ (List.ne_nil_of_mem (looked_subset looked)), pass_nothing looked hnothing]
  | @next left s t body run later ih =>
    have hs : placeholders s ≠ [] := (LooksUp.next run later).placeholders_ne_nil
    by_cases hfirst : ∃ b ∈ Rules.looked ⟨m, suppress, some []⟩ (placeholders s),
        m (Text.trim b) = .nothing
    · obtain ⟨b, hlooked, hb⟩ := hfirst
      rw [passes_succ hs, pass_nothing hlooked hb]
    · rw [not_exists] at hfirst
      have hsame := pass_something (fun b hlooked hb => hfirst b ⟨hlooked, hb⟩) s
      rw [passes_complete hs (hsame.trans run)]
      exact ih hnothing

/-- Where none is, what comes out is what comes out when nothing is written as the empty text. -/
theorem passes_something {left : Nat} {s : List Char}
    (hnone : ∀ body, LooksUp ⟨m, suppress, some []⟩ left s body → m (Text.trim body) ≠ .nothing) :
    passes ⟨m, suppress, none⟩ left s = passes ⟨m, suppress, some []⟩ left s := by
  induction left generalizing s with
  | zero =>
    unfold passes
    rfl
  | succ left ih =>
    by_cases hs : placeholders s = []
    · rw [passes_done _ hs, passes_done _ hs]
    rw [passes_succ hs, passes_succ hs, pass_something fun body hlooked =>
      hnone body (.now hlooked)]
    cases hrun : pass ⟨m, suppress, some []⟩ (placeholders s) s with
    | error halt => rfl
    | ok outcome =>
      cases outcome with
      | complete t => exact ih fun body hlooks => hnone body (.next hrun hlooks)
      | stopped t => rfl
      | missing => rfl

end Lockstep

end Template

namespace Run

open Template

section Resolving

variable {env? : Option Environment} {limit? : Option Int} {scope : Fields} {suppress : Bool}
  {s : String} {h : Host}

def MeetsNothing (env? : Option Environment) (limit? : Option Int)
    (scope : Fields) (suppress : Bool) (s : String) (h : Host) : Prop :=
  ∃ env limit h', templateSetting env? limit? h = (.ok ⟨env, limit⟩, h') ∧
    ∃ body, LooksUp ⟨meaning env scope, suppress, some []⟩ limit.toNat s.toList body ∧
      meaning env scope (Text.trim body) = .nothing

/-- A text is missing exactly when a placeholder that stands for nothing is looked up in one of its
passes; otherwise it comes out, and leaves the host, as if nothing were written as the empty text.
-/
theorem resolveOrMissing_iff (env? : Option Environment) (limit? : Option Int) (scope : Fields)
    (suppress : Bool) (s : String) (h : Host) :
    ((resolveOrMissing env? limit? scope suppress s h).1 = .ok none ↔
      MeetsNothing env? limit? scope suppress s h) ∧
    (MeetsNothing env? limit? scope suppress s h ∨
      (∃ t h', resolveOrMissing env? limit? scope suppress s h = (.ok (some t), h') ∧
        Run.resolveValue env? limit? scope suppress (.text s) h = (.ok (.text t), h')) ∨
      ∃ e h', resolveOrMissing env? limit? scope suppress s h = (.error e, h') ∧
        Run.resolveValue env? limit? scope suppress (.text s) h = (.error e, h')) := by
  unfold resolveOrMissing
  rw [bind_apply]
  rcases hsetting : templateSetting env? limit? h with ⟨e | ⟨env, limit⟩, h'⟩
  · refine ⟨iff_of_false nofun ?_, .inr
      (.inr ⟨e, h', rfl, resolveValue_unset rfl hsetting suppress⟩)⟩
    rintro ⟨env, limit, h'', hset, -⟩
    rw [hsetting] at hset
    cases hset
  dsimp only
  rw [lift_apply, resolveValue_text hsetting]
  unfold Template.resolveOrMissing Template.resolve run
  by_cases hmeets : ∃ body, LooksUp ⟨meaning env scope, suppress, some []⟩
    limit.toNat s.toList body ∧
      meaning env scope (Text.trim body) = .nothing
  · obtain ⟨body, hlooks, hnothing⟩ := id hmeets
    have hall : MeetsNothing env? limit? scope suppress s h := ⟨env, limit, h', hsetting, hmeets⟩
    rw [passes_nothing hlooks hnothing]
    exact ⟨iff_of_true rfl hall, .inl hall⟩
  · have hnot : ¬ MeetsNothing env? limit? scope suppress s h := by
      rintro ⟨env', limit', h'', hset, hlooks⟩
      cases hsetting.symm.trans hset
      exact hmeets hlooks
    rw [passes_something fun body hlooks hnothing => hmeets ⟨body, hlooks, hnothing⟩]
    cases hrun : passes ⟨meaning env scope, suppress, some []⟩ limit.toNat s.toList with
    | error halt => exact ⟨iff_of_false nofun hnot, .inr (.inr ⟨_, h', rfl, rfl⟩)⟩
    | ok result =>
      cases result with
      | none => exact absurd hrun (passes_written (by simp) _ _)
      | some t => exact ⟨iff_of_false nofun hnot, .inr (.inl ⟨_, h', rfl, rfl⟩)⟩

end Resolving

end Run

end Dossier
