import Dossier.Proofs.Blueprint.Reading
import Dossier.Proofs.Host.Quiet
import Mathlib.Tactic.Common

/-!
# The limits a host goes by

Settings are only ever remembered as they were read, and reading them lets at least one pass be made
over a text. Where they cannot be read the failure is none of placeholders.
-/

set_option autoImplicit false

namespace Dossier

def Failure.OfToken (e : Failure) : Prop := "InvalidTokenError" ∈ e.lineage

theorem Failure.ofToken_iff {e : Failure} :
    e.OfToken ↔ (∃ token, e = .invalidToken token) ∨
      ∃ token limit, e = .tokenRecursion token limit := by
  have hfamily (f : Family) : "InvalidTokenError" ∉ f.lineage := by cases f <;> decide
  cases e with
  | fault cause => cases cause <;> simp [OfToken, lineage, family?, Fault.name]
  | plain f => simp [OfToken, lineage, family?, hfamily]
  | _ => simp [OfToken, lineage, family?, Family.lineage, Family.name]

def Tokenless {α : Type} (x : Except Failure α) : Prop := ∀ e, x = .error e → ¬ e.OfToken

section Tokenless

variable {α β : Type}

theorem tokenless_ok (a : α) : Tokenless (.ok a : Except Failure α) := fun _ he => nomatch he

theorem tokenless_error {e : Failure} (he : ¬ e.OfToken) :
    Tokenless (.error e : Except Failure α) := by
  intro e' he'
  cases he'
  exact he

theorem tokenless_invalid (issues : List Schema.Issue) :
    Tokenless (.error (.invalid issues) : Except Failure α) :=
  tokenless_error (by simp [Failure.ofToken_iff])

theorem tokenless_fault (cause : Fault) :
    Tokenless (.error (.fault cause) : Except Failure α) :=
  tokenless_error (by simp [Failure.ofToken_iff])

theorem tokenless_bind {x : Except Failure α} {f : α → Except Failure β} (hx : Tokenless x)
    (hf : ∀ a, Tokenless (f a)) : Tokenless (x >>= f) := by
  intro e he
  cases x with
  | ok a => exact hf a e he
  | error e' =>
    cases he
    exact hx _ rfl

theorem tokenless_map {x : Except Failure α} (f : α → β) (hx : Tokenless x) :
    Tokenless (x.map f) := by
  intro e he
  cases x with
  | ok a => cases he
  | error e' =>
    cases he
    exact hx _ rfl

end Tokenless

/-! ## Reading settings -/

namespace Schema

variable {α β : Type}

theorem checked_bind_ok {x : Checked α} {f : α → Checked β} {b : β} (hok : x.bind f = .ok b) :
    ∃ a, x = .ok a ∧ f a = .ok b := by
  cases x with
  | ok a => exact ⟨a, rfl, hok⟩
  | bad issues => cases hok

theorem wholeFrom_ok {least n : Int} {v : Value} (hok : wholeFrom least v = .ok n) :
    least ≤ n := by
  obtain ⟨m, -, hm⟩ := checked_bind_ok hok
  split at hm
  · cases hm
  · cases hm
    omega

theorem wholeBetween_ok {least most n : Int} {v : Value}
    (hok : wholeBetween least most v = .ok n) : least ≤ n := by
  obtain ⟨m, hfrom, hm⟩ := checked_bind_ok hok
  split at hm
  · cases hm
  · cases hm
    exact wholeFrom_ok hfrom

end Schema

namespace Settings

open Schema

theorem tokens_read {s : Sources} {n : Int} (hok : tokens.read s = .ok (.ok n)) : 1 ≤ n := by
  have hsetting := Except.ok.inj hok
  unfold setting at hsetting
  split at hsetting
  · cases hsetting
    decide
  · exact wholeBetween_ok (under_ok_iff.mp hsetting)

theorem readGiven_tokens {s : Surroundings} {given : Option Value} {n : Int}
    (hok : tokens.readGiven s given = .ok (.ok n)) : 1 ≤ n := by
  unfold Group.readGiven at hok
  split at hok
  · split at hok
    · cases hok
    · next n' hread =>
      cases hok
      exact tokens_read hread
    · cases hok
  · next entries =>
    cases hread : tokens.read ⟨entries, s⟩ with
    | error e =>
      rw [hread] at hok
      cases hok
    | ok checked =>
      rw [hread] at hok
      exact tokens_read (hread.trans (congrArg _ (under_ok_iff.mp (Except.ok.inj hok))))
  · cases hok

theorem except_bind_ok {α β : Type} {x : Except Failure α} {f : α → Except Failure β} {b : β}
    (hok : (x >>= f) = .ok b) : ∃ a, x = .ok a ∧ f a = .ok b := by
  cases x with
  | ok a => exact ⟨a, rfl, hok⟩
  | error e => cases hok

/-- Settings that are read allow at least one pass. -/
theorem read_passes {home : String → Option Path} {s : Surroundings} {settings : Settings}
    (hok : read home s = .ok settings) : 1 ≤ settings.maxPasses := by
  obtain ⟨givenEngine, -, hok⟩ := except_bind_ok hok
  obtain ⟨givenTokens, -, hok⟩ := except_bind_ok hok
  obtain ⟨givenPagination, -, hok⟩ := except_bind_ok hok
  obtain ⟨givenLocalization, -, hok⟩ := except_bind_ok hok
  obtain ⟨givenLogging, -, hok⟩ := except_bind_ok hok
  obtain ⟨givenFeatures, -, hok⟩ := except_bind_ok hok
  obtain ⟨engine, -, hok⟩ := except_bind_ok hok
  obtain ⟨tokens, htokens, hok⟩ := except_bind_ok hok
  obtain ⟨pagination, -, hok⟩ := except_bind_ok hok
  obtain ⟨localization, -, hok⟩ := except_bind_ok hok
  obtain ⟨logging, -, hok⟩ := except_bind_ok hok
  obtain ⟨features, -, hok⟩ := except_bind_ok hok
  simp only at hok
  split at hok
  · next all hall =>
    cases hok
    simp only [seq_ok_iff, map_ok_iff] at hall
    obtain ⟨_, _, ⟨_, _, ⟨_, _, ⟨_, _, ⟨_, passes, ⟨_, _, rfl⟩, rfl, rfl⟩, _, rfl⟩, _, rfl⟩, _,
      rfl⟩,
      _, rfl⟩ := hall
    exact readGiven_tokens htokens
  · cases hok

theorem given_tokenless (s : Surroundings) (name : String) : Tokenless (given? s name) := by
  unfold given?
  extract_lets parse
  have hparse (text : Option String) : Tokenless (parse text) := by
    unfold parse
    split
    · exact tokenless_ok _
    · split
      · exact tokenless_ok _
      · exact tokenless_ok _
      · exact tokenless_fault _
      · exact tokenless_fault _
  split
  · next e hown => exact tokenless_error (hparse _ e hown)
  · next hfiled _ => exact tokenless_error (hparse _ _ hfiled)
  · exact tokenless_ok _
  · exact tokenless_ok _

theorem readGiven_tokenless {α : Type} {g : Group α} (hg : ∀ s, Tokenless (g.read s))
    (s : Surroundings) (given : Option Value) : Tokenless (g.readGiven s given) := by
  unfold Group.readGiven
  split
  · split
    · next e he => exact tokenless_error (hg _ e he)
    · exact tokenless_ok _
    · exact tokenless_invalid _
  · exact tokenless_map _ (hg _)
  · exact tokenless_ok _

theorem folder_tokenless (home : String → Option Path) (v : Value) : Tokenless (folder home v) := by
  unfold folder
  split
  · split
    · exact tokenless_fault _
    · split <;> exact tokenless_ok _
  · exact tokenless_fault _

theorem read_tokenless (home : String → Option Path) (s : Surroundings) :
    Tokenless (read home s) := by
  iterate 6 refine tokenless_bind (given_tokenless s _) fun _ => ?_
  refine tokenless_bind (readGiven_tokenless
    (fun s => tokenless_map _ (folder_tokenless home _)) s _)
    fun _ => ?_
  iterate 5 refine tokenless_bind (readGiven_tokenless (fun s => tokenless_ok _) s _) fun _ => ?_
  dsimp only
  split
  · exact tokenless_ok _
  · exact tokenless_invalid _

end Settings

theorem readSettings_passes {h : Host} {s : Settings} (hread : h.readSettings = .ok s) :
    1 ≤ s.maxPasses := by
  unfold Host.readSettings at hread
  split at hread
  · cases hread
  · exact Settings.read_passes hread

theorem readSettings_tokenless (h : Host) : Tokenless h.readSettings := by
  unfold Host.readSettings Host.surroundings
  split
  · next e hsurroundings =>
    split at hsurroundings
    · split at hsurroundings
      · cases hsurroundings
      · cases hsurroundings
        exact tokenless_fault _
    · cases hsurroundings
  · exact Settings.read_tokenless _ _

/-! ## What a host goes by -/

def Host.Checked (h : Host) : Prop := ∀ s, h.settings = some s → ∃ k : Host, k.readSettings = .ok s

theorem Host.Checked.passes {h : Host} (hc : h.Checked) {s : Settings} (hs : h.known.1 = .ok s) :
    1 ≤ s.maxPasses := by
  unfold Host.known at hs
  cases hsettings : h.settings with
  | none =>
    rw [hsettings] at hs
    exact readSettings_passes hs
  | some s' =>
    rw [hsettings] at hs
    obtain ⟨k, hread⟩ := hc s' hsettings
    cases hs
    exact readSettings_passes hread

theorem known_tokenless (h : Host) : Tokenless h.known.1 := by
  unfold Host.known
  cases h.settings with
  | none => exact readSettings_tokenless h
  | some s => exact tokenless_ok s

namespace Run

/-- Texts are resolved in the environment and with the limit that the host goes by. -/
theorem templateSetting_known (h : Host) :
    (templateSetting none none h).1 = h.known.1.map fun s => ⟨h.known.2, s.maxPasses⟩ := by
  have hknown := environment_quiet.keeps known_aloof.toSteady h
  change ((environment >>= fun env => (fun s => s.maxPasses) <$> settings >>= fun limit =>
    pure (⟨env, limit⟩ : Template.Setting)) h).1 = _
  rw [bind_of_ok (environment_known h), bind_apply, map_apply, settings_known, hknown]
  cases h.known.1 <;> rfl

end Run

end Dossier
