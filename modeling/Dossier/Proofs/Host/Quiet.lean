import Dossier.Proofs.Host.Frame
import Dossier.Blueprint.Compose

/-!
# Quiet runs

A quiet run asks the host for nothing but its settings and its environment. The host may come to
remember either, but what it remembers is what it would have found; so a text, a condition or a
whole blueprint comes out the same at any later time, and no fetch is seen to have happened.
-/

set_option autoImplicit false

namespace Dossier

def Host.known (h : Host) : Except Failure Settings × Template.Environment :=
  ((h.settings.map .ok).getD h.readSettings, h.environment.getD h.vars)

namespace Run

variable {α β : Type}

theorem known_aloof : Aloof Host.known := by
  refine ⟨⟨fun h s hs hread => ?_, fun h he => ?_⟩, fun _ _ => rfl, fun _ _ => rfl, fun _ _ => rfl⟩
  · simp [Host.known, hs, hread]
  · simp only [Host.known, he, Option.getD_some, Option.getD_none]
    rfl

theorem calls_steady : Steady Host.calls := ⟨fun _ _ _ _ => rfl, fun _ _ => rfl⟩

/-- A run that leaves every steady view alone, and whose outcome depends on what the host goes by
and on nothing else. -/
structure Quiet (x : Run α) : Prop where
  keeps : ∀ {σ : Type} {view : Host → σ}, Steady view → Keeps view x
  sees : ∀ {h₁ h₂ : Host}, h₁.known = h₂.known → (x h₁).1 = (x h₂).1

theorem lift_quiet (x : Except Failure α) : Quiet (lift x) :=
  ⟨fun _ => lift_keeps x, fun _ => by rw [lift_apply, lift_apply]⟩

theorem pure_quiet (a : α) : Quiet (pure a : Run α) := ⟨fun _ => pure_keeps a, fun _ => rfl⟩

theorem throw_quiet (e : Failure) : Quiet (throw e : Run α) :=
  ⟨fun _ => throw_keeps e, fun _ => rfl⟩

theorem Quiet.agrees {x : Run α} (hx : Quiet x) :
    Agrees (fun h₁ h₂ => h₁.known = h₂.known) x := by
  intro h₁ h₂ hknown
  refine ⟨hx.sees hknown, ?_⟩
  change (x h₁).2.known = (x h₂).2.known
  rw [hx.keeps known_aloof.toSteady h₁, hx.keeps known_aloof.toSteady h₂, hknown]

theorem bind_quiet {x : Run α} {f : α → Run β} (hx : Quiet x) (hf : ∀ a, Quiet (f a)) :
    Quiet (x >>= f) where
  keeps hv := bind_keeps (hx.keeps hv) fun a => (hf a).keeps hv
  sees hknown := (bind_agrees hx.agrees (fun a => (hf a).agrees) hknown).1

theorem map_quiet {x : Run α} (f : α → β) (hx : Quiet x) : Quiet (f <$> x) :=
  ⟨fun hv => map_keeps f (hx.keeps hv), fun {h₁ h₂} hknown => by
    rw [map_apply, map_apply, hx.sees hknown]⟩

/-! ## Texts -/

theorem settings_known (h : Host) : (settings h).1 = h.known.1 := by
  rw [settings_apply]
  unfold Host.known
  cases h.settings with
  | some s => rfl
  | none => cases h.readSettings <;> rfl

theorem environment_known (h : Host) : (environment h).1 = .ok h.known.2 := by
  rw [environment_apply]
  unfold Host.known
  cases h.environment <;> rfl

theorem settings_quiet : Quiet settings :=
  ⟨fun hv => settings_keeps hv, fun hknown => by rw [settings_known, settings_known, hknown]⟩

theorem environment_quiet : Quiet environment :=
  ⟨fun hv => environment_keeps hv, fun hknown => by
    rw [environment_known, environment_known, hknown]⟩

theorem templateSetting_quiet (env? : Option Template.Environment) (limit? : Option Int) :
    Quiet (templateSetting env? limit?) := by
  unfold templateSetting
  cases env?
  case' some => refine bind_quiet (pure_quiet _) fun env => ?_
  case' none => refine bind_quiet environment_quiet fun env => ?_
  all_goals
    cases limit?.filter (· ≠ 0) with
    | some limit => exact bind_quiet (pure_quiet _) fun _ => pure_quiet _
    | none => exact bind_quiet (map_quiet _ settings_quiet) fun _ => pure_quiet _

theorem resolve_quiet (scope : Fields) (s : String) : Quiet (resolve scope s) :=
  bind_quiet (templateSetting_quiet none none) fun _ => lift_quiet _

theorem resolveParams_quiet (env? : Option Template.Environment) (scope : Fields)
    (params : Option Fields) : Quiet (resolveParams env? scope params) := by
  unfold resolveParams
  split
  · exact pure_quiet _
  · split
    · exact bind_quiet (templateSetting_quiet env? none) fun _ => map_quiet _ (lift_quiet _)
    · exact pure_quiet _

/-! ## Conditions and composition -/

theorem operand_quiet (scope : Fields) (orMissing : Bool) (template : String) :
    Quiet (Condition.operand scope orMissing template) := by
  refine bind_quiet (templateSetting_quiet none none) fun setting => ?_
  dsimp only
  split
  · exact pure_quiet _
  · split
    · exact pure_quiet _
    · exact throw_quiet _
  · exact throw_quiet _

theorem holds_quiet (c : Condition) (scope : Fields) : Quiet (c.holds scope) := by
  refine bind_quiet (operand_quiet scope false _) fun chosen => ?_
  cases chosen with
  | none => exact pure_quiet _
  | some chosen =>
    dsimp only
    split
    all_goals
      refine bind_quiet (operand_quiet scope _ _) fun value => ?_
      cases value <;> exact pure_quiet _

theorem applyOverrides_quiet (scope : Fields) (overrides : List Override) (entries : Fields) :
    Quiet (Definition.applyOverrides scope overrides entries) := by
  induction overrides generalizing entries with
  | nil => exact pure_quiet _
  | cons o rest ih =>
    refine bind_quiet (holds_quiet o.condition scope) fun holds => ?_
    cases holds with
    | false => exact ih entries
    | true => exact bind_quiet (lift_quiet _) fun _ => ih _

theorem compose_quiet (d : Definition) (scope : Fields) : Quiet (d.compose scope) :=
  bind_quiet (applyOverrides_quiet scope d.overrides _) fun _ => lift_quiet _

end Run

end Dossier
