import Dossier.Criterion.Choices

/-!
# What runs leave alone

A run is a function of the host. Resolving texts changes only what the host remembers of settings
and variables; a fetch also notes its call and its span. Everything else of the host, files and
definitions among it, is out of the reach of both, however the run ends.
-/

set_option autoImplicit false

namespace Dossier

def Host.bare : Host :=
  { Host.start [] [] [] .empty .utc with
    settings := some ⟨[], "", "", 32, 500, "UTC", .info, .json, false⟩
    environment := some [] }

def Source.none : Source := fun _ _ => .error (.fault .noSuchData)

namespace Run

variable {α β σ : Type}

theorem bind_apply (x : Run α) (f : α → Run β) (h : Host) :
    (x >>= f) h = match x h with
      | (.ok a, h₁) => f a h₁
      | (.error e, h₁) => (.error e, h₁) := by
  simp only [bind, ExceptT.bind, ExceptT.mk, StateT.bind, ExceptT.bindCont]
  rcases x h with ⟨_ | a, h₁⟩ <;> rfl

theorem map_apply (f : α → β) (x : Run α) (h : Host) :
    (f <$> x) h = ((x h).1.map f, (x h).2) := by
  simp only [Functor.map, ExceptT.map, ExceptT.mk, StateT.bind, bind]
  rcases x h with ⟨_ | a, h₁⟩ <;> rfl

theorem lift_apply (x : Except Failure α) (h : Host) : lift x h = (x, h) := by
  cases x <;> rfl

theorem settings_apply (h : Host) :
    settings h = match h.settings with
      | some s => (.ok s, h)
      | none => match h.readSettings with
        | .ok s => (.ok s, { h with settings := some s })
        | .error e => (.error e, h) := by
  rw [settings, bind_apply]
  change (match h.settings with
    | some s => pure s
    | none => lift h.readSettings >>= fun s => do
        set { h with settings := some s }
        pure s : Run Settings) h = _
  cases h.settings with
  | some s => rfl
  | none =>
    change (lift h.readSettings >>= fun s => do
      set { h with settings := some s }
      pure s : Run Settings) h = _
    rw [bind_apply, lift_apply]
    cases h.readSettings <;> rfl

theorem environment_apply (h : Host) :
    environment h = match h.environment with
      | some env => (.ok env, h)
      | none => (.ok h.vars, { h with environment := some h.vars }) := by
  rw [environment, bind_apply]
  change (match h.environment with
    | some env => pure env
    | none => do
        set { h with environment := some h.vars }
        pure h.vars : Run Template.Environment) h = _
  cases h.environment <;> rfl

theorem except_map_ok {f : α → β} {x : Except Failure α} {b : β} (hx : x.map f = .ok b) :
    ∃ a, x = .ok a ∧ f a = b := by
  cases x with
  | error e => cases hx
  | ok a => exact ⟨a, rfl, Except.ok.inj hx⟩

/-- A sequence that gives a value gave one at each of its two steps. -/
theorem bind_ok {x : Run α} {f : α → Run β} {h h' : Host} {b : β}
    (hrun : (x >>= f) h = (.ok b, h')) :
    ∃ a h₁, x h = (.ok a, h₁) ∧ f a h₁ = (.ok b, h') := by
  rw [bind_apply] at hrun
  match hx : x h with
  | (.error e, h₁) =>
    rw [hx] at hrun
    cases hrun
  | (.ok a, h₁) =>
    rw [hx] at hrun
    exact ⟨a, h₁, rfl, hrun⟩

theorem bind_of_ok {x : Run α} {f : α → Run β} {h : Host} {a : α} (hx : (x h).1 = .ok a) :
    (x >>= f) h = f a (x h).2 := by
  rw [bind_apply, show x h = (.ok a, (x h).2) from Prod.ext hx rfl]

theorem bind_of_error {x : Run α} {f : α → Run β} {h : Host} {e : Failure}
    (hx : (x h).1 = .error e) : (x >>= f) h = (.error e, (x h).2) := by
  rw [bind_apply, show x h = (.error e, (x h).2) from Prod.ext hx rfl]

theorem map_ok {f : α → β} {x : Run α} {h h' : Host} {b : β}
    (hrun : (f <$> x) h = (.ok b, h')) : ∃ a, x h = (.ok a, h') ∧ b = f a := by
  rw [map_apply] at hrun
  match hx : x h with
  | (.error e, h₁) =>
    rw [hx] at hrun
    cases hrun
  | (.ok a, h₁) =>
    rw [hx] at hrun
    cases hrun
    exact ⟨a, rfl, rfl⟩

theorem lift_ok {x : Except Failure α} {h h' : Host} {a : α}
    (hrun : lift x h = (.ok a, h')) : x = .ok a ∧ h' = h := by
  rw [lift_apply] at hrun
  cases hrun
  exact ⟨rfl, rfl⟩

theorem observe_ok {x : Run α} {h h' : Host} {result : Except Failure α}
    (hrun : observe x h = (.ok result, h')) : x h = (result, h') := by
  cases hrun
  rfl

theorem pure_ok {a b : α} {h h' : Host} (hrun : (pure a : Run α) h = (.ok b, h')) :
    b = a ∧ h' = h := by
  cases hrun
  exact ⟨rfl, rfl⟩

theorem ok_of_toOption {x : Run α} {h : Host} {a : α} (hx : (x h).1.toOption = some a) :
    x h = (.ok a, (x h).2) := by
  match hrun : x h with
  | (.error e, h') =>
    rw [hrun] at hx
    cases hx
  | (.ok b, h') =>
    rw [hrun] at hx
    cases hx
    rfl

def Keeps (view : Host → σ) (x : Run α) : Prop := ∀ h, view (x h).2 = view h

theorem keeps_ok {view : Host → σ} {x : Run α} {h h' : Host} {a : α} (hx : Keeps view x)
    (hrun : x h = (.ok a, h')) : view h' = view h := by
  simpa [hrun] using hx h

section Sequence

variable {view : Host → σ}

theorem pure_keeps (a : α) : Keeps view (pure a : Run α) := fun _ => rfl

theorem throw_keeps (e : Failure) : Keeps view (throw e : Run α) := fun _ => rfl

theorem lift_keeps (x : Except Failure α) : Keeps view (lift x) := by
  intro h
  rw [lift_apply]

theorem bind_keeps {x : Run α} {f : α → Run β} (hx : Keeps view x)
    (hf : ∀ a, Keeps view (f a)) : Keeps view (x >>= f) := by
  intro h
  have hv := hx h
  rw [bind_apply]
  match hx' : x h with
  | (.error e, h₁) =>
    rw [hx'] at hv
    exact hv
  | (.ok a, h₁) =>
    rw [hx'] at hv
    exact (hf a h₁).trans hv

theorem map_keeps {x : Run α} (f : α → β) (hx : Keeps view x) : Keeps view (f <$> x) := by
  intro h
  rw [map_apply]
  exact hx h

theorem observe_keeps {x : Run α} (hx : Keeps view x) : Keeps view (observe x) := hx

end Sequence

def Agrees (alike : Host → Host → Prop) (x : Run α) : Prop :=
  ∀ {h₁ h₂ : Host}, alike h₁ h₂ → (x h₁).1 = (x h₂).1 ∧ alike (x h₁).2 (x h₂).2

theorem bind_agrees {alike : Host → Host → Prop} {x : Run α} {f : α → Run β}
    (hx : Agrees alike x) (hf : ∀ a, Agrees alike (f a)) : Agrees alike (x >>= f) := by
  intro h₁ h₂ hh
  obtain ⟨hout, halike⟩ := hx hh
  rw [bind_apply, bind_apply]
  match hx₁ : x h₁, hx₂ : x h₂ with
  | (.error e₁, h₁'), (.error e₂, h₂') =>
    rw [hx₁, hx₂] at hout halike
    cases hout
    exact ⟨rfl, halike⟩
  | (.ok a₁, h₁'), (.ok a₂, h₂') =>
    rw [hx₁, hx₂] at hout halike
    cases hout
    exact hf a₁ halike
  | (.ok _, _), (.error _, _) =>
    rw [hx₁, hx₂] at hout
    cases hout
  | (.error _, _), (.ok _, _) =>
    rw [hx₁, hx₂] at hout
    cases hout

structure Steady (view : Host → σ) : Prop where
  settings : ∀ h s, h.settings = none → h.readSettings = .ok s →
    view { h with settings := some s } = view h
  environment : ∀ h, h.environment = none → view { h with environment := some h.vars } = view h

section Resolving

variable {view : Host → σ} (hv : Steady view)
include hv

theorem settings_keeps : Keeps view settings := by
  intro h
  rw [settings_apply]
  cases hs : h.settings with
  | some s => rfl
  | none =>
    cases hread : h.readSettings with
    | ok s => exact hv.settings h s hs hread
    | error e => rfl

theorem environment_keeps : Keeps view environment := by
  intro h
  rw [environment_apply]
  cases he : h.environment with
  | some env => rfl
  | none => exact hv.environment h he

end Resolving

structure Aloof (view : Host → σ) : Prop extends Steady view where
  calls : ∀ h cs, view { h with calls := cs } = view h
  fetchTracer : ∀ h t, view { h with fetchTracer := t } = view h
  buildTracer : ∀ h t, view { h with buildTracer := t } = view h

section Fetching

variable {view : Host → σ} (hv : Aloof view)
include hv

theorem onFetchTracer_keeps (change : Trace.Tracer → Trace.Tracer) :
    Keeps view (onFetchTracer change) := fun h => hv.fetchTracer h (change h.fetchTracer)

theorem onBuildTracer_keeps (change : Trace.Tracer → Trace.Tracer) :
    Keeps view (onBuildTracer change) := fun h => hv.buildTracer h (change h.buildTracer)

theorem ask_keeps (source : Source) (call : Call) : Keeps view (source.ask call) := by
  intro h
  change view (lift (source h.calls call) { h with calls := h.calls ++ [call] }).2 = view h
  rw [lift_apply]
  exact hv.calls h _

end Fetching

end Run

end Dossier
