import Dossier.Proofs.Host.Quiet

/-!
# Narrow runs

A narrow run looks at nothing of the host but its settings, its environment, its zones and the calls
made so far. On two hosts that agree on these it comes out the same and leaves them in agreement.
Fetching is narrow: the spans that it notes on the way decide nothing.
-/

set_option autoImplicit false

namespace Dossier

structure Host.Alike (h₁ h₂ : Host) : Prop where
  known : h₁.known = h₂.known
  calls : h₁.calls = h₂.calls
  zones : h₁.zones = h₂.zones

namespace Host.Alike

variable {h₁ h₂ h₃ : Host}

theorem refl (h : Host) : h.Alike h := ⟨rfl, rfl, rfl⟩

theorem trans (hh : h₁.Alike h₂) (hh' : h₂.Alike h₃) : h₁.Alike h₃ :=
  ⟨hh.known.trans hh'.known, hh.calls.trans hh'.calls, hh.zones.trans hh'.zones⟩

end Host.Alike

namespace Run

variable {α β : Type}

theorem zones_aloof : Aloof Host.zones :=
  ⟨⟨fun _ _ _ _ => rfl, fun _ _ => rfl⟩, fun _ _ => rfl, fun _ _ => rfl, fun _ _ => rfl⟩

/-- A run that depends on settings, environment, zones and calls only. It may add to the calls; what
has nothing to do with fetching and building it leaves alone. -/
structure Narrow (x : Run α) : Prop where
  keeps : ∀ {σ : Type} {view : Host → σ}, Aloof view → Keeps view x
  grows : ∀ h : Host, h.calls <+: (x h).2.calls
  outcome : ∀ {h₁ h₂ : Host}, h₁.Alike h₂ → (x h₁).1 = (x h₂).1
  calls : ∀ {h₁ h₂ : Host}, h₁.Alike h₂ → (x h₁).2.calls = (x h₂).2.calls

theorem Narrow.alike {x : Run α} (hx : Narrow x) {h₁ h₂ : Host} (hh : h₁.Alike h₂) :
    (x h₁).2.Alike (x h₂).2 :=
  ⟨by rw [hx.keeps known_aloof, hx.keeps known_aloof, hh.known], hx.calls hh,
    by rw [hx.keeps zones_aloof, hx.keeps zones_aloof, hh.zones]⟩

theorem Narrow.agrees {x : Run α} (hx : Narrow x) : Agrees Host.Alike x :=
  fun hh => ⟨hx.outcome hh, hx.alike hh⟩

theorem quiet_narrow {x : Run α} (hx : Quiet x) : Narrow x :=
  ⟨fun hv => hx.keeps hv.toSteady, fun h => by simp [hx.keeps calls_steady h],
    fun hh => hx.sees hh.known,
    fun hh => by rw [hx.keeps calls_steady, hx.keeps calls_steady, hh.calls]⟩

/-- After a quiet run the host is as good as before. -/
theorem quiet_alike {x : Run α} (hx : Quiet x) (h : Host) : (x h).2.Alike h :=
  ⟨hx.keeps known_aloof.toSteady h, hx.keeps calls_steady h, hx.keeps zones_aloof.toSteady h⟩

theorem bind_narrow {x : Run α} {f : α → Run β} (hx : Narrow x) (hf : ∀ a, Narrow (f a)) :
    Narrow (x >>= f) := by
  have hagrees : Agrees Host.Alike (x >>= f) := bind_agrees hx.agrees fun a => (hf a).agrees
  refine ⟨fun hv => bind_keeps (hx.keeps hv) fun a => (hf a).keeps hv, fun h => ?_,
    fun hh => (hagrees hh).1, fun hh => (hagrees hh).2.calls⟩
  have hgrows := hx.grows h
  rw [bind_apply]
  match hx' : x h with
  | (.error e, h₁) =>
    rw [hx'] at hgrows
    exact hgrows
  | (.ok a, h₁) =>
    rw [hx'] at hgrows
    exact hgrows.trans ((hf a).grows h₁)

theorem pure_narrow (a : α) : Narrow (pure a : Run α) := quiet_narrow (pure_quiet a)

theorem throw_narrow (e : Failure) : Narrow (throw e : Run α) := quiet_narrow (throw_quiet e)

theorem lift_narrow (x : Except Failure α) : Narrow (lift x) := quiet_narrow (lift_quiet x)

theorem zones_ok {h h' : Host} {zones : Calendar.Zones} (hrun : Run.zones h = (.ok zones, h')) :
    zones = h.zones ∧ h' = h := by
  cases hrun
  exact ⟨rfl, rfl⟩

theorem zones_narrow : Narrow Run.zones :=
  ⟨fun _ _ => rfl, fun _ => List.prefix_refl _, fun hh => congrArg Except.ok hh.zones,
    fun hh => hh.calls⟩

theorem map_narrow {x : Run α} (f : α → β) (hx : Narrow x) : Narrow (f <$> x) :=
  ⟨fun hv => map_keeps f (hx.keeps hv), fun h => map_apply f x h ▸ hx.grows h,
    fun hh => by rw [map_apply, map_apply, hx.outcome hh], fun hh => by
      rw [map_apply, map_apply]
      exact hx.calls hh⟩

theorem observe_narrow {x : Run α} (hx : Narrow x) : Narrow (observe x) :=
  ⟨fun hv => observe_keeps (hx.keeps hv), hx.grows, fun hh => congrArg Except.ok (hx.outcome hh),
    hx.calls⟩

section Alike

variable {x : Run α} {h₁ h₂ h₁' : Host} {a : α}

/-- What comes out on one host comes out on every host like it. -/
theorem narrow_ok (hx : Narrow x) (hh : h₁.Alike h₂) (hrun : x h₁ = (.ok a, h₁')) :
    ∃ h₂', x h₂ = (.ok a, h₂') ∧ h₁'.Alike h₂' := by
  have hout := hx.outcome hh
  have halike := hx.alike hh
  rw [hrun] at hout halike
  exact ⟨(x h₂).2, Prod.ext hout.symm rfl, halike⟩

theorem quiet_ok (hx : Quiet x) (hrun : x h₁ = (.ok a, h₁')) (hh : h₁.Alike h₂) :
    (x h₂).1 = .ok a ∧ h₁'.Alike h₂ := by
  have halike := quiet_alike hx h₁
  rw [hrun] at halike
  refine ⟨?_, halike.trans hh⟩
  rw [← hx.sees hh.known, hrun]

end Alike

/-! ## Spans -/

theorem onFetchTracer_narrow (change : Trace.Tracer → Trace.Tracer) :
    Narrow (onFetchTracer change) :=
  ⟨fun hv => onFetchTracer_keeps hv change, fun _ => List.prefix_refl _, fun _ => rfl,
    Host.Alike.calls⟩

theorem onBuildTracer_narrow (change : Trace.Tracer → Trace.Tracer) :
    Narrow (onBuildTracer change) :=
  ⟨fun hv => onBuildTracer_keeps hv change, fun _ => List.prefix_refl _, fun _ => rfl,
    Host.Alike.calls⟩

theorem finishSpan_narrow {onTracer : (Trace.Tracer → Trace.Tracer) → Run Unit}
    (hon : ∀ change, Narrow (onTracer change)) (result : Except Failure α) :
    Narrow (finishSpan onTracer result) := by
  cases result with
  | ok a => exact bind_narrow (hon _) fun _ => pure_narrow a
  | error e => exact bind_narrow (hon _) fun _ => throw_narrow e

theorem finishSpan_ok {onTracer : (Trace.Tracer → Trace.Tracer) → Run Unit}
    {result : Except Failure α} {a : α} {h h' : Host}
    (hrun : finishSpan onTracer result h = (.ok a, h')) :
    result = .ok a ∧ onTracer (·.leave .normal) h = (.ok (), h') := by
  cases result with
  | ok b =>
    obtain ⟨_, h₁, hleave, hpure⟩ := bind_ok hrun
    obtain ⟨rfl, rfl⟩ := pure_ok hpure
    exact ⟨rfl, hleave⟩
  | error e =>
    obtain ⟨_, h₁, -, hthrow⟩ := bind_ok hrun
    cases hthrow

/-! ## Fetching -/

section Fetching

variable (source : Source)

theorem ask_narrow (call : Call) : Narrow (source.ask call) := by
  have apply (h : Host) :
      source.ask call h = (source h.calls call, { h with calls := h.calls ++ [call] }) :=
    lift_apply _ _
  refine ⟨fun hv => ask_keeps hv source call, fun h => ?_, fun hh => ?_, fun hh => ?_⟩
  · rw [apply]
    exact List.prefix_append _ _
  · rw [apply, apply, hh.calls]
  · rw [apply, apply]
    exact congrArg (· ++ [call]) hh.calls

theorem ofAnswer_quiet (answer : Value) : Quiet (Batch.ofAnswer answer) := by
  unfold Batch.ofAnswer
  split
  · exact pure_quiet _
  · exact throw_quiet _

theorem fetchInside_narrow (call : Call) : Narrow (source.fetchInside call) := by
  unfold Source.fetchInside
  split
  case' h_1 => refine bind_narrow (onFetchTracer_narrow _) fun _ => ?_
  all_goals
    refine bind_narrow (ask_narrow source call) fun answer => ?_
    refine bind_narrow (quiet_narrow (ofAnswer_quiet answer)) fun batch => ?_
    refine bind_narrow (onFetchTracer_narrow _) fun _ => ?_
    split
    · exact bind_narrow (onFetchTracer_narrow _) fun _ => pure_narrow _
    · exact pure_narrow _

theorem fetch_narrow (call : Call) : Narrow (source.fetch call) :=
  bind_narrow (onFetchTracer_narrow _) fun _ =>
    bind_narrow (observe_narrow (fetchInside_narrow source call)) fun result =>
      finishSpan_narrow onFetchTracer_narrow result

theorem fetchPages_narrow (dataSet : String) (params : Option Fields) (limit : Int) (left : Nat)
    (page : Option String) : Narrow (source.fetchPages dataSet params limit left page) := by
  induction left generalizing page with
  | zero => exact throw_narrow _
  | succ left ih =>
    rw [Source.fetchPages]
    refine bind_narrow (fetch_narrow source _) fun batch => ?_
    split
    · split
      · exact bind_narrow (ih _) fun _ => pure_narrow _
      · exact pure_narrow _
    · exact pure_narrow _

theorem fetchAll_narrow (dataSet : String) (params : Option Fields) (maxPages : Option Int) :
    Narrow (source.fetchAll dataSet params maxPages) := by
  have pages (limit : Int) := fetchPages_narrow source dataSet params limit limit.toNat none
  unfold Source.fetchAll
  cases maxPages.filter (· ≠ 0) with
  | some limit => exact bind_narrow (pure_narrow _) pages
  | none => exact bind_narrow (map_narrow _ (quiet_narrow settings_quiet)) pages

variable {source} {call : Call} {batch : Batch} {h h' : Host}

theorem ofAnswer_ok {answer : Value} (hrun : Batch.ofAnswer answer h = (.ok batch, h')) :
    Batch.read answer = .ok batch ∧ h' = h := by
  unfold Batch.ofAnswer at hrun
  cases hread : Batch.read answer with
  | ok b =>
    rw [hread] at hrun
    obtain ⟨rfl, rfl⟩ := pure_ok hrun
    exact ⟨rfl, rfl⟩
  | bad issues =>
    rw [hread] at hrun
    cases hrun

theorem ask_ok {answer : Value} (hrun : source.ask call h = (.ok answer, h')) :
    source h.calls call = .ok answer ∧ h'.calls = h.calls ++ [call] := by
  obtain ⟨hsource, rfl⟩ : source h.calls call = .ok answer ∧
      h' = { h with calls := h.calls ++ [call] } := lift_ok hrun
  exact ⟨hsource, rfl⟩

/-- A note in a span is not a call. -/
theorem noted_ok {α : Type} {change : Trace.Tracer → Trace.Tracer} {f : Unit → Run α} {a : α}
    (hrun : (onFetchTracer change >>= f) h = (.ok a, h')) :
    ∃ h₁ : Host, h₁.calls = h.calls ∧ f () h₁ = (.ok a, h') := by
  obtain ⟨_, h₁, hnote, hf⟩ := bind_ok hrun
  refine ⟨h₁, ?_, hf⟩
  cases hnote
  rfl

theorem asked_ok {after : Batch → Run Batch}
    (hafter : ∀ {b b' h h'}, after b h = (.ok b', h') → b' = b ∧ h'.calls = h.calls)
    (hrun : (source.ask call >>= fun answer => Batch.ofAnswer answer >>= after) h =
      (.ok batch, h')) :
    h'.calls = h.calls ++ [call] ∧
      ∃ answer, source h.calls call = .ok answer ∧ Batch.read answer = .ok batch := by
  obtain ⟨answer, h₁, hanswer, hanswered⟩ := bind_ok hrun
  obtain ⟨hsource, hcalls₁⟩ := ask_ok hanswer
  obtain ⟨batch', h₂, hread, hnoting⟩ := bind_ok hanswered
  obtain ⟨hbatch, rfl⟩ := ofAnswer_ok hread
  obtain ⟨rfl, hcalls'⟩ := hafter hnoting
  exact ⟨hcalls'.trans hcalls₁, answer, hsource, hbatch⟩

theorem fetchInside_ok (hrun : source.fetchInside call h = (.ok batch, h')) :
    h'.calls = h.calls ++ [call] ∧
      ∃ answer, source h.calls call = .ok answer ∧ Batch.read answer = .ok batch := by
  unfold Source.fetchInside at hrun
  generalize call.page = page at hrun
  -- a page is noted before the source is asked, the status and a cursor after it
  cases page
  case' some page =>
    obtain ⟨h₁, hcalls₁, hasked⟩ := noted_ok hrun
    rw [← hcalls₁]
    refine asked_ok ?_ hasked
  case' none => refine asked_ok ?_ hrun
  all_goals
    intro b b' h h' hnoting
    obtain ⟨h₁, hcalls₁, hrest⟩ := noted_ok hnoting
    rw [← hcalls₁]
    generalize b.cursor? = cursor? at hrest
    cases cursor? with
    | some cursor =>
      obtain ⟨h₂, hcalls₂, hpure⟩ := noted_ok hrest
      obtain ⟨rfl, rfl⟩ := pure_ok hpure
      exact ⟨rfl, hcalls₂⟩
    | none =>
      obtain ⟨rfl, rfl⟩ := pure_ok hrest
      exact ⟨rfl, rfl⟩

/-- One call is made, and the batch is what the source answered to it. -/
theorem fetch_ok (hrun : source.fetch call h = (.ok batch, h')) :
    h'.calls = h.calls ++ [call] ∧
      ∃ answer, source h.calls call = .ok answer ∧ Batch.read answer = .ok batch := by
  obtain ⟨h₁, hcalls₁, hrest⟩ := noted_ok hrun
  obtain ⟨result, h₂, hobserve, hfinish⟩ := bind_ok hrest
  obtain ⟨rfl, hleave⟩ := finishSpan_ok hfinish
  have hcalls' : h'.calls = h₂.calls := by
    cases hleave
    rfl
  rw [hcalls', ← hcalls₁]
  exact fetchInside_ok (observe_ok hobserve)

end Fetching

end Run

end Dossier
