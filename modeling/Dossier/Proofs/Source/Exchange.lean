import Dossier.Proofs.Host.Narrow

/-!
# Exchanges with the data source

However a fetch ends, it is one call, and what comes of it is what the source answers. The spans
around it show in no outcome. So the calls of a run can be told as exchanges: each call with what
came of it, as the source answers that knows the calls before.
-/

set_option autoImplicit false

namespace Dossier

def Source.outcome (source : Source) (past : List Call) (call : Call) : Except Failure Batch :=
  match source past call with
  | .error e => .error e
  | .ok answer =>
    match Batch.read answer with
    | .ok batch => .ok batch
    | .bad issues => .error (.invalid issues)

structure Exchange where
  call : Call
  outcome : Except Failure Batch

def Answered (source : Source) : List Call → List Exchange → Prop
  | _, [] => True
  | past, x :: rest =>
    x.outcome = source.outcome past x.call ∧ Answered source (past ++ [x.call]) rest

namespace Run

variable {α β : Type}

def Matches (x y : Run α) : Prop := ∀ h, (x h).1 = (y h).1 ∧ (x h).2.Alike (y h).2

theorem Matches.refl (x : Run α) : Matches x x := fun h => ⟨rfl, .refl (x h).2⟩

theorem Matches.trans {x y z : Run α} (hxy : Matches x y) (hyz : Matches y z) : Matches x z :=
  fun h => ⟨(hxy h).1.trans (hyz h).1, (hxy h).2.trans (hyz h).2⟩

theorem bind_matches {x y : Run α} {f g : α → Run β} (hxy : Matches x y)
    (hfg : ∀ a, Matches (f a) (g a)) (hg : ∀ a, Narrow (g a)) : Matches (x >>= f) (y >>= g) := by
  intro h
  obtain ⟨hout, halike⟩ := hxy h
  rw [bind_apply, bind_apply]
  match hx : x h, hy : y h with
  | (.error e₁, h₁), (.error e₂, h₂) =>
    rw [hx, hy] at hout halike
    cases hout
    exact ⟨rfl, halike⟩
  | (.ok a₁, h₁), (.ok a₂, h₂) =>
    rw [hx, hy] at hout halike
    cases hout
    obtain ⟨hsame, hleft⟩ := hfg a₁ h₁
    obtain ⟨hagree, hright⟩ := (hg a₁).agrees halike
    exact ⟨hsame.trans hagree, hleft.trans hright⟩
  | (.ok _, _), (.error _, _) =>
    rw [hx, hy] at hout
    cases hout
  | (.error _, _), (.ok _, _) =>
    rw [hx, hy] at hout
    cases hout

def Unseen (note : Run Unit) : Prop := ∀ h, ∃ h₁, note h = (.ok (), h₁) ∧ h₁.Alike h

theorem onFetchTracer_unseen (change : Trace.Tracer → Trace.Tracer) :
    Unseen (onFetchTracer change) := fun _ => ⟨_, rfl, rfl, rfl, rfl⟩

theorem onBuildTracer_unseen (change : Trace.Tracer → Trace.Tracer) :
    Unseen (onBuildTracer change) := fun _ => ⟨_, rfl, rfl, rfl, rfl⟩

theorem noted_matches {note : Run Unit} {x y : Run α} (hnote : Unseen note) (hxy : Matches x y)
    (hy : Narrow y) : Matches (note >>= fun _ => x) y := by
  intro h
  obtain ⟨h₁, hrun, halike₁⟩ := hnote h
  obtain ⟨hsame, hleft⟩ := hxy h₁
  obtain ⟨hagree, hright⟩ := hy.agrees halike₁
  rw [bind_apply, hrun]
  exact ⟨hsame.trans hagree, hleft.trans hright⟩

theorem finishSpan_apply {onTracer : (Trace.Tracer → Trace.Tracer) → Run Unit}
    (hon : ∀ change, Unseen (onTracer change)) (result : Except Failure α) (h : Host) :
    (finishSpan onTracer result h).1 = result ∧ (finishSpan onTracer result h).2.Alike h := by
  cases result with
  | ok a =>
    obtain ⟨h₁, hrun, halike⟩ := hon (·.leave .normal) h
    rw [finishSpan, bind_apply, hrun]
    exact ⟨rfl, halike⟩
  | error e =>
    obtain ⟨h₁, hrun, halike⟩ := hon (·.leave (.error (errorLine e))) h
    rw [finishSpan, bind_apply, hrun]
    exact ⟨rfl, halike⟩

/-- The span around a narrow run decides nothing. -/
theorem spanned_matches {onTracer : (Trace.Tracer → Trace.Tracer) → Run Unit}
    (hon : ∀ change, Unseen (onTracer change)) (enter : Trace.Tracer → Trace.Tracer) {x : Run α}
    (hx : Narrow x) :
    Matches (do
      onTracer enter
      let result ← observe x
      finishSpan onTracer result) x := by
  intro h
  obtain ⟨h₁, hrun, halike₁⟩ := hon enter h
  obtain ⟨hout, halike⟩ := hx.agrees halike₁
  rw [bind_apply, hrun]
  change (finishSpan onTracer (x h₁).1 (x h₁).2).1 = (x h).1 ∧
    (finishSpan onTracer (x h₁).1 (x h₁).2).2.Alike (x h).2
  obtain ⟨hfinish, hleft⟩ := finishSpan_apply hon (x h₁).1 (x h₁).2
  exact ⟨hfinish.trans hout, hleft.trans halike⟩

section Fetching

variable (source : Source) (call : Call)

theorem noted_ask_matches {note : Batch → Run Batch}
    (hnote : ∀ batch, Matches (note batch) (pure batch)) :
    Matches (source.ask call >>= fun answer => Batch.ofAnswer answer >>= note)
      (source.ask call >>= Batch.ofAnswer) := by
  refine bind_matches (.refl _) (fun answer => ?_) fun answer =>
    quiet_narrow (ofAnswer_quiet answer)
  have hmatches := bind_matches (.refl (Batch.ofAnswer answer)) hnote pure_narrow
  rwa [bind_pure] at hmatches

/-- Without its notes a fetch asks the source and takes the answer for a batch. -/
theorem fetchInside_matches :
    Matches (source.fetchInside call) (source.ask call >>= Batch.ofAnswer) := by
  have narrow : Narrow (source.ask call >>= Batch.ofAnswer) :=
    bind_narrow (ask_narrow source call) fun answer => quiet_narrow (ofAnswer_quiet answer)
  unfold Source.fetchInside
  cases call.page
  case' some page => refine noted_matches (onFetchTracer_unseen _) ?_ narrow
  all_goals
    refine noted_ask_matches source call fun batch => ?_
    refine noted_matches (onFetchTracer_unseen _) ?_ (pure_narrow batch)
    cases batch.cursor? with
    | some cursor => exact noted_matches (onFetchTracer_unseen _) (.refl _) (pure_narrow batch)
    | none => exact .refl _

/-- However a fetch ends, it is one call, and what comes of it is what the source answers. -/
theorem fetch_outcome (h : Host) :
    (source.fetch call h).1 = source.outcome h.calls call ∧
      (source.fetch call h).2.calls = h.calls ++ [call] := by
  obtain ⟨hout, halike⟩ := (spanned_matches onFetchTracer_unseen _
    (fetchInside_narrow source call)).trans (fetchInside_matches source call) h
  have ask : source.ask call h = (source h.calls call, { h with calls := h.calls ++ [call] }) :=
    lift_apply _ _
  change (source.fetch call h).1 = _ at hout
  change (source.fetch call h).2.Alike _ at halike
  rw [hout, halike.calls, Source.outcome, bind_apply, ask]
  cases source h.calls call with
  | error e => exact ⟨rfl, rfl⟩
  | ok answer =>
    dsimp only
    unfold Batch.ofAnswer
    cases Batch.read answer with
    | ok batch => exact ⟨rfl, rfl⟩
    | bad issues => exact ⟨rfl, rfl⟩

end Fetching

/-! ## Sources that go by the call alone -/

def Timeless (source : Source) : Prop := ∀ past past' call, source past call = source past' call

def Repeats (x : Run α) : Prop :=
  ∀ h₁ h₂ : Host, h₁.known = h₂.known → (x h₁).1 = (x h₂).1 ∧ (x h₁).2.known = (x h₂).2.known

theorem Quiet.repeats {x : Run α} (hx : Quiet x) : Repeats x := fun _ _ hknown => hx.agrees hknown

theorem bind_repeats {x : Run α} {f : α → Run β} (hx : Repeats x) (hf : ∀ a, Repeats (f a)) :
    Repeats (x >>= f) := by
  intro h₁ h₂ hknown
  have hagrees : Agrees (fun k₁ k₂ => k₁.known = k₂.known) (x >>= f) :=
    bind_agrees (fun {k₁ k₂} => hx k₁ k₂) fun a {k₁ k₂} => hf a k₁ k₂
  exact hagrees hknown

section Timeless

variable {source : Source} (hsource : Timeless source)
include hsource

theorem fetch_repeats (call : Call) : Repeats (source.fetch call) := by
  intro h₁ h₂ hknown
  have hkept := (fetch_narrow source call).keeps known_aloof
  refine ⟨?_, (hkept h₁).trans (hknown.trans (hkept h₂).symm)⟩
  rw [(fetch_outcome source call h₁).1, (fetch_outcome source call h₂).1, Source.outcome,
    Source.outcome, hsource h₁.calls h₂.calls]

theorem fetchPages_repeats (dataSet : String) (params : Option Fields) (limit : Int) (left : Nat)
    (page : Option String) : Repeats (source.fetchPages dataSet params limit left page) := by
  induction left generalizing page with
  | zero => exact (throw_quiet _).repeats
  | succ left ih =>
    rw [Source.fetchPages]
    refine bind_repeats (fetch_repeats hsource _) fun batch => ?_
    split
    · split
      · exact bind_repeats (ih _) fun _ => (pure_quiet _).repeats
      · exact (pure_quiet _).repeats
    · exact (pure_quiet _).repeats

theorem fetchAll_repeats (dataSet : String) (params : Option Fields) (maxPages : Option Int) :
    Repeats (source.fetchAll dataSet params maxPages) := by
  have pages (limit : Int) := fetchPages_repeats hsource dataSet params limit limit.toNat none
  unfold Source.fetchAll
  cases maxPages.filter (· ≠ 0) with
  | some limit => exact bind_repeats (pure_quiet _).repeats pages
  | none => exact bind_repeats (map_quiet _ settings_quiet).repeats pages

end Timeless

end Run

end Dossier
