import Dossier.Proofs.Document.Continuation
import Dossier.Proofs.Criterion.Params
import Dossier.Proofs.Source.Exchange

/-!
# Saved criteria in a call

A build asks for its data set with the parameters of the composed blueprint, texts resolved, over
which the data of saved criteria is laid. A blueprint without parameters has nothing to lay it over:
the call goes out without parameters, whatever was saved.
-/

set_option autoImplicit false

namespace Dossier

open Run

/-! ## Laying saved data over parameters -/

/-- The data that a criterion has saved: its key ends like those of saved criteria, and its value is
an object. Without data it saves null. -/
def savedData? (key : String) (v : Value) : Option Value :=
  if key.endsWith savedSuffix then v.object?.map fun saved => saved.get "data" else none

def saved? (criteria : Fields) (key : String) : Option Value :=
  (criteria.get? key).bind (savedData? key)

theorem addSaved_cons (k : String) (v : Value) (rest params : Fields) :
    addSaved ((k, v) :: rest) params =
      addSaved rest (((savedData? k v).map (params.put k)).getD params) := by
  rw [addSaved, List.foldl_cons, addSaved]
  congr 1
  cases v with
  | object saved =>
    simp only [savedData?, Value.object?]
    split <;> rfl
  | _ => simp [savedData?, Value.object?]

/-- Saved data counts, and everything else stays. -/
theorem get?_addSaved {criteria : Fields} (hn : criteria.keys.Nodup)
    (params : Fields) (key : String) :
    (addSaved criteria params).get? key = (saved? criteria key).or (params.get? key) := by
  induction criteria generalizing params with
  | nil => rfl
  | cons entry rest ih =>
    obtain ⟨k, v⟩ := entry
    obtain ⟨hnew, hrest⟩ := List.nodup_cons.mp hn
    rw [addSaved_cons, ih hrest, saved?, saved?, Fields.get?_cons]
    by_cases hkey : key = k
    · subst hkey
      rw [Fields.get?_eq_none hnew, if_pos rfl, Option.bind_none, Option.none_or, Option.bind_some]
      cases savedData? key v with
      | none => rfl
      | some data => exact Fields.get?_put_self _ _ _
    · rw [if_neg hkey]
      cases savedData? k v with
      | none => rfl
      | some data => rw [Option.map_some, Option.getD_some, Fields.get?_put_of_ne _ _ hkey]

/-! ## Resolving parameters -/

structure ResolvesTo (scope : Fields) (h : Host) (given resolved : Value) : Prop where
  text : ∀ s, given = .text s → ∃ t, (resolve scope s h).1 = .ok t ∧ resolved = .text t
  other : given.text? = none → resolved = given

section Resolving

variable {scope params : Fields} {h : Host}

theorem resolvesTo_text {s t : String} (ht : (resolve scope s h).1 = .ok t) :
    ResolvesTo scope h (.text s) (.text t) := by
  refine ⟨fun s' hs' => ?_, fun hnone => ?_⟩
  · cases hs'
    exact ⟨t, ht, rfl⟩
  · cases hnone

theorem resolvesTo_other {v : Value} (hother : v.text? = none) : ResolvesTo scope h v v := by
  refine ⟨fun s hs => ?_, fun _ => rfl⟩
  rw [hs] at hother
  cases hother

/-- A text resolves alike on every host that goes by the same settings and environment. -/
theorem resolvesTo_known {h₁ h₂ : Host} (hknown : h₁.known = h₂.known) :
    ResolvesTo scope h₁ = ResolvesTo scope h₂ := by
  have htexts (s : String) : (resolve scope s h₁).1 = (resolve scope s h₂).1 :=
    (resolve_quiet scope s).sees hknown
  funext v w
  refine propext ⟨fun hw => ⟨fun s hs => ?_, hw.other⟩, fun hw => ⟨fun s hs => ?_, hw.other⟩⟩
  · rw [← htexts]
    exact hw.text s hs
  · rw [htexts]
    exact hw.text s hs

theorem rel_cons {r : Value → Value → Prop} {k key : String} {v w : Value} {given filled : Fields}
    (hfirst : r v w) (hrest : Option.Rel r (given.get? key) (filled.get? key)) :
    Option.Rel r (Fields.get? ((k, v) :: given) key) (Fields.get? ((k, w) :: filled) key) := by
  rw [Fields.get?_cons, Fields.get?_cons]
  split
  · exact .some hfirst
  · exact hrest

theorem resolveEntries_rel {setting : Template.Setting} {filled : Fields}
    (hsetting : (templateSetting none none h).1 = .ok setting)
    (hrun : Template.resolveEntries setting scope params = .ok filled) (key : String) :
    Option.Rel (ResolvesTo scope h) (params.get? key) (filled.get? key) := by
  induction params generalizing filled with
  | nil =>
    cases hrun
    exact .none
  | cons entry rest ih =>
    obtain ⟨k, v⟩ := entry
    cases hv : v.text? with
    | none =>
      rw [resolveEntries_other setting scope rest k hv] at hrun
      obtain ⟨later, hlater, rfl⟩ := except_map_ok hrun
      exact rel_cons (resolvesTo_other hv) (ih hlater)
    | some s =>
      obtain rfl : v = .text s := by cases v <;> cases hv; rfl
      rw [Template.resolveEntries] at hrun
      cases ht : Template.resolve setting scope false s with
      | error e => simp [ht] at hrun
      | ok t =>
        rw [ht] at hrun
        obtain ⟨later, hlater, rfl⟩ := except_map_ok hrun
        have hresolve : (resolve scope s h).1 = .ok t := by
          rw [resolve, bind_of_ok hsetting, lift_apply, ht]
        exact rel_cons (resolvesTo_text hresolve) (ih hlater)

/-- Parameters are resolved one for one. -/
theorem resolveParams_rel {resolved : Option Fields} {h' : Host}
    (hrun : resolveParams none scope (some params) h = (.ok resolved, h')) :
    ∃ filled, resolved = some filled ∧
      ∀ key, Option.Rel (ResolvesTo scope h) (params.get? key) (filled.get? key) := by
  unfold resolveParams at hrun
  dsimp only at hrun
  split at hrun
  · obtain ⟨setting, h₁, hsetting, hfill⟩ := bind_ok hrun
    obtain ⟨filled, hlift, rfl⟩ := map_ok hfill
    exact ⟨filled, rfl, resolveEntries_rel (by rw [hsetting]) (lift_ok hlift).1⟩
  · next hnone =>
    obtain ⟨rfl, -⟩ := pure_ok hrun
    refine ⟨params, rfl, fun key => ?_⟩
    cases hv : params.get? key with
    | none => exact .none
    | some v =>
      obtain ⟨before, after, rfl, -⟩ := List.lookup_eq_some_iff.mp hv
      have hother : v.text? = none := by
        rw [← Option.not_isSome_iff_eq_none]
        exact fun hsome => hnone (by simp [hsome])
      exact .some (resolvesTo_other hother)

end Resolving

/-! ## The call of the data set -/

structure Prepared where
  blueprint : Blueprint
  /-- The scope with all lookups. -/
  scope : Fields
  call : Call

/-- The call carries the saved data under its keys, and under all others the parameters of the
blueprint with their texts resolved. -/
structure Prepared.Carries (p : Prepared) (criteria : Fields) (h : Host) : Prop where
  saved : ∀ key data, saved? criteria key = some data →
    (p.call.params.getD []).get? key = some data
  others : ∀ key, saved? criteria key = none →
    Option.Rel (ResolvesTo p.scope h) ((p.blueprint.dataSetParams.getD []).get? key)
      ((p.call.params.getD []).get? key)

namespace Builder

def prepared (builder : Builder) (d : Definition) (o : Order) : Run Prepared := do
  let b ← d.compose (builder.startScope o)
  let scope ← b.runLookups builder.source (builder.startScope o)
  let params ← Builder.params o.sync.settings.criteria scope b
  pure ⟨b, scope, ⟨b.dataSet, params, o.page, o.metadata⟩⟩

def proceed (builder : Builder) (d : Definition) (o : Order) (p : Prepared) : Run Delivery := do
  let batch ← builder.source.fetch p.call
  builder.deliver d o ⟨p.blueprint, p.scope, p.call, batch⟩

variable {builder : Builder} {d : Definition} {o : Order} {h h₁ : Host} {p : Prepared}

theorem buildInside_prepared (builder : Builder) (d : Definition) (o : Order) :
    builder.buildInside d o = builder.prepared d o >>= builder.proceed d o := by
  rw [buildInside_eq]
  unfold fetched prepared
  simp only [bind_assoc, pure_bind]
  rfl

/-- The span around a build adds no call. -/
theorem build_calls (builder : Builder) (d : Definition) (o : Order) (h : Host) :
    (builder.build d o h).1 = (builder.buildInside d o h).1 ∧
      (builder.build d o h).2.calls = (builder.buildInside d o h).2.calls := by
  obtain ⟨hout, halike⟩ := spanned_matches onBuildTracer_unseen
    (·.enter "build_proof" .internal [("filename", .text o.sync.settings.name)])
    (buildInside_narrow builder d o) h
  exact ⟨hout, halike.calls⟩

/-- A build that comes to its data set makes the call that it has prepared. -/
theorem build_asks (hrun : builder.prepared d o h = (.ok p, h₁)) :
    ∃ later, (builder.build d o h).2.calls = h₁.calls ++ p.call :: later := by
  rw [(build_calls builder d o h).2, buildInside_prepared, bind_apply, hrun]
  have hcall := (fetch_outcome builder.source p.call h₁).2
  dsimp only
  rw [proceed, bind_apply]
  match hfetch : builder.source.fetch p.call h₁ with
  | (.error e, h₂) =>
    rw [hfetch] at hcall
    exact ⟨[], hcall⟩
  | (.ok batch, h₂) =>
    rw [hfetch] at hcall
    obtain ⟨later, hlater⟩ :=
      (deliver_narrow builder d o ⟨p.blueprint, p.scope, p.call, batch⟩).grows h₂
    exact ⟨later, by rw [← hlater, hcall, List.append_assoc, List.singleton_append]⟩

theorem prepared_ok (hrun : builder.prepared d o h = (.ok p, h₁)) :
    (d.compose (builder.startScope o) h).1 = .ok p.blueprint ∧
      p.call.dataSet = p.blueprint.dataSet ∧
      (∃ asked, List.Forall₂ Call.LooksUp asked p.blueprint.lookups ∧
        h₁.calls = h.calls ++ asked) ∧
      ∃ h₂ : Host, h₂.known = h.known ∧
        (Builder.params o.sync.settings.criteria p.scope p.blueprint h₂).1 = .ok p.call.params := by
  obtain ⟨b, h₂, hcompose, hlookups⟩ := bind_ok hrun
  obtain ⟨scope, h₃, hlooked, hparams⟩ := bind_ok hlookups
  obtain ⟨params, h₄, hresolved, hpure⟩ := bind_ok hparams
  obtain ⟨rfl, rfl⟩ := pure_ok hpure
  have hcalls₂ := keeps_ok ((compose_quiet d _).keeps calls_steady) hcompose
  have hcalls₄ := keeps_ok ((params_quiet _ scope b).keeps calls_steady) hresolved
  obtain ⟨asked, hasked, hcalls₃⟩ := Lookup.runLookups_ok hlooked
  have hknown₂ := keeps_ok ((compose_quiet d _).keeps known_aloof.toSteady) hcompose
  have hknown₃ := keeps_ok ((Lookup.runLookups_narrow builder.source b _).keeps known_aloof) hlooked
  refine ⟨by rw [hcompose], rfl, ⟨asked, hasked, ?_⟩, h₃, hknown₃.trans hknown₂, by rw [hresolved]⟩
  rw [hcalls₄, hcalls₃, hcalls₂]

theorem params_none {criteria scope : Fields} {b : Blueprint} {params : Option Fields}
    (hnone : b.dataSetParams = none)
    (hrun : (Builder.params criteria scope b h).1 = .ok params) : params = none := by
  unfold Builder.params at hrun
  rw [hnone] at hrun
  cases hrun
  rfl

theorem params_some {criteria scope given : Fields} {b : Blueprint} {params : Option Fields}
    (hgiven : b.dataSetParams = some given)
    (hrun : (Builder.params criteria scope b h).1 = .ok params) :
    ∃ filled, params = some (addSaved criteria filled) ∧
      ∀ key, Option.Rel (ResolvesTo scope h) (given.get? key) (filled.get? key) := by
  unfold Builder.params at hrun
  rw [hgiven] at hrun
  obtain ⟨resolved, h₁, hresolved, hpure⟩ := bind_ok (Prod.ext hrun rfl)
  obtain ⟨filled, rfl, hrel⟩ := resolveParams_rel hresolved
  obtain ⟨rfl, -⟩ := pure_ok hpure
  exact ⟨filled, rfl, hrel⟩

/-- What the call carries when the blueprint has parameters. -/
theorem carries_some {criteria given filled : Fields} (hn : criteria.keys.Nodup)
    (hgiven : p.blueprint.dataSetParams = some given)
    (hparams : p.call.params = some (addSaved criteria filled))
    (hfilled : ∀ key, Option.Rel (ResolvesTo p.scope h) (given.get? key) (filled.get? key)) :
    p.Carries criteria h := by
  constructor
  · intro key data hsaved
    rw [hparams, Option.getD_some, get?_addSaved hn, hsaved, Option.some_or]
  · intro key hnone
    rw [hparams, hgiven, Option.getD_some, Option.getD_some, get?_addSaved
      hn, hnone, Option.none_or]
    exact hfilled key

/-- Without parameters the call carries nothing, which is right only if nothing was saved. -/
theorem carries_none_iff {criteria : Fields} (hgiven : p.blueprint.dataSetParams = none)
    (hparams : p.call.params = none) :
    p.Carries criteria h ↔ ∀ key, saved? criteria key = none := by
  constructor
  · intro hcarries key
    cases hsaved : saved? criteria key with
    | none => rfl
    | some data =>
      have hget := hcarries.saved key data hsaved
      rw [hparams] at hget
      cases hget
  · intro hnone
    refine ⟨fun key data hsaved => ?_, fun key _ => ?_⟩
    · rw [hnone key] at hsaved
      cases hsaved
    · rw [hgiven, hparams]
      exact .none

/-- A build that comes to its data set asks for it after its lookups, with the saved data and the
resolved parameters of the composed blueprint and nothing else, except that a blueprint without
parameters asks without parameters, so that saved data does not arrive. -/
theorem build_params_iff (hcriteria : o.sync.settings.criteria.keys.Nodup)
    (hrun : builder.prepared d o h = (.ok p, h₁)) :
    (d.compose (builder.startScope o) h).1 = .ok p.blueprint ∧
    p.call.dataSet = p.blueprint.dataSet ∧
    (∃ asked later, List.Forall₂ Call.LooksUp asked p.blueprint.lookups ∧
      (builder.build d o h).2.calls = h.calls ++ asked ++ p.call :: later) ∧
    (p.Carries o.sync.settings.criteria h ↔
      (p.blueprint.dataSetParams = none → ∀ key, saved? o.sync.settings.criteria key = none)) ∧
    (p.blueprint.dataSetParams = none → p.call.params = none) := by
  obtain ⟨hcompose, hdataSet, ⟨asked, hasked, hcalls⟩, h₂, hknown, hparams⟩ := prepared_ok hrun
  obtain ⟨later, hlater⟩ := build_asks hrun
  rw [hcalls] at hlater
  refine ⟨hcompose, hdataSet, ⟨asked, later, hasked, hlater⟩, ?_,
    fun hnone => params_none hnone hparams⟩
  cases hgiven : p.blueprint.dataSetParams with
  | none =>
    rw [carries_none_iff hgiven (params_none hgiven hparams)]
    exact ⟨fun hall _ => hall, fun hall => hall rfl⟩
  | some given =>
    obtain ⟨filled, hcall, hfilled⟩ := params_some hgiven hparams
    rw [resolvesTo_known hknown] at hfilled
    exact iff_of_true (carries_some hcriteria hgiven hcall hfilled) nofun

def groupRoster : Definition :=
  { roster with blueprint := { roster.blueprint with
      dataSetParams := some [("group", .text "\x7b\x7bcriteria.group\x7d\x7d")] } }

def savedOrder : Order :=
  { rosterOrder with sync := { rosterOrder.sync with settings := { rosterOrder.sync.settings with
      criteria := [("group", .text "g1"), ("userSavedCriterion",
        .object [("data", .object [("ids", .list [.int 1, .int 2])])])] } } }

def emptyAnswers : List Value := [completeAnswer (.list []) .null]

/-- The users of the group are asked for with the saved choice. -/
theorem build_params_group :
    ∃ p h₁, (rosterBuilder emptyAnswers).prepared groupRoster savedOrder Host.bare = (.ok p, h₁) ∧
      savedOrder.sync.settings.criteria.keys.Nodup ∧
      (saved? savedOrder.sync.settings.criteria "userSavedCriterion").isSome = true ∧
      p.Carries savedOrder.sync.settings.criteria Host.bare := by
  have hruns :
      ((rosterBuilder emptyAnswers).prepared groupRoster savedOrder Host.bare).1.toOption.map
      (fun p => p.blueprint.dataSetParams.isSome) = some true := by
    decide +kernel
  have hcriteria : savedOrder.sync.settings.criteria.keys.Nodup := by decide
  obtain ⟨p, hp, hgiven⟩ := Option.map_eq_some_iff.mp hruns
  have hrun := ok_of_toOption hp
  refine ⟨p, _, hrun, hcriteria, by decide +kernel, ?_⟩
  refine (build_params_iff hcriteria hrun).2.2.2.1.mpr fun hnone => ?_
  rw [hnone] at hgiven
  cases hgiven

/-- All users are asked for without parameters, and the saved choice does not arrive. -/
theorem build_drops_saved :
    ∃ p h₁, (rosterBuilder emptyAnswers).prepared roster savedOrder Host.bare = (.ok p, h₁) ∧
      p.call.dataSet = "users" ∧ p.call.params = none ∧
      (∃ later, ((rosterBuilder emptyAnswers).build roster savedOrder Host.bare).2.calls =
        p.call :: later) ∧
      ¬ p.Carries savedOrder.sync.settings.criteria Host.bare := by
  have hruns : ((rosterBuilder emptyAnswers).prepared roster savedOrder Host.bare).1.toOption.map
      (fun p => (p.call.dataSet, p.call.params.isNone, p.blueprint.dataSetParams.isNone)) =
        some ("users", true, true) := by
    decide +kernel
  have hsaved : (saved? savedOrder.sync.settings.criteria "userSavedCriterion").isSome = true := by
    decide +kernel
  obtain ⟨p, hp, hcall⟩ := Option.map_eq_some_iff.mp hruns
  obtain ⟨hdataSet, hparams, hgiven⟩ : p.call.dataSet = "users" ∧ p.call.params = none ∧
      p.blueprint.dataSetParams = none := by
    simpa using hcall
  have hrun := ok_of_toOption hp
  obtain ⟨later, hlater⟩ := build_asks hrun
  have hcalls : ((rosterBuilder emptyAnswers).prepared roster savedOrder Host.bare).2.calls.length =
      0 := by
    decide +kernel
  rw [List.length_eq_zero_iff.mp hcalls, List.nil_append] at hlater
  refine ⟨p, _, hrun, hdataSet, hparams, ⟨later, hlater⟩, fun hcarries => ?_⟩
  have hnone := (carries_none_iff hgiven hparams).mp hcarries "userSavedCriterion"
  rw [hnone] at hsaved
  cases hsaved

end Builder

end Dossier
