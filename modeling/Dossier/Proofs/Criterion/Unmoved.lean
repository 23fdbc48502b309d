import Dossier.Proofs.Criterion.Drafted
import Dossier.Proofs.Template.Seclusion
import Dossier.Proofs.Wizard.Dependence

/-!
# Inputs that another scope leaves unmoved

A text is unmoved by a change of scope when every placeholder that is looked up on the way stands
for the same as before. On every host that goes by the same settings and environment such texts come
out as they did, and so does the input of a draft that is made of them: the same calls are made for
it, and it ends in the same way.
-/

set_option autoImplicit false

namespace Dossier

open Template

namespace Run

def SameFor {α : Type} (known : Known) (x x' : Run α) : Prop :=
  ∀ h : Host, h.known = known → x' h = x h

def Unmoved (known : Known) (scope scope' : Fields) (s : String) : Prop :=
  ∀ settings, known.1 = .ok settings → ∀ body,
    LooksUp ⟨meaning known.2 scope, false, some []⟩ settings.maxPasses.toNat s.toList body →
      meaning known.2 scope' (Text.trim body) = meaning known.2 scope (Text.trim body)

section Runs

variable {α β : Type} {known : Known} {x x' : Run α}

theorem SameFor.refl (x : Run α) : SameFor known x x := fun _ _ => rfl

theorem bind_same {f f' : α → Run β} (hx : SameFor known x x') (hkeeps : Keeps Host.known x)
    (hf : ∀ a, SameFor known (f a) (f' a)) : SameFor known (x >>= f) (x' >>= f') := by
  intro h hknown
  have hafter : (x h).2.known = known := (hkeeps h).trans hknown
  rw [bind_apply, bind_apply, hx h hknown]
  match hrun : x h with
  | (.error e, h₁) => rfl
  | (.ok a, h₁) =>
    rw [hrun] at hafter
    exact hf a h₁ hafter

theorem map_same (f : α → β) (hx : SameFor known x x') : SameFor known (f <$> x) (f <$> x') := by
  intro h hknown
  rw [map_apply, map_apply, hx h hknown]

theorem lift_same {y : Except Failure α} {f f' : α → Run β}
    (hf : ∀ a, y = .ok a → SameFor known (f a) (f' a)) :
    SameFor known (lift y >>= f) (lift y >>= f') := by
  cases y with
  | error e => exact fun h _ => (bind_of_error rfl).trans (bind_of_error rfl).symm
  | ok a => exact hf a rfl

/-- What is done with the setting in force needs to be the same for that setting only. -/
theorem templateSetting_same {f f' : Setting → Run α}
    (hf : ∀ settings, known.1 = .ok settings →
      f' ⟨known.2, settings.maxPasses⟩ = f ⟨known.2, settings.maxPasses⟩) :
    SameFor known (templateSetting none none >>= f) (templateSetting none none >>= f') := by
  intro h hknown
  have hsetting := templateSetting_known h
  rw [hknown] at hsetting
  cases hsettings : known.1 with
  | error e =>
    rw [hsettings] at hsetting
    rw [bind_of_error hsetting, bind_of_error hsetting]
  | ok settings =>
    rw [hsettings] at hsetting
    rw [bind_of_ok hsetting, bind_of_ok hsetting, hf settings hsettings]

end Runs

/-! ## Texts -/

section Texts

variable {known : Known} {scope scope' : Fields}

theorem Unmoved.resolve {s : String} (hs : Unmoved known scope scope' s) {settings : Settings}
    (hsettings : known.1 = .ok settings) :
    Template.resolve ⟨known.2, settings.maxPasses⟩ scope' false s =
      Template.resolve ⟨known.2, settings.maxPasses⟩ scope false s :=
  resolve_looked (hs settings hsettings)

theorem resolve_same {s : String} (hs : Unmoved known scope scope' s) :
    SameFor known (resolve scope s) (resolve scope' s) :=
  templateSetting_same fun _ hsettings => congrArg lift (hs.resolve hsettings)

theorem resolvePart_same {part : Value}
    (hpart : ∀ s, Within (.text s) part → Unmoved known scope scope' s) :
    SameFor known (Draft.resolvePart scope part) (Draft.resolvePart scope' part) := by
  unfold Draft.resolvePart resolveValue
  split
  · refine templateSetting_same fun settings hsettings => ?_
    rw [resolveValue_congr part fun s hs => (hpart s hs).resolve hsettings]
  · exact .refl _

theorem resolveFilled_same {part empty : Value}
    (hpart : ∀ s, Within (.text s) part → Unmoved known scope scope' s) :
    SameFor known (Draft.resolveFilled scope part empty)
      (Draft.resolveFilled scope' part empty) := by
  unfold Draft.resolveFilled
  split
  · exact resolvePart_same hpart
  · exact .refl _

theorem resolveEntries_congr {setting : Setting} {params : Fields}
    (hparams : ∀ key s, (key, .text s) ∈ params →
      Template.resolve setting scope' false s = Template.resolve setting scope false s) :
    resolveEntries setting scope' params = resolveEntries setting scope params := by
  induction params with
  | nil => rfl
  | cons entry rest ih =>
    obtain ⟨key, v⟩ := entry
    have hrest := ih fun key s hs => hparams key s (List.mem_cons_of_mem _ hs)
    cases hv : v.text? with
    | none => rw [resolveEntries_other _ _ _ _ hv, resolveEntries_other _ _ _ _ hv, hrest]
    | some s =>
      obtain rfl : v = .text s := by cases v <;> cases hv; rfl
      rw [resolveEntries, resolveEntries, hparams key s List.mem_cons_self, hrest]

theorem resolveParams_same {params : Option Fields}
    (hparams : ∀ given ∈ params, ∀ key s, (key, .text s) ∈ given → Unmoved known scope scope' s) :
    SameFor known (resolveParams none scope params) (resolveParams none scope' params) := by
  cases params with
  | none => exact .refl _
  | some given =>
    unfold resolveParams
    dsimp only
    split
    · refine templateSetting_same fun settings hsettings => ?_
      rw [resolveEntries_congr fun key s hs => (hparams given rfl key s hs).resolve hsettings]
    · exact .refl _

theorem resolveChoice_same {c : Choice} (hc : ∀ s ∈ c.texts, Unmoved known scope scope' s) :
    SameFor known (Criterion.resolveChoice scope c) (Criterion.resolveChoice scope' c) := by
  have labelled (value : Value) : SameFor known
      (do let label ← resolve scope (c.label.getD ""); pure (⟨value, some label⟩ : Choice))
      (do let label ← resolve scope' (c.label.getD ""); pure (⟨value, some label⟩ : Choice)) :=
    bind_same (resolve_same (hc _ (by simp [Choice.texts])))
      ((resolve_quiet scope _).keeps known_aloof.toSteady) fun _ => .refl _
  unfold Criterion.resolveChoice
  cases hvalue : c.value with
  | text s =>
    have hs : s ∈ c.texts := by simp [Choice.texts, hvalue, Value.text?]
    exact bind_same (map_same _ (resolve_same (hc s hs)))
      ((map_quiet _ (resolve_quiet scope s)).keeps known_aloof.toSteady) labelled
  | _ => exact bind_same (.refl _) (pure_keeps _) labelled

theorem resolveChoices_same {choices : List Choice}
    (hchoices : ∀ c ∈ choices, ∀ s ∈ c.texts, Unmoved known scope scope' s) :
    SameFor known (Criterion.resolveChoices scope choices)
      (Criterion.resolveChoices scope' choices) := by
  induction choices with
  | nil => exact .refl _
  | cons c rest ih =>
    obtain ⟨hc, hrest⟩ := List.forall_mem_cons.mp hchoices
    exact bind_same (resolveChoice_same hc)
      ((resolveChoice_quiet scope c).keeps known_aloof.toSteady)
      fun _ => bind_same (ih hrest) ((resolveChoices_quiet scope rest).keeps known_aloof.toSteady)
        fun _ => .refl _

end Texts

end Run

/-! ## A criterion that is dropped -/

namespace Template

def leadsTo (property : String) (body : List Char) : Bool :=
  ["criteria", property].isPrefixOf ((names (Text.trim body)).map String.ofList)

structure Drops (property : String) (criteria scope scope' : Fields) : Prop where
  before : scope.lookup "criteria" = some (.object criteria)
  after : scope'.lookup "criteria" = some (.object (criteria.erase property))
  others : ∀ name, name ≠ "criteria" → scope'.lookup name = scope.lookup name

theorem drops_start (property : String) (criteria messages : Fields) :
    Drops property criteria (Scope.start criteria messages)
      (Scope.start (criteria.erase property) messages) := by
  refine ⟨rfl, rfl, fun name hname => ?_⟩
  have hcriteria : (name == "criteria") = false := by simpa using hname
  simp only [Scope.start, List.lookup_cons, hcriteria]

theorem drops_alone (property : String) (criteria : Fields) :
    Drops property criteria [("criteria", .object criteria)]
      [("criteria", .object (criteria.erase property))] := by
  refine ⟨rfl, rfl, fun name hname => ?_⟩
  have hcriteria : (name == "criteria") = false := by simpa using hname
  simp only [List.lookup_cons, hcriteria]

/-- A placeholder that does not lead to the criterion stands for the same without it. -/
theorem Drops.meaning {property : String} {criteria scope scope' : Fields}
    (hdrops : Drops property criteria scope scope') {body : List Char}
    (hbody : leadsTo property body = false) (env : Environment) :
    Template.meaning env scope' (Text.trim body) = Template.meaning env scope (Text.trim body) := by
  unfold Template.meaning
  unfold leadsTo at hbody
  generalize (names (Text.trim body)).map String.ofList = path at hbody ⊢
  dsimp only
  cases variableName? path with
  | some name => rfl
  | none =>
    cases path with
    | nil => rfl
    | cons name rest =>
      by_cases hname : name = "criteria"
      · subst hname
        simp only [walk, hdrops.before, hdrops.after]
        cases rest with
        | nil => rfl
        | cons key more =>
          have hkey : key ≠ property := by
            rintro rfl
            simp at hbody
          have hlookup : (criteria.erase property).lookup key = criteria.lookup key :=
            (Fields.get?_erase criteria property key).trans (if_neg hkey)
          simp only [walk, hlookup]
      · simp only [walk, hdrops.others name hname]

end Template

namespace Run

def Unasked (known : Known) (scope : Fields) (property s : String) : Prop :=
  ∀ settings, known.1 = .ok settings → ∀ body,
    LooksUp ⟨meaning known.2 scope, false, some []⟩ settings.maxPasses.toNat s.toList body →
      leadsTo property body = false

/-- Nothing is asked where no text holds a placeholder that leads to the criterion. -/
theorem Unasked.of_free {known : Known} {scope : Fields} {property s : String}
    (hscope : ∀ t, Within (.text t) (.object scope) → Free (leadsTo property) t.toList)
    (henv : ∀ entry ∈ known.2, Free (leadsTo property) entry.2.toList)
    (hs : Free (leadsTo property) s.toList) : Unasked known scope property s :=
  fun _ _ _ hlooks => looksUp_free (fun _ _ _ hv => standsFor_free hscope henv hv) hs hlooks

theorem Unasked.unmoved {known : Known} {property s : String} {criteria scope scope' : Fields}
    (hs : Unasked known scope property s) (hdrops : Drops property criteria scope scope') :
    Unmoved known scope scope' s :=
  fun settings hsettings body hlooks => hdrops.meaning (hs settings hsettings body hlooks) known.2

end Run

/-! ## Drafts -/

namespace Draft

open Run

/-- The texts that are resolved in the whole scope for the input of a draft; those of choices only
for a select control. -/
inductive Shows (d : Draft) (s : String) : Prop
  | label (hs : Within (.text s) d.label)
  | placeholder (hs : Within (.text s) d.placeholder)
  | choice {choices : List Choice} {c : Choice} (hselect : d.control = some (.text "select"))
      (hchoices : d.fixedChoices = .read choices) (hc : c ∈ choices) (hs : s ∈ c.texts)

/-- The texts among the parameters with which the choices of a select control are fetched. They see
the criteria alone. -/
structure Sends (d : Draft) (s : String) : Prop where
  select : d.control = some (.text "select")
  wired : (d.dataSet.isTruthy && d.valueProperty.isTruthy && d.labelProperty.isTruthy) = true
  param : ∃ params key, d.dataSetParams = .object params ∧ (key, .text s) ∈ params

theorem Shows.of_criterion {c : Criterion} {s : String} (hs : (ofCriterion c).Shows s) :
    s = c.label ∨ c.placeholder = some s ∨ ∃ choice ∈ c.fixedChoices.getD [], s ∈ choice.texts := by
  cases hs with
  | label hs =>
    cases hs
    exact .inl rfl
  | placeholder hs =>
    change Within (.text s) (ofText? c.placeholder) at hs
    cases hc : c.placeholder with
    | none =>
      rw [hc] at hs
      cases hs
    | some t =>
      rw [hc] at hs
      cases hs
      exact .inr (.inl rfl)
  | choice hselect hchoices hc hs =>
    cases hchoices
    exact .inr (.inr ⟨_, hc, hs⟩)

theorem Sends.of_criterion {c : Criterion} {s : String} (hs : (ofCriterion c).Sends s) :
    ∃ params key, c.dataSetParams = some params ∧ (key, .text s) ∈ params := by
  obtain ⟨params, key, hparams, hin⟩ := hs.param
  refine ⟨params, key, ?_, hin⟩
  change (c.dataSetParams.map Value.object).getD .null = .object params at hparams
  cases hc : c.dataSetParams with
  | none =>
    rw [hc] at hparams
    cases hparams
  | some given =>
    rw [hc] at hparams
    cases hparams
    rfl

theorem needed_ok {part : Option Value} {v : Value} (hv : needed part = .ok v) : part = some v := by
  cases part <;> cases hv
  rfl

section Unmoved

variable {known : Known} {d : Draft} {values values' scope scope' : Fields}

theorem params_same
    (hparams : ∀ params, d.dataSetParams = .object params → ∀ key s, (key, .text s) ∈ params →
      Unmoved known [("criteria", .object values)] [("criteria", .object values')] s) :
    SameFor known (d.params values) (d.params values') := by
  unfold Draft.params
  split
  · exact .refl _
  · next params hobject =>
    refine resolveParams_same fun given hgiven key s hs => hparams params hobject key s ?_
    rwa [Option.mem_some_iff.mp hgiven]
  · exact .refl _

theorem fetchChoices_same (source : Source) (maxPages : Option Int)
    (hselect : d.control = some (.text "select"))
    (hsends : ∀ s, d.Sends s →
      Unmoved known [("criteria", .object values)] [("criteria", .object values')] s) :
    SameFor known (d.fetchChoices source maxPages values)
      (d.fetchChoices source maxPages values') := by
  unfold Draft.fetchChoices
  split
  · next hwired =>
    refine bind_same (params_same fun params hparams key s hs => ?_)
      ((draftParams_quiet values d).keeps known_aloof.toSteady) fun _ => .refl _
    exact hsends s ⟨hselect, hwired, params, key, hparams, hs⟩
  · exact .refl _

theorem fixed_same (hselect : d.control = some (.text "select"))
    (hshows : ∀ s, d.Shows s → Unmoved known scope scope' s) :
    SameFor known (d.fixed scope) (d.fixed scope') := by
  unfold Draft.fixed
  split
  · next choices hchoices =>
    exact resolveChoices_same fun c hc s hs => hshows s (.choice hselect hchoices hc hs)
  · exact .refl _

theorem offered_same (source : Source) (maxPages : Option Int) (isDisabled : Bool)
    (hshows : ∀ s, d.Shows s → Unmoved known scope scope' s)
    (hsends : ∀ s, d.Sends s →
      Unmoved known [("criteria", .object values)] [("criteria", .object values')] s) :
    SameFor known (d.offered source maxPages values scope isDisabled)
      (d.offered source maxPages values' scope' isDisabled) := by
  unfold offered
  split
  · exact .refl _
  · refine lift_same fun control hcontrol => ?_
    split
    · have hselect := needed_ok hcontrol
      exact bind_same (fetchChoices_same source maxPages hselect hsends)
        ((draftFetchChoices_narrow source maxPages values d).keeps known_aloof) fun _ =>
          bind_same (fixed_same hselect hshows)
            ((draftFixed_quiet scope d).keeps known_aloof.toSteady)
            fun _ => .refl _
    · exact .refl _

theorem dress_same (isDisabled : Bool) (choices : List Choice)
    (hproperty : ∀ property, d.property = some property →
      lookUp values' property = lookUp values property)
    (hshows : ∀ s, d.Shows s → Unmoved known scope scope' s) :
    SameFor known (d.dress values scope isDisabled choices)
      (d.dress values' scope' isDisabled choices) := by
  refine lift_same fun property hneeded => lift_same fun control _ => ?_
  rw [hproperty property (needed_ok hneeded)]
  refine bind_same (resolvePart_same fun s hs => hshows s (.label hs))
    ((resolvePart_quiet scope d.label).keeps known_aloof.toSteady) fun label => ?_
  refine lift_same fun value _ => ?_
  exact bind_same (resolveFilled_same fun s hs => hshows s (.placeholder hs))
    ((resolveFilled_quiet scope d.placeholder .null).keeps known_aloof.toSteady) fun _ => .refl _

/-- The input of a draft with unmoved texts comes out the same for other criteria that hold the same
value of its property. -/
theorem input_same (source : Source) (maxPages : Option Int) (isDisabled : Bool)
    (hproperty : ∀ property, d.property = some property →
      lookUp values' property = lookUp values property)
    (hshows : ∀ s, d.Shows s → Unmoved known scope scope' s)
    (hsends : ∀ s, d.Sends s →
      Unmoved known [("criteria", .object values)] [("criteria", .object values')] s) :
    SameFor known (d.input source maxPages values scope isDisabled)
      (d.input source maxPages values' scope' isDisabled) := by
  rw [input_eq, input_eq]
  exact bind_same (offered_same source maxPages isDisabled hshows hsends)
    ((offered_narrow source maxPages d values scope isDisabled).keeps known_aloof) fun choices =>
      dress_same isDisabled choices hproperty hshows

structure Ignores (d : Draft) (known : Known) (criteria messages : Fields) (property : String) :
    Prop where
  sets : d.property ≠ some (.text property)
  shows : ∀ s, d.Shows s → Unasked known (Scope.start criteria messages) property s
  sends : ∀ s, d.Sends s → Unasked known [("criteria", .object criteria)] property s

/-- A draft ignores a criterion to which no placeholder leads: neither one of its own texts, nor one
of the criteria, the messages and the environment. -/
theorem Ignores.of_free {criteria messages : Fields} {property : String}
    (hsets : d.property ≠ some (.text property))
    (htexts : ∀ s, d.Shows s ∨ d.Sends s → Free (leadsTo property) s.toList)
    (hcriteria : ∀ s, Within (.text s) (.object criteria) → Free (leadsTo property) s.toList)
    (hmessages : ∀ s, Within (.text s) (.object messages) → Free (leadsTo property) s.toList)
    (henv : ∀ entry ∈ known.2, Free (leadsTo property) entry.2.toList) :
    d.Ignores known criteria messages property := by
  refine ⟨hsets,
    fun s hs => .of_free (fun _ => start_free hcriteria hmessages) henv (htexts s (.inl hs)),
    fun s hs => .of_free (fun t ht => ?_) henv (htexts s (.inr hs))⟩
  rcases within_object.mp ht with hself | ⟨entry, hentry, hin⟩
  · cases hself
  · rw [List.mem_singleton.mp hentry] at hin
    exact hcriteria t hin

theorem Ignores.input {criteria messages : Fields} {property : String}
    (hd : d.Ignores known criteria messages property) (source : Source) (maxPages : Option Int)
    (isDisabled : Bool) :
    SameFor known (d.input source maxPages criteria (Scope.start criteria messages) isDisabled)
      (d.input source maxPages (criteria.erase property)
        (Scope.start (criteria.erase property) messages) isDisabled) := by
  refine input_same source maxPages isDisabled (fun given hgiven => ?_)
    (fun s hs => (hd.shows s hs).unmoved (drops_start property criteria messages))
    fun s hs => (hd.sends s hs).unmoved (drops_alone property criteria)
  cases given with
  | text key =>
    have hkey : key ≠ property := fun heq => hd.sets (heq ▸ hgiven)
    exact congrArg Except.ok (Fields.get_erase_of_ne hkey)
  | _ => rfl

end Unmoved

end Draft

end Dossier
