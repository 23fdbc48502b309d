import Dossier.Criterion.Provider
import Dossier.Proofs.Wizard.Step

/-!
# Checked criteria as drafts

A checked criterion taken as a draft builds the same input, in the same way: the parts that a draft
would be refused for are there, and those that do not matter are left out. So what a provider shows
for the category can be told from its drafts alone.
-/

set_option autoImplicit false

namespace Dossier

open Run Schema

namespace Draft

section Parts

variable {scope : Fields}

theorem lift_map {α β : Type} (f : α → β) (x : Except Failure α) :
    lift (x.map f) = f <$> lift x := by
  cases x <;> rfl

theorem resolvePart_text (s : String) :
    resolvePart scope (.text s) = Value.text <$> resolve scope s := by
  change (templateSetting none none >>= fun setting =>
    lift (Template.resolveValue setting scope false (.text s))) = _
  rw [Run.resolve, map_bind]
  congr 1
  funext setting
  exact lift_map Value.text _

def ofText? (s : Option String) : Value := (s.map Value.text).getD .null

theorem ofText?_truthy (s : Option String) :
    (ofText? s).isTruthy = (Criterion.filled? s).isSome := by
  cases s with
  | none => rfl
  | some s => by_cases hs : s = "" <;> simp [ofText?, Value.isTruthy, Criterion.filled?, hs]

theorem filled?_some {s : Option String} {t : String} (hs : Criterion.filled? s = some t) :
    s = some t := (Option.filter_eq_some_iff.mp hs).1

theorem resolveFilled_ofText? (s : Option String) :
    resolveFilled scope (ofText? s) .null = ofText? <$> (match Criterion.filled? s with
      | some s => some <$> resolve scope s
      | none => pure none) := by
  rw [resolveFilled, ofText?_truthy]
  cases hs : Criterion.filled? s with
  | none => rfl
  | some t =>
    rw [filled?_some hs]
    change resolvePart scope (.text t) = ofText? <$> some <$> resolve scope t
    rw [resolvePart_text, Functor.map_map]
    rfl

end Parts

section Criterion

variable (source : Source) (maxPages : Option Int) (c : Criterion) (values scope : Fields)

theorem params_ofCriterion : (ofCriterion c).params values =
    resolveParams none [("criteria", .object values)] c.dataSetParams := by
  unfold Draft.params ofCriterion
  cases c.dataSetParams <;> rfl

theorem project_ofCriterion {w : Criterion.Wiring} (hvalue : c.valueProperty = some w.valueProperty)
    (hlabel : c.labelProperty = some w.labelProperty) :
    (ofCriterion c).project w.dataSet = Criterion.project w := by
  funext row
  unfold Draft.project ofCriterion
  rw [hvalue, hlabel]
  cases row <;> rfl

theorem fetchChoices_ofCriterion : (ofCriterion c).fetchChoices source maxPages values =
    match c.wiring? with
    | some w => Criterion.fetchChoices source maxPages w c values
    | none => pure [] := by
  unfold Draft.fetchChoices
  rw [show (ofCriterion c).dataSet.isTruthy = _ from ofText?_truthy c.dataSet,
    show (ofCriterion c).valueProperty.isTruthy = _ from ofText?_truthy c.valueProperty,
    show (ofCriterion c).labelProperty.isTruthy = _ from ofText?_truthy c.labelProperty,
    Criterion.wiring?]
  cases hdataSet : Criterion.filled? c.dataSet with
  | none => rfl
  | some dataSet =>
    cases hvalue : Criterion.filled? c.valueProperty with
    | none => rfl
    | some valueProperty =>
      cases hlabel : Criterion.filled? c.labelProperty with
      | none => rfl
      | some labelProperty =>
        have hproject := project_ofCriterion c (w := ⟨dataSet, valueProperty, labelProperty⟩)
          (filled?_some hvalue) (filled?_some hlabel)
        have hnamed : (ofCriterion c).dataSet = .text dataSet := by
          change ofText? c.dataSet = _
          rw [filled?_some hdataSet]
          rfl
        rw [params_ofCriterion, hnamed]
        change (do
          let params ← resolveParams none [("criteria", .object values)] c.dataSetParams
          let batches ← source.fetchAll dataSet params maxPages
          let choices ← lift (Criterion.projectPages dataSet
            ((ofCriterion c).project dataSet) batches)
          pure (Choice.sortByLabel choices)) = _
        rw [hproject]
        rfl

theorem choices_ofCriterion : (ofCriterion c).choices source maxPages values scope =
    c.choices source maxPages values scope := by
  rw [Draft.choices, fetchChoices_ofCriterion, Criterion.choices]
  cases c.wiring? <;> rfl

end Criterion

/-! ## Inputs -/

section Input

variable (source : Source) (maxPages : Option Int) (d : Draft)
  (c : Criterion) (values scope : Fields)
  (isDisabled : Bool)

def offered : Run (List Choice) :=
  if isDisabled then pure [] else do
    let control ← lift (needed d.control)
    match control with
    | .text "select" => d.choices source maxPages values scope
    | _ => pure []

def dress (choices : List Choice) : Run Wizard.Input := do
  let property ← lift (needed d.property)
  let control ← lift (needed d.control)
  let label ← resolvePart scope d.label
  let value ← lift (lookUp values property)
  let placeholder ← resolveFilled scope d.placeholder .null
  checked (Wizard.Input.mk <$> (text property).under (.key "name")
    <*> (among Control.options control).under (.key "type")
    <*> (text label).under (.key "label")
    <*> .ok choices
    <*> .ok value
    <*> (optional text placeholder).under (.key "placeholder")
    <*> (optional flag d.isRequired).under (.key "is_required")
    <*> .ok isDisabled)

theorem select_bind {α β : Type} (control : Value) (x y : Run α) (f : α → Run β) :
    (match control with
      | .text "select" => x
      | _ => y) >>= f = match control with
      | .text "select" => x >>= f
      | _ => y >>= f := by
  split
  · rfl
  · simp

theorem input_eq : d.input source maxPages values scope isDisabled =
    d.offered source maxPages values scope isDisabled >>= d.dress values scope isDisabled := by
  unfold Draft.input offered
  cases isDisabled with
  | true => rfl
  | false =>
    simp only [Bool.false_eq_true, if_false, bind_assoc]
    congr 1
    funext control
    exact (select_bind control _ _ _).symm

theorem offered_narrow : Narrow (d.offered source maxPages values scope isDisabled) := by
  unfold offered
  split
  · exact pure_narrow _
  · refine bind_narrow (lift_narrow _) fun control => ?_
    split
    · exact draftChoices_narrow source maxPages values scope d
    · exact pure_narrow _

theorem resolveFilled_quiet (part empty : Value) : Quiet (resolveFilled scope part empty) := by
  unfold resolveFilled
  split
  · exact resolvePart_quiet scope part
  · exact pure_quiet _

theorem dress_quiet (choices : List Choice) : Quiet (d.dress values scope isDisabled choices) :=
  bind_quiet (lift_quiet _) fun _ => bind_quiet (lift_quiet _) fun _ =>
    bind_quiet (resolvePart_quiet scope d.label) fun _ => bind_quiet (lift_quiet _) fun _ =>
      bind_quiet (resolveFilled_quiet scope d.placeholder .null) fun _ => checked_quiet _

/-- The input of a draft depends on settings, environment and calls only. -/
theorem input_narrow : Narrow (d.input source maxPages values scope isDisabled) := by
  rw [input_eq]
  exact bind_narrow (offered_narrow source maxPages d values scope isDisabled) fun choices =>
    quiet_narrow (dress_quiet d values scope isDisabled choices)

theorem offered_ofCriterion : (ofCriterion c).offered source maxPages values scope isDisabled =
    Wizard.offered source maxPages c values scope isDisabled := by
  unfold offered Wizard.offered
  rw [choices_ofCriterion]
  obtain ⟨control⟩ := c
  cases isDisabled <;> cases control <;> rfl

theorem dress_ofCriterion (choices : List Choice) :
    (ofCriterion c).dress values scope isDisabled choices =
      Wizard.dress c values scope isDisabled choices := by
  have hlast (label : String) (placeholder : Option String) :
      checked (Wizard.Input.mk <$> (text (.text c.property)).under (.key "name")
        <*> (among Control.options (.text c.control.name)).under (.key "type")
        <*> (text (.text label)).under (.key "label") <*> .ok choices
        <*> .ok (values.get c.property)
        <*> (optional text (ofText? placeholder)).under (.key "placeholder")
        <*> (optional flag ((c.isRequired.map Value.bool).getD .null)).under (.key "is_required")
        <*> .ok isDisabled) =
      pure ⟨c.property, c.control, label, choices, values.get c.property, placeholder, c.isRequired,
        isDisabled⟩ := by
    cases c.control <;> cases placeholder <;> cases c.isRequired <;> rfl
  have hrun : (ofCriterion c).dress values scope isDisabled choices = (do
      let label ← resolvePart scope (.text c.label)
      let placeholder ← resolveFilled scope (ofText? c.placeholder) .null
      checked (Wizard.Input.mk <$> (text (.text c.property)).under (.key "name")
        <*> (among Control.options (.text c.control.name)).under (.key "type")
        <*> (text label).under (.key "label") <*> .ok choices <*> .ok (values.get c.property)
        <*> (optional text placeholder).under (.key "placeholder")
        <*> (optional flag ((c.isRequired.map Value.bool).getD .null)).under (.key "is_required")
        <*> .ok isDisabled)) := rfl
  rw [hrun, resolvePart_text, resolveFilled_ofText?, Wizard.dress]
  simp only [bind_map_left, hlast]
  congr 1
  funext label
  cases Criterion.filled? c.placeholder with
  | none => rfl
  | some s => exact bind_map_left some (resolve scope s) _

/-- A checked criterion builds the same input as a draft. -/
theorem input_ofCriterion : (ofCriterion c).input source maxPages values scope isDisabled =
    Wizard.buildInput source maxPages c values scope isDisabled := by
  rw [input_eq, offered_ofCriterion, Wizard.buildInput_eq]
  congr 1
  funext choices
  exact dress_ofCriterion c values scope isDisabled choices

end Input

end Draft

namespace Provider

theorem categoryOf?_map {α β : Type} (f : α → β) (entries : List (String × α)) :
    categoryOf? (entries.map fun entry => (entry.1, f entry.2)) = (categoryOf? entries).map f := by
  have hlookup (name : String) :
      (entries.map fun entry => (entry.1, f entry.2)).lookup name =
        (entries.lookup name).map f := by
    induction entries with
    | nil => rfl
    | cons entry rest ih =>
      obtain ⟨key, a⟩ := entry
      by_cases hname : name == key
      · simp [List.lookup_cons, hname]
      · simpa [List.lookup_cons, hname] using ih
  simp only [categoryOf?, categoryNames, List.findSome?_cons, List.findSome?_nil, hlookup]
  cases entries.lookup "hp_proofCategory" <;> cases entries.lookup "proofCategory" <;> rfl

/-- The input for the category is that of the draft for it, if the provider has one. -/
theorem categoryInput_drafts (p : Provider) (source : Source) (values scope : Fields) :
    p.categoryInput source values scope = match categoryOf? p.drafts with
      | some d => some <$> d.input source none values scope false
      | none => pure none := by
  cases p with
  | declared criteria =>
    rw [drafts, categoryOf?_map, categoryInput]
    cases categoryOf? criteria with
    | none => rfl
    | some c =>
      exact congrArg (some <$> ·) (Draft.input_ofCriterion source none c values scope false).symm
  | drafted drafts => rfl
  | plain => rfl

end Provider

end Dossier
