import Dossier.Proofs.Wizard.Completion
import Dossier.Proofs.Criterion.Lines
import Dossier.Proofs.Source.Exchange
import Dossier.Proofs.Value.Entries

/-!
# Labels in the wizard and in the document

The label of a chosen option is looked up twice: on the pages of the wizard, by the name of the
input, and in a document, by building the choices of the criterion again. The two agree as long as
the source answers every call alike and the inputs have names of their own.
-/

set_option autoImplicit false

namespace Dossier.Wizard

open Run

def inputNamed? (pages : List Page) (name : String) : Option Input :=
  (pages.flatMap (·.inputs)).reverse.find? (·.name == name)

def labelOf (choices : List Choice) (value : Value) : Value :=
  (((choices.find? fun choice => choice.value.same value).bind (·.label)).map Value.text).getD .null

/-! ## On the pages -/

/-- The label for one value of the criteria; an input without choices gives none. -/
def chosenLabel? (pages : List Page) (entry : String × Value) : Option (String × Value) :=
  (inputNamed? pages entry.1).bind fun input =>
    if input.choices.isEmpty then none else some (entry.1, labelOf input.choices entry.2)

theorem chosenLabels_eq (pages : List Page) (values : Fields) :
    chosenLabels pages values = values.filterMap (chosenLabel? pages) := by
  refine congrArg (List.filterMap · values) (funext fun entry => ?_)
  obtain ⟨name, value⟩ := entry
  unfold chosenLabel? inputNamed?
  dsimp only
  cases (pages.flatMap (·.inputs)).reverse.find? (·.name == name) <;> rfl

theorem chosenLabel?_key {pages : List Page} {name key : String} {value label : Value}
    (hlabel : chosenLabel? pages (name, value) = some (key, label)) : key = name := by
  unfold chosenLabel? at hlabel
  cases hinput : inputNamed? pages name with
  | none => simp [hinput] at hlabel
  | some input => cases hempty : input.choices.isEmpty <;> simp_all

/-- Whether there is a label at all is up to the input. -/
theorem chosenLabel?_none {pages : List Page} {name : String} {value : Value}
    (hnone : chosenLabel? pages (name, value) = none) (other : Value) :
    chosenLabel? pages (name, other) = none := by
  unfold chosenLabel? at hnone ⊢
  cases hinput : inputNamed? pages name with
  | none => rfl
  | some input => cases hempty : input.choices.isEmpty <;> simp_all

theorem chosenLabels_get? (pages : List Page) (values : Fields) (name : String) :
    Fields.get? (chosenLabels pages values) name =
      ((values.get? name).bind fun value => chosenLabel? pages (name, value)).map Prod.snd := by
  rw [chosenLabels_eq]
  induction values with
  | nil => rfl
  | cons entry rest ih =>
    obtain ⟨key, value⟩ := entry
    rw [Fields.get?_cons, List.filterMap_cons]
    by_cases hkey : name = key
    · subst hkey
      cases hlabel : chosenLabel? pages (name, value) with
      | none =>
        have hrest :
            ((Fields.get? rest name).bind fun v => chosenLabel? pages (name, v)) = none := by
          cases Fields.get? rest name with
          | none => rfl
          | some v => exact chosenLabel?_none hlabel v
        simpa [hlabel, hrest] using ih
      | some found =>
        obtain ⟨key, label⟩ := found
        obtain rfl := chosenLabel?_key hlabel
        simp [Fields.get?_cons, hlabel]
    · rw [if_neg hkey, ← ih]
      cases hlabel : chosenLabel? pages (key, value) with
      | none => rfl
      | some found =>
        obtain ⟨key', label⟩ := found
        obtain rfl := chosenLabel?_key hlabel
        simp [Fields.get?_cons, hkey]

/-- The label found on the pages is the one among the choices of the last input of the name. -/
theorem chosenLabels_get {pages : List Page} {values : Fields} {name : String} {input : Input}
    (hinput : inputNamed? pages name = some input)
    (hvalue : (values.get name).isNull = false) :
    Fields.get (chosenLabels pages values) name = labelOf input.choices (values.get name) := by
  obtain ⟨value, hget, -⟩ := Fields.exists_get? hvalue
  have hthis : values.get name = value := by rw [Fields.get_eq, hget]; rfl
  rw [Fields.get_eq, chosenLabels_get?, hget, hthis, Option.bind_some, chosenLabel?, hinput]
  cases hchoices : input.choices with
  | nil => simp [hchoices, labelOf]
  | cons choice rest => simp [hchoices]

/-! ## The input of a step -/

section Pages

variable {pages : List Page} {steps : List Step}

theorem mem_put_inputs {input : Input}
    (hinput : input ∈ (steps.foldl Step.put pages).flatMap (·.inputs)) :
    (∃ page ∈ pages, input ∈ page.inputs) ∨ ∃ s ∈ steps, s.input = input := by
  obtain ⟨page, hpage, hin⟩ := List.mem_flatMap.mp hinput
  obtain ⟨n, -, rfl⟩ := exists_pageAt hpage
  rw [foldl_put_inputs] at hin
  rcases List.mem_append.mp hin with hbefore | hput
  · refine .inl ⟨pageAt pages n, ?_, hbefore⟩
    by_cases hn : n < pages.length
    · exact List.mem_of_getElem? (getElem?_eq_pageAt hn)
    · rw [pageAt_beyond (Nat.le_of_not_lt hn)] at hbefore
      cases hbefore
  · obtain ⟨s, hs, rfl⟩ := List.mem_map.mp hput
    exact .inr ⟨s, (List.mem_filter.mp hs).1, rfl⟩

theorem put_input_mem {s : Step} (hs : s ∈ steps) :
    s.input ∈ (steps.foldl Step.put pages).flatMap (·.inputs) := by
  have hroom := foldl_put_room hs pages
  refine List.mem_flatMap.mpr ⟨_, List.mem_of_getElem? (getElem?_eq_pageAt hroom), ?_⟩
  rw [foldl_put_inputs]
  refine List.mem_append_right _ (List.mem_map_of_mem (List.mem_filter.mpr ⟨hs, by simp⟩))

/-- With a property of its own a step is found by the name of its input. -/
theorem eq_step_input {values : Fields} (hfits : ∀ s ∈ steps, s.Fits values)
    (hdistinct : (steps.map fun s => s.criterion.property).Nodup)
    (hfresh : ∀ page ∈ pages, ∀ input ∈ page.inputs, ∀ s ∈ steps, input.name ≠ s.criterion.property)
    {s : Step} (hs : s ∈ steps) {input : Input}
    (hinput : input ∈ (steps.foldl Step.put pages).flatMap (·.inputs))
    (hname : input.name = s.criterion.property) : input = s.input := by
  obtain ⟨page, hpage, hin⟩ | ⟨t, ht, rfl⟩ := mem_put_inputs hinput
  · exact absurd hname (hfresh page hpage input hin s hs)
  · rw [(hfits t ht).name] at hname
    rw [List.inj_on_of_nodup_map hdistinct ht hs hname]

theorem inputNamed?_step {values : Fields} (hfits : ∀ s ∈ steps, s.Fits values)
    (hdistinct : (steps.map fun s => s.criterion.property).Nodup)
    (hfresh : ∀ page ∈ pages, ∀ input ∈ page.inputs, ∀ s ∈ steps, input.name ≠ s.criterion.property)
    {s : Step} (hs : s ∈ steps) :
    inputNamed? (steps.foldl Step.put pages) s.criterion.property = some s.input := by
  have hmem : s.input ∈ ((steps.foldl Step.put pages).flatMap (·.inputs)).reverse :=
    List.mem_reverse.mpr (put_input_mem hs)
  have hname : s.input.name = s.criterion.property := (hfits s hs).name
  unfold inputNamed?
  cases hfound : ((steps.foldl Step.put pages).flatMap (·.inputs)).reverse.find?
      (·.name == s.criterion.property) with
  | none => exact absurd (List.find?_eq_none.mp hfound _ hmem) (by simp [hname])
  | some input =>
    have hin := List.mem_reverse.mp (List.mem_of_find?_eq_some hfound)
    have hthere : input.name = s.criterion.property := by simpa using List.find?_some hfound
    rw [eq_step_input hfits hdistinct hfresh hs hin hthere]

end Pages

/-! ## The same choices twice -/

section Choices

variable {source : Source} {criteria : Criteria} {values scope : Fields} {h h' : Host}

theorem choices_repeats (hsource : Timeless source) (maxPages : Option Int) (c : Criterion) :
    Repeats (c.choices source maxPages values scope) := by
  have withFixed (fetched : List Choice) : Repeats (do
      let fixed ← Criterion.resolveChoices scope (c.fixedChoices.getD [])
      pure (fixed ++ fetched)) :=
    bind_repeats (resolveChoices_quiet scope _).repeats fun _ => (pure_quiet _).repeats
  unfold Criterion.choices
  cases c.wiring? with
  | none => exact bind_repeats (pure_quiet _).repeats withFixed
  | some w =>
    refine bind_repeats ?_ withFixed
    exact bind_repeats (resolveParams_quiet none _ _).repeats fun _ =>
      bind_repeats (fetchAll_repeats hsource _ _ _) fun _ =>
        bind_repeats (lift_quiet _).repeats fun _ => (pure_quiet _).repeats

theorem carried_known {steps : List Step}
    (hc : Carried source criteria values scope h steps h') :
    ∀ s ∈ steps, s.before.known = h.known := by
  induction hc with
  | nil h => simp
  | @cons s rest h' builds later ih =>
    have hkeeps := (buildInput_narrow source none s.criterion values scope s.input.isDisabled).keeps
      known_aloof
    have hkept : s.after.known = s.before.known := keeps_ok hkeeps builds.2
    exact List.forall_mem_cons.mpr ⟨rfl, fun t ht => (ih t ht).trans hkept⟩

/-- An enabled select control has the choices of its criterion. -/
theorem Step.Builds.choices {s : Step} (hb : s.Builds source criteria values scope)
    (hselect : s.criterion.control = .select) (henabled : s.input.isDisabled = false) :
    (s.criterion.choices source none values scope s.before).1 = .ok s.input.choices := by
  have hrun := hb.2
  rw [buildInput_eq, henabled] at hrun
  obtain ⟨choices, h₁, hoffered, hdress⟩ := bind_ok hrun
  have hchoices : s.criterion.choices source none values scope s.before = (.ok choices, h₁) := by
    unfold offered at hoffered
    rw [hselect] at hoffered
    exact hoffered
  obtain ⟨label, placeholder, hinput⟩ := dress_ok hdress
  rw [hinput, hchoices]

/-- A line of a select control with a value prints the label of its choice. -/
theorem line_label {l : PrintLine} (hl : l.Prints source criteria values scope)
    (hselect : l.criterion.control = .select)
    (hvalue : (values.get l.criterion.property).isNull = false) :
    l.printed.name = l.criterion.property ∧
      ∃ (choices : List Choice) (k : Host), k.known = l.before.known ∧
        (l.criterion.choices source none values scope k).1 = .ok choices ∧
        l.printed.value = labelOf choices (values.get l.criterion.property) := by
  have hrun := hl.2
  unfold Criteria.printOne at hrun
  obtain ⟨label, h₁, hlabel, hrest⟩ := bind_ok hrun
  dsimp only at hrest
  rw [if_neg (by simp [hvalue])] at hrest
  obtain ⟨shown, h₂, hshown, hpure⟩ := bind_ok hrest
  obtain ⟨hprinted, -⟩ := pure_ok hpure
  unfold Criteria.printedValue at hshown
  rw [hselect] at hshown
  obtain ⟨choices, h₃, hchoices, hfind⟩ := bind_ok hshown
  have hknown :=
    keeps_ok ((resolve_quiet scope l.criterion.label).keeps known_aloof.toSteady) hlabel
  refine ⟨by rw [hprinted], choices, h₁, hknown, by rw [hchoices], ?_⟩
  rw [hprinted]
  unfold labelOf
  cases hchoice : choices.find? fun choice =>
      choice.value.same (values.get l.criterion.property) with
  | some choice =>
    rw [hchoice] at hfind
    exact (pure_ok hfind).1
  | none =>
    rw [hchoice] at hfind
    exact (pure_ok hfind).1

end Choices

/-! ## Agreement -/

/-- When the wizard and a document are made from the same values in the same scope, the label found
on the pages for an enabled select control with a value is the one that the document prints,
position by position. -/
theorem chosenLabel_printed {source : Source} {criteria : Criteria} {values scope : Fields}
    {placements : List Placement} {pages result : List Page} {printed : List PrintedCriterion}
    {h₁ h₁' h₂ h₂' : Host} (hsource : Timeless source)
    (hdistinct : ((placed criteria placements).map Criterion.property).Nodup)
    (hfresh : ∀ page ∈ pages, ∀ input ∈ page.inputs, ∀ c ∈ placed criteria placements,
      input.name ≠ c.property)
    (hassembled : assemble source criteria values scope placements pages h₁ =
      (.ok ⟨result, none⟩, h₁'))
    (hprinted : criteria.print source values scope placements h₂ = (.ok printed, h₂'))
    (hknown : h₂.known = h₁.known) {i : Nat} {p : Placement} {c : Criterion}
    (hp : placements[i]? = some p) (hc : criteria.lookup p.name = some c)
    (hselect : c.control = .select) (hvalue : (values.get c.property).isNull = false)
    (henabled : ∃ input ∈ result.flatMap (·.inputs),
      input.name = c.property ∧ input.isDisabled = false) :
    ∃ q, printed[i]? = some q ∧ q.name = c.property ∧
      q.value = Fields.get (chosenLabels result values) c.property := by
  have hne : placements ≠ [] := by
    rintro rfl
    cases hp
  rw [assemble, if_neg (by simpa using hne)] at hassembled
  obtain ⟨steps, rfl, hcarried, -, rfl⟩ := place_steps hassembled
  obtain ⟨lines, hplacements, rfl, hlines⟩ := print_lines hprinted
  have hbuilds := carried_builds hcarried
  have hfits : ∀ s ∈ steps, s.Fits values := fun s hs => (hbuilds s hs).fits
  rw [placed_steps fun s hs => (hbuilds s hs).1] at hdistinct hfresh
  rw [List.map_map] at hdistinct
  have hnew : ∀ page ∈ pages, ∀ input ∈ page.inputs, ∀ s ∈ steps,
      input.name ≠ s.criterion.property := fun page hpage input hin s hs =>
    hfresh page hpage input hin _ (List.mem_map_of_mem hs)
  -- the step and the line of the placement
  rw [List.getElem?_map] at hp
  obtain ⟨s, hs, rfl⟩ := Option.map_eq_some_iff.mp hp
  have hsmem := List.mem_of_getElem? hs
  obtain rfl : s.criterion = c := Option.some.inj ((hbuilds s hsmem).1.symm.trans hc)
  have hat : (lines.map PrintLine.placement)[i]? = some s.placement := by
    rw [hplacements, List.getElem?_map, hs]
    rfl
  rw [List.getElem?_map] at hat
  obtain ⟨l, hl, hplacement⟩ := Option.map_eq_some_iff.mp hat
  obtain ⟨hprints, hbefore⟩ := printing_lines hlines l (List.mem_of_getElem? hl)
  have hcriterion : l.criterion = s.criterion := by
    have hfound := hprints.1
    rw [hplacement, hc] at hfound
    exact (Option.some.inj hfound).symm
  -- both have the same choices
  obtain ⟨input, hin, hname, hopen⟩ := henabled
  obtain rfl := eq_step_input hfits hdistinct hnew hsmem hin hname
  have hoffered := (hbuilds s hsmem).choices hselect hopen
  obtain ⟨hlabelled, choices, k, hk, hchoices, hshown⟩ :=
    line_label hprints (hcriterion ▸ hselect) (hcriterion ▸ hvalue)
  rw [hcriterion] at hlabelled hchoices hshown
  have hsameKnown : k.known = s.before.known :=
    hk.trans (hbefore.trans (hknown.trans (carried_known hcarried s hsmem).symm))
  rw [((choices_repeats hsource none s.criterion) k s.before hsameKnown).1, hoffered] at hchoices
  cases hchoices
  refine ⟨l.printed, by rw [List.getElem?_map, hl]; rfl, hlabelled, ?_⟩
  rw [hshown, chosenLabels_get (inputNamed?_step hfits hdistinct hnew hsmem) hvalue]

def flagSource : Source := fun _ _ =>
  .ok (.object [("status", .text "complete"),
    ("data", .list [.object [("id", .int 1), ("name", .text "One")]])])

def flagCriteria : Criteria :=
  [("kind", plainText "kind" (some true)),
    ("flag", ⟨.select, "flag", "Flag", none, none, none, some "flags", none, some "id", some "name",
      some [⟨.int 0, some "No"⟩, ⟨.bool true, some "Yes"⟩]⟩)]

def flagValues : Fields := [("kind", .text "k1"), ("flag", .int 1)]

def flagPages : List Page := [⟨[⟨"proofType", .select, "", [], .null, none, none, false⟩], false⟩]

def laterHost : Host := { Host.bare with calls := [⟨"users", none, none, .null⟩] }

/-- The flag stands behind a kind on a later page, and the fixed choice is found for the amount. -/
theorem chosenLabel_printed_flag :
    ∃ (result : List Page) (printed : List PrintedCriterion) (h₁ h₂ : Host),
      assemble flagSource flagCriteria flagValues []
        [⟨"kind", 1⟩, ⟨"flag", 0⟩] flagPages Host.bare =
        (.ok ⟨result, none⟩, h₁) ∧
      flagCriteria.print flagSource flagValues [] [⟨"kind", 1⟩, ⟨"flag", 0⟩] laterHost =
        (.ok printed, h₂) ∧
      printed.map (·.value.text?) = [some "k1", some "Yes"] ∧
      ∃ q, printed[1]? = some q ∧ q.name = "flag" ∧
        q.value = Fields.get (chosenLabels result flagValues) "flag" := by
  have hassembles :
      (assemble flagSource flagCriteria flagValues [] [⟨"kind", 1⟩, ⟨"flag", 0⟩] flagPages
      Host.bare).1.toOption.map (fun assembled => (assembled.failure.isNone,
        (assembled.pages.flatMap (·.inputs)).map fun input => (input.name, input.isDisabled))) =
      some (true, [("proofType", false), ("flag", false), ("kind", false)]) := by
    decide +kernel
  have hprints : (flagCriteria.print flagSource flagValues [] [⟨"kind", 1⟩, ⟨"flag", 0⟩]
      laterHost).1.toOption.map (fun printed => printed.map (·.value.text?)) =
      some [some "k1", some "Yes"] := by
    decide +kernel
  obtain ⟨⟨result, failure⟩, hresult, hparts⟩ := Option.map_eq_some_iff.mp hassembles
  obtain ⟨hnone, hinputs⟩ := Prod.mk.inj hparts
  obtain rfl := Option.isNone_iff_eq_none.mp hnone
  obtain ⟨printed, hprinted, hvalues⟩ := Option.map_eq_some_iff.mp hprints
  have hopen : ∃ input ∈ result.flatMap (·.inputs),
      input.name = "flag" ∧ input.isDisabled = false := by
    have hmem : ("flag", false) ∈ (result.flatMap (·.inputs)).map fun input =>
        (input.name, input.isDisabled) := by simp [hinputs]
    obtain ⟨input, hinput, hpair⟩ := List.mem_map.mp hmem
    exact ⟨input, hinput, (Prod.mk.inj hpair).1, (Prod.mk.inj hpair).2⟩
  have hflag : flagCriteria.lookup (⟨"flag", 0⟩ : Placement).name =
      some ⟨.select, "flag", "Flag", none, none, none, some "flags", none, some "id", some "name",
        some [⟨.int 0, some "No"⟩, ⟨.bool true, some "Yes"⟩]⟩ := rfl
  refine ⟨result, printed, _, _, ok_of_toOption hresult, ok_of_toOption hprinted, hvalues, ?_⟩
  exact chosenLabel_printed (fun _ _ _ => rfl) (by decide) (by decide) (ok_of_toOption hresult)
    (ok_of_toOption hprinted) rfl rfl hflag rfl rfl hopen

end Dossier.Wizard
