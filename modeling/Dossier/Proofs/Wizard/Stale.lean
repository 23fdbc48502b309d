import Dossier.Proofs.Criterion.Unmoved
import Dossier.Proofs.Wizard.Form

/-!
# Document types that are no longer offered

A document type is offered when its entry matches the criteria and the category chosen so far. One
that is named by the criteria and not offered is dropped, and the form is the one that the other
criteria give. The type is still among the criteria while the input for the category is built, so
this needs that no text of that input looks up the type; a note that is written as a placeholder for
it is enough to tell the two forms apart. A type that counts as not chosen, such as zero, is not
dropped, and stays on the form.
-/

set_option autoImplicit false

namespace Dossier.Wizard

open Run

open Template (Free leadsTo Within within_object)

/-! ## Pages that are added to -/

def Extends (pages result : List Page) : Prop :=
  ∀ n, (pageAt pages n).inputs <+: (pageAt result n).inputs

section Pages

variable {source : Source} {criteria : Criteria} {drafts : Drafts} {values scope : Fields}
  {placements : List Placement} {pages result : List Page} {h h' : Host}

theorem Extends.refl (pages : List Page) : Extends pages pages := fun _ => List.prefix_rfl

theorem Extends.trans {middle : List Page} (hfirst : Extends pages middle)
    (hrest : Extends middle result) : Extends pages result :=
  fun n => (hfirst n).trans (hrest n)

theorem grow_extends (pages : List Page) (index : Nat) : Extends pages (grow pages index) := by
  intro n
  rw [pageAt_grow]

theorem addInput_extends (pages : List Page) (index : Nat) (input : Input) (isValid : Bool) :
    Extends pages (addInput (grow pages index) index input isValid) := by
  intro n
  have hroom : index < (grow pages index).length := by
    rw [grow_length]
    omega
  rw [pageAt_addInput hroom, pageAt_grow, pageAt_grow]
  split
  · next heq =>
    rw [heq]
    exact List.prefix_append _ _
  · exact List.prefix_rfl

theorem markValid_inputs (pages : List Page) (index n : Nat) :
    (pageAt (pages.modify index fun page => { page with isValid := true }) n).inputs =
      (pageAt pages n).inputs := by
  rw [pageAt, pageAt, List.getElem?_modify]
  cases pages[n]? with
  | none => rfl
  | some page => by_cases hn : index = n <;> simp [hn]

theorem markLast_extends (pages : List Page) : Extends pages (markLast pages) := by
  intro n
  rw [markLast, markValid_inputs]
  cases pages with
  | nil => exact List.nil_prefix
  | cons page rest => exact List.prefix_rfl

def Adds (pages : List Page) (x : Run Assembled) : Prop :=
  ∀ {h assembled h'}, x h = (.ok assembled, h') → Extends pages assembled.pages

theorem pure_adds {failure : Option Failure} (hresult : Extends pages result) :
    Adds pages (pure ⟨result, failure⟩) := by
  intro h assembled h' hrun
  rw [(pure_ok hrun).1]
  exact hresult

theorem bind_adds {α : Type} {x : Run α} {f : α → Run Assembled} (hf : ∀ a, Adds pages (f a)) :
    Adds pages (x >>= f) := by
  intro h assembled h' hrun
  obtain ⟨a, h₁, -, hrest⟩ := bind_ok hrun
  exact hf a hrest

theorem place_adds {locked : Bool} {last : Option String} {start : List Page}
    (hstart : Extends start pages) :
    Adds start (place source criteria values scope placements locked last pages) := by
  induction placements generalizing locked last pages with
  | nil => exact pure_adds hstart
  | cons p rest ih =>
    unfold place
    split
    · exact pure_adds hstart
    · refine bind_adds fun built => ?_
      cases built with
      | error e => exact pure_adds (hstart.trans (grow_extends pages p.page))
      | ok input => exact ih (hstart.trans (addInput_extends pages p.page input _))

theorem draftsPlace_adds {locked : Bool} {last : Option Draft} {start : List Page}
    (hstart : Extends start pages) :
    Adds start (drafts.place source values scope placements locked last pages) := by
  induction placements generalizing locked last pages with
  | nil => exact pure_adds hstart
  | cons p rest ih =>
    unfold Drafts.place
    dsimp only
    split
    · exact pure_adds hstart
    · refine bind_adds fun built => ?_
      cases built with
      | error e => exact pure_adds (hstart.trans (grow_extends pages p.page))
      | ok input => exact ih (hstart.trans (addInput_extends pages p.page input _))

/-- No provider takes an input away. -/
theorem addInputs_adds (provider : Provider) :
    Adds pages (provider.addInputs source values scope placements pages) := by
  cases provider with
  | declared criteria =>
    unfold Provider.addInputs assemble
    dsimp only
    split
    · exact pure_adds (markLast_extends pages)
    · exact place_adds (.refl pages)
  | drafted drafts =>
    unfold Provider.addInputs Drafts.assemble
    dsimp only
    split
    · exact pure_adds (markLast_extends pages)
    · exact draftsPlace_adds (.refl pages)
  | plain =>
    unfold Provider.addInputs
    dsimp only
    split
    · exact pure_adds (.refl pages)
    · exact pure_adds (markLast_extends pages)

end Pages

/-! ## The leading inputs -/

/-- The value of the category; null without a category. -/
def chosen (category : Option Input) : Value := (category.map Input.value).getD .null

def keptType (named : Value) (choices : List Choice) : Value :=
  if named.isTruthy && !choices.any fun choice => choice.value.same named then .null else named

def led (pages : List Page) (category : Option Input) (choices : List Choice) (value : Value) :
    List Page :=
  Engine.onFirstPage (if pages.isEmpty then [Page.empty] else pages)
    (leading category choices value)

section Leading

variable {pages : List Page} {category : Option Input} {choices : List Choice} {value : Value}

theorem onFirstPage_append (pages : List Page) (first later : List Input) :
    Engine.onFirstPage (Engine.onFirstPage pages first) later =
      Engine.onFirstPage pages (first ++ later) := by
  cases pages <;> simp [Engine.onFirstPage]

theorem led_inputs : (pageAt (led pages category choices value) 0).inputs =
    (pageAt pages 0).inputs ++ leading category choices value := by
  cases pages <;> simp [led, Engine.onFirstPage, pageAt]

end Leading

section Engine

variable {e : Engine} {criteria : Fields} {pages : List Page} {form : Form} {h h' : Host}

/-- A form is that of the kept document type, or stays open. -/
theorem form_cases (hrun : e.form criteria pages h = (.ok form, h')) :
    ∃ category choices h₁ h₂, e.categoryInput criteria h = (.ok category, h₁) ∧
      e.catalog.options (some criteria) (chosen category) h₁ = (.ok choices, h₂) ∧
      if (keptType (criteria.get proofTypeName) choices).isTruthy then
        ∃ service h₃, e.service (criteria.get proofTypeName) h₂ = (.ok service, h₃) ∧
          e.serviceForm service criteria
            ((led pages category choices (criteria.get proofTypeName)).modify 0
              fun page => { page with isValid := true }) h₃ = (.ok form, h')
      else form = Engine.openForm
        (led pages category choices (keptType (criteria.get proofTypeName) choices)) := by
  obtain ⟨category, h₁, hcategory, hrest⟩ := bind_ok hrun
  obtain ⟨choices, h₂, hchoices, hlast⟩ := bind_ok hrest
  refine ⟨category, choices, h₁, h₂, hcategory, hchoices, ?_⟩
  have hpages (value : Value) :
      Engine.onFirstPage (Engine.onFirstPage (if pages.isEmpty then [Page.empty] else pages)
          category.toList)
        [Engine.typeInput choices value (category.any fun input => !input.value.isTruthy)] =
      led pages category choices value := onFirstPage_append _ _ _
  dsimp only at hlast
  rw [hpages] at hlast
  unfold keptType
  cases hstale : (criteria.get proofTypeName).isTruthy &&
      !choices.any fun choice => choice.value.same (criteria.get proofTypeName) with
  | true =>
    simp only [hstale, if_true] at hlast ⊢
    exact (pure_ok hlast).1
  | false =>
    simp only [hstale, Bool.false_eq_true, if_false] at hlast ⊢
    split at hlast
    · next htruthy =>
      obtain ⟨service, h₃, hservice, hform⟩ := bind_ok hlast
      rw [if_pos htruthy]
      exact ⟨service, h₃, hservice, hform⟩
    · next hfalsy =>
      rw [if_neg hfalsy]
      exact (pure_ok hlast).1

/-- A choice that is the same as a value is that value. -/
theorem offers_same {catalog : Catalog} {category v : Value} {choices : List Choice}
    (ho : catalog.Offers h criteria category choices) {choice : Choice} (hchoice : choice ∈ choices)
    (hsame : choice.value.same v = true) : choice.value = v := by
  obtain ⟨entry, -, hkey⟩ := List.mem_map.mp (ho.values.mem_iff.mp (List.mem_map_of_mem hchoice))
  rw [← hkey, same_text] at hsame
  rw [← hkey, hsame]

theorem keptType_of_truthy {named : Value} {choices : List Choice}
    (hkept : (keptType named choices).isTruthy = true) : keptType named choices = named := by
  unfold keptType at hkept ⊢
  split at hkept
  · cases hkept
  · next hfresh => exact if_neg hfresh

theorem keptType_offered {catalog : Catalog} {category named : Value} {choices : List Choice}
    (ho : catalog.Offers h criteria category choices)
    (hkept : (keptType named choices).isTruthy = true) :
    ∃ choice ∈ choices, choice.value = keptType named choices := by
  unfold keptType at hkept ⊢
  split at hkept
  · cases hkept
  · next hfresh =>
    rw [if_neg hfresh]
    have hany : (choices.any fun choice => choice.value.same named) = true := by
      simpa [hkept] using hfresh
    obtain ⟨choice, hchoice, hsame⟩ := List.any_eq_true.mp hany
    exact ⟨choice, hchoice, offers_same ho hchoice hsame⟩

theorem service_handler {named : Value} {handler : Handler}
    (hrun : e.service named h = (.ok (.handler handler), h')) :
    ∃ key, named = .text key ∧ e.catalog.entries.lookup key = some (.handler handler) := by
  unfold Engine.service Catalog.service at hrun
  cases named with
  | text key =>
    dsimp only at hrun
    cases hentry : e.catalog.entries.lookup key with
    | none =>
      rw [hentry] at hrun
      cases hrun
    | some entry =>
      rw [hentry] at hrun
      cases entry with
      | declared l =>
        obtain ⟨builder, h₁, -, hlast⟩ := bind_ok hrun
        cases (pure_ok hlast).1
      | handler handler' =>
        cases (pure_ok hrun).1
        exact ⟨key, rfl, hentry⟩
  | _ => cases hrun

/-- A form leads with inputs after what stood on the first page. A handler makes its own form, from
pages that lead with them. -/
def LeadsWith (e : Engine) (criteria : Fields) (pages : List Page)
    (inputs : List Input) (value : Value) (form : Form) (h' : Host) : Prop :=
  ∃ start, (pageAt start 0).inputs = (pageAt pages 0).inputs ++ inputs ∧
    (Extends start form.pages ∨ ∃ key handler h₁, value = .text key ∧
      e.catalog.entries.lookup key = some (.handler handler) ∧
      handler.form criteria start h₁ = (.ok form, h'))

theorem serviceForm_leads {service : Catalog.Service} {start : List Page}
    {named : Value} {k k' : Host}
    {inputs : List Input} (hstart : (pageAt start 0).inputs = (pageAt pages 0).inputs ++ inputs)
    (hservice : e.service named k = (.ok service, k'))
    (hrun : e.serviceForm service criteria start h = (.ok form, h')) :
    LeadsWith e criteria pages inputs named form h' := by
  refine ⟨start, hstart, ?_⟩
  cases service with
  | handler handler =>
    obtain ⟨key, hnamed, hentry⟩ := service_handler hservice
    exact .inr ⟨key, handler, h, hnamed, hentry, hrun⟩
  | declared key builder =>
    obtain ⟨d, h₁, -, hform⟩ := bind_ok hrun
    obtain ⟨h₂, hpages⟩ := declaredForm_pages hform
    exact .inl (addInputs_adds e.provider hpages)

theorem providedCategory_known (p : Provider) (source : Source) (values scope : Fields) :
    Keeps Host.known (p.categoryInput source values scope) := by
  rw [Provider.categoryInput_drafts]
  cases categoryOf? p.drafts with
  | none => exact pure_keeps _
  | some d =>
    exact map_keeps _ ((Draft.input_narrow source none d values scope false).keeps known_aloof)

theorem categoryInput_same {property : String}
    (hcategory : ∀ d, categoryOf? e.provider.drafts = some d →
      d.Ignores h.known criteria e.catalog.messages property) :
    SameFor h.known (e.categoryInput criteria) (e.categoryInput (criteria.erase property)) := by
  unfold Engine.categoryInput
  refine bind_same ?_ (providedCategory_known _ _ _ _) fun _ => .refl _
  rw [Provider.categoryInput_drafts, Provider.categoryInput_drafts]
  cases hd : categoryOf? e.provider.drafts with
  | none => exact .refl _
  | some d => exact map_same _ ((hcategory d hd).input e.source none false)

theorem categoryInput_known (e : Engine) (criteria : Fields) :
    Keeps Host.known (e.categoryInput criteria) := by
  unfold Engine.categoryInput
  refine bind_keeps (providedCategory_known _ _ _ _) fun category => ?_
  cases category with
  | none => exact pure_keeps _
  | some input =>
    refine bind_keeps (lift_keeps _) fun _ => ?_
    split <;> exact pure_keeps _

def IsStale (e : Engine) (criteria : Fields) (h : Host) : Prop :=
  (criteria.get proofTypeName).isTruthy = true ∧
    ∀ category h₁ key, e.categoryInput criteria h = (.ok category, h₁) →
      criteria.get proofTypeName = .text key → ¬ IsOffered e.catalog criteria (chosen category) key

theorem form_stale (hcatalog : e.catalog.Heedless criteria proofTypeName)
    (hcategory : ∀ d, categoryOf? e.provider.drafts = some d →
      d.Ignores h.known criteria e.catalog.messages proofTypeName)
    (hstale : IsStale e criteria h) :
    e.form (criteria.erase proofTypeName) pages h = e.form criteria pages h := by
  obtain ⟨htruthy, hnone⟩ := hstale
  unfold Engine.form
  dsimp only
  rw [bind_apply, bind_apply, categoryInput_same hcategory h rfl]
  match hrun : e.categoryInput criteria h with
  | (.error failure, h₁) => rfl
  | (.ok category, h₁) =>
    dsimp only
    rw [hcatalog.options, bind_apply, bind_apply, Fields.get_erase_self]
    match hoptions : e.catalog.options (some criteria)
      ((category.map Input.value).getD .null) h₁ with
    | (.error failure, h₂) => rfl
    | (.ok choices, h₂) =>
      have hany :
          (choices.any fun choice => choice.value.same (criteria.get proofTypeName)) = false := by
        rw [← Bool.not_eq_true, options_any hoptions]
        rintro ⟨key, hnamed, hoffered⟩
        exact hnone category h₁ key hrun hnamed hoffered
      have hnull : Value.null.isTruthy = false := rfl
      simp only [hany, htruthy, hnull, Bool.not_false, Bool.and_true, Bool.false_and, if_true,
        Bool.false_eq_true, if_false]

/-- Every form shows the input for the document type with the entries that match, each once and in
the order of labels, and with a value that is one of them or counts as not chosen. A type that is
not offered makes no difference to the form, as long as nothing that is offered and no text of the
category asks for it. -/
theorem form_type (e : Engine) (criteria : Fields) (pages : List Page) (h : Host) :
    (∀ form h', e.form criteria pages h = (.ok form, h') →
      ∃ category choices value h₁, e.categoryInput criteria h = (.ok category, h₁) ∧
        LeadsWith e criteria pages (leading category choices value) value form h' ∧
        value = keptType (criteria.get proofTypeName) choices ∧
        (value.isTruthy = true → ∃ choice ∈ choices, choice.value = value) ∧
        e.catalog.Offers h criteria (chosen category) choices ∧
        ((e.catalog.entries.map Prod.fst).Nodup → (choices.map Choice.value).Nodup)) ∧
    (e.catalog.Heedless criteria proofTypeName →
      (∀ d, categoryOf? e.provider.drafts = some d →
        d.Ignores h.known criteria e.catalog.messages proofTypeName) →
      IsStale e criteria h →
      e.form (criteria.erase proofTypeName) pages h = e.form criteria pages h) := by
  refine ⟨fun form h' hrun => ?_,
    fun hcatalog hcategory hstale => form_stale hcatalog hcategory hstale⟩
  obtain ⟨category, choices, h₁, h₂, hcategory, hchoices, hform⟩ := form_cases hrun
  have hknown : h₁.known = h.known := keeps_ok (categoryInput_known e criteria) hcategory
  have ho := Catalog.options_offers hknown hchoices
  refine ⟨category, choices, _, h₁, hcategory, ?_, rfl, keptType_offered ho, ho, ho.nodup⟩
  split at hform
  · next htruthy =>
    obtain ⟨service, h₃, hservice, hserved⟩ := hform
    rw [keptType_of_truthy htruthy]
    exact serviceForm_leads (by rw [markValid_inputs, led_inputs]) hservice hserved
  · rw [hform]
    exact ⟨_, led_inputs, .inl (.refl _)⟩

end Engine

def teamCategories : List Choice :=
  [⟨.text "access", some "Access"⟩, ⟨.text "security", some "Security"⟩]

def teamCategory (label : String) : Criterion :=
  ⟨.select, "proofCategory", label, some true, none, none, none, none, none,
    none, some teamCategories⟩

def teamEngine (label : String) : Engine :=
  ⟨⟨[("userList", .declared ⟨"Users", some "access", none,
        some ⟨"All users", [], plainBlueprint "Users", []⟩⟩),
      ("groupList", .declared ⟨"Groups", some "security", none, none⟩)],
      [("category", .text "Category")], ["", "json"], "teams"⟩,
    .none, .declared [("proofCategory", teamCategory label)]⟩

theorem teamEngine_heedless (label : String) (criteria : Fields) :
    (teamEngine label).catalog.Heedless criteria proofTypeName := by
  constructor
  · intro key l hentry pattern hpattern
    simp only [teamEngine, List.mem_cons, Prod.mk.injEq, Entry.declared.injEq, List.not_mem_nil,
      or_false] at hentry
    rcases hentry with ⟨-, rfl⟩ | ⟨-, rfl⟩ <;> cases hpattern
  · intro key handler hentry
    simp [teamEngine] at hentry

theorem teamEngine_texts {label s : String}
    (hlabel : Free (leadsTo proofTypeName) label.toList)
    (hs : (Draft.ofCriterion (teamCategory label)).Shows s ∨
      (Draft.ofCriterion (teamCategory label)).Sends s) :
    Free (leadsTo proofTypeName) s.toList := by
  rcases hs with hs | hs
  · rcases hs.of_criterion with rfl | hplaceholder | ⟨choice, hchoice, hs⟩
    · exact hlabel
    · cases hplaceholder
    · have hall : ∀ choice ∈ teamCategories, ∀ s ∈ choice.texts,
          Free (leadsTo proofTypeName) s.toList := by decide +kernel
      exact hall choice hchoice s hs
  · obtain ⟨params, key, hparams, -⟩ := hs.of_criterion
    cases hparams

theorem teamEngine_ignores {label : String} {criteria : Fields}
    (hlabel : Free (leadsTo proofTypeName) label.toList)
    (hcriteria : ∀ s, Within (.text s) (.object criteria) → Free (leadsTo proofTypeName) s.toList) :
    ∀ d, categoryOf? (teamEngine label).provider.drafts = some d →
      d.Ignores Host.bare.known criteria (teamEngine label).catalog.messages proofTypeName := by
  intro d hd
  cases hd
  have hproperty : "proofCategory" ≠ proofTypeName := by decide
  refine .of_free (fun heq => hproperty (Value.text.inj (Option.some.inj heq)))
    (fun s hs => teamEngine_texts hlabel hs) hcriteria (fun s hs => ?_)
      (by simp [Host.known, Host.bare])
  simp only [teamEngine, within_object, reduceCtorEq, List.mem_singleton, exists_eq_left,
    false_or] at hs
  cases hs
  decide +kernel

def messageLabel : String := "\x7b\x7bmessages.category\x7d\x7d"

def usersChosen : Fields := [("proofCategory", .text "access"), ("proofType", .text "userList")]

def groupsChosen : Fields := [("proofCategory", .text "access"), ("proofType", .text "groupList")]

/-- Users stay on the form as one of its choices; groups make no difference after the category was
changed. -/
theorem form_type_team :
    (∃ form h' category choices,
      (teamEngine messageLabel).form usersChosen [] Host.bare = (.ok form, h') ∧
      LeadsWith (teamEngine messageLabel) usersChosen []
        (leading category choices (.text "userList"))
        (.text "userList") form h' ∧
      (∃ choice ∈ choices, choice.value = .text "userList") ∧ (choices.map Choice.value).Nodup) ∧
    ∃ form h', (teamEngine messageLabel).form groupsChosen [] Host.bare = (.ok form, h') ∧
      (teamEngine messageLabel).form (groupsChosen.erase proofTypeName) [] Host.bare =
        (.ok form, h') := by
  have haccess {criteria : Fields} (hcriteria : criteria.get "proofCategory" = .text "access")
      {category : Option Input} {h₁ : Host}
      (hcategory : (teamEngine messageLabel).categoryInput criteria Host.bare =
        (.ok category, h₁)) :
      chosen category = .text "access" := by
    rw [chosen, (categoryInput_value rfl hcategory).1, ← hcriteria]
    rfl
  constructor
  · have hruns :
        ((teamEngine messageLabel).form usersChosen [] Host.bare).1.toOption.isSome = true := by
      decide +kernel
    obtain ⟨form, hform⟩ := Option.isSome_iff_exists.mp hruns
    obtain ⟨category, choices, value, h₁, hcategory, hleads, hkept, hvalue, ho, hnodup⟩ :=
      (form_type (teamEngine messageLabel) usersChosen [] Host.bare).1 form _ (ok_of_toOption hform)
    have hmem : Value.text "userList" ∈ choices.map Choice.value := by
      rw [ho.values.mem_iff, haccess rfl hcategory]
      exact List.mem_map_of_mem (List.mem_filter.mpr ⟨List.mem_cons_self, rfl⟩)
    obtain ⟨choice, hchoice, hsame⟩ := List.mem_map.mp hmem
    have hany : (choices.any fun choice => choice.value.same (.text "userList")) = true :=
      List.any_eq_true.mpr ⟨choice, hchoice, by rw [hsame, same_text]⟩
    have husers : value = .text "userList" := by
      rw [hkept, keptType]
      change (if true && !choices.any fun choice =>
        choice.value.same (.text "userList") then _ else _) = _
      rw [hany]
      rfl
    rw [husers] at hleads hvalue
    exact ⟨form, _, category, choices, ok_of_toOption hform, hleads, hvalue rfl, hnodup (by decide)⟩
  · have hruns :
        ((teamEngine messageLabel).form groupsChosen [] Host.bare).1.toOption.isSome = true := by
      decide +kernel
    obtain ⟨form, hform⟩ := Option.isSome_iff_exists.mp hruns
    refine ⟨form, _, ok_of_toOption hform, ?_⟩
    rw [(form_type _ groupsChosen [] Host.bare).2 (teamEngine_heedless _ _)
      (teamEngine_ignores ?_ ?_)
      ⟨by decide, fun category h₁ key hcategory hnamed => ?_⟩]
    · exact ok_of_toOption hform
    · decide +kernel
    · intro s hs
      simp only [groupsChosen, within_object, reduceCtorEq, List.mem_cons, List.not_mem_nil,
        exists_eq_or_imp, false_or, or_false, exists_eq_left] at hs
      rcases hs with hs | hs <;> cases hs <;> decide +kernel
    · cases hnamed
      rw [haccess rfl hcategory]
      rintro ⟨entry, hentry, hoffered⟩
      simp only [teamEngine, List.mem_cons, Prod.mk.injEq, String.reduceEq, false_and, true_and,
        List.not_mem_nil, or_false, false_or] at hentry
      rw [hentry] at hoffered
      cases hoffered

def noteLabel : String := "\x7b\x7bcriteria.note\x7d\x7d"

def zeroType : Fields := [("proofCategory", .text "access"), ("proofType", .int 0)]

def typedNote : Fields :=
  [("proofCategory", .text "access"), ("note", .text "\x7b\x7bcriteria.proofType\x7d\x7d"),
    ("proofType", .text "gone")]

/-- Zero is no choice and stays on the form. And where the label of the category is a note that is
written as a placeholder for the type, a type that is not offered is written into the label, and
without it there is no form. -/
theorem form_type_zero_and_note :
    (∃ form h', (teamEngine messageLabel).form zeroType [] Host.bare = (.ok form, h') ∧
      ∃ i ∈ form.pages.flatMap Page.inputs, i.name = proofTypeName ∧ i.value.same (.int 0) = true ∧
        ∀ choice ∈ i.choices, choice.value.same i.value = false) ∧
    (teamEngine noteLabel).catalog.Heedless typedNote proofTypeName ∧
    (∀ s, (Draft.ofCriterion (teamCategory noteLabel)).Shows s ∨
        (Draft.ofCriterion (teamCategory noteLabel)).Sends s →
      Free (leadsTo proofTypeName) s.toList) ∧
    IsStale (teamEngine noteLabel) typedNote Host.bare ∧
    ((teamEngine noteLabel).form typedNote [] Host.bare).1.toOption.isSome = true ∧
    ((teamEngine noteLabel).form (typedNote.erase proofTypeName) [] Host.bare).1.toOption.isSome =
      false := by
  refine ⟨?_, teamEngine_heedless _ typedNote, fun s hs => teamEngine_texts (by decide +kernel) hs,
    ⟨by decide, ?_⟩, by decide +kernel, by decide +kernel⟩
  · have hruns : ((teamEngine messageLabel).form zeroType [] Host.bare).1.toOption.map
        (fun form => decide (∃ i ∈ form.pages.flatMap Page.inputs, i.name = proofTypeName ∧
            i.value.same (.int 0) = true ∧
              ∀ choice ∈ i.choices, choice.value.same i.value = false)) =
        some true := by decide +kernel
    obtain ⟨form, hform, hshown⟩ := Option.map_eq_some_iff.mp hruns
    exact ⟨form, _, ok_of_toOption hform, of_decide_eq_true hshown⟩
  · rintro category h₁ key - hnamed ⟨entry, hentry, -⟩
    cases hnamed
    simp [teamEngine] at hentry

end Dossier.Wizard
