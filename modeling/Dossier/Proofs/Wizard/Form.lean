import Dossier.Proofs.Catalog.Definition
import Dossier.Proofs.Catalog.Offered
import Dossier.Proofs.Wizard.Completion

/-!
# The form of the wizard

The first page leads with the inputs for the category and for the document type, and the inputs of
the type follow. Those are in order among themselves, but whether they are in order with the leading
ones hangs on the category alone: a type that is kept while the category has no value leaves a
disabled input in front of enabled ones, on a page that is marked as valid.
-/

set_option autoImplicit false

namespace Dossier.Wizard

open Run

/-- Once an input is disabled so is every later one, in the order in which they are read, and a page
that is valid holds no input that is disabled or lacks a value it needs. -/
structure Sound (pages : List Page) : Prop where
  disabled : (pages.flatMap Page.inputs).Pairwise fun i j =>
    i.isDisabled = true → j.isDisabled = true
  valid : ∀ page ∈ pages, page.isValid = true → ∀ i ∈ page.inputs,
    i.isDisabled = false ∧ (i.isRequired = some true → i.value.isNull = false)

instance (pages : List Page) : Decidable (Sound pages) :=
  have : DecidableRel fun i j : Input => i.isDisabled = true → j.isDisabled = true :=
    fun _ _ => inferInstanceAs (Decidable (_ → _))
  decidable_of_iff
    (((pages.flatMap Page.inputs).Pairwise fun i j => i.isDisabled = true → j.isDisabled = true) ∧
      ∀ page ∈ pages, page.isValid = true → ∀ i ∈ page.inputs,
        i.isDisabled = false ∧ (i.isRequired = some true → i.value.isNull = false))
    ⟨fun hs => ⟨hs.1, hs.2⟩, fun hs => ⟨hs.disabled, hs.valid⟩⟩

theorem Input.isSettled_iff (i : Input) :
    i.isSettled = true ↔
      i.isDisabled = false ∧ (i.isRequired = some true → i.value.isNull = false) := by
  simp [Input.isSettled, imp_iff_not_or]

/-! ## Reading the inputs in order -/

theorem put_reading {pages : List Page} {s : Step}
    (hlater : ∀ n, s.placement.page < n → (pageAt pages n).inputs = []) :
    (Step.put pages s).flatMap Page.inputs = pages.flatMap Page.inputs ++ [s.input] := by
  have hroom : s.placement.page < (grow pages s.placement.page).length := by
    rw [grow_length]
    omega
  have hgrown : (grow pages s.placement.page).flatMap Page.inputs = pages.flatMap Page.inputs := by
    simp [grow, Page.empty]
  have hbehind : ((grow pages s.placement.page).drop (s.placement.page + 1)).flatMap
      Page.inputs = [] := by
    refine List.flatMap_eq_nil_iff.mpr fun page hpage => ?_
    obtain ⟨n, hn, rfl⟩ := List.mem_iff_getElem.mp hpage
    have hempty := hlater (s.placement.page + 1 + n) (by omega)
    rw [← pageAt_grow pages s.placement.page] at hempty
    rw [List.length_drop] at hn
    rw [List.getElem_drop]
    rwa [pageAt, List.getElem?_eq_getElem (by omega)] at hempty
  rw [← hgrown, Step.put, addInput, List.modify_eq_take_cons_drop hroom]
  conv_rhs => rw [← List.take_append_drop s.placement.page (grow pages s.placement.page),
    List.drop_eq_getElem_cons hroom]
  simp only [List.flatMap_append, List.flatMap_cons, hbehind, List.append_nil, List.append_assoc]

/-- Placements that never go back to an earlier page are read in their own order. -/
theorem foldl_put_reading {steps : List Step} {pages : List Page}
    (horder : steps.Pairwise fun s t => s.placement.page ≤ t.placement.page)
    (hlater : ∀ s ∈ steps, ∀ n, s.placement.page < n → (pageAt pages n).inputs = []) :
    (steps.foldl Step.put pages).flatMap Page.inputs =
      pages.flatMap Page.inputs ++ steps.map Step.input := by
  induction steps generalizing pages with
  | nil => simp
  | cons s rest ih =>
    obtain ⟨hs, hrest⟩ := List.pairwise_cons.mp horder
    rw [List.foldl_cons, ih hrest, put_reading (hlater s (by simp))]
    · simp
    · intro t ht n hn
      have hle := hs t ht
      rw [Step.pageAt_put, if_neg (by omega)]
      exact hlater t (by simp [ht]) n hn

section Lead

variable {source : Source} {criteria : Criteria} {values scope : Fields}
  {placements : List Placement} {lead : List Input} {result : List Page} {h h' : Host}

/-- Inputs in order after leading ones that are all settled stay in order. -/
theorem sound_of_settled (hlead : ∀ i ∈ lead, i.isSettled = true)
    (horder : (placements.map Placement.page).Pairwise (· ≤ ·))
    (hrun : assemble source criteria values scope placements [⟨lead, true⟩] h =
      (.ok ⟨result, none⟩, h')) : Sound result := by
  have henabled : ∀ i ∈ lead, i.isDisabled = false := fun i hi =>
    (i.isSettled_iff.mp (hlead i hi)).1
  have hpairs : lead.Pairwise fun i j => i.isDisabled = true → j.isDisabled = true :=
    List.pairwise_of_forall_mem_list fun i hi j _ hdisabled => by
      simp [henabled i hi] at hdisabled
  by_cases hnone : placements = []
  · rw [assemble, if_pos (by simpa using hnone)] at hrun
    cases (pure_ok hrun).1
    refine ⟨by simpa [markLast] using hpairs, fun page hpage _ i hi => ?_⟩
    obtain rfl : page = ⟨lead, true⟩ := by simpa [markLast] using hpage
    exact i.isSettled_iff.mp (hlead i hi)
  · rw [assemble, if_neg (by simpa using hnone)] at hrun
    obtain ⟨steps, rfl, hcarried, hlocks, rfl⟩ := place_steps hrun
    have hf : ∀ s ∈ steps, s.Fits values := fun s hs => (carried_builds hcarried s hs).fits
    have hstart (n : Nat) : (pageAt [⟨lead, true⟩] n).inputs = if n = 0 then lead else [] := by
      cases n <;> rfl
    refine ⟨?_, ?_⟩
    · rw [foldl_put_reading]
      · simp only [List.flatMap_cons, List.flatMap_nil, List.append_nil]
        refine List.pairwise_append.mpr ⟨hpairs, ?_, fun i hi j _ hdisabled => ?_⟩
        · exact List.pairwise_map.mpr (locks_monotone hlocks)
        · simp [henabled i hi] at hdisabled
      · simpa [List.pairwise_map] using horder
      · intro s _ n hn
        rw [hstart, if_neg (by omega)]
    · intro page hpage hvalid i hi
      obtain ⟨n, hn, rfl⟩ := exists_pageAt hpage
      rw [foldl_put_inputs, hstart] at hi
      refine i.isSettled_iff.mp ?_
      rcases List.mem_append.mp hi with hlead' | hput
      · split at hlead'
        · exact hlead i hlead'
        · simp at hlead'
      · obtain ⟨s, hs, rfl⟩ := List.mem_map.mp hput
        obtain ⟨hmem, hpage⟩ := List.mem_filter.mp hs
        have hplaced : s.placement.page = n := by simpa using hpage
        exact (foldl_put_valid_iff hlocks hf ⟨s, hmem, hplaced⟩ _).mp hvalid s hmem hplaced

/-- A disabled input among the leading ones is followed by an enabled one, or stands on a page that
is marked as valid. -/
theorem unsound_of_disabled (hlead : ∃ i ∈ lead, i.isDisabled = true)
    (horder : (placements.map Placement.page).Pairwise (· ≤ ·))
    (hrun : assemble source criteria values scope placements [⟨lead, true⟩] h =
      (.ok ⟨result, none⟩, h')) : ¬ Sound result := by
  obtain ⟨i, hi, hdisabled⟩ := hlead
  intro hsound
  by_cases hnone : placements = []
  · rw [assemble, if_pos (by simpa using hnone)] at hrun
    cases (pure_ok hrun).1
    have henabled := (hsound.valid ⟨lead, true⟩ (by simp [markLast]) rfl i hi).1
    simp [hdisabled] at henabled
  · rw [assemble, if_neg (by simpa using hnone)] at hrun
    obtain ⟨steps, rfl, -, hlocks, rfl⟩ := place_steps hrun
    have hpairs := hsound.disabled
    rw [foldl_put_reading (by simpa [List.pairwise_map] using horder) (by
      intro s _ n hn
      obtain ⟨m, rfl⟩ : ∃ m, n = m + 1 := ⟨n - 1, by omega⟩
      rfl)] at hpairs
    cases steps with
    | nil => exact hnone rfl
    | cons s rest =>
      have hfirst : s.input.isDisabled = false := by simpa using hlocks.1
      have hs := (List.pairwise_append.mp hpairs).2.2 i (by simpa using hi) s.input (by simp)
      simp [hs hdisabled] at hfirst

end Lead

/-! ## What the form is made from -/

def shelf (h : Host) : Path × Folder × List (String × Definition) :=
  (h.root, h.files, h.definitions)

theorem shelf_aloof : Aloof shelf :=
  ⟨⟨fun _ _ _ _ => rfl, fun _ _ => rfl⟩, fun _ _ => rfl, fun _ _ => rfl, fun _ _ => rfl⟩

/-- The definition of a declared type is the listed one, the one read before, or the one in its
file. -/
theorem definition_value (catalog : Catalog) (key : String) (h : Host) :
    (catalog.definition key h).1 = match catalog.entries.lookup key with
      | some (.declared l) => match l.definition.or (h.definitions.lookup key) with
        | some d => .ok d
        | none => Configuration.definition h catalog.dir key
      | _ => .error (.unknownProofType (.text key)) := by
  rw [Catalog.definition_apply]
  rcases catalog.entries.lookup key with _ | l | handler
  · rfl
  · dsimp only
    cases l.definition.or (h.definitions.lookup key) with
    | some d => rfl
    | none => cases Configuration.definition h catalog.dir key <;> rfl
  · rfl

theorem definition_congr (catalog : Catalog) (key : String) {h h' : Host}
    (hshelf : shelf h = shelf h') :
    (catalog.definition key h).1 = (catalog.definition key h').1 := by
  simp only [shelf, Prod.mk.injEq] at hshelf
  obtain ⟨hroot, hfiles, hdefinitions⟩ := hshelf
  rw [definition_value, definition_value, Configuration.definition_sees hroot hfiles, hdefinitions]

section Catalog

variable {σ : Type} {view : Host → σ}

theorem options_keeps (hv : Steady view) (catalog : Catalog) (criteria : Option Fields)
    (category : Value) : Keeps view (catalog.options criteria category) :=
  (options_quiet catalog criteria category).keeps hv

end Catalog

def IsOffered (catalog : Catalog) (criteria : Fields) (category : Value) (key : String) : Prop :=
  ∃ entry, (key, entry) ∈ catalog.entries ∧ entry.isOffered (some criteria) category = true

theorem same_text {v : Value} {key : String} : (Value.text key).same v = true ↔ v = .text key := by
  cases v <;> simp [Value.same, Value.numeric?]
  exact eq_comm

theorem options_any {catalog : Catalog} {criteria : Fields} {category named : Value}
    {choices : List Choice} {h h' : Host}
    (hrun : catalog.options (some criteria) category h = (.ok choices, h')) :
    (choices.any fun choice => choice.value.same named) = true ↔
      ∃ key, named = .text key ∧ IsOffered catalog criteria category key := by
  have hvalues (v : Value) : v ∈ choices.map Choice.value ↔
      ∃ key, v = .text key ∧ IsOffered catalog criteria category key := by
    rw [(Catalog.options_offers rfl hrun).values.mem_iff]
    simp only [List.mem_map, List.mem_filter, Prod.exists, IsOffered]
    constructor
    · rintro ⟨key, entry, ⟨hmem, hoffered⟩, rfl⟩
      exact ⟨key, rfl, entry, hmem, hoffered⟩
    · rintro ⟨key, rfl, entry, hmem, hoffered⟩
      exact ⟨key, entry, ⟨hmem, hoffered⟩, rfl⟩
  rw [List.any_eq_true]
  constructor
  · rintro ⟨choice, hchoice, hsame⟩
    obtain ⟨key, hkey, hoffered⟩ := (hvalues choice.value).mp (List.mem_map_of_mem hchoice)
    rw [hkey, same_text] at hsame
    exact ⟨key, hsame, hoffered⟩
  · rintro ⟨key, rfl, hoffered⟩
    obtain ⟨choice, hchoice, hkey⟩ := List.mem_map.mp ((hvalues _).mpr ⟨key, rfl, hoffered⟩)
    exact ⟨choice, hchoice, by rw [hkey, same_text]⟩

/-! ## The form -/

section Engine

variable {e : Engine} {fields : Criteria} {criteria : Fields} {form : Form} {h h' : Host}

theorem categoryInput_keeps {σ : Type} {view : Host → σ} (hv : Aloof view)
    (hprovider : e.provider = .declared fields) : Keeps view (e.categoryInput criteria) := by
  unfold Engine.categoryInput
  rw [hprovider]
  refine bind_keeps ?_ fun category => ?_
  · simp only [Provider.categoryInput]
    cases categoryOf? fields with
    | some c => exact map_keeps _ ((buildInput_narrow _ _ c _ _ _).keeps hv)
    | none => exact pure_keeps _
  · cases category with
    | none => exact pure_keeps _
    | some input =>
      refine bind_keeps (lift_keeps _) fun _ => ?_
      split
      · exact pure_keeps _
      · exact pure_keeps _

theorem categoryInput_value {category : Option Input} (hprovider : e.provider = .declared fields)
    (hrun : e.categoryInput criteria h = (.ok category, h')) :
    (category.map Input.value = (categoryOf? fields).map fun c => criteria.get c.property) ∧
      ∀ i ∈ category, i.isDisabled = false := by
  unfold Engine.categoryInput at hrun
  rw [hprovider] at hrun
  obtain ⟨built, h₁, hbuilt, hrest⟩ := bind_ok hrun
  simp only [Provider.categoryInput] at hbuilt
  cases hc : categoryOf? fields with
  | none =>
    rw [hc] at hbuilt
    obtain ⟨rfl, -⟩ := pure_ok hbuilt
    rw [(pure_ok hrest).1]
    simp
  | some c =>
    rw [hc] at hbuilt
    obtain ⟨input, hinput, rfl⟩ := map_ok hbuilt
    obtain ⟨-, hvalue, -, hdisabled⟩ := buildInput_parts hinput
    obtain ⟨_, h₂, -, hlast⟩ := bind_ok hrest
    split at hlast
    · rw [(pure_ok hlast).1]
      simp [hvalue, hdisabled]
    · rw [(pure_ok hlast).1]
      simp [hvalue, hdisabled]

def leading (category : Option Input) (choices : List Choice) (value : Value) : List Input :=
  category.toList ++
    [Engine.typeInput choices value (category.any fun input => !input.value.isTruthy)]

/-- The form of a type that is kept is that of its service; otherwise it stays open. -/
theorem form_ok (hrun : e.form criteria [] h = (.ok form, h')) :
    ∃ category choices h₁ h₂, e.categoryInput criteria h = (.ok category, h₁) ∧
      e.catalog.options (some criteria) ((category.map Input.value).getD .null) h₁ =
        (.ok choices, h₂) ∧
      if (criteria.get proofTypeName).isTruthy = true ∧
          (choices.any fun choice => choice.value.same (criteria.get proofTypeName)) = true then
        ∃ service h₃, e.service (criteria.get proofTypeName) h₂ = (.ok service, h₃) ∧
          e.serviceForm service criteria
            [⟨leading category choices (criteria.get proofTypeName), true⟩] h₃ = (.ok form, h')
      else ∃ value, form = Engine.openForm [⟨leading category choices value, false⟩] := by
  obtain ⟨category, h₁, hcategory, hrest⟩ := bind_ok hrun
  obtain ⟨choices, h₂, hchoices, hlast⟩ := bind_ok hrest
  refine ⟨category, choices, h₁, h₂, hcategory, hchoices, ?_⟩
  have hpages (value : Value) :
      Engine.onFirstPage (Engine.onFirstPage
          (if ([] : List Page).isEmpty = true then [Page.empty] else []) category.toList)
        [Engine.typeInput choices value (category.any fun input => !input.value.isTruthy)] =
        [⟨leading category choices value, false⟩] := by
    simp [Engine.onFirstPage, Page.empty, leading]
  have hnull : Value.null.isTruthy = false := rfl
  by_cases htruthy : (criteria.get proofTypeName).isTruthy = true <;>
    by_cases hoffered :
      (choices.any fun choice => choice.value.same (criteria.get proofTypeName)) = true
  · rw [if_pos ⟨htruthy, hoffered⟩]
    simp only [htruthy, hoffered, Bool.not_true, Bool.and_false, Bool.false_eq_true, if_false,
      if_true, hpages] at hlast
    obtain ⟨service, h₃, hservice, hform⟩ := bind_ok hlast
    exact ⟨service, h₃, hservice, hform⟩
  · rw [if_neg fun hkept => hoffered hkept.2]
    rw [Bool.not_eq_true] at hoffered
    simp only [htruthy, hoffered, Bool.not_false, Bool.and_true, if_true, hnull,
      Bool.false_eq_true, if_false, hpages] at hlast
    exact ⟨.null, (pure_ok hlast).1⟩
  all_goals
    rw [if_neg fun hkept => htruthy hkept.1]
    rw [Bool.not_eq_true] at htruthy
    simp only [htruthy, Bool.false_and, Bool.false_eq_true, if_false, hpages] at hlast
    exact ⟨criteria.get proofTypeName, (pure_ok hlast).1⟩

theorem service_ok {key : String} {service : Catalog.Service}
    (hdeclared : ∀ handler, e.catalog.entries.lookup key ≠ some (.handler handler))
    (hrun : e.service (.text key) h = (.ok service, h')) :
    ∃ builder, service = .declared key builder := by
  simp only [Engine.service, Catalog.service] at hrun
  rcases hentry : e.catalog.entries.lookup key with _ | l | handler
  · rw [hentry] at hrun
    cases hrun
  · rw [hentry] at hrun
    obtain ⟨builder, h₁, -, hlast⟩ := bind_ok hrun
    exact ⟨builder, (pure_ok hlast).1⟩
  · exact absurd hentry (hdeclared handler)

theorem service_keeps {σ : Type} {view : Host → σ} (hv : Steady view) (proofType : Value) :
    Keeps view (e.service proofType) := by
  unfold Engine.service Catalog.service
  split
  · split
    · exact bind_keeps (bind_keeps (settings_keeps hv) fun _ => pure_keeps _) fun _ => pure_keeps _
    · exact pure_keeps _
    · exact throw_keeps _
  all_goals exact throw_keeps _

def chosenCategory (fields : Criteria) (criteria : Fields) : Value :=
  ((categoryOf? fields).map fun c => criteria.get c.property).getD .null

theorem isNull_of_truthy {v : Value} (hv : v.isTruthy = true) : v.isNull = false := by
  cases v with
  | null => cases hv
  | _ => rfl

theorem isSettled_of_truthy {i : Input} (henabled : i.isDisabled = false)
    (hvalue : i.value.isTruthy = true) : i.isSettled = true :=
  i.isSettled_iff.mpr ⟨henabled, fun _ => isNull_of_truthy hvalue⟩

/-- The form of a kept declared type is sound exactly when the category, if there is one, has a
value. -/
theorem kept_sound_iff {category : Option Input} {choices : List Choice} {key : String}
    {builder : Builder} (hprovider : e.provider = .declared fields)
    (henabled : ∀ i ∈ category, i.isDisabled = false)
    (horder : ∀ d, (e.catalog.definition key h).1 = .ok d →
      (d.criteria.map Placement.page).Pairwise (· ≤ ·))
    (hkey : key ≠ "")
    (hrun : e.serviceForm (.declared key builder) criteria
      [⟨leading category choices (.text key), true⟩] h = (.ok form, h')) :
    Sound form.pages ↔ ∀ i ∈ category, i.value.isTruthy = true := by
  obtain ⟨d, h₁, hdefinition, hform⟩ := bind_ok hrun
  have hd := horder d (by rw [hdefinition])
  obtain ⟨h₂, hpages⟩ := declaredForm_pages hform
  rw [hprovider] at hpages
  constructor
  · intro hsound i hi
    by_contra hvalue
    have hmem : Engine.typeInput choices (.text key)
        (category.any fun input => !input.value.isTruthy) ∈
        leading category choices (.text key) := by simp [leading]
    refine unsound_of_disabled ⟨_, hmem, ?_⟩ hd hpages hsound
    exact Option.any_eq_true _ _ |>.mpr ⟨i, hi, by simpa using hvalue⟩
  · intro hvalues
    refine sound_of_settled (fun i hi => ?_) hd hpages
    rcases List.mem_append.mp hi with hcategory | hlast
    · have hmem : i ∈ category := by simpa using hcategory
      exact isSettled_of_truthy (henabled i hmem) (hvalues i hmem)
    · obtain rfl := List.mem_singleton.mp hlast
      refine isSettled_of_truthy ?_ (by simpa [Engine.typeInput, Value.isTruthy] using hkey)
      simpa [Engine.typeInput, Option.any_eq_false] using hvalues

theorem open_sound {category : Option Input} {choices : List Choice} {value : Value}
    (henabled : ∀ i ∈ category, i.isDisabled = false) :
    Sound (Engine.openForm [⟨leading category choices value, false⟩]).pages := by
  refine ⟨?_, by simp [Engine.openForm]⟩
  cases category with
  | none => simp [Engine.openForm, leading]
  | some input => simp [Engine.openForm, leading, henabled input rfl]

/-- The pages of a form are in order exactly when the category has a value as soon as a document
type is kept. -/
theorem form_sound_iff (hprovider : e.provider = .declared fields)
    (hdeclared : ∀ key handler, criteria.get proofTypeName = .text key →
      e.catalog.entries.lookup key ≠ some (.handler handler))
    (horder : ∀ key d, criteria.get proofTypeName = .text key →
      (e.catalog.definition key h).1 = .ok d → (d.criteria.map Placement.page).Pairwise (· ≤ ·))
    (hrun : e.form criteria [] h = (.ok form, h')) :
    Sound form.pages ↔
      ∀ key, criteria.get proofTypeName = .text key → key ≠ "" →
        IsOffered e.catalog criteria (chosenCategory fields criteria) key →
        ∀ c, categoryOf? fields = some c → (criteria.get c.property).isTruthy = true := by
  obtain ⟨category, choices, h₁, h₂, hcategory, hchoices, hrest⟩ := form_ok hrun
  obtain ⟨hvalue, henabled⟩ := categoryInput_value hprovider hcategory
  have hchosen : (category.map Input.value).getD .null = chosenCategory fields criteria := by
    rw [hvalue, chosenCategory]
  have hvalues : (∀ i ∈ category, i.value.isTruthy = true) ↔
      ∀ c, categoryOf? fields = some c → (criteria.get c.property).isTruthy = true := by
    cases category <;> cases hc : categoryOf? fields <;> simp_all
  rw [hchosen] at hchoices
  have hoptions :
      (choices.any fun choice => choice.value.same (criteria.get proofTypeName)) = true ↔
        ∃ key, criteria.get proofTypeName = .text key ∧
          IsOffered e.catalog criteria (chosenCategory fields criteria) key :=
    options_any hchoices
  split at hrest
  · rename_i hkept
    obtain ⟨key, hnamed, hoffered⟩ := hoptions.mp hkept.2
    have hkey : key ≠ "" := by simpa [hnamed, Value.isTruthy] using hkept.1
    obtain ⟨service, h₃, hservice, hform⟩ := hrest
    rw [hnamed] at hservice hform
    obtain ⟨builder, rfl⟩ := service_ok (hdeclared key · hnamed) hservice
    have hshelf : shelf h₃ = shelf h :=
      (keeps_ok (service_keeps shelf_aloof.toSteady _) hservice).trans
        ((keeps_ok (options_keeps shelf_aloof.toSteady _ _ _) hchoices).trans
          (keeps_ok (categoryInput_keeps shelf_aloof hprovider) hcategory))
    have horder₃ (d : Definition) (hd : (e.catalog.definition key h₃).1 = .ok d) :=
      horder key d hnamed (by rw [← hd]; exact definition_congr _ _ hshelf.symm)
    rw [kept_sound_iff hprovider henabled horder₃ hkey hform, hvalues]
    refine ⟨fun hall _ _ _ _ => hall, fun hall => hall key hnamed hkey hoffered⟩
  · rename_i hopen
    obtain ⟨value, rfl⟩ := hrest
    refine iff_of_true (open_sound henabled) fun key hnamed hkey hoffered => ?_
    refine absurd ⟨?_, hoptions.mpr ⟨key, hnamed, hoffered⟩⟩ hopen
    simpa [hnamed, Value.isTruthy] using hkey

end Engine

def memoEngine : Engine :=
  ⟨⟨[("memo", .declared ⟨"Memo", none, none,
      some ⟨"A memo", [⟨"note", 1⟩], plainBlueprint "Memo", []⟩⟩)], [], ["", "json"], "memos"⟩,
    .none, .declared
      [("proofCategory", plainSelect "proofCategory" (some true) [⟨.text "access", some "Access"⟩]),
        ("note", plainText "note" (some false))]⟩

/-- With a category chosen the form of a memo is in order. -/
theorem form_sound_memo :
    ∃ form h', memoEngine.form [("proofCategory", .text "access"), ("proofType", .text "memo")] []
        Host.bare = (.ok form, h') ∧ form.suggestedName = "Memo" ∧ Sound form.pages := by
  have hruns : ((memoEngine.form [("proofCategory", .text "access"), ("proofType", .text "memo")] []
      Host.bare).1.toOption.map Form.suggestedName) = some "Memo" := by
    decide +kernel
  obtain ⟨form, hform, hname⟩ := Option.map_eq_some_iff.mp hruns
  refine ⟨form, _, ok_of_toOption hform, hname, ?_⟩
  refine (form_sound_iff rfl ?_ ?_ (ok_of_toOption hform)).mpr ?_
  · intro key handler hkey
    cases hkey
    exact nofun
  · intro key d hkey hd
    cases hkey
    cases hd
    decide
  · intro key hkey _ _ c hc
    cases hkey
    cases hc
    rfl

/-- Without a category the input for the document type is disabled, and yet the note after it is
enabled and the page they start on is valid. -/
theorem form_unsound_memo :
    ∃ form h', memoEngine.form [("proofType", .text "memo")] [] Host.bare = (.ok form, h') ∧
      form.pages.map (fun page => (page.inputs.map Input.isDisabled, page.isValid)) =
        [([false, true], true), ([false], true)] ∧ ¬ Sound form.pages := by
  have hruns : (memoEngine.form [("proofType", .text "memo")] [] Host.bare).1.toOption.map
      (fun form => (form.pages.map fun page => (page.inputs.map Input.isDisabled, page.isValid),
        decide (Sound form.pages))) = some ([([false, true], true), ([false], true)], false) := by
    decide +kernel
  obtain ⟨form, hform, hparts⟩ := Option.map_eq_some_iff.mp hruns
  obtain ⟨hpages, hsound⟩ := Prod.mk.inj hparts
  exact ⟨form, _, ok_of_toOption hform, hpages, of_decide_eq_false hsound⟩

end Dossier.Wizard
