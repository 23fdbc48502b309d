import Dossier.Proofs.Criterion.Choosing
import Dossier.Proofs.Criterion.Params
import Dossier.Proofs.Source.Confined
import Dossier.Proofs.Wizard.Step

/-!
# Choices that depend on earlier criteria

The parameters of a select control may refer to the criteria placed before it. Its choices are
fetched only when all of these have values, since the control is disabled otherwise. So the
placeholders in the parameters resolve, and every call that an assembly makes has them filled in
with values that are set.
-/

set_option autoImplicit false

namespace Dossier

open Template Run

def Choice.texts (c : Choice) : List String := c.value.text?.toList ++ [c.label.getD ""]

def Criterion.texts (c : Criterion) : List String :=
  c.label :: ((filled? c.placeholder).toList ++ (c.fixedChoices.getD []).flatMap Choice.texts)

/-! ## The choices of one criterion -/

section Criterion

variable {source : Source} {calls : Call → Prop} {fails : Failure → Prop} {values scope : Fields}
  {h : Host} {c : Criterion} {w : Criterion.Wiring}

theorem resolve_confined {s : String}
    (htext : ∀ e, (resolve scope s h).1 = .error e → fails e) :
    Confined h.known calls fails (fun _ => True) (resolve scope s) :=
  quiet_confined (resolve_quiet scope s) (fun _ _ _ _ => trivial) fun _ e hknown he =>
    htext e (((resolve_quiet scope s).sees hknown).symm.trans he)

theorem resolveChoice_confined {choice : Choice}
    (htexts : ∀ s ∈ choice.texts, ∀ e, (resolve scope s h).1 = .error e → fails e) :
    Confined h.known calls fails (fun _ => True) (Criterion.resolveChoice scope choice) := by
  have label (value : Value) (_ : True) : Confined h.known calls fails (fun _ => True) (do
      let label ← resolve scope (choice.label.getD "")
      pure (⟨value, some label⟩ : Choice)) :=
    bind_confined (resolve_confined (htexts _ (by simp [Choice.texts]))) fun _ _ =>
      pure_confined trivial
  unfold Criterion.resolveChoice
  cases hvalue : choice.value with
  | text s =>
    have hs : s ∈ choice.texts := by simp [Choice.texts, hvalue, Value.text?]
    exact bind_confined (map_confined _ (resolve_confined (htexts s hs))) label
  | _ => exact bind_confined (pure_confined trivial) label

theorem resolveChoices_confined {choices : List Choice}
    (htexts : ∀ s ∈ choices.flatMap Choice.texts, ∀ e, (resolve scope s h).1 = .error e → fails e) :
    Confined h.known calls fails (fun _ => True) (Criterion.resolveChoices scope choices) := by
  induction choices with
  | nil => exact pure_confined trivial
  | cons choice rest ih =>
    rw [List.flatMap_cons, List.forall_mem_append] at htexts
    exact bind_confined (resolveChoice_confined htexts.1) fun _ _ =>
      bind_confined (ih htexts.2) fun _ _ => pure_confined trivial

theorem project_tokenless (item : Value) : Tokenless (Criterion.project w item) := by
  cases item with
  | object row =>
    rw [Criterion.project_row]
    split
    · exact tokenless_ok _
    · exact tokenless_invalid _
  | _ => exact tokenless_error (by simp [Failure.ofToken_iff])

theorem projectAll_tokenless (items : List Value) :
    Tokenless (Criterion.projectAll (Criterion.project w) items) := by
  induction items with
  | nil => exact tokenless_ok _
  | cons item rest ih =>
    rw [Criterion.projectAll]
    split
    · next e he => exact tokenless_error (project_tokenless item e he)
    · exact tokenless_map _ ih

theorem projectPages_tokenless (batches : List Batch) :
    Tokenless (Criterion.projectPages w.dataSet (Criterion.project w) batches) := by
  induction batches with
  | nil => exact tokenless_ok _
  | cons batch rest ih =>
    rw [Criterion.projectPages]
    split
    · exact tokenless_error (by simp [Failure.ofToken_iff])
    · split
      · split
        · next e he => exact tokenless_error (projectAll_tokenless _ e he)
        · exact tokenless_map _ ih
      · exact tokenless_error (by simp [Failure.ofToken_iff])

/-- The choices of a criterion whose parameters refer to criteria with values. -/
theorem fetchChoices_confined (hc : h.Checked) (hfails : Source.Fails source fails)
    (hplain : ∀ property v, values.get? property = some v → v.IsPlain)
    (hrefers : ∀ given ∈ c.dataSetParams, Criterion.Refers values given)
    (hcalls : ∀ params page, Criterion.FilledParams values c.dataSetParams params →
      calls ⟨w.dataSet, params, page, .null⟩) (maxPages : Option Int) :
    Confined h.known calls fails (fun _ => True)
      (Criterion.fetchChoices source maxPages w c values) := by
  have hparams : Confined h.known calls fails (Criterion.FilledParams values c.dataSetParams)
      (resolveParams none [("criteria", .object values)] c.dataSetParams) := by
    refine quiet_confined (resolveParams_quiet none _ _) (fun k params hk hgiven => ?_)
      fun k e hk hfailed => ?_
    · rcases resolveParams_fills hc hk hplain hrefers with ⟨filled, hrun, hfilled⟩ | ⟨e, hrun, -⟩
      · cases hrun.symm.trans hgiven
        exact hfilled
      · cases hrun.symm.trans hgiven
    · rcases resolveParams_fills hc hk hplain hrefers with ⟨filled, hrun, -⟩ | ⟨e', hrun, htoken⟩
      · cases hrun.symm.trans hfailed
      · cases hrun.symm.trans hfailed
        exact hfails.tokenless _ htoken
  refine bind_confined hparams fun params hfilled => ?_
  refine bind_confined (fetchAll_confined hfails (fun page => hcalls params page hfilled) maxPages)
    fun batches _ => ?_
  refine bind_confined (lift_confined (fun _ _ => trivial) fun e he => ?_) fun _ _ =>
    pure_confined trivial
  exact hfails.tokenless e (projectPages_tokenless batches e he)

/-- An input keeps to the calls that the fetch of its choices may make, if they are fetched. -/
theorem buildInput_confined (hc : h.Checked) (hfails : Source.Fails source fails)
    (hplain : ∀ property v, values.get? property = some v → v.IsPlain)
    (htexts : ∀ s ∈ c.texts, ∀ e, (resolve scope s h).1 = .error e → fails e) {isDisabled : Bool}
    (hfetches : ∀ w, isDisabled = false → c.control = .select → c.wiring? = some w →
      (∀ given ∈ c.dataSetParams, Criterion.Refers values given) ∧
        ∀ params page, Criterion.FilledParams values c.dataSetParams params →
          calls ⟨w.dataSet, params, page, .null⟩) (maxPages : Option Int) :
    Confined h.known calls fails (fun _ => True)
      (Wizard.buildInput source maxPages c values scope isDisabled) := by
  have hlabel : c.label ∈ c.texts := by simp [Criterion.texts]
  have hfixed : Confined h.known calls fails (fun _ => True)
      (Criterion.resolveChoices scope (c.fixedChoices.getD [])) :=
    resolveChoices_confined fun s hs => htexts s (by simp [Criterion.texts, hs])
  have hoffered : Confined h.known calls fails (fun _ => True)
      (Wizard.offered source maxPages c values scope isDisabled) := by
    unfold Wizard.offered
    split
    · next henabled hselect =>
      unfold Criterion.choices
      have rest (fetched : List Choice) (_ : True) :
          Confined h.known calls fails (fun _ => True) (do
          let fixed ← Criterion.resolveChoices scope (c.fixedChoices.getD [])
          pure (fixed ++ fetched)) := bind_confined hfixed fun _ _ => pure_confined trivial
      cases hw : c.wiring? with
      | none => exact bind_confined (pure_confined trivial) rest
      | some w =>
        obtain ⟨hrefers, hcalls⟩ := hfetches w rfl hselect hw
        exact bind_confined (fetchChoices_confined hc hfails hplain hrefers hcalls maxPages) rest
    · exact pure_confined trivial
  rw [Wizard.buildInput_eq]
  refine bind_confined hoffered fun choices _ => ?_
  refine bind_confined (resolve_confined (htexts _ hlabel)) fun label _ => ?_
  have last (placeholder : Option String) (_ : True) : Confined h.known calls fails (fun _ => True)
      (pure (⟨c.property, c.control, label, choices, values.get c.property, placeholder,
        c.isRequired, isDisabled⟩ : Wizard.Input)) := pure_confined trivial
  cases hplaceholder : Criterion.filled? c.placeholder with
  | none => exact bind_confined (pure_confined trivial) last
  | some s =>
    have hs : s ∈ c.texts := by simp [Criterion.texts, hplaceholder]
    exact bind_confined (map_confined _ (resolve_confined (htexts s hs))) last

end Criterion

namespace Wizard

/-! ## All placements -/

def Reached (criteria : Criteria) (values : Fields) (placements : List Placement) : Prop :=
  ∀ p ∈ placements, ∃ c, criteria.lookup p.name = some c ∧ (values.get c.property).isNull = false

structure Fetches (criteria : Criteria) (placements before : List Placement) (c : Criterion)
    (w : Criterion.Wiring) : Prop where
  placed : ∃ p after, placements = before ++ p :: after ∧ criteria.lookup p.name = some c
  select : c.control = .select
  wired : c.wiring? = some w

/-- The texts among the parameters of fetched choices have placeholders for criteria placed earlier
and no others. -/
def RefersBack (criteria : Criteria) (placements : List Placement) : Prop :=
  ∀ before c w, Fetches criteria placements before c w → ∀ params ∈ c.dataSetParams,
    ∀ entry ∈ params, ∀ s, entry.2 = .text s → ∀ body ∈ placeholders s.toList,
      ∃ p ∈ before, ∃ d, criteria.lookup p.name = some d ∧ NamesCriterion body d.property

theorem RefersBack.refers {criteria : Criteria} {placements before : List Placement} {c : Criterion}
    {w : Criterion.Wiring} {values : Fields} (hback : RefersBack criteria placements)
    (hfetches : Fetches criteria placements before c w)
    (hreached : Reached criteria values before) :
    ∀ params ∈ c.dataSetParams, Criterion.Refers values params := by
  intro params hparams entry hentry s hs body hbody
  obtain ⟨p, hp, d, hd, hnames⟩ :=
    hback before c w hfetches params hparams entry hentry s hs body hbody
  obtain ⟨d', hd', hvalue⟩ := hreached p hp
  cases hd.symm.trans hd'
  exact ⟨d.property, hnames, hvalue⟩

/-- A call for the choices of a criterion when all criteria placed before it have values, and its
parameters are filled in with such values. -/
def Offers (criteria : Criteria) (values : Fields) (placements : List Placement) (call : Call) :
    Prop :=
  ∃ before c w, Fetches criteria placements before c w ∧ Reached criteria values before ∧
    call.dataSet = w.dataSet ∧ Criterion.FilledParams values c.dataSetParams call.params

def ShownOrOwn (source : Source) (criteria : Criteria) (placements : List Placement)
    (scope : Fields) (h : Host) (e : Failure) : Prop :=
  e.OfToken →
    (∃ p ∈ placements, ∃ c, criteria.lookup p.name = some c ∧
      ∃ s ∈ c.texts, (resolve scope s h).1 = .error e) ∨
    ∃ past call, source past call = .error e

section Placing

variable {source : Source} {criteria : Criteria} {values scope : Fields}
  {placements : List Placement} {h : Host}

theorem shownOrOwn_fails :
    Source.Fails source (ShownOrOwn source criteria placements scope h) :=
  ⟨fun past call _ he _ => .inr ⟨past, call, he⟩, fun _ htoken hof => absurd hof htoken⟩

/-- The placements that are left are carried out with calls for choices alone. What is carried along
is that the next input is disabled unless all criteria before it have values. -/
theorem place_confined (hc : h.Checked) (hback : RefersBack criteria placements)
    (hplain : ∀ property v, values.get? property = some v → v.IsPlain)
    {before rest : List Placement} {locked : Bool} {last : Option String} {pages : List Page}
    (hsplit : placements = before ++ rest)
    (hlocked : (locked || last.any fun property => (values.get property).isNull) = false →
      Reached criteria values before) :
    Confined h.known (Offers criteria values placements) (fun _ => False)
      (fun assembled => ∀ e ∈ assembled.failure,
        ShownOrOwn source criteria placements scope h e)
      (place source criteria values scope rest locked last pages) := by
  induction rest generalizing before locked last pages with
  | nil => exact pure_confined (by simp)
  | cons p rest ih =>
    have hp : p ∈ placements := by simp [hsplit]
    rw [place]
    cases hlookup : criteria.lookup p.name with
    | none =>
      refine pure_confined fun e he => ?_
      cases he
      exact shownOrOwn_fails.tokenless _ (by simp [Failure.ofToken_iff])
    | some c =>
      have htexts : ∀ s ∈ c.texts, ∀ e, (resolve scope s h).1 = .error e →
          ShownOrOwn source criteria placements scope h e :=
        fun s hs e he _ => .inl ⟨p, hp, c, hlookup, s, hs, he⟩
      have hbuild : Confined h.known (Offers criteria values placements)
          (ShownOrOwn source criteria placements scope h) (fun _ => True)
          (buildInput source none c values scope
            (locked || last.any fun property => (values.get property).isNull)) := by
        refine buildInput_confined hc shownOrOwn_fails hplain htexts
          (fun w henabled hselect hw => ?_) none
        have hfetches : Fetches criteria placements before c w :=
          ⟨⟨p, rest, hsplit, hlookup⟩, hselect, hw⟩
        have hreached := hlocked henabled
        exact ⟨hback.refers hfetches hreached, fun params page hfilled =>
          ⟨before, c, w, hfetches, hreached, rfl, hfilled⟩⟩
      refine bind_confined (observe_confined hbuild) fun result hresult => ?_
      cases result with
      | error e =>
        refine pure_confined fun e' he' => ?_
        cases he'
        exact hresult
      | ok input =>
        have hsplit' : placements = (before ++ [p]) ++ rest := by
          rw [hsplit, List.append_assoc]; rfl
        refine ih hsplit' fun hnext => ?_
        obtain ⟨henabled, hvalue⟩ := Bool.or_eq_false_iff.mp hnext
        refine List.forall_mem_append.mpr ⟨hlocked henabled, fun q hq => ?_⟩
        rw [List.mem_singleton.mp hq]
        exact ⟨c, hlookup, hvalue⟩

/-- Parameters that refer back resolve whenever their choices may be fetched, all calls of an
assembly are for such choices with such parameters, and a failure of placeholders never comes from
parameters. -/
theorem assemble_dependence (source : Source) (scope : Fields) (pages : List Page) (hc : h.Checked)
    (hback : RefersBack criteria placements)
    (hplain : ∀ property v, values.get? property = some v → v.IsPlain) :
    (∀ before c w k, Fetches criteria placements before c w → Reached criteria values before →
      k.known = h.known →
      (∃ filled, (resolveParams none [("criteria", .object values)] c.dataSetParams k).1 =
          .ok filled ∧ Criterion.FilledParams values c.dataSetParams filled) ∨
        ∃ e, (resolveParams none [("criteria", .object values)] c.dataSetParams k).1 = .error e ∧
          ¬ e.OfToken) ∧
    (∃ made, (assemble source criteria values scope placements pages h).2.calls = h.calls ++ made ∧
      ∀ call ∈ made, Offers criteria values placements call) ∧
    ∃ assembled, (assemble source criteria values scope placements pages h).1 = .ok assembled ∧
      ∀ e ∈ assembled.failure, ShownOrOwn source criteria placements scope h e := by
  refine ⟨fun before c w k hfetches hreached hk =>
    resolveParams_fills hc hk hplain (hback.refers hfetches hreached), ?_⟩
  have hassembled : Confined h.known (Offers criteria values placements) (fun _ => False)
      (fun assembled => ∀ e ∈ assembled.failure,
        ShownOrOwn source criteria placements scope h e)
      (assemble source criteria values scope placements pages) := by
    unfold assemble
    split
    · exact pure_confined (by simp)
    · exact place_confined hc hback hplain (List.nil_append _).symm fun _ => by simp [Reached]
  refine ⟨hassembled.made h rfl, ?_⟩
  cases hend : (assemble source criteria values scope placements pages h).1 with
  | ok assembled => exact ⟨assembled, rfl, hassembled.given h assembled rfl hend⟩
  | error e => exact (hassembled.failed h e rfl hend).elim

end Placing

/-- A kind, and the groups of the kind. The parameters have braces that belong to no placeholder. -/
def kindAndGroup : Criteria :=
  [("kind", plainSelect "kind" none [⟨.text "open", none⟩]),
    ("group", ⟨.select, "group", "", none, none, none, some "groups",
      some [("filter", .text "\x7b kind: \x7b\x7bcriteria.kind\x7d\x7d \x7d"), ("depth", .int 2)],
      some "id", some "name", none⟩)]

def openGroups : Source := Criterion.pagedSource [(none, Criterion.completePage [] .null)]

/-- The groups are fetched with the kind that was chosen. -/
theorem assemble_dependence_groups :
    Host.Checked (.start [] [] [] .empty .utc) ∧
      RefersBack kindAndGroup [⟨"kind", 0⟩, ⟨"group", 0⟩] ∧
      (∀ property v, Fields.get? [("kind", .text "open")] property = some v → v.IsPlain) ∧
      ∃ made : List Call, made.map Call.dataSet = ["groups"] ∧
        ∀ call ∈ made,
          Offers kindAndGroup [("kind", .text "open")] [⟨"kind", 0⟩, ⟨"group", 0⟩] call := by
  have hc : Host.Checked (.start [] [] [] .empty .utc) := fun s hs => by cases hs
  have hback : RefersBack kindAndGroup [⟨"kind", 0⟩, ⟨"group", 0⟩] := by
    rintro before c w ⟨⟨p, after, hsplit, hlookup⟩, hselect, hwired⟩ params
      hparams entry hentry s hs
      body hbody
    match before, hsplit with
    | [], hsplit =>
      cases hsplit
      cases hlookup
      cases hwired
    | [q], hsplit =>
      cases hsplit
      cases hlookup
      cases hparams
      rcases List.mem_cons.mp hentry with rfl | hentry
      · cases hs
        have hfound : placeholders "\x7b kind: \x7b\x7bcriteria.kind\x7d\x7d \x7d".toList =
            ["criteria.kind".toList] := by
          decide +kernel
        rw [hfound, List.mem_singleton] at hbody
        subst hbody
        exact ⟨⟨"kind", 0⟩, by simp, _, rfl, ⟨by decide +kernel, by simp [isBrace, plainSelect]⟩⟩
      · rw [List.mem_singleton.mp hentry] at hs
        cases hs
    | _ :: _ :: before, hsplit => simp at hsplit
  have hplain :
      ∀ property v, Fields.get? [("kind", .text "open")] property = some v → v.IsPlain := by
    intro property v hv
    rw [Fields.get?_cons] at hv
    split at hv
    · cases hv
      show Braceless "open".toList
      simp [Braceless, isBrace]
    · cases hv
  have hcalls :
      (assemble openGroups kindAndGroup [("kind", .text "open")] [] [⟨"kind", 0⟩, ⟨"group", 0⟩]
      [] (.start [] [] [] .empty .utc)).2.calls.map Call.dataSet = ["groups"] := by
    decide +kernel
  obtain ⟨-, ⟨made, hmade, hoffers⟩, -⟩ :=
    assemble_dependence openGroups [] [] hc hback hplain
  refine ⟨hc, hback, hplain, made, ?_, hoffers⟩
  rw [← hcalls, hmade]
  rfl

end Wizard

end Dossier
