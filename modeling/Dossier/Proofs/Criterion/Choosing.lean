import Dossier.Proofs.Criterion.Printing
import Dossier.Proofs.Criterion.Sorted
import Dossier.Proofs.Source.Paging
import Mathlib.Data.List.Forall2

/-!
# The choices that are offered

A criterion offers its fixed choices in their order, and after them the fetched ones, sorted by
label. Every row of every page gives one fetched choice. A fetch that comes to an end yields all of
them or none: the first page or row that is not as it should be decides the failure.
-/

set_option autoImplicit false

namespace Dossier

open Run

/-! ## Fixed choices -/

/-- A fixed choice with its texts resolved. Other values stay as they are. -/
structure Choice.Resolved (scope : Fields) (h : Host) (c resolved : Choice) : Prop where
  text : ∀ s, c.value = .text s →
    ∃ t, (resolve scope s h).1 = .ok t ∧ resolved.value = .text t
  other : c.value.text? = none → resolved.value = c.value
  label : ∃ t, (resolve scope (c.label.getD "") h).1 = .ok t ∧ resolved.label = some t

section Fixed

variable {scope : Fields} {h h' : Host}

theorem Choice.Resolved.isNull {c resolved : Choice} (hresolved : c.Resolved scope h resolved) :
    resolved.value.isNull = c.value.isNull := by
  cases hvalue : c.value with
  | text s =>
    obtain ⟨t, -, ht⟩ := hresolved.text s hvalue
    rw [ht]
    rfl
  | _ => rw [hresolved.other (by rw [hvalue]; rfl), hvalue]

theorem Choice.Resolved.of_known {c resolved : Choice} {k : Host}
    (hresolved : c.Resolved scope k resolved) (hknown : k.known = h.known) :
    c.Resolved scope h resolved := by
  refine ⟨fun s hs => ?_, hresolved.other, ?_⟩
  · rw [← (resolve_quiet scope s).sees hknown]
    exact hresolved.text s hs
  · rw [← (resolve_quiet scope _).sees hknown]
    exact hresolved.label

theorem resolveChoice_resolved {c resolved : Choice}
    (hrun : Criterion.resolveChoice scope c h = (.ok resolved, h')) :
    c.Resolved scope h resolved := by
  have labelled (value : Value) {h₁ : Host} (hknown : h₁.known = h.known)
      (hrest : (do
        let label ← resolve scope (c.label.getD "")
        pure (⟨value, some label⟩ : Choice) : Run Choice) h₁ = (.ok resolved, h')) :
      resolved.value = value ∧
        ∃ t, (resolve scope (c.label.getD "") h).1 = .ok t ∧ resolved.label = some t := by
    obtain ⟨label, h₂, hlabel, hpure⟩ := bind_ok hrest
    obtain ⟨rfl, -⟩ := pure_ok hpure
    exact ⟨rfl, label, by rw [← (resolve_quiet scope _).sees hknown, hlabel], rfl⟩
  unfold Criterion.resolveChoice at hrun
  cases hvalue : c.value with
  | text s =>
    rw [hvalue] at hrun
    obtain ⟨value, h₁, hmap, hrest⟩ := bind_ok hrun
    obtain ⟨t, ht, rfl⟩ := map_ok hmap
    have hknown := keeps_ok ((resolve_quiet scope s).keeps known_aloof.toSteady) ht
    obtain ⟨hresolved, hlabel⟩ := labelled (.text t) hknown hrest
    refine ⟨fun s' hs' => ?_, fun hnone => ?_, hlabel⟩
    · rw [hvalue] at hs'
      cases hs'
      exact ⟨t, by rw [ht], hresolved⟩
    · rw [hvalue] at hnone
      cases hnone
  | _ =>
    rw [hvalue] at hrun
    obtain ⟨hresolved, hlabel⟩ := labelled _ rfl hrun
    refine ⟨fun s hs => ?_, fun _ => hresolved.trans hvalue.symm, hlabel⟩
    rw [hvalue] at hs
    cases hs

theorem resolveChoices_resolved {choices resolved : List Choice}
    (hrun : Criterion.resolveChoices scope choices h = (.ok resolved, h')) :
    List.Forall₂ (Choice.Resolved scope h) choices resolved := by
  induction choices generalizing resolved h with
  | nil =>
    obtain ⟨rfl, -⟩ := pure_ok hrun
    exact .nil
  | cons c rest ih =>
    obtain ⟨first, h₁, hfirst, hrest⟩ := bind_ok hrun
    obtain ⟨later, h₂, hlater, hpure⟩ := bind_ok hrest
    obtain ⟨rfl, rfl⟩ := pure_ok hpure
    have hknown := keeps_ok ((resolveChoice_quiet scope c).keeps known_aloof.toSteady) hfirst
    refine .cons (resolveChoice_resolved hfirst) ((ih hlater).imp fun c r hr => hr.of_known hknown)

end Fixed

/-! ## Choices from rows -/

def Value.isScalar : Value → Bool
  | .null | .bool _ | .int _ | .float _ | .text _ => true
  | .date _ | .moment _ | .clock _ | .list _ | .object _ => false

theorem scalar_ok_iff {v w : Value} : Schema.scalar v = .ok w ↔ v.isScalar = true ∧ w = v := by
  cases v <;> simp [Schema.scalar, Schema.scalar.mismatch, Value.isScalar, eq_comm]

namespace Criterion

def Wiring.choice (w : Wiring) (row : Fields) : Choice :=
  ⟨row.get w.valueProperty, match row.get w.labelProperty with
    | .null => none
    | label => some label.display⟩

theorem project_row (w : Wiring) (row : Fields) :
    project w (.object row) =
      match (Schema.scalar (row.get w.valueProperty)).under (.key "value") with
      | .ok _ => .ok (w.choice row)
      | .bad issues => .error (.invalid issues) := by
  change projected (row.get w.valueProperty) (row.get w.labelProperty) = _
  unfold projected Wiring.choice
  cases hvalue : Schema.scalar (row.get w.valueProperty) with
  | ok v =>
    obtain ⟨-, rfl⟩ := scalar_ok_iff.mp hvalue
    cases row.get w.labelProperty <;> rfl
  | bad issues => rfl

theorem project_ok {w : Wiring} {item : Value} {c : Choice} (hok : project w item = .ok c) :
    ∃ row, item = .object row ∧ c = w.choice row := by
  cases item with
  | object row =>
    rw [project_row] at hok
    split at hok
    · cases hok
      exact ⟨row, rfl, rfl⟩
    · cases hok
  | _ => cases hok

theorem project_scalar {w : Wiring} {row : Fields}
    (hscalar : (row.get w.valueProperty).isScalar = true) :
    project w (.object row) = .ok (w.choice row) := by
  rw [project_row, scalar_ok_iff.mpr ⟨hscalar, rfl⟩]
  rfl

theorem projectAll_ok {w : Wiring} {items : List Value} {choices : List Choice}
    (hok : projectAll (project w) items = .ok choices) :
    ∃ rows : List Fields, items = rows.map .object ∧ choices = rows.map w.choice := by
  induction items generalizing choices with
  | nil =>
    cases hok
    exact ⟨[], rfl, rfl⟩
  | cons item rest ih =>
    rw [projectAll] at hok
    cases hitem : project w item with
    | error e =>
      rw [hitem] at hok
      cases hok
    | ok c =>
      rw [hitem] at hok
      obtain ⟨row, rfl, rfl⟩ := project_ok hitem
      cases hrest : projectAll (project w) rest with
      | error e =>
        rw [hrest] at hok
        cases hok
      | ok later =>
        rw [hrest] at hok
        cases hok
        obtain ⟨rows, rfl, rfl⟩ := ih hrest
        exact ⟨row :: rows, rfl, rfl⟩

/-- Choices come from pages that are all complete lists of objects, one from each row. -/
theorem projectPages_ok {w : Wiring} {batches : List Batch} {choices : List Choice}
    (hok : projectPages w.dataSet (project w) batches = .ok choices) :
    (∀ batch ∈ batches, batch.status = .complete) ∧
      ∃ pages : List (List Fields),
        batches.map Batch.data = pages.map (fun rows => .list (rows.map .object)) ∧
        choices = pages.flatten.map w.choice := by
  induction batches generalizing choices with
  | nil =>
    cases hok
    exact ⟨by simp, [], rfl, rfl⟩
  | cons batch rest ih =>
    rw [projectPages] at hok
    split at hok
    · cases hok
    next hstatus =>
    cases hdata : batch.data with
    | list items =>
      rw [hdata] at hok
      simp only at hok
      cases hitems : projectAll (project w) items with
      | error e =>
        rw [hitems] at hok
        cases hok
      | ok first =>
        rw [hitems] at hok
        cases hrest : projectPages w.dataSet (project w) rest with
        | error e =>
          rw [hrest] at hok
          cases hok
        | ok later =>
          rw [hrest] at hok
          cases hok
          obtain ⟨rows, rfl, rfl⟩ := projectAll_ok hitems
          obtain ⟨hcomplete, pages, hpages, rfl⟩ := ih hrest
          refine ⟨List.forall_mem_cons.mpr ⟨by simpa using hstatus, hcomplete⟩,
            rows :: pages, ?_, ?_⟩
          · rw [List.map_cons, List.map_cons, hdata, hpages]
          · rw [List.flatten_cons, List.map_append]
    | _ =>
      rw [hdata] at hok
      cases hok

/-! ## What is wrong with pages -/

/-- What keeps a batch from giving choices, in order: that it is not complete, that its data is no
list, or each item that is no object. -/
def offences (dataSet : String) (batch : Batch) : List Failure :=
  if batch.status ≠ .complete then [.pendingChoices dataSet]
  else match batch.data with
    | .list items =>
      (items.filter (·.object?.isNone)).map fun _ => .invalidDataSet dataSet
    | _ => [.invalidDataSet dataSet]

def Wiring.isPlain (w : Wiring) : Value → Bool
  | .object row => (Fields.get row w.valueProperty).isScalar
  | _ => true

def Wiring.isPlainBatch (w : Wiring) (batch : Batch) : Bool :=
  match batch.data with
  | .list items => items.all w.isPlain
  | _ => true

theorem projectAll_plain {w : Wiring} {items : List Value}
    (hplain : ∀ item ∈ items, w.isPlain item = true) :
    match (items.filter (·.object?.isNone)).map fun _ => Failure.invalidDataSet w.dataSet with
    | [] => ∃ choices, projectAll (project w) items = .ok choices
    | e :: _ => projectAll (project w) items = .error e := by
  induction items with
  | nil => exact ⟨[], rfl⟩
  | cons item rest ih =>
    obtain ⟨hitem, hitems⟩ := List.forall_mem_cons.mp hplain
    have hrest := ih hitems
    rw [projectAll]
    cases item with
    | object row =>
      rw [project_scalar hitem,
        List.filter_cons_of_neg (by simp [Value.object?])]
      revert hrest
      cases (rest.filter (·.object?.isNone)).map fun _ => Failure.invalidDataSet w.dataSet with
      | nil =>
        rintro ⟨later, hlater⟩
        exact ⟨w.choice row :: later, by simp only [hlater]; rfl⟩
      | cons e more =>
        intro hlater
        simp only [hlater]
        rfl
    | _ => rfl

/-- Pages with plain values give choices unless something is wrong with them; then the first thing
that is wrong decides. -/
theorem projectPages_plain {w : Wiring} {batches : List Batch}
    (hplain : ∀ batch ∈ batches, w.isPlainBatch batch = true) :
    match batches.flatMap (offences w.dataSet) with
    | [] => ∃ choices, projectPages w.dataSet (project w) batches = .ok choices
    | e :: _ => projectPages w.dataSet (project w) batches = .error e := by
  induction batches with
  | nil => exact ⟨[], rfl⟩
  | cons batch rest ih =>
    obtain ⟨hbatch, hbatches⟩ := List.forall_mem_cons.mp hplain
    have hrest := ih hbatches
    rw [projectPages, List.flatMap_cons, offences]
    by_cases hstatus : batch.status ≠ .complete
    · rw [if_pos hstatus, if_pos hstatus]
      rfl
    rw [if_neg hstatus, if_neg hstatus]
    cases hdata : batch.data with
    | list items =>
      simp only
      rw [Wiring.isPlainBatch, hdata, List.all_eq_true] at hbatch
      have hitems := projectAll_plain hbatch
      revert hitems
      cases (items.filter (·.object?.isNone)).map fun _ => Failure.invalidDataSet w.dataSet with
      | cons e more =>
        intro hitems
        simp only [hitems, List.cons_append]
      | nil =>
        rintro ⟨first, hfirst⟩
        simp only [hfirst, List.nil_append]
        revert hrest
        cases rest.flatMap (offences w.dataSet) with
        | nil =>
          rintro ⟨later, hlater⟩
          exact ⟨first ++ later, by simp only [hlater]; rfl⟩
        | cons e more =>
          intro hlater
          simp only [hlater]
          rfl
    | _ => rfl

/-! ## All choices -/

/-- The fetched choices of a criterion and the calls after the fetch: parameters are resolved in the
criteria alone, all pages come complete with rows, and the choices of all rows are sorted. -/
structure Collects (source : Source) (c : Criterion) (w : Wiring) (values : Fields) (h : Host)
    (calls : List Call) (params? : Option Fields) (pages : List (List Fields))
    (fetched : List Choice) : Prop where
  params : (resolveParams none [("criteria", .object values)] c.dataSetParams h).1 = .ok params?
  batches : ∃ batches, Paged source w.dataSet params? h.calls none batches calls ∧
    (∀ batch ∈ batches, batch.status = .complete) ∧
    batches.map Batch.data = pages.map fun rows => .list (rows.map .object)
  sorted : Choice.Sorts (pages.flatten.map w.choice) fetched

section Choosing

variable {source : Source} {maxPages : Option Int} {c : Criterion} {w : Wiring}
  {values scope : Fields} {h h' : Host}

theorem fetchChoices_collects {fetched : List Choice}
    (hrun : fetchChoices source maxPages w c values h = (.ok fetched, h')) :
    ∃ params pages, Collects source c w values h h'.calls params pages fetched := by
  obtain ⟨params, h₁, hparams, hpaged⟩ := bind_ok hrun
  obtain ⟨batches, h₂, hbatches, hprojected⟩ := bind_ok hpaged
  obtain ⟨choices, h₃, hlift, hpure⟩ := bind_ok hprojected
  obtain ⟨hchoices, rfl⟩ := lift_ok hlift
  obtain ⟨rfl, rfl⟩ := pure_ok hpure
  have hall := fetchAll_paged hbatches
  rw [keeps_ok ((resolveParams_quiet none _ _).keeps calls_steady) hparams] at hall
  obtain ⟨hcomplete, pages, hpages, rfl⟩ := projectPages_ok hchoices
  exact ⟨params, pages, by rw [hparams], ⟨batches, hall, hcomplete, hpages⟩,
    Choice.sortByLabel_sorts _⟩

/-- A fetch that comes to an end fails by the first thing that is wrong with its pages, if any. -/
theorem fetchChoices_plain {params : Option Fields} {h₁ : Host} {batches : List Batch}
    (hparams : resolveParams none [("criteria", .object values)] c.dataSetParams h =
      (.ok params, h₁))
    (hbatches : (source.fetchAll w.dataSet params maxPages h₁).1 = .ok batches)
    (hplain : ∀ batch ∈ batches, w.isPlainBatch batch = true) :
    match batches.flatMap (offences w.dataSet) with
    | [] => ∃ fetched, (fetchChoices source maxPages w c values h).1 = .ok fetched
    | e :: _ => (fetchChoices source maxPages w c values h).1 = .error e := by
  have hpages := projectPages_plain hplain
  rw [fetchChoices, bind_apply, hparams]
  dsimp only
  rw [bind_of_ok hbatches, bind_apply, lift_apply]
  revert hpages
  cases batches.flatMap (offences w.dataSet) with
  | nil =>
    rintro ⟨choices, hchoices⟩
    exact ⟨Choice.sortByLabel choices, by rw [hchoices]; rfl⟩
  | cons e more =>
    intro hfails
    simp only [hfails]

theorem choices_wired (hwiring : c.wiring? = some w) :
    c.choices source maxPages values scope =
      fetchChoices source maxPages w c values >>= fun fetched =>
        (· ++ fetched) <$> resolveChoices scope (c.fixedChoices.getD []) := by
  unfold choices
  rw [hwiring]
  rfl

/-- The choices that are offered are the fixed ones and then the fetched ones, of which none is
lost, added or out of order. A fetch that comes to an end, all rows having plain values, fails
exactly when something is wrong with its pages; of several things the first one decides. -/
theorem choices_account (source : Source) (maxPages : Option Int) (c : Criterion)
    (values scope : Fields) (h : Host) :
    (∀ result h', c.choices source maxPages values scope h = (.ok result, h') →
      ∃ fixed fetched, result = fixed ++ fetched ∧
        List.Forall₂ (Choice.Resolved scope h) (c.fixedChoices.getD []) fixed ∧
        match c.wiring? with
        | none => fetched = [] ∧ h'.calls = h.calls
        | some w => ∃ params pages, Collects source c w values h h'.calls params pages fetched) ∧
    ∀ w params h₁ batches, c.wiring? = some w →
      resolveParams none [("criteria", .object values)] c.dataSetParams h = (.ok params, h₁) →
      (source.fetchAll w.dataSet params maxPages h₁).1 = .ok batches →
      (∀ batch ∈ batches, w.isPlainBatch batch = true) →
      match batches.flatMap (offences w.dataSet) with
      | e :: _ => (c.choices source maxPages values scope h).1 = .error e
      | [] => ∀ e, (c.choices source maxPages values scope h).1 = .error e ↔
          (resolveChoices scope (c.fixedChoices.getD []) h).1 = .error e := by
  have hquiet := resolveChoices_quiet scope (c.fixedChoices.getD [])
  constructor
  · intro result h' hrun
    cases hwiring : c.wiring? with
    | none =>
      unfold choices at hrun
      rw [hwiring, pure_bind] at hrun
      obtain ⟨fixed, h₁, hfixed, hpure⟩ := bind_ok hrun
      obtain ⟨rfl, rfl⟩ := pure_ok hpure
      exact ⟨fixed, [], rfl, resolveChoices_resolved hfixed, rfl,
        keeps_ok (hquiet.keeps calls_steady) hfixed⟩
    | some w =>
      rw [choices_wired hwiring] at hrun
      obtain ⟨fetched, h₁, hfetched, hrest⟩ := bind_ok hrun
      obtain ⟨fixed, hfixed, rfl⟩ := map_ok hrest
      have hknown := keeps_ok ((fetchChoices_narrow source maxPages w c values).keeps known_aloof)
        hfetched
      refine ⟨fixed, fetched, rfl, ?_, ?_⟩
      · exact (resolveChoices_resolved hfixed).imp fun c r hr => hr.of_known hknown
      · rw [keeps_ok (hquiet.keeps calls_steady) hfixed]
        exact fetchChoices_collects hfetched
  · intro w params h₁ batches hwiring hparams hbatches hplain
    have hfetch := fetchChoices_plain hparams hbatches hplain
    rw [choices_wired hwiring]
    revert hfetch
    cases batches.flatMap (offences w.dataSet) with
    | cons e more =>
      intro hfails
      rw [bind_of_error hfails]
    | nil =>
      rintro ⟨fetched, hfetched⟩ e
      have hknown := (fetchChoices_narrow source maxPages w c values).keeps known_aloof h
      rw [bind_of_ok hfetched, map_apply, ← hquiet.sees hknown]
      cases (resolveChoices scope (c.fixedChoices.getD []) _).1 <;> simp [Except.map]

end Choosing

def pagedSource (answers : List (Option String × Value)) : Source := fun _ call =>
  match answers.lookup call.page with
  | some answer => .ok answer
  | none => .error (.fault .noSuchData)

def completePage (rows : List Value) (nextPage : Value) : Value :=
  .object [("status", .text "complete"), ("data", .list rows), ("nextPage", nextPage)]

def groupRow (id : Int) (name : Value) : Value := .object [("id", .int id), ("name", name)]

def kindGroup : Criterion :=
  ⟨.select, "group", "Group", none, none, none, some "groups",
    some [("kind", .text "\x7b\x7bcriteria.kind\x7d\x7d")], some "id", some "name",
    some [⟨.text "all", some "All \x7b\x7bcriteria.kind\x7d\x7d groups"⟩]⟩

def namedGroups : Source := pagedSource
  [(none, completePage [groupRow 1 (.text "beta"), groupRow 2 .null, groupRow 3 (.text "Alpha")]
      (.text "p2")),
    (some "p2", completePage [groupRow 4 (.text "ALPHA")] .null)]

def brokenGroups : Source := pagedSource
  [(none, completePage [groupRow 1 (.text "beta"), .int 7] (.text "p2")),
    (some "p2", .object [("status", .text "pending")])]

def openKind : Fields := [("kind", .text "open")]

/-- The named groups are all offered, and of the broken ones none: the number comes before the page
that is pending. -/
theorem choices_account_groups :
    (∃ result h' fixed fetched params pages,
      kindGroup.choices namedGroups none openKind (Scope.start openKind []) Host.bare =
        (.ok result, h') ∧ result = fixed ++ fetched ∧
      List.Forall₂ (Choice.Resolved (Scope.start openKind []) Host.bare)
        [⟨.text "all", some "All \x7b\x7bcriteria.kind\x7d\x7d groups"⟩] fixed ∧
      Collects namedGroups kindGroup ⟨"groups", "id", "name"⟩ openKind Host.bare h'.calls params
        pages fetched) ∧
    ∃ e, (kindGroup.choices brokenGroups none openKind (Scope.start openKind []) Host.bare).1 =
      .error e ∧ e.name = "InvalidDataSetError" := by
  constructor
  · have hruns : (kindGroup.choices namedGroups none openKind (Scope.start openKind [])
        Host.bare).1.toOption.isSome = true := by
      decide +kernel
    obtain ⟨result, hresult⟩ := Option.isSome_iff_exists.mp hruns
    have hrun := ok_of_toOption hresult
    obtain ⟨fixed, fetched, happend, hfixed, params, pages, hcollects⟩ :=
      (choices_account namedGroups none kindGroup openKind _ Host.bare).1 result _ hrun
    exact ⟨result, _, fixed, fetched, params, pages, hrun, happend, hfixed, hcollects⟩
  · have hruns : ((resolveParams none [("criteria", .object openKind)] kindGroup.dataSetParams >>=
        fun params => brokenGroups.fetchAll "groups" params none) Host.bare).1.toOption.map
        (fun batches => (batches.all (Wiring.isPlainBatch ⟨"groups", "id", "name"⟩),
          (batches.flatMap (offences "groups")).head?.map Failure.name)) =
        some (true, some "InvalidDataSetError") := by
      decide +kernel
    obtain ⟨batches, hbatches, hparts⟩ := Option.map_eq_some_iff.mp hruns
    obtain ⟨hplain, hfirst⟩ := Prod.mk.inj hparts
    obtain ⟨params, h₁, hparams, hfetch⟩ := bind_ok (ok_of_toOption hbatches)
    have hfails := (choices_account brokenGroups none kindGroup openKind
      (Scope.start openKind []) Host.bare).2 ⟨"groups", "id", "name"⟩ params h₁ batches rfl hparams
      (congrArg Prod.fst hfetch) (List.all_eq_true.mp hplain)
    obtain ⟨e, hhead, hname⟩ := Option.map_eq_some_iff.mp hfirst
    obtain ⟨more, hall⟩ := List.head?_eq_some_iff.mp hhead
    rw [hall] at hfails
    exact ⟨e, hfails, hname⟩

end Criterion

end Dossier
