import Dossier.Proofs.Document.Continuation
import Dossier.Proofs.Source.Exchange
import Dossier.Proofs.Value.Entries

/-!
# The course of a build

A build has errands: the lookups of its blueprint in order, then the rows, then, on the first page
of a sync, the choices of the criteria to print, page by page. It runs them one after the other and
goes on only from a complete batch, so that whatever stops it, nothing is asked of the source after
that.
-/

set_option autoImplicit false

namespace Dossier

open Run

/-! ## Scopes with lookups -/

namespace Scope

/-- A scope with lookups fetched one after the other; of two under one name the later one counts. -/
def withLookups (start seen : Fields) : Fields :=
  start.put "lookups" (.object (Fields.ofEntries seen))

theorem lookups_withLookups (start seen : Fields) :
    lookups (withLookups start seen) = Fields.ofEntries seen := by
  rw [lookups, withLookups, Fields.get_eq, Fields.get?_put_self]
  rfl

theorem takesLookups_withLookups (start seen : Fields) :
    takesLookups (withLookups start seen) = true := by
  rw [takesLookups, withLookups, Fields.get?_put_self]
  rfl

theorem addLookup_withLookups (start seen : Fields) (name : String) (data : Value) :
    addLookup (withLookups start seen) name data = withLookups start (seen ++ [(name, data)]) := by
  rw [addLookup, lookups_withLookups, withLookups, withLookups, Fields.put_put,
    Fields.ofEntries_concat]

/-- A request starts without lookups. -/
theorem start_withLookups (criteria messages : Fields) :
    withLookups (start criteria messages) [] = start criteria messages := by
  simp [withLookups, start, Fields.put, Fields.ofEntries, Fields.merge]

end Scope

/-! ## Errands -/

/-- What a build has to fetch. Choices are fetched from a page on. -/
inductive Errand where
  | lookup (l : Lookup)
  | rows (b : Blueprint) (page : Option String) (metadata : Value)
  | choices (w : Criterion.Wiring) (params : Option Fields) (page : Option String)

namespace Errand

/-- The call of an errand. Its parameters are resolved in the scope, those of choices in the
criteria alone. -/
def call (values scope : Fields) (h : Host) : Errand → Except Failure Call
  | lookup l =>
    (resolveParams none scope l.dataSetParams h).1.map fun params =>
      ⟨l.dataSet, params, none, .null⟩
  | rows b page metadata =>
    (resolveParams none scope b.dataSetParams h).1.map fun params =>
      ⟨b.dataSet, params.map (addSaved values), page, metadata⟩
  | choices w params page =>
    (resolveParams none [("criteria", .object values)] params h).1.map fun params =>
      ⟨w.dataSet, params, page, .null⟩

def more (batch : Batch) : Errand → List Errand
  | choices w params _ => batch.cursor?.toList.map fun cursor => choices w params (some cursor)
  | _ => []

def seen (batch : Batch) (before : Fields) : Errand → Fields
  | lookup l => before ++ [(l.name, batch.data)]
  | _ => before

def Ends : Errand → Except Failure Batch → Except Failure Delivery → Prop
  | _, .error e, result => result = .error e
  | lookup l, .ok _, result => result = .error (.pendingLookup l.dataSet)
  | rows .., .ok batch, result => result = .ok (Builder.pending batch)
  | choices .., .ok _, result => ∃ e, result = .error e

end Errand

/-- The errands of printing a criterion: choices that are fetched, unless the criterion is declared
optional and has no value. -/
def Criterion.errands (values : Fields) (c : Criterion) : List Errand :=
  if c.control = .select ∧
    ¬ (c.isRequired = some false ∧ (values.get c.property).isNull = true) then
    c.wiring?.toList.map fun w => .choices w c.dataSetParams none
  else []

/-- The errands of printing criteria, in the order of their placements. Printing goes no further
than to a name that is unknown. -/
def Criteria.errands (criteria : Criteria) (values : Fields) : List Placement → List Errand
  | [] => []
  | p :: rest =>
    match criteria.lookup p.name with
    | none => []
    | some c => c.errands values ++ criteria.errands values rest

def Order.errands (o : Order) (criteria : Criteria) (d : Definition) (b : Blueprint) :
    List Errand :=
  b.lookups.map .lookup ++ .rows b o.page o.metadata ::
    if o.page = none then criteria.errands o.sync.settings.criteria d.criteria else []

/-- The course of a build from the lookups seen so far: its errands as far as they are run, the
exchanges, and how the build ends. What the parameters of a call refer to is there when it is made:
the start of the request and the lookups seen. -/
inductive Course (start values : Fields) (h : Host) :
    Fields → List Errand → List Exchange → Except Failure Delivery → Prop
  | done {seen : Fields} {delivery : Delivery}
      (written : ∃ document, delivery.documents = [document]) :
      Course start values h seen [] [] (.ok delivery)
  | failed (seen : Fields) (errands : List Errand) (e : Failure) :
      Course start values h seen errands [] (.error e)
  | last {seen : Fields} {errand : Errand} {rest : List Errand} {x : Exchange}
      {result : Except Failure Delivery}
      (call : errand.call values (Scope.withLookups start seen) h = .ok x.call)
      (incomplete : ∀ batch, x.outcome = .ok batch → batch.status = .pending)
      (ends : errand.Ends x.outcome result) :
      Course start values h seen (errand :: rest) [x] result
  | next {seen : Fields} {errand : Errand} {rest : List Errand} {x : Exchange} {batch : Batch}
      {xs : List Exchange} {result : Except Failure Delivery}
      (call : errand.call values (Scope.withLookups start seen) h = .ok x.call)
      (outcome : x.outcome = .ok batch) (complete : batch.status = .complete)
      (later : Course start values h (errand.seen batch seen)
        (errand.more batch ++ rest) xs result) :
      Course start values h seen (errand :: rest) (x :: xs) result

def Follows (source : Source) (start values : Fields) (h : Host) (seen : Fields)
    (errands : List Errand) (x : Run Delivery) (h₀ : Host) : Prop :=
  ∃ xs, (x h₀).2.calls = h₀.calls ++ xs.map Exchange.call ∧ Answered source h₀.calls xs ∧
    Course start values h seen errands xs (x h₀).1

section Following

variable {α : Type} {source : Source} {start values seen : Fields} {h h₀ : Host}
  {errands rest : List Errand}

theorem failed_follows {x : Run Delivery} {e : Failure} (hfails : (x h₀).1 = .error e)
    (hcalls : (x h₀).2.calls = h₀.calls) : Follows source start values h seen errands x h₀ := by
  rw [Follows, hfails]
  exact ⟨[], by simpa using hcalls, trivial, .failed seen errands e⟩

/-- What asks for nothing is no step of a course. -/
theorem quiet_follows {x : Run α} {f : α → Run Delivery} (hx : Quiet x)
    (hknown : h₀.known = h.known)
    (hf : ∀ a h₁, (x h).1 = .ok a → h₁.known = h.known →
      Follows source start values h seen errands (f a) h₁) :
    Follows source start values h seen errands (x >>= f) h₀ := by
  have hcalls := hx.keeps calls_steady h₀
  have hkept := hx.keeps known_aloof.toSteady h₀
  cases hresult : (x h₀).1 with
  | error e =>
    apply failed_follows
    · rw [bind_of_error hresult]
    · rw [bind_of_error hresult]
      exact hcalls
  | ok a =>
    have hhere : (x h).1 = .ok a := by rw [← hx.sees hknown, hresult]
    obtain ⟨xs, hlog, hanswered, hcourse⟩ := hf a (x h₀).2 hhere (hkept.trans hknown)
    rw [hcalls] at hlog hanswered
    rw [Follows, bind_of_ok hresult]
    exact ⟨xs, hlog, hanswered, hcourse⟩

theorem zones_follows {f : Calendar.Zones → Run Delivery}
    (hf : Follows source start values h seen errands (f h₀.zones) h₀) :
    Follows source start values h seen errands (Run.zones >>= f) h₀ := hf

/-- A fetch is the next step of a course. -/
theorem fetch_follows {call : Call} {errand : Errand} {f : Batch → Run Delivery}
    (hcall : errand.call values (Scope.withLookups start seen) h = .ok call)
    (hknown : h₀.known = h.known)
    (hcomplete : ∀ batch h₁, batch.status = .complete → h₁.known = h.known →
      Follows source start values h (errand.seen batch seen) (errand.more batch ++ rest)
        (f batch) h₁)
    (hpending : ∀ batch h₁, batch.status = .pending → h₁.known = h.known →
      errand.Ends (.ok batch) (f batch h₁).1 ∧ (f batch h₁).2.calls = h₁.calls) :
    Follows source start values h seen (errand :: rest) (source.fetch call >>= f) h₀ := by
  obtain ⟨hout, hcalls⟩ := fetch_outcome source call h₀
  have hkept := ((fetch_narrow source call).keeps known_aloof h₀).trans hknown
  cases hresult : (source.fetch call h₀).1 with
  | error e =>
    rw [hresult] at hout
    rw [Follows, bind_of_error hresult]
    exact ⟨[⟨call, .error e⟩], hcalls, ⟨hout, trivial⟩, .last hcall nofun rfl⟩
  | ok batch =>
    rw [hresult] at hout
    rw [Follows, bind_of_ok hresult]
    cases hstatus : batch.status with
    | complete =>
      obtain ⟨xs, hlog, hanswered, hcourse⟩ := hcomplete batch _ hstatus hkept
      rw [hcalls] at hlog hanswered
      exact ⟨⟨call, .ok batch⟩ :: xs, by simpa using hlog, ⟨hout, hanswered⟩,
        .next hcall rfl hstatus hcourse⟩
    | pending =>
      obtain ⟨hends, hsilent⟩ := hpending batch _ hstatus hkept
      have hincomplete : ∀ other, Except.ok batch = (.ok other : Except Failure Batch) →
          other.status = .pending := by
        rintro _ ⟨⟩
        exact hstatus
      exact ⟨[⟨call, .ok batch⟩], hsilent.trans hcalls, ⟨hout, trivial⟩,
        .last hcall hincomplete hends⟩

/-- The end of a course: a run without calls that gives a document or fails. -/
theorem silent_follows {x : Run Delivery} (hx : Keeps Host.calls x)
    (hdocument : ∀ delivery, (x h₀).1 = .ok delivery →
      ∃ document, delivery.documents = [document]) :
    Follows source start values h seen [] x h₀ := by
  match hrun : (x h₀).1 with
  | .error e => exact failed_follows hrun (hx h₀)
  | .ok delivery =>
    rw [Follows, hrun]
    exact ⟨[], by simpa using hx h₀, trivial, .done (hdocument delivery hrun)⟩

end Following

/-! ## Lookups -/

namespace Lookup

def run (source : Source) (lookups : List Lookup) (scope : Fields) : Run Fields := do
  let looked ← fetchAll source lookups scope
  match looked.failure with
  | some e => throw e
  | none => pure looked.scope

theorem run_cons (source : Source) (l : Lookup) (rest : List Lookup) (scope : Fields) :
    run source (l :: rest) scope =
      l.fetch source scope >>= fun data => run source rest (Scope.addLookup scope l.name data) := by
  funext h
  have hobserve : observe (l.fetch source scope) h =
      (.ok (l.fetch source scope h).1, (l.fetch source scope h).2) := rfl
  rw [run, fetchAll, bind_assoc, bind_apply, hobserve, bind_apply]
  match l.fetch source scope h with
  | (.error e, h₁) => rfl
  | (.ok data, h₁) => rfl

section Following

variable {source : Source} {start values : Fields} {h h₀ : Host} {rest : List Errand}

/-- Lookups are fetched one by one, each seeing the ones before. -/
theorem run_follows {lookups : List Lookup} {seen : Fields} {f : Fields → Run Delivery}
    (hknown : h₀.known = h.known)
    (hf : ∀ seen' h₁, h₁.known = h.known →
      Follows source start values h seen' rest (f (Scope.withLookups start seen')) h₁) :
    Follows source start values h seen (lookups.map .lookup ++ rest)
      (run source lookups (Scope.withLookups start seen) >>= f) h₀ := by
  induction lookups generalizing seen h₀ with
  | nil => exact hf seen h₀ hknown
  | cons l lookups ih =>
    rw [run_cons, Lookup.fetch]
    simp only [bind_assoc]
    apply quiet_follows (resolveParams_quiet none _ _) hknown
    intro params h₁ hparams hknown₁
    apply fetch_follows _ hknown₁
    · intro batch h₂ hcomplete hknown₂
      rw [if_neg (by simp [hcomplete]), if_pos (Scope.takesLookups_withLookups start seen),
        pure_bind, Scope.addLookup_withLookups]
      exact ih hknown₂
    · intro batch h₂ hpending _
      rw [if_pos (by simp [hpending])]
      exact ⟨rfl, rfl⟩
    · simp [Errand.call, hparams, Except.map]

end Following

end Lookup

/-! ## Choices -/

namespace Criterion

theorem projectPages_pending {dataSet : String} {project : Value → Except Failure Choice}
    {batches : List Batch} {batch : Batch} (hmem : batch ∈ batches)
    (hpending : batch.status = .pending) :
      ∃ e, projectPages dataSet project batches = .error e := by
  induction batches with
  | nil => cases hmem
  | cons first rest ih =>
    rw [projectPages]
    split
    · exact ⟨_, rfl⟩
    · next hstatus =>
      obtain rfl | hrest := List.mem_cons.mp hmem
      · simp [hpending] at hstatus
      · obtain ⟨e, he⟩ := ih hrest
        rw [he]
        split
        · split <;> exact ⟨_, rfl⟩
        · exact ⟨_, rfl⟩

section Following

variable {source : Source} {start values seen : Fields} {h h₀ : Host} {rest : List Errand}
  {w : Wiring} {params params' : Option Fields}

/-- Pages are fetched along their cursors. -/
theorem fetchPages_follows {limit : Int} {left : Nat} {page : Option String}
    {f : List Batch → Run Delivery}
    (hparams : (resolveParams none [("criteria", .object values)] params h).1 = .ok params')
    (hknown : h₀.known = h.known)
    (hf : ∀ batches h₁, h₁.known = h.known →
      Follows source start values h seen rest (f batches) h₁)
    (hpending : ∀ batches h₁, (∃ batch ∈ batches, batch.status = .pending) →
      (∃ e, (f batches h₁).1 = .error e) ∧ (f batches h₁).2.calls = h₁.calls) :
    Follows source start values h seen (.choices w params page :: rest)
      (source.fetchPages w.dataSet params' limit left page >>= f) h₀ := by
  induction left generalizing page h₀ f with
  | zero => exact failed_follows rfl rfl
  | succ left ih =>
    rw [Source.fetchPages, bind_assoc]
    apply fetch_follows _ hknown
    · intro batch h₁ hcomplete hknown₁
      rw [if_pos hcomplete]
      cases hcursor : batch.cursor? with
      | none =>
        simp only [Errand.more, hcursor, pure_bind]
        exact hf [batch] h₁ hknown₁
      | some cursor =>
        simp only [Errand.more, hcursor, bind_assoc, pure_bind]
        apply ih hknown₁
        · intro batches
          exact hf (batch :: batches)
        · rintro batches h₂ ⟨other, hother, hstatus⟩
          exact hpending _ h₂ ⟨other, List.mem_cons_of_mem _ hother, hstatus⟩
    · intro batch h₁ hstatus _
      rw [if_neg (by simp [hstatus]), pure_bind]
      exact hpending [batch] h₁ ⟨batch, by simp, hstatus⟩
    · simp [Errand.call, hparams, Except.map]

/-- Choices from their pages: a page that is pending ends the build. -/
theorem projected_follows {limit : Int} {f : List Choice → Run Delivery}
    (hparams : (resolveParams none [("criteria", .object values)] params h).1 = .ok params')
    (hknown : h₀.known = h.known)
    (hf : ∀ choices h₁, h₁.known = h.known →
      Follows source start values h seen rest (f choices) h₁) :
    Follows source start values h seen (.choices w params none :: rest)
      (source.fetchPages w.dataSet params' limit limit.toNat none >>= fun batches =>
        lift (projectPages w.dataSet (project w) batches) >>= f) h₀ := by
  apply fetchPages_follows hparams hknown
  · intro batches h₁ hknown₁
    apply quiet_follows (lift_quiet _) hknown₁
    intro choices h₂ _
    exact hf choices h₂
  · rintro batches h₁ ⟨batch, hmem, hpending⟩
    obtain ⟨e, he⟩ := projectPages_pending hmem hpending
    rw [he]
    exact ⟨⟨e, rfl⟩, rfl⟩

/-- The choices of a criterion are an errand when they are fetched. -/
theorem choices_follows {maxPages : Option Int} {c : Criterion} {scope : Fields}
    {f : List Choice → Run Delivery} (hknown : h₀.known = h.known)
    (hf : ∀ choices h₁, h₁.known = h.known →
      Follows source start values h seen rest (f choices) h₁) :
    Follows source start values h seen
      ((c.wiring?.toList.map fun w => .choices w c.dataSetParams none) ++ rest)
      (c.choices source maxPages values scope >>= f) h₀ := by
  have fixed (fetched : List Choice) (h₁ : Host) (hknown₁ : h₁.known = h.known) :
      Follows source start values h seen rest (do
        let fixed ← resolveChoices scope (c.fixedChoices.getD [])
        f (fixed ++ fetched)) h₁ := by
    apply quiet_follows (resolveChoices_quiet scope _) hknown₁
    intro choices h₂ _
    exact hf _ h₂
  unfold Criterion.choices
  cases c.wiring? with
  | none =>
    simp only [bind_assoc, pure_bind]
    exact fixed [] h₀ hknown
  | some w =>
    simp only [fetchChoices, Source.fetchAll, bind_assoc, pure_bind]
    apply quiet_follows (resolveParams_quiet none _ _) hknown
    intro params h₁ hparams hknown₁
    cases maxPages.filter (· ≠ 0) with
    | some limit => exact projected_follows hparams hknown₁ fun choices h₂ => fixed _ h₂
    | none =>
      dsimp only
      rw [bind_assoc]
      apply quiet_follows (map_quiet _ settings_quiet) hknown₁
      intro limit h₂ _ hknown₂
      exact projected_follows hparams hknown₂ fun choices h₃ => fixed _ h₃

end Following

end Criterion

namespace Criteria

section Following

variable {source : Source} {start values seen scope : Fields} {h h₀ : Host} {rest : List Errand}

theorem printOne_follows {c : Criterion} {f : PrintedCriterion → Run Delivery}
    (hknown : h₀.known = h.known)
    (hf : ∀ printed h₁, h₁.known = h.known →
      Follows source start values h seen rest (f printed) h₁) :
    Follows source start values h seen (c.errands values ++ rest)
      (printOne source c values scope >>= f) h₀ := by
  unfold printOne Criterion.errands
  rw [bind_assoc]
  apply quiet_follows (resolve_quiet scope _) hknown
  intro label h₁ _ hknown₁
  dsimp only
  by_cases hunset : c.isRequired = some false ∧ (values.get c.property).isNull = true
  · rw [if_neg (by simp [hunset]), if_pos hunset, bind_assoc]
    apply quiet_follows (resolve_quiet scope _) hknown₁
    intro shown h₂ _
    exact hf _ h₂
  · rw [if_neg hunset]
    simp only [bind_assoc, pure_bind, printedValue]
    cases hcontrol : c.control with
    | text =>
      simp only [reduceCtorEq, false_and, if_false, List.nil_append, pure_bind]
      exact hf _ h₁ hknown₁
    | select =>
      rw [if_pos ⟨rfl, hunset⟩]
      simp only [bind_assoc]
      apply Criterion.choices_follows hknown₁
      intro choices h₂ hknown₂
      cases choices.find? fun choice => choice.value.same (values.get c.property) with
      | some choice => exact hf _ h₂ hknown₂
      | none => exact hf _ h₂ hknown₂

/-- Criteria are printed one by one, fetching choices where their errands say so. -/
theorem print_follows {criteria : Criteria} {placements : List Placement}
    {f : List PrintedCriterion → Run Delivery} (hknown : h₀.known = h.known)
    (hf : ∀ printed h₁, h₁.known = h.known → Follows source start values h seen [] (f printed) h₁) :
    Follows source start values h seen (criteria.errands values placements)
      (criteria.print source values scope placements >>= f) h₀ := by
  induction placements generalizing h₀ f with
  | nil => exact hf [] h₀ hknown
  | cons p placements ih =>
    unfold print errands
    cases criteria.lookup p.name with
    | none => exact failed_follows rfl rfl
    | some c =>
      simp only [bind_assoc, pure_bind]
      apply printOne_follows hknown
      intro printed h₁ hknown₁
      exact ih hknown₁ fun later => hf (printed :: later)

end Following

end Criteria

namespace Builder

def onward (builder : Builder) (d : Definition) (o : Order) (b : Blueprint) : Run Delivery := do
  let scope ← Lookup.run builder.source b.lookups (builder.startScope o)
  let params ← Builder.params o.sync.settings.criteria scope b
  let batch ← builder.source.fetch ⟨b.dataSet, params, o.page, o.metadata⟩
  builder.deliver d o ⟨b, scope, ⟨b.dataSet, params, o.page, o.metadata⟩, batch⟩

theorem inside_onward (builder : Builder) (d : Definition) (o : Order) :
    builder.buildInside d o = d.compose (builder.startScope o) >>= builder.onward d o := by
  rw [buildInside_eq, fetched]
  simp only [bind_assoc, pure_bind]
  rfl

section Following

variable {builder : Builder} {criteria : Criteria} {d : Definition} {o : Order}
  {start seen : Fields} {h h₀ : Host}

theorem printed_follows (hprovider : builder.provider = some (.declared criteria)) {scope : Fields}
    {f : List PrintedCriterion → Run Delivery} (hknown : h₀.known = h.known)
    (hf : ∀ printed h₁,
      Follows builder.source start o.sync.settings.criteria h seen [] (f printed) h₁) :
    Follows builder.source start o.sync.settings.criteria h seen
      (if o.page = none then criteria.errands o.sync.settings.criteria d.criteria else [])
      (builder.printed d o scope >>= f) h₀ := by
  unfold Builder.printed
  rw [hprovider]
  cases o.page with
  | none => exact Criteria.print_follows hknown fun printed h₁ _ => hf printed h₁
  | some page => exact hf [] h₀

/-- A document is delivered at the end of a course. -/
theorem delivered_follows {x : Run Document} (hx : Keeps Host.calls x) (batch : Batch)
    (values : Fields) :
    Follows builder.source start values h seen [] (do
      let document ← x
      onBuildTracer (·.setAttribute "rows" (.int document.contents.rows.length))
      pure (delivered batch document)) h₀ := by
  apply silent_follows
  · exact bind_keeps hx fun document h₁ => rfl
  · intro delivery hdelivery
    obtain ⟨document, h₁, -, hnoted⟩ := bind_ok (Prod.ext hdelivery rfl)
    obtain ⟨_, h₂, -, hpure⟩ := bind_ok hnoted
    obtain ⟨rfl, -⟩ := pure_ok hpure
    exact ⟨document, rfl⟩

theorem deliver_follows (hprovider : builder.provider = some (.declared criteria)) {f : Fetched}
    (hcomplete : f.batch.status = .complete) (hknown : h₀.known = h.known) :
    Follows builder.source start o.sync.settings.criteria h seen
      (if o.page = none then criteria.errands o.sync.settings.criteria d.criteria else [])
      (builder.deliver d o f) h₀ := by
  unfold deliver
  rw [if_pos hcomplete, document_eq]
  simp only [bind_assoc]
  apply zones_follows
  apply quiet_follows (lift_quiet _) hknown
  intro fetched h₁ _ hknown₁
  apply quiet_follows (formatRows_quiet _ _ _ _) hknown₁
  intro rows h₂ _ hknown₂
  apply quiet_follows (resolveColumns_quiet _ _) hknown₂
  intro columns h₃ _ hknown₃
  rw [write, bind_assoc]
  apply printed_follows hprovider hknown₃
  intro printed h₄
  apply delivered_follows
  apply bind_keeps ((contents_quiet builder o _ _ _ _ _ _ _ _).keeps calls_steady)
  intro contents
  split
  · exact pure_keeps _
  · exact throw_keeps _

/-- From the composed blueprint on a build takes a course. -/
theorem onward_follows (hprovider : builder.provider = some (.declared criteria)) (b : Blueprint)
    (hknown : h₀.known = h.known) :
    Follows builder.source (builder.startScope o) o.sync.settings.criteria h []
      (o.errands criteria d b) (builder.onward d o b) h₀ := by
  rw [Order.errands, onward, startScope, ← Scope.start_withLookups]
  apply Lookup.run_follows hknown
  intro seen h₁ hknown₁
  rw [Builder.params, bind_assoc]
  apply quiet_follows (resolveParams_quiet none _ _) hknown₁
  intro params h₂ hparams hknown₂
  rw [pure_bind]
  apply fetch_follows _ hknown₂
  · intro batch h₃ hcomplete hknown₃
    exact deliver_follows hprovider hcomplete hknown₃
  · intro batch h₃ hpending _
    rw [deliver, if_neg (by simp [hpending])]
    exact ⟨rfl, rfl⟩
  · rw [Errand.call, hparams]
    rfl

end Following

/-- A build composes its blueprint without asking for anything, and then takes a course: lookups,
rows and, on a first page, choices, each only after all before it came complete. -/
theorem build_course {builder : Builder} {criteria : Criteria}
    (hprovider : builder.provider = some (.declared criteria)) (d : Definition) (o : Order)
    (h : Host) :
    match (d.compose (builder.startScope o) h).1 with
    | .error e => (builder.build d o h).1 = .error e ∧ (builder.build d o h).2.calls = h.calls
    | .ok b => Follows builder.source (builder.startScope o) o.sync.settings.criteria h []
        (o.errands criteria d b) (builder.build d o) h := by
  obtain ⟨hout, halike⟩ :=
    spanned_matches onBuildTracer_unseen _ (buildInside_narrow builder d o) h
  change (builder.build d o h).1 = _ at hout
  change (builder.build d o h).2.Alike _ at halike
  have halike₁ := quiet_alike (compose_quiet d (builder.startScope o)) h
  rw [inside_onward, bind_apply] at hout halike
  match hcompose : d.compose (builder.startScope o) h with
  | (.error e, h₁) =>
    rw [hcompose] at hout halike halike₁
    exact ⟨hout, halike.calls.trans halike₁.calls⟩
  | (.ok b, h₁) =>
    rw [hcompose] at hout halike halike₁
    obtain ⟨xs, hlog, hanswered, hcourse⟩ := onward_follows hprovider b halike₁.known
    rw [halike₁.calls] at hlog hanswered
    exact ⟨xs, halike.calls.trans hlog, hanswered, hout ▸ hcourse⟩

def directoryLookups : List Lookup :=
  [⟨"org", "orgs", none⟩, ⟨"org", "teams", some [("id", .text "\x7b\x7blookups.org.id\x7d\x7d")]⟩]

def directory : Definition :=
  ⟨"", [⟨"group", 0⟩, ⟨"state", 0⟩],
    ⟨.monthly, false, "", .tabular, none, "Users", "", "users",
      some [("id", .text "\x7b\x7blookups.org.id\x7d\x7d")], none, directoryLookups,
      [⟨"name", "Name", none, none, none⟩], none, false, []⟩, []⟩

def fetchedSelect (property dataSet : String) (isRequired : Option Bool) : Criterion :=
  ⟨.select, property, property, isRequired, none, none, some dataSet, none, some "id", some "name",
    none⟩

def directoryCriteria : Criteria :=
  [("group", fetchedSelect "group" "groups" none),
    ("state", fetchedSelect "state" "states" (some false))]

def directoryBuilder : Builder :=
  ⟨scripted [completeAnswer (.object [("id", .text "acme")]) .null,
    completeAnswer (.object [("id", .text "core")]) .null,
    completeAnswer (.list [.object [("name", .text "Ada")]]) .null,
    completeAnswer (.list []) (.text "p2"),
    completeAnswer (.list [.object [("id", .text "g1"), ("name", .text "One")]]) .null],
    some (.declared directoryCriteria), [], "proofspec", ""⟩

/-- The rows are those of the second lookup, the choices come in two pages, and the optional state
that is not set is printed without a call. -/
theorem build_course_directory :
    directoryBuilder.provider = some (.declared directoryCriteria) ∧
    ∃ b, (directory.compose (directoryBuilder.startScope rosterOrder) Host.bare).1 = .ok b ∧
      Follows directoryBuilder.source (directoryBuilder.startScope rosterOrder)
        [("group", .text "g1")] Host.bare [] (rosterOrder.errands directoryCriteria directory b)
        (directoryBuilder.build directory rosterOrder) Host.bare ∧
      (directoryBuilder.build directory rosterOrder Host.bare).2.calls.map
        (fun call => (call.dataSet, call.page,
          (call.params.getD []).get? "id" |>.bind Value.text?)) =
        [("orgs", none, none), ("teams", none, some "acme"), ("users", none, some "core"),
          ("groups", none, none), ("groups", some "p2", none)] := by
  have hprovider : directoryBuilder.provider = some (.declared directoryCriteria) := rfl
  have hcourse := build_course hprovider directory rosterOrder Host.bare
  have hcomposed : (directory.compose (directoryBuilder.startScope rosterOrder)
      Host.bare).1.toOption.isSome = true := by
    decide +kernel
  obtain ⟨b, hb⟩ := Option.isSome_iff_exists.mp hcomposed
  have hrun := congrArg Prod.fst (ok_of_toOption hb)
  rw [hrun] at hcourse
  exact ⟨rfl, b, hrun, hcourse, by decide +kernel⟩

end Builder

end Dossier
