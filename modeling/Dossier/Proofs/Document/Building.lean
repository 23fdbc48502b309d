import Dossier.Proofs.Criterion.Printing
import Dossier.Document.Build
import Mathlib.Data.List.Forall2

/-!
# What a build is made of

A build first fetches: it composes the blueprint, fetches its lookups and then one batch of its data
set. From a complete batch it makes one document, whose rows are the fetched ones with companions; a
batch that is pending is handed on. Making a document asks the source for nothing but what the
printed criteria need.
-/

set_option autoImplicit false

namespace Dossier

open Run Calendar

/-! ## Texts and rows -/

namespace Run

theorem zoneName_quiet (timeZone : Option String) : Quiet (Format.zoneName timeZone) := by
  unfold Format.zoneName
  split
  · exact pure_quiet _
  · exact map_quiet _ settings_quiet

theorem date_quiet (zones : Zones) (v : Value) (viewer : Viewer) :
    Quiet (Format.date zones v viewer) := by
  unfold Format.date
  split
  · split
    · exact pure_quiet _
    · exact bind_quiet (zoneName_quiet _) fun _ =>
        bind_quiet (lift_quiet _) fun _ => map_quiet _ (lift_quiet _)
  · exact pure_quiet _

theorem addDate_quiet (zones : Zones) (row : Fields) (column : Column) (viewer : Viewer) :
    Quiet (Format.addDate zones row column viewer) := by
  unfold Format.addDate
  dsimp only
  split
  · exact pure_quiet _
  · refine bind_quiet (date_quiet zones _ viewer) fun shown => ?_
    cases shown <;> exact pure_quiet _

theorem addDates_quiet (zones : Zones) (viewer : Viewer) (columns : List Column) (row : Fields) :
    Quiet (Format.addDates zones viewer columns row) := by
  induction columns generalizing row with
  | nil => exact pure_quiet _
  | cons c rest ih => exact bind_quiet (addDate_quiet zones row c viewer) ih

theorem row_quiet (zones : Zones) (dates numbers : List Column) (viewer : Viewer) (r : Fields) :
    Quiet (Format.row zones dates numbers viewer r) :=
  bind_quiet (addDates_quiet zones viewer dates r) fun _ => lift_quiet _

theorem rows_quiet (zones : Zones) (dates numbers : List Column) (viewer : Viewer)
    (rs : List Fields) : Quiet (Format.rows zones dates numbers viewer rs) := by
  induction rs with
  | nil => exact pure_quiet _
  | cons r rest ih =>
    exact bind_quiet (row_quiet zones dates numbers viewer r) fun _ =>
      bind_quiet ih fun _ => pure_quiet _

theorem resolveColumns_quiet (scope : Fields) (columns : List Column) :
    Quiet (LayoutColumn.resolveAll scope columns) := by
  induction columns with
  | nil => exact pure_quiet _
  | cons c rest ih =>
    refine bind_quiet ?_ fun _ => bind_quiet ih fun _ => pure_quiet _
    exact bind_quiet (resolve_quiet scope c.label) fun _ => pure_quiet _

theorem resolveFilled_quiet (scope : Fields) (s : Option String) :
    Quiet (resolveFilled scope s) := by
  unfold resolveFilled
  split
  · exact map_quiet _ (resolve_quiet scope _)
  · exact pure_quiet _

end Run

def Blueprint.dates (b : Blueprint) : List Column := b.columns.filter (·.type == some .date)

def Blueprint.numbers (b : Blueprint) : List Column := b.columns.filter (·.type == some .number)

namespace Builder

theorem formatRows_quiet (zones : Zones) (b : Blueprint) (viewer : Viewer) (rows : List Fields) :
    Quiet (formatRows zones b viewer rows) := by
  unfold formatRows
  dsimp only
  split
  · exact pure_quiet _
  · exact rows_quiet zones _ _ viewer rows

theorem rows_ok {zones : Zones} {dates numbers : List Column} {viewer : Viewer}
    {rs rs' : List Fields} {h h' : Host}
    (hrun : Format.rows zones dates numbers viewer rs h = (.ok rs', h')) :
    List.Forall₂ (fun r r' => (Format.row zones dates numbers viewer r h).1 = .ok r') rs rs' := by
  -- every row finds the host as good as it was at the first one
  suffices hall : ∀ start : Host, h.Alike start →
      List.Forall₂ (fun r r' =>
        (Format.row zones dates numbers viewer r start).1 = .ok r') rs rs' from
    hall h (.refl h)
  intro start hstart
  induction rs generalizing rs' h h' with
  | nil =>
    obtain ⟨rfl, -⟩ := pure_ok hrun
    exact .nil
  | cons r rest ih =>
    obtain ⟨r', h₁, hrow, hrest⟩ := bind_ok hrun
    obtain ⟨rest', h₂, hrows, hpure⟩ := bind_ok hrest
    obtain ⟨rfl, -⟩ := pure_ok hpure
    obtain ⟨hshown, halike⟩ := quiet_ok (row_quiet zones dates numbers viewer r) hrow hstart
    exact .cons hshown (ih hrows halike)

/-- Rows are formatted one for one and in order. -/
theorem formatRows_ok {zones : Zones} {b : Blueprint} {viewer : Viewer} {rs rs' : List Fields}
    {h h' : Host} (hrun : formatRows zones b viewer rs h = (.ok rs', h')) :
    List.Forall₂ (fun r r' =>
      (Format.row zones b.dates b.numbers viewer r h).1 = .ok r') rs rs' := by
  unfold formatRows at hrun
  change (if b.dates.isEmpty && b.numbers.isEmpty then pure rs
    else Format.rows zones b.dates b.numbers viewer rs : Run (List Fields)) h = _ at hrun
  split at hrun
  · next hnone =>
    -- a blueprint without such columns adds nothing to a row
    obtain ⟨rfl, -⟩ := pure_ok hrun
    obtain ⟨hdates, hnumbers⟩ : b.dates = [] ∧ b.numbers = [] := by simpa using hnone
    rw [hdates, hnumbers]
    exact List.forall₂_same.mpr fun _ _ => rfl
  · exact rows_ok hrun

end Builder

/-! ## Lookups -/

structure Call.LooksUp (call : Call) (l : Lookup) : Prop where
  dataSet : call.dataSet = l.dataSet
  page : call.page = none
  metadata : call.metadata = .null

namespace Lookup

variable (source : Source)

theorem fetch_narrow (l : Lookup) (scope : Fields) : Narrow (l.fetch source scope) := by
  refine bind_narrow (quiet_narrow (resolveParams_quiet none scope _)) fun params => ?_
  refine bind_narrow (Run.fetch_narrow source _) fun batch => ?_
  split
  · exact throw_narrow _
  · split
    · exact pure_narrow _
    · exact throw_narrow _

theorem fetchAll_narrow (lookups : List Lookup) (scope : Fields) :
    Narrow (fetchAll source lookups scope) := by
  induction lookups generalizing scope with
  | nil => exact pure_narrow _
  | cons l rest ih =>
    refine bind_narrow (observe_narrow (fetch_narrow source l scope)) fun result => ?_
    cases result with
    | error e => exact pure_narrow _
    | ok data => exact ih _

theorem runLookups_narrow (b : Blueprint) (scope : Fields) :
    Narrow (b.runLookups source scope) := by
  refine bind_narrow (fetchAll_narrow source b.lookups scope) fun looked => ?_
  cases looked.failure with
  | some e => exact throw_narrow e
  | none => exact pure_narrow _

variable {source} {scope : Fields} {h h' : Host}

theorem fetch_ok {l : Lookup} {data : Value} (hrun : l.fetch source scope h = (.ok data, h')) :
    ∃ call : Call, call.LooksUp l ∧ h'.calls = h.calls ++ [call] := by
  obtain ⟨params, h₁, hparams, hrest⟩ := bind_ok hrun
  obtain ⟨batch, h₂, hfetch, hdata⟩ := bind_ok hrest
  have hcalls₁ := keeps_ok ((resolveParams_quiet none scope _).keeps calls_steady) hparams
  obtain ⟨hcalls₂, -⟩ := Run.fetch_ok hfetch
  refine ⟨⟨l.dataSet, params, none, .null⟩, ⟨rfl, rfl, rfl⟩, ?_⟩
  rw [← hcalls₁, ← hcalls₂]
  split at hdata
  · cases hdata
  · split at hdata
    · rw [(pure_ok hdata).2]
    · cases hdata

/-- Each lookup is fetched by one call, in order. -/
theorem fetchAll_ok {lookups : List Lookup} {looked : Looked}
    (hrun : fetchAll source lookups scope h = (.ok looked, h')) (hfine : looked.failure = none) :
    ∃ asked, List.Forall₂ Call.LooksUp asked lookups ∧ h'.calls = h.calls ++ asked := by
  induction lookups generalizing scope h with
  | nil =>
    obtain ⟨-, rfl⟩ := pure_ok hrun
    exact ⟨[], .nil, (List.append_nil _).symm⟩
  | cons l rest ih =>
    obtain ⟨result, h₁, hobserve, hrest⟩ := bind_ok hrun
    cases result with
    | error e =>
      obtain ⟨rfl, -⟩ := pure_ok hrest
      cases hfine
    | ok data =>
      obtain ⟨call, hcall, hcalls⟩ := fetch_ok (observe_ok hobserve)
      obtain ⟨asked, hasked, hcalls'⟩ := ih hrest
      exact ⟨call :: asked, .cons hcall hasked, by rw [hcalls', hcalls, List.append_assoc]; rfl⟩

theorem runLookups_ok {b : Blueprint} {scope' : Fields}
    (hrun : b.runLookups source scope h = (.ok scope', h')) :
    ∃ asked, List.Forall₂ Call.LooksUp asked b.lookups ∧ h'.calls = h.calls ++ asked := by
  obtain ⟨looked, h₁, hfetch, hrest⟩ := bind_ok hrun
  cases hfailure : looked.failure with
  | some e =>
    rw [hfailure] at hrest
    cases hrest
  | none =>
    rw [hfailure] at hrest
    obtain ⟨-, rfl⟩ := pure_ok hrest
    exact fetchAll_ok hfetch hfailure

end Lookup

/-! ## Fetching for a page -/

structure Fetched where
  blueprint : Blueprint
  /-- The scope with all lookups. -/
  scope : Fields
  /-- The call of the data set, and what it gave. -/
  call : Call
  batch : Batch

def Fetched.documentScope (f : Fetched) : Fields :=
  match f.batch.context with
  | some context =>
    if context.isEmpty then f.scope else f.scope.put "dataSource" (.object context)
  | none => f.scope

def Blueprint.fitted (b : Blueprint) (columns : List LayoutColumn) (rows : List Fields) :
    List LayoutColumn × Number.Binary :=
  let sized := Sizing.size columns rows Sizing.defaultMaxZoom
  if b.autoLayout then (sized.columns, sized.zoom) else (columns, Contents.fullSize)

namespace Builder

def startScope (builder : Builder) (o : Order) : Fields :=
  Scope.start o.sync.settings.criteria builder.messages

def fetched (builder : Builder) (d : Definition) (o : Order) : Run Fetched := do
  let b ← d.compose (builder.startScope o)
  let scope ← b.runLookups builder.source (builder.startScope o)
  let params ← Builder.params o.sync.settings.criteria scope b
  let batch ← builder.source.fetch ⟨b.dataSet, params, o.page, o.metadata⟩
  pure ⟨b, scope, ⟨b.dataSet, params, o.page, o.metadata⟩, batch⟩

def delivered (batch : Batch) (document : Document) : Delivery :=
  ⟨[document], batch.nextPage, some true, none, .null, none, none⟩

def deliver (builder : Builder) (d : Definition) (o : Order) (f : Fetched) : Run Delivery :=
  if f.batch.status = .complete then do
    let document ← builder.document d f.blueprint o f.batch f.scope
    onBuildTracer (·.setAttribute "rows" (.int document.contents.rows.length))
    pure (delivered f.batch document)
  else do
    onBuildTracer (·.setAttribute "pending" (.bool true))
    pure (pending f.batch)

def write (builder : Builder) (zones : Zones) (d : Definition) (o : Order) (f : Fetched)
    (fetched : List Row) (rows : List Fields) (fit : List LayoutColumn × Number.Binary) :
        Run Document := do
  let criteria ← builder.printed d o f.documentScope
  let scope := f.documentScope.put "data" (Row.inScope f.batch.data rows)
  let contents ← builder.contents zones f.blueprint o f.batch rows fit.1 fit.2 criteria scope
  match Row.issues fetched with
  | [] => pure ⟨o.sync.settings.name, contents⟩
  | issues => throw (.invalid issues)

theorem document_eq (builder : Builder) (d : Definition) (o : Order) (f : Fetched) :
    builder.document d f.blueprint o f.batch f.scope = (do
      let zones ← Run.zones
      let fetched ← lift (Row.ofData f.batch.data)
      let rows ← formatRows zones f.blueprint o.viewer (fetched.map (·.entries))
      let columns ← LayoutColumn.resolveAll f.documentScope f.blueprint.columns
      builder.write zones d o f fetched rows (f.blueprint.fitted columns rows)) := rfl

theorem buildInside_eq (builder : Builder) (d : Definition) (o : Order) :
    builder.buildInside d o = builder.fetched d o >>= builder.deliver d o := by
  unfold fetched
  simp only [bind_assoc, pure_bind]
  rfl

section Narrow

variable (builder : Builder) (d : Definition) (o : Order)

theorem params_quiet (criteria scope : Fields) (b : Blueprint) :
    Quiet (Builder.params criteria scope b) :=
  bind_quiet (resolveParams_quiet none scope _) fun _ => pure_quiet _

theorem fetched_narrow : Narrow (builder.fetched d o) :=
  bind_narrow (quiet_narrow (compose_quiet d _)) fun b =>
    bind_narrow (Lookup.runLookups_narrow builder.source b _) fun scope =>
      bind_narrow (quiet_narrow (params_quiet _ scope b)) fun _ =>
        bind_narrow (fetch_narrow builder.source _) fun _ => pure_narrow _

theorem printed_narrow (scope : Fields) : Narrow (builder.printed d o scope) := by
  unfold Builder.printed
  split
  · exact printedCriteria_narrow builder.source _ scope _ d.criteria
  · exact pure_narrow _

theorem contents_quiet (zones : Zones) (b : Blueprint) (batch : Batch) (rows : List Fields)
    (columns : List LayoutColumn) (zoom : Number.Binary) (criteria : List PrintedCriterion)
    (scope : Fields) :
      Quiet (builder.contents zones b o batch rows columns zoom criteria scope) := by
  have dated (f : Option String → Contents) : Quiet (do
      let collectedOn ← Format.date zones (.moment o.start) o.viewer
      pure (f collectedOn)) :=
    bind_quiet (date_quiet zones _ o.viewer) fun _ => pure_quiet _
  refine bind_quiet (resolve_quiet scope _) fun title => ?_
  refine bind_quiet (resolve_quiet scope _) fun subtitle => ?_
  refine bind_quiet (resolveFilled_quiet scope _) fun webPageUrl => ?_
  dsimp only
  split
  · exact bind_quiet (resolveFilled_quiet scope _) fun _ => dated _
  · exact bind_quiet (pure_quiet _) fun _ => dated _

theorem write_narrow (zones : Zones) (f : Fetched) (fetched : List Row) (rows : List Fields)
    (fit : List LayoutColumn × Number.Binary) :
    Narrow (builder.write zones d o f fetched rows fit) := by
  refine bind_narrow (printed_narrow builder d o _) fun criteria => ?_
  refine bind_narrow (quiet_narrow (contents_quiet builder o _ _ _ _ _ _ _ _)) fun contents => ?_
  split
  · exact pure_narrow _
  · exact throw_narrow _

theorem document_narrow (f : Fetched) :
    Narrow (builder.document d f.blueprint o f.batch f.scope) := by
  rw [document_eq]
  exact bind_narrow zones_narrow fun zones => bind_narrow (lift_narrow _) fun _ =>
    bind_narrow (quiet_narrow (formatRows_quiet zones _ o.viewer _)) fun _ =>
      bind_narrow (quiet_narrow (resolveColumns_quiet _ _)) fun _ =>
        write_narrow builder d o zones f _ _ _

theorem deliver_narrow (f : Fetched) : Narrow (builder.deliver d o f) := by
  unfold deliver
  split
  · exact bind_narrow (document_narrow builder d o f) fun _ =>
      bind_narrow (onBuildTracer_narrow _) fun _ => pure_narrow _
  · exact bind_narrow (onBuildTracer_narrow _) fun _ => pure_narrow _

theorem buildInside_narrow : Narrow (builder.buildInside d o) := by
  rw [buildInside_eq]
  exact bind_narrow (fetched_narrow builder d o) (deliver_narrow builder d o)

theorem build_narrow : Narrow (builder.build d o) :=
  bind_narrow (onBuildTracer_narrow _) fun _ =>
    bind_narrow (observe_narrow (buildInside_narrow builder d o)) fun result =>
      finishSpan_narrow onBuildTracer_narrow result

end Narrow

section Parts

variable {builder : Builder} {d : Definition} {o : Order} {h h' : Host}

theorem contents_ok {zones : Zones} {b : Blueprint} {batch : Batch} {rows : List Fields}
    {columns : List LayoutColumn} {zoom : Number.Binary} {criteria : List PrintedCriterion}
    {scope : Fields} {c : Contents}
    (hrun : builder.contents zones b o batch rows columns zoom criteria scope h = (.ok c, h')) :
    c.rows = rows ∧ c.criteria = criteria ∧ c.layout.shape = b.shape ∧
      c.layout.columns = columns := by
  obtain ⟨title, h₁, -, htitled⟩ := bind_ok hrun
  obtain ⟨subtitle, h₂, -, hlinked⟩ := bind_ok htitled
  obtain ⟨webPageUrl, h₃, -, hrest⟩ := bind_ok hlinked
  dsimp only at hrest
  split at hrest
  all_goals
    obtain ⟨message, h₄, -, hdated⟩ := bind_ok hrest
    obtain ⟨collectedOn, h₅, -, hpure⟩ := bind_ok hdated
    obtain ⟨rfl, -⟩ := pure_ok hpure
    exact ⟨rfl, rfl, rfl, rfl⟩

theorem write_ok {zones : Zones} {f : Fetched} {fetched : List Row} {rows : List Fields}
    {fit : List LayoutColumn × Number.Binary} {document : Document}
    (hrun : builder.write zones d o f fetched rows fit h = (.ok document, h')) :
    document.contents.rows = rows ∧ document.contents.layout.shape = f.blueprint.shape ∧
      document.contents.layout.columns = fit.1 ∧
      (builder.printed d o f.documentScope h).1 = .ok document.contents.criteria ∧
      h'.calls = (builder.printed d o f.documentScope h).2.calls := by
  obtain ⟨criteria, h₁, hprinted, hrest⟩ := bind_ok hrun
  obtain ⟨contents, h₂, hcontents, hissues⟩ := bind_ok hrest
  obtain ⟨rfl, rfl⟩ : document = ⟨o.sync.settings.name, contents⟩ ∧ h' = h₂ := by
    generalize Row.issues fetched = issues at hissues
    cases issues with
    | nil => exact pure_ok hissues
    | cons issue rest => cases hissues
  obtain ⟨hrows, hcriteria, hshape, hcolumns⟩ := contents_ok hcontents
  have hcalls := keeps_ok ((contents_quiet builder o _ _ _ _ _ _ _ _).keeps calls_steady) hcontents
  rw [hprinted]
  exact ⟨hrows, hshape, hcolumns, by rw [hcriteria], hcalls⟩

/-- The rows of a document are the fetched ones with companions, and its criteria are printed in the
scope that knows the lookups and the data source. -/
theorem document_ok {f : Fetched} {document : Document}
    (hrun : builder.document d f.blueprint o f.batch f.scope h = (.ok document, h')) :
    ∃ fetched, Row.ofData f.batch.data = .ok fetched ∧
      List.Forall₂ (fun r r' => (Format.row h.zones f.blueprint.dates f.blueprint.numbers
        o.viewer r h).1 = .ok r') (fetched.map (·.entries)) document.contents.rows ∧
      (builder.printed d o f.documentScope h).1 = .ok document.contents.criteria ∧
      h'.calls = (builder.printed d o f.documentScope h).2.calls := by
  rw [document_eq] at hrun
  obtain ⟨zones, h₀, hzones, hrest⟩ := bind_ok hrun
  obtain ⟨rfl, rfl⟩ := zones_ok hzones
  obtain ⟨fetched, h₁, hlift, hformat⟩ := bind_ok hrest
  obtain ⟨hdata, rfl⟩ := lift_ok hlift
  obtain ⟨rows, h₂, hrows, hresolve⟩ := bind_ok hformat
  obtain ⟨columns, h₃, hcolumns, hwrite⟩ := bind_ok hresolve
  obtain ⟨-, halike₂⟩ := quiet_ok (formatRows_quiet _ _ o.viewer _) hrows (.refl h₁)
  obtain ⟨-, halike₃⟩ := quiet_ok (resolveColumns_quiet _ _) hcolumns halike₂
  obtain ⟨hrows', -, -, hcriteria, hcalls⟩ := write_ok hwrite
  have hprinted := printed_narrow builder d o f.documentScope
  refine ⟨fetched, hdata, hrows' ▸ formatRows_ok hrows, ?_, ?_⟩
  · rw [← hprinted.outcome halike₃, hcriteria]
  · rw [hcalls, hprinted.calls halike₃]

/-- All calls of the first part are those of the lookups and the one of the data set. -/
theorem fetched_ok {f : Fetched} (hrun : builder.fetched d o h = (.ok f, h')) :
    (d.compose (builder.startScope o) h).1 = .ok f.blueprint ∧
      f.call.dataSet = f.blueprint.dataSet ∧ f.call.page = o.page ∧ f.call.metadata = o.metadata ∧
      ∃ asked, List.Forall₂ Call.LooksUp asked f.blueprint.lookups ∧
        h'.calls = h.calls ++ asked ++ [f.call] ∧
        ∃ answer, builder.source (h.calls ++ asked) f.call = .ok answer ∧
          Batch.read answer = .ok f.batch := by
  obtain ⟨b, h₁, hcompose, hlookups⟩ := bind_ok hrun
  obtain ⟨scope, h₂, hlooked, hparams⟩ := bind_ok hlookups
  obtain ⟨params, h₃, hresolved, hfetching⟩ := bind_ok hparams
  obtain ⟨batch, h₄, hfetch, hpure⟩ := bind_ok hfetching
  obtain ⟨rfl, rfl⟩ := pure_ok hpure
  have hcalls₁ := keeps_ok ((compose_quiet d _).keeps calls_steady) hcompose
  obtain ⟨asked, hasked, hcalls₂⟩ := Lookup.runLookups_ok hlooked
  have hcalls₃ := keeps_ok ((params_quiet _ scope b).keeps calls_steady) hresolved
  obtain ⟨hcalls₄, answer, hanswer, hbatch⟩ := fetch_ok hfetch
  rw [hcalls₃, hcalls₂, hcalls₁] at hcalls₄ hanswer
  exact ⟨by rw [hcompose], rfl, rfl, rfl, asked, hasked, hcalls₄, answer, hanswer, hbatch⟩

/-- What a delivery is made of: a document for a complete batch, otherwise what the batch says about
going on. -/
theorem build_ok {delivery : Delivery} (hrun : builder.build d o h = (.ok delivery, h')) :
    ∃ f h₁, builder.fetched d o h = (.ok f, h₁) ∧
      if f.batch.status = .complete then
        ∃ document h₂, builder.document d f.blueprint o f.batch f.scope h₁ = (.ok document, h₂) ∧
          delivery = delivered f.batch document ∧ h'.calls = h₂.calls
      else delivery = pending f.batch ∧ h'.calls = h₁.calls := by
  obtain ⟨_, h₀, henter, hobserved⟩ := bind_ok hrun
  obtain ⟨result, h₁, hobserve, hfinish⟩ := bind_ok hobserved
  obtain ⟨rfl, hleave⟩ := finishSpan_ok hfinish
  have halike₀ : h₀.Alike h := by
    cases henter
    exact ⟨rfl, rfl, rfl⟩
  have hcalls' : h'.calls = h₁.calls := by
    cases hleave
    rfl
  -- the span that is open during the work decides nothing
  obtain ⟨h₂, hinside, halike₁⟩ :=
    narrow_ok (buildInside_narrow builder d o) halike₀ (observe_ok hobserve)
  rw [buildInside_eq] at hinside
  obtain ⟨f, h₃, hfetched, hdeliver⟩ := bind_ok hinside
  refine ⟨f, h₃, hfetched, ?_⟩
  rw [hcalls', halike₁.calls]
  unfold deliver at hdeliver
  split at hdeliver
  · next hcomplete =>
    obtain ⟨document, h₄, hdocument, hnoted⟩ := bind_ok hdeliver
    obtain ⟨_, h₅, hnote, hpure⟩ := bind_ok hnoted
    obtain ⟨rfl, rfl⟩ := pure_ok hpure
    rw [if_pos hcomplete]
    refine ⟨document, h₄, hdocument, rfl, ?_⟩
    cases hnote
    rfl
  · next hpending =>
    obtain ⟨_, h₅, hnote, hpure⟩ := bind_ok hdeliver
    obtain ⟨rfl, rfl⟩ := pure_ok hpure
    rw [if_neg hpending]
    refine ⟨rfl, ?_⟩
    cases hnote
    rfl

end Parts

end Builder

end Dossier
