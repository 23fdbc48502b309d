import Dossier.Proofs.Document.Course
import Dossier.Proofs.Template.Poorer
import Dossier.Wizard.Engine

/-!
# Schemas and layouts

The schema of a document type is told without fetching anything. So it is the one of the layout of
the documents, unless a label refers to what only a build has: lookups, or what the data source says
about itself.
-/

set_option autoImplicit false

namespace Dossier

open Run

/-! ## What a layout shows of a schema -/

def LayoutColumn.toSchema (c : LayoutColumn) : SchemaColumn :=
  ⟨c.property, c.label, c.type.getD .text⟩

def Layout.toSchema (l : Layout) : DocumentSchema := ⟨l.shape, false, l.columns.map (·.toSchema)⟩

theorem size_toSchema (columns : List LayoutColumn) (rows : List Fields) (zoom : Number.Binary) :
    (Sizing.size columns rows zoom).columns.map (·.toSchema) = columns.map (·.toSchema) := by
  unfold Sizing.size
  cases columns with
  | nil => rfl
  | cons c rest =>
    dsimp only [List.isEmpty_cons]
    rw [if_neg (by simp), List.map_map]
    rfl

theorem fitted_toSchema (b : Blueprint) (columns : List LayoutColumn) (rows : List Fields) :
    (b.fitted columns rows).1.map (·.toSchema) = columns.map (·.toSchema) := by
  unfold Blueprint.fitted
  dsimp only
  split
  · exact size_toSchema columns rows _
  · rfl

/-! ## What only a build knows -/

def fetchedNames : List String := ["lookups", "dataSource"]

def ReadsFetched (path : List Char) : Prop :=
  ∃ name ∈ fetchedNames, ((Template.names path).map String.ofList).head? = some name

def Scope.Extends (scope start : Fields) : Prop :=
  ∀ name, name ∉ fetchedNames → scope.get? name = start.get? name

namespace Scope

theorem extends_withLookups (start seen : Fields) : Extends (withLookups start seen) start := by
  intro name hname
  exact Fields.get?_put_of_ne start _ (by rintro rfl; exact hname (by simp [fetchedNames]))

theorem Extends.put_dataSource {scope start : Fields} (hscope : Extends scope start) (v : Value) :
    Extends (scope.put "dataSource" v) start := by
  intro name hname
  rw [Fields.get?_put_of_ne scope v (by rintro rfl; exact hname (by simp [fetchedNames]))]
  exact hscope name hname

/-- At the start of a request a path to what is fetched later leads nowhere. -/
theorem meaning_start {criteria messages scope : Fields}
    (hscope : Extends scope (start criteria messages))
    (env : Template.Environment) (path : List Char) :
    Template.meaning env (start criteria messages) path = Template.meaning env scope path ∨
      (Template.meaning env (start criteria messages) path = .unknown ∧ ReadsFetched path) := by
  unfold Template.meaning ReadsFetched
  dsimp only
  generalize (Template.names path).map String.ofList = names
  cases Template.variableName? names with
  | some name => exact .inl rfl
  | none =>
    match names with
    | [] => exact .inl rfl
    | name :: rest =>
      by_cases hname : name ∈ fetchedNames
      · refine .inr ⟨?_, name, hname, rfl⟩
        obtain rfl | rfl : name = "lookups" ∨ name = "dataSource" := by
          simpa [fetchedNames] using hname
        · cases rest <;> rfl
        · rfl
      · have hsame : scope.lookup name = (start criteria messages).lookup name := hscope name hname
        exact .inl (by simp only [Template.walk, hsame])

end Scope

theorem Lookup.run_extends {source : Source} {lookups : List Lookup} {start seen scope : Fields}
    {h h' : Host} (hrun : run source lookups (Scope.withLookups start seen) h = (.ok scope, h')) :
    Scope.Extends scope start := by
  induction lookups generalizing seen h with
  | nil =>
    obtain ⟨rfl, -⟩ := pure_ok hrun
    exact Scope.extends_withLookups start seen
  | cons l rest ih =>
    rw [run_cons] at hrun
    obtain ⟨data, h₁, -, hrest⟩ := bind_ok hrun
    rw [Scope.addLookup_withLookups] at hrest
    exact ih hrest

namespace Builder

section Schema

variable {builder : Builder} {d : Definition} {o : Order} {h h' : Host}

theorem documentScope_extends {f : Fetched} (hrun : builder.fetched d o h = (.ok f, h')) :
    Scope.Extends f.documentScope (builder.startScope o) := by
  obtain ⟨b, h₁, -, hlookups⟩ := bind_ok hrun
  obtain ⟨scope, h₂, hlooked, hparams⟩ := bind_ok hlookups
  obtain ⟨params, h₃, -, hfetching⟩ := bind_ok hparams
  obtain ⟨batch, h₄, -, hpure⟩ := bind_ok hfetching
  obtain ⟨rfl, rfl⟩ := pure_ok hpure
  have hscope : Scope.Extends scope (builder.startScope o) := by
    rw [startScope, ← Scope.start_withLookups] at hlooked ⊢
    exact Lookup.run_extends hlooked
  unfold Fetched.documentScope
  dsimp only
  split
  · split
    · exact hscope
    · exact hscope.put_dataSource _
  · exact hscope

/-- The layout of a document has the columns of the blueprint, their labels resolved in the scope of
the document. -/
theorem document_layout {f : Fetched} {document : Document}
    (hrun : builder.document d f.blueprint o f.batch f.scope h = (.ok document, h')) :
    ∃ columns, (LayoutColumn.resolveAll f.documentScope f.blueprint.columns h).1 = .ok columns ∧
      document.contents.layout.toSchema = ⟨f.blueprint.shape, false, columns.map (·.toSchema)⟩ := by
  rw [document_eq] at hrun
  obtain ⟨zones, h₀, hzones, hrest⟩ := bind_ok hrun
  obtain ⟨-, rfl⟩ := zones_ok hzones
  obtain ⟨fetched, h₁, hlift, hformat⟩ := bind_ok hrest
  obtain ⟨-, rfl⟩ := lift_ok hlift
  obtain ⟨rows, h₂, hrows, hresolve⟩ := bind_ok hformat
  obtain ⟨columns, h₃, hcolumns, hwrite⟩ := bind_ok hresolve
  obtain ⟨-, halike⟩ := quiet_ok (formatRows_quiet _ _ o.viewer _) hrows (.refl h₁)
  obtain ⟨-, hshape, hfitted, -⟩ := write_ok hwrite
  refine ⟨columns, (quiet_ok (resolveColumns_quiet _ _) hcolumns halike).1, ?_⟩
  rw [Layout.toSchema, hshape, hfitted, fitted_toSchema]

end Schema

end Builder

/-! ## Schemas -/

section Columns

variable {criteria messages scope : Fields} {h k h' : Host}

def FailsUnfetched {α : Type} (result : Except Failure α) : Prop :=
  ∃ body, ReadsFetched (Text.trim body) ∧
    result = .error (.invalidToken (String.ofList (Template.wrap body)))

theorem toSchema_column (c : Column) (label : String) :
    (⟨c.property, label, c.width, c.type.filter (· ≠ .text), c.format⟩ : LayoutColumn).toSchema =
      ⟨c.property, label, c.type.getD .text⟩ := by
  cases htype : c.type with
  | none => rfl
  | some type => cases type <;> rfl

/-- Columns that a document resolves are told alike, unless a label reads what was fetched. -/
theorem schemaColumns_start (hscope : Scope.Extends scope (Scope.start criteria messages))
    {columns : List Column} {resolved : List LayoutColumn}
    (hrun : LayoutColumn.resolveAll scope columns h = (.ok resolved, h'))
      (hknown : k.known = h.known) :
    (Engine.schemaColumns (Scope.start criteria messages) columns k).1 =
        .ok (resolved.map (·.toSchema)) ∨
      FailsUnfetched (Engine.schemaColumns (Scope.start criteria messages) columns k).1 := by
  induction columns generalizing resolved h k with
  | nil =>
    obtain ⟨rfl, -⟩ := pure_ok hrun
    exact .inl rfl
  | cons c rest ih =>
    obtain ⟨first, h₁, hfirst, hrest⟩ := bind_ok hrun
    obtain ⟨label, h₂, hlabel, hpure⟩ := bind_ok hfirst
    obtain ⟨rfl, rfl⟩ := pure_ok hpure
    obtain ⟨later, h₃, hlater, hpure⟩ := bind_ok hrest
    obtain ⟨rfl, rfl⟩ := pure_ok hpure
    have hknown₁ := keeps_ok ((resolve_quiet scope c.label).keeps known_aloof.toSteady) hlabel
    have hkept := (resolve_quiet (Scope.start criteria messages) c.label).keeps
      known_aloof.toSteady k
    rw [Engine.schemaColumns]
    obtain hsame | ⟨body, hreads, hfails⟩ := resolve_poorer (Scope.meaning_start hscope) c.label k
    · rw [(resolve_quiet scope c.label).sees hknown, hlabel] at hsame
      rw [bind_of_ok hsame]
      obtain htold | ⟨body, hreads, hfails⟩ := ih hlater (hkept.trans (hknown.trans hknown₁.symm))
      · rw [bind_of_ok htold, List.map_cons, toSchema_column]
        exact .inl rfl
      · exact .inr ⟨body, hreads, by rw [bind_of_error hfails]⟩
    · exact .inr ⟨body, hreads, by rw [bind_of_error hfails]⟩

end Columns

section Told

variable {builder : Builder} {d : Definition} {o : Order} {h h' k : Host}

/-- When a build gives a document, the schema for its criteria is the one of its layout, unless a
label reads what was fetched: then the schema fails at that placeholder. -/
theorem declaredSchema_of_document {delivery : Delivery} {document : Document}
    (hbuilt : builder.build d o h = (.ok delivery, h')) (hdocument : document ∈ delivery.documents)
    (hknown : k.known = h.known) :
    (Engine.declaredSchema d builder.messages o.sync.settings.criteria k).1 =
        .ok document.contents.layout.toSchema ∨
      FailsUnfetched (Engine.declaredSchema d builder.messages o.sync.settings.criteria k).1 := by
  obtain ⟨f, h₁, hfetched, hcase⟩ := Builder.build_ok hbuilt
  split at hcase
  · obtain ⟨document', h₂, hmade, hdelivery, -⟩ := hcase
    obtain rfl : document = document' := by simpa [hdelivery, Builder.delivered] using hdocument
    obtain ⟨columns, hcolumns, hlayout⟩ := Builder.document_layout hmade
    have hknown₁ := keeps_ok ((Builder.fetched_narrow builder d o).keeps known_aloof) hfetched
    have hcomposed : (d.compose (builder.startScope o) k).1 = .ok f.blueprint := by
      rw [(compose_quiet d _).sees hknown]
      exact (Builder.fetched_ok hfetched).1
    have hkept := (compose_quiet d (builder.startScope o)).keeps known_aloof.toSteady k
    have htold := schemaColumns_start (Builder.documentScope_extends hfetched)
      (Prod.ext hcolumns rfl) (hkept.trans (hknown.trans hknown₁.symm))
    have hrun : Engine.declaredSchema d builder.messages o.sync.settings.criteria k = (do
        let columns ← Engine.schemaColumns
          (Scope.start o.sync.settings.criteria builder.messages) f.blueprint.columns
        pure ⟨f.blueprint.shape, false, columns⟩ : Run DocumentSchema)
          (d.compose (builder.startScope o) k).2 := bind_of_ok hcomposed
    rw [hrun, hlayout]
    obtain htold | ⟨body, hreads, hfails⟩ := htold
    · exact .inl (by rw [bind_of_ok htold]; rfl)
    · exact .inr ⟨body, hreads, by rw [bind_of_error hfails]⟩
  · rw [hcase.1] at hdocument
    cases hdocument

end Told

open Builder (scripted completeAnswer rosterOrder)

def members (label : String) : Definition :=
  ⟨"", [],
    ⟨.monthly, false, "", .tabular, none, "Users", "", "users", none, none,
      [⟨"org", "organization", none⟩],
      [⟨"name", label, none, none, none⟩, ⟨"joined", "Joined", none, some .date, none⟩],
      none, true, []⟩, []⟩

def membersBuilder : Builder :=
  ⟨scripted [completeAnswer (.object [("name", .text "Acme")]) .null,
    completeAnswer (.list [.object [("name", .text "Ada")]]) .null], none, [], "proofspec", ""⟩

def groupLabel : String := "Users of \x7b\x7bcriteria.group\x7d\x7d"

def lookupLabel : String := "\x7b\x7blookups.org.name\x7d\x7d user"

theorem declaredSchema_of_document_members :
    ∃ delivery document h',
      membersBuilder.build (members groupLabel) rosterOrder Host.bare = (.ok delivery, h') ∧
      document ∈ delivery.documents ∧ h'.known = Host.bare.known ∧
      (Engine.declaredSchema (members groupLabel) [] [("group", .text "g1")] h').1 =
        .ok document.contents.layout.toSchema := by
  have hbuilds : (membersBuilder.build (members groupLabel) rosterOrder Host.bare).1.toOption.map
      (fun delivery => delivery.documents.length) = some 1 := by
    decide +kernel
  have hsucceeds : (Engine.declaredSchema (members groupLabel) [] [("group", .text "g1")]
      (membersBuilder.build (members groupLabel) rosterOrder Host.bare).2).1.toOption.isSome =
      true := by
    decide +kernel
  obtain ⟨delivery, hdelivery, hlength⟩ := Option.map_eq_some_iff.mp hbuilds
  obtain ⟨document, hdocuments⟩ := List.length_eq_one_iff.mp hlength
  have hrun := ok_of_toOption hdelivery
  have hknown := (Builder.build_narrow membersBuilder (members groupLabel) rosterOrder).keeps
    known_aloof Host.bare
  have hdocument : document ∈ delivery.documents := by simp [hdocuments]
  refine ⟨delivery, document, _, hrun, hdocument, hknown, ?_⟩
  obtain htold | ⟨body, -, hfails⟩ := declaredSchema_of_document hrun hdocument hknown
  · exact htold
  · change (Engine.declaredSchema _ [] [("group", .text "g1")] _).1 = _ at hfails
    rw [hfails] at hsucceeds
    cases hsucceeds

/-- A label that names a lookup is shown in the document, and the schema fails at it. -/
theorem declaredSchema_without_lookups :
    ((membersBuilder.build (members lookupLabel) rosterOrder Host.bare).1.toOption.map
        fun delivery => delivery.documents.map fun document =>
          document.contents.layout.columns.map (·.label)) = some [["Acme user", "Joined"]] ∧
      (Engine.declaredSchema (members lookupLabel) [] [("group", .text "g1")] Host.bare).1 =
        .error (.invalidToken "\x7b\x7blookups.org.name\x7d\x7d") := by
  have hfails : (match (Engine.declaredSchema (members lookupLabel) [] [("group", .text "g1")]
      Host.bare).1 with
      | .error (.invalidToken token) => some token
      | _ => none) = some "\x7b\x7blookups.org.name\x7d\x7d" := by
    decide +kernel
  refine ⟨by decide +kernel, ?_⟩
  split at hfails
  · next token htoken =>
    cases hfails
    exact htoken
  · cases hfails

end Dossier
