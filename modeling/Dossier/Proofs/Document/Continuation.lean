import Dossier.Proofs.Document.Building

/-!
# Building a sync page by page

A host first builds without a page. While the delivery is pending or names a next page, it builds
again with the page and the metadata of that delivery. Over such a run the source is asked for the
data set along the chain of its own cursors, every complete batch becomes one document, and the rows
of the documents are the fetched ones.
-/

set_option autoImplicit false

namespace Dossier

open Run

structure Turn where
  order : Order
  before : Host
  delivery : Delivery
  after : Host

def Order.next (o : Order) (delivery : Delivery) : Order :=
  { o with page := delivery.nextPage, metadata := delivery.metadata }

def Delivery.goesOn (delivery : Delivery) : Bool := delivery.isPending || delivery.nextPage.isSome

namespace Builder

/-- The turns of a host that builds page by page. It goes on only when it is asked to, and it may
stop at any time. -/
inductive Driven (builder : Builder) (d : Definition) : Order → Host → List Turn → Host → Prop
  | stop (o : Order) (h : Host) : Driven builder d o h [] h
  | turn {o : Order} {h h₁ h' : Host} {delivery : Delivery} {turns : List Turn}
      (built : builder.build d o h = (.ok delivery, h₁))
      (goesOn : turns ≠ [] → delivery.goesOn = true)
      (later : Driven builder d (o.next delivery) h₁ turns h') :
      Driven builder d o h (⟨o, h, delivery, h₁⟩ :: turns) h'

def drive (builder : Builder) (d : Definition) : Nat → Order → Host → List Turn × Host
  | 0, _, h => ([], h)
  | n + 1, o, h =>
    match builder.build d o h with
    | (.error _, _) => ([], h)
    | (.ok delivery, h₁) =>
      let later :=
        if delivery.goesOn then drive builder d n (o.next delivery) h₁ else ([], h₁)
      (⟨o, h, delivery, h₁⟩ :: later.1, later.2)

theorem drive_driven (builder : Builder) (d : Definition) (n : Nat) (o : Order) (h : Host) :
    builder.Driven d o h (builder.drive d n o h).1 (builder.drive d n o h).2 := by
  induction n generalizing o h with
  | zero => exact .stop o h
  | succ n ih =>
    unfold drive
    match hbuilt : builder.build d o h with
    | (.error _, _) => exact .stop o h
    | (.ok delivery, h₁) =>
      by_cases hgoes : delivery.goesOn = true
      · simp only [hgoes, if_true]
        exact .turn hbuilt (fun _ => hgoes) (ih _ h₁)
      · simp only [hgoes]
        exact .turn hbuilt (fun hne => absurd rfl hne) (.stop _ h₁)

end Builder

/-! ## Rows -/

def Value.rows? : Value → Option (List Fields)
  | .null => some []
  | .object fields => some [fields]
  | .list items => items.mapM Value.object?
  | _ => none

theorem ofValues_objects {items : List Value} {rows : List Fields}
    (hrows : items.mapM Value.object? = some rows) :
    Row.ofValues items = .ok (rows.map fun fields => ⟨fields, []⟩) := by
  induction items generalizing rows with
  | nil =>
    cases hrows
    rfl
  | cons item rest ih =>
    rw [List.mapM_cons] at hrows
    obtain ⟨fields, hfields, hrest⟩ := Option.bind_eq_some_iff.mp hrows
    obtain ⟨later, hlater, hpure⟩ := Option.bind_eq_some_iff.mp hrest
    cases hpure
    cases item <;> cases hfields
    simp [Row.ofValues, Row.ofValue, ih hlater, Except.map]

/-- Such data has its rows as they are: one for an object, none for null. -/
theorem ofData_rows {data : Value} {rows : List Fields} (hrows : data.rows? = some rows) :
    Row.ofData data = .ok (rows.map fun fields => ⟨fields, []⟩) := by
  cases data with
  | null =>
    cases hrows
    rfl
  | object fields =>
    cases hrows
    rfl
  | list items => exact ofValues_objects hrows
  | _ => cases hrows

namespace Fetched

def asked (f : Fetched) : Option String × Value := (f.call.page, f.call.metadata)

/-- The page and the metadata to ask for next; metadata only while a batch is pending. -/
def next (f : Fetched) : Option String × Value :=
  (f.batch.nextPage, if f.batch.status = .complete then .null else f.batch.metadata)

def rows (f : Fetched) : List Fields :=
  if f.batch.status = .complete then (f.batch.data.rows?).getD [] else []

end Fetched

def Builder.Shown (builder : Builder) (d : Definition) (o : Order) (h : Host) (row shown : Fields) :
    Prop :=
  ∃ b, (d.compose (builder.startScope o) h).1 = .ok b ∧
    (Format.row h.zones b.dates b.numbers o.viewer row h).1 = .ok shown

namespace Turn

def log (t : Turn) : List Call := t.after.calls.drop t.before.calls.length

def rows (t : Turn) : List Fields :=
  t.delivery.documents.flatMap fun document => document.contents.rows

def fetched? (builder : Builder) (d : Definition) (t : Turn) : Option Fetched :=
  (builder.fetched d t.order t.before).1.toOption

/-- A turn of a run that starts with an order on a host. Only page and metadata of the order change
on the way, and what the host goes by stays. -/
structure Valid (builder : Builder) (d : Definition) (o : Order) (h : Host) (t : Turn) : Prop where
  built : builder.build d t.order t.before = (.ok t.delivery, t.after)
  known : t.before.known = h.known
  zones : t.before.zones = h.zones
  order : t.order = { o with page := t.order.page, metadata := t.order.metadata }

structure Answers (builder : Builder) (d : Definition) (o : Order) (h : Host) (t : Turn)
    (f : Fetched) : Prop where
  blueprint : (d.compose (builder.startScope o) h).1 = .ok f.blueprint
  dataSet : f.call.dataSet = f.blueprint.dataSet
  asked : f.asked = (t.order.page, t.order.metadata)
  next : f.next = (t.delivery.nextPage, t.delivery.metadata)
  /-- The lookups are fetched first, then the data set; the criteria may ask for more after that. -/
  log : ∃ lookups printing, t.log = lookups ++ f.call :: printing ∧
    List.Forall₂ Call.LooksUp lookups f.blueprint.lookups ∧
    (∃ answer, builder.source (t.before.calls ++ lookups) f.call = .ok answer ∧
      Batch.read answer = .ok f.batch) ∧
    (t.order.page ≠ none ∨ builder.provider = none ∨ f.batch.status = .pending → printing = [])
  complete : f.batch.status = .complete → ∃ document, t.delivery.documents = [document] ∧
    t.delivery.status = none ∧
    ∀ rows, f.batch.data.rows? = some rows →
      List.Forall₂ (builder.Shown d o h) rows document.contents.rows
  pending : f.batch.status = .pending → t.delivery.documents = [] ∧
    t.delivery.status = some .pending ∧ t.delivery.nextPage = f.batch.nextPage ∧
    t.delivery.metadata = f.batch.metadata ∧ t.delivery.delay = f.batch.delay ∧
    t.delivery.maxRetry = f.batch.maxRetry

end Turn

/-! ## One turn -/

namespace Builder

section Turns

variable {builder : Builder} {d : Definition} {o : Order} {h h' : Host} {t : Turn}

theorem after_calls (ht : t.Valid builder d o h) : t.after.calls = t.before.calls ++ t.log := by
  have hgrows := (build_narrow builder d t.order).grows t.before
  rw [ht.built] at hgrows
  exact (List.prefix_iff_eq_append.mp hgrows).symm

theorem valid_startScope (ht : t.Valid builder d o h) :
    builder.startScope t.order = builder.startScope o := by
  rw [ht.order]
  rfl

theorem valid_viewer (ht : t.Valid builder d o h) : t.order.viewer = o.viewer := by
  rw [ht.order]

theorem log_eq {more : List Call} (hcalls : t.after.calls = t.before.calls ++ more) :
    t.log = more := by
  rw [Turn.log, hcalls, List.drop_left]

theorem printed_none (scope : Fields) (hnone : o.page ≠ none ∨ builder.provider = none) :
    builder.printed d o scope = pure [] := by
  unfold Builder.printed
  split
  · next hpage hprovider =>
    obtain hpaged | habsent := hnone
    · exact absurd hpage hpaged
    · rw [hprovider] at habsent
      cases habsent
  · rfl

section Fetching

variable {f : Fetched} {h₁ : Host} (ht : t.Valid builder d o h)
  (hfetched : builder.fetched d t.order t.before = (.ok f, h₁))
include ht hfetched

theorem valid_outcome :
    if f.batch.status = .complete then
      ∃ document h₂, builder.document d f.blueprint t.order f.batch f.scope h₁ =
        (.ok document, h₂) ∧
        t.delivery = delivered f.batch document ∧ t.after.calls = h₂.calls
    else t.delivery = pending f.batch ∧ t.after.calls = h₁.calls := by
  obtain ⟨f', h₁', hfetched', hcase⟩ := build_ok ht.built
  rw [hfetched] at hfetched'
  cases hfetched'
  exact hcase

/-- The blueprint is the one that would be composed at the start of the run. -/
theorem valid_blueprint : (d.compose (builder.startScope o) h).1 = .ok f.blueprint := by
  rw [← (fetched_ok hfetched).1, valid_startScope ht]
  exact (compose_quiet d _).sees ht.known.symm

theorem valid_next : f.next = (t.delivery.nextPage, t.delivery.metadata) := by
  have hcase := valid_outcome ht hfetched
  unfold Fetched.next
  split at hcase
  · next hcomplete =>
    obtain ⟨document, h₂, -, hdelivery, -⟩ := hcase
    rw [hdelivery, if_pos hcomplete]
    rfl
  · next hpending =>
    rw [hcase.1, if_neg hpending]
    rfl

/-- After the fetch only the printed criteria ask for anything, and they do so only for a complete
batch without a page. -/
theorem printing_calls :
    ∃ printing, t.after.calls = h₁.calls ++ printing ∧
      (t.order.page ≠ none ∨ builder.provider = none ∨ f.batch.status = .pending →
        printing = []) := by
  have hcase := valid_outcome ht hfetched
  split at hcase
  · next hcomplete =>
    obtain ⟨document, h₂, hdocument, -, hcalls⟩ := hcase
    obtain ⟨-, -, -, -, hprinted⟩ := document_ok hdocument
    obtain ⟨printing, hprinting⟩ := (printed_narrow builder d t.order f.documentScope).grows h₁
    refine ⟨printing, by rw [hcalls, hprinted, hprinting], fun hnone => ?_⟩
    have hnone' : t.order.page ≠ none ∨ builder.provider = none := by simpa [hcomplete] using hnone
    rw [printed_none f.documentScope hnone'] at hprinting
    exact List.self_eq_append_right.mp hprinting.symm
  · exact ⟨[], by rw [hcase.2, List.append_nil], fun _ => rfl⟩

theorem valid_log : ∃ lookups printing, t.log = lookups ++ f.call :: printing ∧
    List.Forall₂ Call.LooksUp lookups f.blueprint.lookups ∧
    (∃ answer, builder.source (t.before.calls ++ lookups) f.call = .ok answer ∧
      Batch.read answer = .ok f.batch) ∧
    (t.order.page ≠ none ∨ builder.provider = none ∨ f.batch.status = .pending →
      printing = []) := by
  obtain ⟨-, -, -, -, lookups, hlooks, hcalls, hanswered⟩ := fetched_ok hfetched
  obtain ⟨printing, hafter, hnone⟩ := printing_calls ht hfetched
  refine ⟨lookups, printing, log_eq ?_, hlooks, hanswered, hnone⟩
  rw [hafter, hcalls, List.append_assoc, List.append_assoc, List.singleton_append]

/-- The rows of a document are shown as they would be at the start of the run. -/
theorem valid_complete (hcomplete : f.batch.status = .complete) :
    ∃ document, t.delivery.documents = [document] ∧ t.delivery.status = none ∧
      ∀ rows, f.batch.data.rows? = some rows →
        List.Forall₂ (builder.Shown d o h) rows document.contents.rows := by
  have hcase := valid_outcome ht hfetched
  rw [if_pos hcomplete] at hcase
  obtain ⟨document, h₂, hdocument, hdelivery, -⟩ := hcase
  obtain ⟨fetched, hdata, hrows, -⟩ := document_ok hdocument
  refine ⟨document, by rw [hdelivery]; rfl, by rw [hdelivery]; rfl, fun rows hshape => ?_⟩
  rw [ofData_rows hshape] at hdata
  cases hdata
  have hknown := keeps_ok ((fetched_narrow builder d t.order).keeps known_aloof) hfetched
  have hzones := keeps_ok ((fetched_narrow builder d t.order).keeps zones_aloof) hfetched
  have hshown : List.Forall₂ (fun r r' => (Format.row h₁.zones f.blueprint.dates
      f.blueprint.numbers t.order.viewer r h₁).1 = .ok r') rows document.contents.rows := by
    simpa using hrows
  refine hshown.imp fun r r' hr => ⟨f.blueprint, valid_blueprint ht hfetched, ?_⟩
  rw [← hr, valid_viewer ht, hzones, ht.zones]
  exact (row_quiet _ _ _ o.viewer r).sees (ht.known.symm.trans hknown.symm)

theorem valid_pending (hpending : f.batch.status = .pending) :
    t.delivery.documents = [] ∧ t.delivery.status = some .pending ∧
      t.delivery.nextPage = f.batch.nextPage ∧ t.delivery.metadata = f.batch.metadata ∧
      t.delivery.delay = f.batch.delay ∧ t.delivery.maxRetry = f.batch.maxRetry := by
  have hcase := valid_outcome ht hfetched
  rw [if_neg (by simp [hpending])] at hcase
  rw [hcase.1]
  exact ⟨rfl, congrArg some hpending, rfl, rfl, rfl, rfl⟩

end Fetching

theorem valid_answers (ht : t.Valid builder d o h) :
    ∃ f, t.fetched? builder d = some f ∧ t.Answers builder d o h f := by
  obtain ⟨f, h₁, hfetched, -⟩ := build_ok ht.built
  obtain ⟨-, hdataSet, hpage, hmetadata, -⟩ := fetched_ok hfetched
  refine ⟨f, by rw [Turn.fetched?, hfetched]; rfl, ?_⟩
  exact {
    blueprint := valid_blueprint ht hfetched
    dataSet := hdataSet
    asked := by rw [Fetched.asked, hpage, hmetadata]
    next := valid_next ht hfetched
    log := valid_log ht hfetched
    complete := valid_complete ht hfetched
    pending := valid_pending ht hfetched }

end Turns

/-! ## Runs -/

section Runs

variable {builder : Builder} {d : Definition} {o : Order} {h h' : Host} {turns : List Turn}

theorem first_valid {h₁ : Host} {delivery : Delivery}
    (built : builder.build d o h = (.ok delivery, h₁)) :
    Turn.Valid builder d o h ⟨o, h, delivery, h₁⟩ where
  built := built
  known := rfl
  zones := rfl
  order := rfl

theorem driven_valid (hdriven : builder.Driven d o h turns h') :
    ∀ t ∈ turns, t.Valid builder d o h := by
  induction hdriven with
  | stop o h => simp
  | @turn o h h₁ h' delivery turns built goesOn later ih =>
    intro t ht
    obtain rfl | ht := List.mem_cons.mp ht
    · exact first_valid built
    · obtain ⟨hbuilt, hknown, hzones, horder⟩ := ih t ht
      have hkept := keeps_ok ((build_narrow builder d o).keeps known_aloof) built
      have hsame := keeps_ok ((build_narrow builder d o).keeps zones_aloof) built
      exact ⟨hbuilt, hknown.trans hkept, hzones.trans hsame, horder⟩

/-- Each turn asks for what the one before it was told. -/
theorem driven_orders (hdriven : builder.Driven d o h turns h') :
    turns.map (fun t => (t.order.page, t.order.metadata)) =
      ((o.page, o.metadata) ::
        turns.map fun t => (t.delivery.nextPage, t.delivery.metadata)).dropLast := by
  induction hdriven with
  | stop o h => rfl
  | turn built goesOn later ih =>
    rw [List.map_cons, ih, List.map_cons, List.dropLast_cons_cons]
    rfl

theorem driven_calls (hdriven : builder.Driven d o h turns h') :
    h'.calls = h.calls ++ turns.flatMap Turn.log := by
  induction hdriven with
  | stop o h => exact (List.append_nil _).symm
  | turn built goesOn later ih =>
    rw [ih, List.flatMap_cons, ← List.append_assoc]
    congr 1
    exact after_calls (first_valid built)

def fetches (builder : Builder) (d : Definition) (turns : List Turn) : List Fetched :=
  turns.filterMap (Turn.fetched? builder d)

theorem answers_of_valid (hvalid : ∀ t ∈ turns, t.Valid builder d o h) :
    List.Forall₂ (Turn.Answers builder d o h) turns (builder.fetches d turns) := by
  induction turns with
  | nil => exact .nil
  | cons t rest ih =>
    obtain ⟨f, hf, hanswers⟩ := valid_answers (hvalid t (by simp))
    rw [fetches, List.filterMap_cons_some hf]
    exact .cons hanswers (ih fun s hs => hvalid s (by simp [hs]))

/-- The rows of one turn are those fetched in it, each as it is shown. -/
theorem answers_rows {t : Turn} {f : Fetched} (hanswers : t.Answers builder d o h f)
    (hshape : f.batch.status = .complete → f.batch.data.rows?.isSome = true) :
    List.Forall₂ (builder.Shown d o h) f.rows t.rows := by
  cases hstatus : f.batch.status with
  | complete =>
    obtain ⟨rows, hrows⟩ := Option.isSome_iff_exists.mp (hshape hstatus)
    obtain ⟨document, hdocuments, -, hshown⟩ := hanswers.complete hstatus
    simpa [Fetched.rows, Turn.rows, hstatus, hrows, hdocuments] using hshown rows hrows
  | pending =>
    simp [Fetched.rows, Turn.rows, hstatus, (hanswers.pending hstatus).1]

theorem rows_shown {fetches : List Fetched}
    (hanswers : List.Forall₂ (Turn.Answers builder d o h) turns fetches)
    (hshape : ∀ f ∈ fetches, f.batch.status = .complete → f.batch.data.rows?.isSome = true) :
    List.Forall₂ (builder.Shown d o h) (fetches.flatMap Fetched.rows)
      (turns.flatMap Turn.rows) := by
  induction hanswers with
  | nil => exact .nil
  | cons hfirst hrest ih =>
    rw [List.flatMap_cons, List.flatMap_cons]
    exact List.rel_append (answers_rows hfirst (hshape _ (by simp)))
      (ih fun f hf => hshape f (by simp [hf]))

theorem answers_map {α : Type} {atTurn : Turn → α} {atFetch : Fetched → α} {fetches : List Fetched}
    (hanswers : List.Forall₂ (Turn.Answers builder d o h) turns fetches)
    (heq : ∀ {t f}, t.Answers builder d o h f → atFetch f = atTurn t) :
    fetches.map atFetch = turns.map atTurn := by
  induction hanswers with
  | nil => rfl
  | cons hfirst hrest ih => rw [List.map_cons, List.map_cons, heq hfirst, ih]

/-- Over a run the data set is asked for along the chain of pages and metadata that it answered
with, starting with none. What is pending is handed on, what is complete becomes one document, and
the rows of all documents are, in order and one for one, the fetched ones as they are shown. -/
theorem driven_rows_shown (hdriven : builder.Driven d o h turns h') (hpage : o.page = none)
    (hmetadata : o.metadata = .null)
    (hshape : ∀ f ∈ builder.fetches d turns, f.batch.status = .complete →
      f.batch.data.rows?.isSome = true) :
    List.Forall₂ (Turn.Answers builder d o h) turns (builder.fetches d turns) ∧
    (builder.fetches d turns).map Fetched.asked =
      ((none, .null) :: (builder.fetches d turns).map Fetched.next).dropLast ∧
    h'.calls = h.calls ++ turns.flatMap Turn.log ∧
    List.Forall₂ (builder.Shown d o h) ((builder.fetches d turns).flatMap Fetched.rows)
      (turns.flatMap Turn.rows) := by
  have hanswers := answers_of_valid (driven_valid hdriven)
  refine ⟨hanswers, ?_, driven_calls hdriven, rows_shown hanswers hshape⟩
  rw [answers_map hanswers Turn.Answers.asked, answers_map hanswers Turn.Answers.next,
    driven_orders hdriven, hpage, hmetadata]

end Runs

def scripted (answers : List Value) : Source := fun asked _ =>
  match answers[asked.length]? with
  | some answer => .ok answer
  | none => .error (.fault .noSuchData)

def pendingAnswer (nextPage : Value) : Value :=
  .object [("status", .text "pending"), ("nextPage", nextPage),
    ("metadata", .object [("job", .text "42")])]

def completeAnswer (data nextPage : Value) : Value :=
  .object [("status", .text "complete"), ("data", data), ("nextPage", nextPage)]

def groupProvider : Provider :=
  .declared [("group",
    ⟨.text, "group", "Group", none, none, none, none, none, none, none, none⟩)]

def rosterBuilder (answers : List Value) : Builder :=
  ⟨scripted answers, some groupProvider, [], "proofspec", ""⟩

def roster : Definition :=
  ⟨"", [⟨"group", 0⟩],
    ⟨.monthly, false, "", .tabular, none, "Users", "", "users", none, none, [],
      [⟨"id", "User", none, none, none⟩, ⟨"share", "Share", none, some .number, some .percent⟩],
      none, false, []⟩, []⟩

def rosterOrder : Order :=
  ⟨⟨none, ⟨"Users", [("group", .text "g1")], .pdf, .monthly, false⟩⟩, ⟨none, none, none⟩, "jane",
    ⟨⟨2024, 1, 5⟩, ⟨20, 4, 0, 0⟩, none⟩, none, .null⟩

def rosterAnswers : List Value :=
  [pendingAnswer (.text "p2"),
    completeAnswer (.list [.object [("id", .text "u1"), ("share", .int 5)],
      .object [("id", .text "u2")]]) (.text "p3"),
    completeAnswer (.object [("id", .text "u3"), ("share", .int 0)]) .null]

theorem driven_rows_shown_roster :
    ∃ turns h', (rosterBuilder rosterAnswers).Driven roster rosterOrder Host.bare turns h' ∧
      turns.map (fun t => t.order.page) = [none, some "p2", some "p3"] ∧
      turns.map (fun t => t.rows.length) = [0, 2, 1] ∧
      List.Forall₂ ((rosterBuilder rosterAnswers).Shown roster rosterOrder Host.bare)
        (((rosterBuilder rosterAnswers).fetches roster turns).flatMap Fetched.rows)
        (turns.flatMap Turn.rows) := by
  have hdriven := drive_driven (rosterBuilder rosterAnswers) roster 3 rosterOrder Host.bare
  refine ⟨_, _, hdriven, by decide +kernel, by decide +kernel, ?_⟩
  exact (driven_rows_shown hdriven rfl rfl (by decide +kernel)).2.2.2

/-! ## Criteria -/

def Unpaged (turns : List Turn) : Prop :=
  ∀ t ∈ turns.getLast?, t.delivery.isPending = true ∧ t.delivery.nextPage = none

section Criteria

variable {builder : Builder} {d : Definition} {o : Order} {h h' : Host} {t : Turn}
  {before after : List Turn}

theorem driven_before (hdriven : builder.Driven d o h (before ++ t :: after) h') :
    t.order.page = ((before.getLast?).map fun s => s.delivery.nextPage).getD o.page ∧
      ∀ s ∈ before.getLast?, s.delivery.goesOn = true := by
  induction before generalizing o h with
  | nil =>
    cases hdriven
    exact ⟨rfl, by simp⟩
  | cons s rest ih =>
    cases hdriven with
    | turn built goesOn later =>
      obtain ⟨hpage, hgoes⟩ := ih later
      cases hlast : rest.getLast? with
      | none =>
        rw [hlast] at hpage
        refine ⟨by rw [hpage, List.getLast?_cons, hlast]; rfl, fun s' hs' => ?_⟩
        rw [List.getLast?_cons, hlast] at hs'
        cases hs'
        exact goesOn (by simp)
      | some last =>
        rw [hlast] at hpage hgoes
        refine ⟨by rw [hpage, List.getLast?_cons, hlast]; rfl, fun s' hs' => ?_⟩
        rw [List.getLast?_cons, hlast] at hs'
        exact hgoes s' hs'

theorem page_none_iff (hdriven : builder.Driven d o h (before ++ t :: after) h')
    (hpage : o.page = none) : t.order.page = none ↔ Unpaged before := by
  obtain ⟨horder, hgoes⟩ := driven_before hdriven
  unfold Unpaged
  rw [horder]
  cases hlast : before.getLast? with
  | none => simp [hpage]
  | some s =>
    have hs := hgoes s hlast
    unfold Delivery.goesOn at hs
    cases hnext : s.delivery.nextPage <;> simp_all

/-- A document of a run carries the criteria that the provider prints exactly when its turn comes
without a page, that is when it is the first turn or follows one that was pending without a page.
All other documents carry no criteria. -/
theorem driven_criteria {p : Provider} (hprovider : builder.provider = some p)
    (hdriven : builder.Driven d o h (before ++ t :: after) h') (hpage : o.page = none)
    {document : Document} (hdocument : document ∈ t.delivery.documents) :
    (Unpaged before → ∃ f h₁, builder.fetched d t.order t.before = (.ok f, h₁) ∧
      (p.printedCriteria builder.source o.sync.settings.criteria f.documentScope d.criteria h₁).1 =
        .ok document.contents.criteria) ∧
    (¬ Unpaged before → document.contents.criteria = []) := by
  have hvalid := driven_valid hdriven t (by simp)
  rw [← page_none_iff hdriven hpage]
  obtain ⟨f, h₁, hfetched, hcase⟩ := build_ok hvalid.built
  split at hcase
  · obtain ⟨document', h₂, hmade, hdelivery, -⟩ := hcase
    obtain rfl : document = document' := by simpa [hdelivery, delivered] using hdocument
    obtain ⟨-, -, -, hprinted, -⟩ := document_ok hmade
    refine ⟨fun hnone => ⟨f, h₁, hfetched, ?_⟩, fun hpaged => ?_⟩
    · rw [← hprinted, Builder.printed, hnone, hprovider, hvalid.order]
    · rw [printed_none _ (.inl hpaged)] at hprinted
      exact (Except.ok.inj hprinted).symm
  · rw [hcase.1] at hdocument
    cases hdocument

end Criteria

def slowAnswers : List Value :=
  [pendingAnswer .null, completeAnswer (.list [.object [("id", .text "u1")]]) (.text "p2"),
    completeAnswer (.list [.object [("id", .text "u2")]]) .null]

/-- The first of two documents carries the group, the second one nothing. -/
theorem driven_criteria_slow :
    ∃ turns h', (rosterBuilder slowAnswers).Driven roster rosterOrder Host.bare turns h' ∧
      ∃ first second, turns.flatMap (fun t => t.delivery.documents) = [first, second] ∧
        (∃ scope h₁, (groupProvider.printedCriteria (scripted slowAnswers) [("group", .text "g1")]
          scope roster.criteria h₁).1 = .ok first.contents.criteria) ∧
        first.contents.criteria.length = 1 ∧ second.contents.criteria = [] := by
  have hdriven := drive_driven (rosterBuilder slowAnswers) roster 3 rosterOrder Host.bare
  have hturns : ((rosterBuilder slowAnswers).drive roster 3 rosterOrder Host.bare).1.map
      (fun t => (t.delivery.isPending, t.delivery.nextPage,
        t.delivery.documents.map fun document => document.contents.criteria.length)) =
      [(true, none, []), (false, some "p2", [1]), (false, none, [0])] := by
    decide +kernel
  refine ⟨_, _, hdriven, ?_⟩
  generalize (rosterBuilder slowAnswers).drive roster 3 rosterOrder Host.bare =
    run at hdriven hturns
  obtain ⟨turns, h'⟩ := run
  obtain ⟨t₀, rest, rfl, ht₀, hrest⟩ := List.map_eq_cons_iff.mp hturns
  obtain ⟨t₁, rest, rfl, ht₁, hrest⟩ := List.map_eq_cons_iff.mp hrest
  obtain ⟨t₂, rest, rfl, ht₂, hrest⟩ := List.map_eq_cons_iff.mp hrest
  obtain rfl := List.map_eq_nil_iff.mp hrest
  simp only [Prod.mk.injEq, List.map_eq_nil_iff, List.map_eq_singleton_iff] at ht₀ ht₁ ht₂
  obtain ⟨hpending, hnone, hempty⟩ := ht₀
  obtain ⟨hcomplete, -, first, hfirst, hlength⟩ := ht₁
  obtain ⟨-, -, second, hsecond, -⟩ := ht₂
  refine ⟨first, second, by simp [hempty, hfirst, hsecond], ?_, hlength, ?_⟩
  · have hsplit : (rosterBuilder slowAnswers).Driven roster rosterOrder Host.bare
        ([t₀] ++ t₁ :: [t₂]) h' := hdriven
    have hdocument : first ∈ t₁.delivery.documents := by simp [hfirst]
    obtain ⟨f, h₁, -, hprinted⟩ := (driven_criteria rfl hsplit rfl hdocument).1
      (by simp [Unpaged, hpending, hnone])
    exact ⟨f.documentScope, h₁, hprinted⟩
  · have hsplit : (rosterBuilder slowAnswers).Driven roster rosterOrder Host.bare
        ([t₀, t₁] ++ t₂ :: []) h' := hdriven
    have hdocument : second ∈ t₂.delivery.documents := by simp [hsecond]
    exact (driven_criteria rfl hsplit rfl hdocument).2 (by simp [Unpaged, hcomplete])

/-- When the first batch is pending with a page, the criteria are lost: the first document of the
run has none, and yet the provider prints one wherever a document is written. -/
theorem driven_criteria_lost :
    ∃ turns h', (rosterBuilder rosterAnswers).Driven roster rosterOrder Host.bare turns h' ∧
      (∀ t ∈ turns.getLast?, t.delivery.goesOn = false) ∧
      (∀ document ∈ (turns.flatMap fun t => t.delivery.documents).head?,
        document.contents.criteria.length = 0) ∧
      (turns.flatMap fun t => t.delivery.documents).length = 2 ∧
      ∀ f ∈ (rosterBuilder rosterAnswers).fetches roster turns,
        ((groupProvider.printedCriteria (scripted rosterAnswers) [("group", .text "g1")]
          f.documentScope roster.criteria h').1.toOption.map List.length) = some 1 := by
  have hdriven := drive_driven (rosterBuilder rosterAnswers) roster 3 rosterOrder Host.bare
  exact ⟨_, _, hdriven, by decide +kernel, by decide +kernel, by decide +kernel, by decide +kernel⟩

end Builder

end Dossier
