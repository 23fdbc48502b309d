import Dossier.Proofs.Wizard.Session

/-!
# The ledger of a session

Every call of the data source leaves one span, whatever the call was made for and however it ended.
So the spans of a session are a ledger of its calls, of which the oldest entries are given up.
-/

set_option autoImplicit false

namespace Dossier

open Run Wizard

/-! ## Handlers that fetch -/

/-- Code that calls the data source by fetches alone, and otherwise leaves the calls and their spans
as they are. -/
inductive Run.Asks (source : Source) : {α : Type} → Run α → Prop where
  | aside {α : Type} {x : Run α} (hcalls : Keeps Host.calls x)
      (htracer : Keeps Host.fetchTracer x) : Asks source x
  | fetch (call : Call) : Asks source (source.fetch call)
  | bind {α β : Type} {x : Run α} {f : α → Run β} (hx : Asks source x)
      (hf : ∀ a, Asks source (f a)) : Asks source (x >>= f)
  | observe {α : Type} {x : Run α} (hx : Asks source x) : Asks source (Run.observe x)

theorem Run.Asks.traced {source : Source} {α : Type} {x : Run α} (hx : Asks source x) (h : Host) :
    h.Traced source (x h).2 := by
  induction hx generalizing h with
  | aside hcalls htracer => exact .aside (hcalls h) (htracer h)
  | fetch call => exact .fetch source call h
  | @bind _ _ x f _ _ ihx ihf =>
    cases hfirst : (x h).1 with
    | error e =>
      rw [bind_of_error hfirst]
      exact ihx h
    | ok a =>
      rw [bind_of_ok hfirst]
      exact (ihx h).trans (ihf a _)
  | observe _ ih => exact ih h

structure Handler.Asks (source : Source) (handler : Handler) : Prop where
  form : ∀ criteria pages, Run.Asks source (handler.form criteria pages)
  schema : ∀ criteria, Run.Asks source (handler.schema criteria)
  deliver : ∀ o, Run.Asks source (handler.deliver o)

def Catalog.Asks (source : Source) (catalog : Catalog) : Prop :=
  ∀ key handler, catalog.entries.lookup key = some (.handler handler) → handler.Asks source

/-! ## Traced sessions -/

section Traced

variable {source : Source}

theorem allows_any : Allows source (fun _ => True) fun _ => True where
  aloof := ⟨⟨fun _ _ _ _ => rfl, fun _ _ => rfl⟩, fun _ _ => rfl, fun _ _ => rfl, fun _ _ => rfl⟩
  settings _ _ _ _ := trivial
  source _ _ _ _ := trivial
  unrelated _ _ := trivial

theorem covers_any (p : Provider) (placements : List Placement) :
    p.Covers (fun _ => True) placements := by
  cases p with
  | declared criteria => exact fun _ _ _ => trivial
  | drafted drafts => exact fun _ => trivial
  | plain => trivial

theorem Run.Asks.tidy {α : Type} {x : Run α} (hx : Asks source x) :
    Tidy source (fun _ => True) (fun _ => True) x :=
  ⟨fun _ _ => trivial, fun _ _ _ _ => trivial, fun _ _ _ _ => trivial, fun h _ => hx.traced h⟩

theorem regular_any {e : Engine} (hsource : e.source = source) (hcatalog : e.catalog.Asks source) :
    e.Regular source (fun _ => True) fun _ => True where
  asks := hsource
  category := covers_any _ _
  definition key := ⟨fun _ _ => trivial, fun _ _ _ _ => covers_any _ _, fun _ _ _ _ => trivial,
    fun h _ => e.catalog.definition_traced source key h⟩
  handler key handler hlookup :=
    have hasks := hcatalog key handler hlookup
    ⟨fun criteria pages => (hasks.form criteria pages).tidy,
      fun criteria => (hasks.schema criteria).tidy, fun o => (hasks.deliver o).tidy⟩

theorem Operation.covered_any (e : Engine) (op : Operation) : op.Covered (fun _ => True) e := by
  cases op with
  | addInputs _ _ placements _ => exact covers_any _ _
  | printedCriteria _ _ placements => exact covers_any _ _
  | build builder d o => exact fun p _ => covers_any p _
  | _ => trivial

theorem serve_traced {session : List (Engine × Operation)}
    (hsession : ∀ entry ∈ session, entry.1.source = source ∧
      entry.1.catalog.Asks source) (h : Host) :
    h.Traced source (serve session h).2 := by
  refine serve_related (fun h => .aside rfl rfl) .trans (fun entry hentry h => ?_) h
  obtain ⟨hsource, hcatalog⟩ := hsession entry hentry
  have htidy := Operation.run_tidy allows_any (regular_any hsource hcatalog)
    (entry.2.covered_any entry.1)
  exact htidy.traced h trivial

end Traced

/-! ## The spans of a session -/

theorem spans_length (tracer : String) (first : Nat) (xs : List Exchange) :
    (Exchange.spans tracer first xs).length = xs.length := by
  induction xs generalizing first with
  | nil => rfl
  | cons x rest ih => simp [Exchange.spans, ih]

/-- What a new tracer has recorded are the latest spans, in order. -/
theorem noteAll_recorded (name : String) (xs : List Exchange) :
    ((Trace.Tracer.new name none false).noteAll xs).recorded =
      (Exchange.spans name 0 xs).drop (xs.length - Trace.capacity) := by
  rw [Trace.Tracer.recorded, Trace.Tracer.noteAll_finished _ xs (Nat.zero_le _)]
  simp only [Trace.Tracer.new, List.append_nil]
  rw [List.take_reverse, List.reverse_reverse, spans_length]

/-- In a process that starts, whatever is served and however it ends: the calls made are exchanges
with the source, each answered by a source that knows the calls before it, and of their spans, one
for each and in order, the latest are recorded. A span fails exactly when the source did or its
answer is no batch, and the caller of a fetch is given what came of the call. -/
theorem serve_spans (source : Source) (root : Path) (accounts : Accounts) (vars : Variables)
    (files : Folder) (zones : Calendar.Zones) (session : List (Engine × Operation))
    (hsession : ∀ entry ∈ session, entry.1.source = source ∧ entry.1.catalog.Asks source) :
    (∃ exchanges : List Exchange,
      (serve session (Host.start root accounts vars files zones)).2.calls =
        exchanges.map Exchange.call ∧
      Answered source [] exchanges ∧
      (serve session (Host.start root accounts vars files zones)).2.fetchTracer.active = [] ∧
      (serve session (Host.start root accounts vars files zones)).2.fetchTracer.recorded =
        (Exchange.spans "proofspec.datasource" 0 exchanges).drop
          (exchanges.length - Trace.capacity)) ∧
    (∀ tracer id past call,
      ((Exchange.mk call (source.outcome past call)).span tracer id).status = .error ↔
        (∃ e, source past call = .error e) ∨
        ∃ answer issues, source past call = .ok answer ∧ Batch.read answer = .bad issues) ∧
    ∀ call h, (source.fetch call h).1 = source.outcome h.calls call := by
  refine ⟨?_, fun tracer id past call => ?_, fun call h => (fetch_outcome source call h).1⟩
  · have htraced := serve_traced hsession (Host.start root accounts vars files zones)
    obtain ⟨exchanges, hcalls, hanswered, htracer⟩ := htraced rfl
    refine ⟨exchanges, hcalls, hanswered, ?_, ?_⟩
    · rw [htracer, Trace.Tracer.noteAll_active]
      rfl
    · rw [htracer]
      exact noteAll_recorded _ exchanges
  · unfold Exchange.span Dossier.Source.outcome
    cases source past call with
    | error e => simp
    | ok answer => cases hread : Batch.read answer <;> simp [hread]

def office : Source := fun _ call =>
  match call.dataSet, call.page with
  | "people", none =>
    .ok (.object [("status", .text "complete"), ("data", .list []), ("nextPage", .text "p2")])
  | "people", some _ => .ok (.object [("status", .text "pending")])
  | "rooms", _ => .ok (.text "closed")
  | _, _ => .error (.fault .noSuchData)

def reportHandler : Handler where
  proofType := "report"
  label := "Report"
  category := none
  offers _ := true
  form _ _ := do
    let _ ← office.fetch ⟨"people", none, some "p2", .null⟩
    throw (.fault .missingPart)
  schema _ := throw (.fault .missingPart)
  deliver _ := throw (.fault .missingPart)

def officeEngine : Engine :=
  ⟨⟨[("report", .handler reportHandler)], [], ["", "json"], "office"⟩, office, .plain⟩

def officeSession : List (Engine × Operation) :=
  [.form [("proofType", .text "report")] [], .fetch ⟨"rooms", none, none, .null⟩,
    .fetchAll "people" none none, .fetch ⟨"halls", none, none, .null⟩].map (officeEngine, ·)

theorem officeEngine_asks : officeEngine.catalog.Asks office := by
  have fails {α : Type} : Run.Asks office (throw (.fault .missingPart) : Run α) :=
    .aside (throw_keeps _) (throw_keeps _)
  intro key handler hlookup
  simp only [officeEngine, List.lookup_cons, List.lookup_nil] at hlookup
  split at hlookup
  · cases hlookup
    exact ⟨fun _ _ => .bind (.fetch _) fun _ => fails, fun _ => fails, fun _ => fails⟩
  · cases hlookup

/-- Five calls are made, and two of them fail: the one that gives no batch and the one that the
source refuses. -/
theorem serve_spans_office :
    (∀ entry ∈ officeSession, entry.1.source = office ∧ entry.1.catalog.Asks office) ∧
      ∃ exchanges : List Exchange, Answered office [] exchanges ∧
        exchanges.map (fun x => (x.call.dataSet, x.call.page)) =
          [("people", some "p2"), ("rooms", none), ("people", none), ("people", some "p2"),
            ("halls", none)] ∧
        (Exchange.spans "proofspec.datasource" 0 exchanges).map
          (fun s => (s.status, s.attributes.map Prod.fst)) =
          [(.ok, ["data_set", "page", "status"]), (.error, ["data_set"]),
            (.ok, ["data_set", "status", "next_page"]), (.ok, ["data_set", "page", "status"]),
            (.error, ["data_set"])] := by
  have hsession : ∀ entry ∈ officeSession,
      entry.1.source = office ∧ entry.1.catalog.Asks office :=
    List.forall_mem_map.mpr fun _ _ => ⟨rfl, officeEngine_asks⟩
  obtain ⟨⟨exchanges, hcalls, hanswered, -, hrecorded⟩, -, -⟩ :=
    serve_spans office [] [] [] .empty .utc officeSession hsession
  have hmade : (serve officeSession (Host.start [] [] [] .empty .utc)).2.calls.map
      (fun call => (call.dataSet, call.page)) =
      [("people", some "p2"), ("rooms", none), ("people", none), ("people", some "p2"),
        ("halls", none)] := by
    decide +kernel
  have hspans : (serve officeSession (Host.start [] [] [] .empty .utc)).2.fetchTracer.recorded.map
      (fun s => (s.status, s.attributes.map Prod.fst)) =
      [(.ok, ["data_set", "page", "status"]), (.error, ["data_set"]),
        (.ok, ["data_set", "status", "next_page"]), (.ok, ["data_set", "page", "status"]),
        (.error, ["data_set"])] := by
    decide +kernel
  rw [hcalls, List.map_map] at hmade
  have hfew : exchanges.length = 5 := by simpa using congrArg List.length hmade
  rw [hrecorded, hfew] at hspans
  exact ⟨hsession, exchanges, hanswered, hmade, hspans⟩

end Dossier
