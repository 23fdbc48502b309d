import Dossier.Proofs.Source.Exchange

/-!
# The spans of calls

The tracer of the data source and the log of its calls are kept apart, but go along with each other:
a fetch adds one call to the log and one finished span to the tracer, and the span tells what the
call was and what came of it. The tracer forgets its oldest spans, the log forgets nothing.
-/

set_option autoImplicit false

namespace Dossier

open Run Trace

/-! ## The span of an exchange -/

namespace Exchange

/-- What is noted in the span: the data set, the page when one was asked for, and of a valid result
its status and its cursor when there is one. -/
def attributes (x : Exchange) : Fields :=
  ("data_set", .text x.call.dataSet) :: (x.call.page.toList.map fun page => ("page", .text page)) ++
    match x.outcome with
    | .ok batch => ("status", .text batch.status.name) ::
        batch.cursor?.toList.map fun cursor => ("next_page", .text cursor)
    | .error _ => []

/-- The span of an exchange, under a number. It fails exactly when the exchange did. -/
def span (tracer : String) (id : Nat) (x : Exchange) : Span where
  id := id
  parent := none
  name := tracer ++ "." ++ "get_data"
  kind := .client
  status := match x.outcome with
    | .ok _ => .ok
    | .error _ => .error
  message := match x.outcome with
    | .ok _ => none
    | .error e => some (errorLine e)
  attributes := x.attributes

def spans (tracer : String) (first : Nat) : List Exchange → List Span
  | [] => []
  | x :: rest => x.span tracer first :: spans tracer (first + 1) rest

end Exchange

def Trace.Tracer.note (t : Tracer) (x : Exchange) : Tracer :=
  { t with
    next := t.next + 1
    finished := (x.span t.name t.next :: t.finished).take capacity }

/-! ## One fetch -/

def Host.during (h : Host) (t : Tracer) (s : Span) : Host :=
  { h with fetchTracer := { t with active := [s] } }

section Fetching

variable {source : Source} {call : Call}

theorem onFetchTracer_bind {α : Type} (change : Tracer → Tracer) (f : Unit → Run α) (h : Host) :
    (onFetchTracer change >>= f) h = f () { h with fetchTracer := change h.fetchTracer } := by
  rw [bind_apply]
  rfl

theorem ask_bind {α : Type} (f : Value → Run α) (h : Host) :
    (source.ask call >>= f) h = match source h.calls call with
      | .ok answer => f answer { h with calls := h.calls ++ [call] }
      | .error e => (.error e, { h with calls := h.calls ++ [call] }) := by
  have hask : source.ask call h = (source h.calls call, { h with calls := h.calls ++ [call] }) :=
    lift_apply _ _
  rw [bind_apply, hask]
  cases source h.calls call <;> rfl

theorem ofAnswer_bind {α : Type} (answer : Value) (f : Batch → Run α) (h : Host) :
    (Batch.ofAnswer answer >>= f) h = match Batch.read answer with
      | .ok batch => f batch h
      | .bad issues => (.error (.invalid issues), h) := by
  rw [bind_apply, Batch.ofAnswer]
  cases Batch.read answer <;> rfl

theorem observe_bind {α β : Type} (x : Run α) (f : Except Failure α → Run β) (h : Host) :
    (observe x >>= f) h = f (x h).1 (x h).2 := by
  rw [bind_apply]
  rfl

def answered (attributes : Fields) : Except Failure Batch → Fields
  | .ok batch =>
    batch.cursor?.toList.foldl (fun noted cursor => noted.put "next_page" (.text cursor))
      (attributes.put "status" (.text batch.status.name))
  | .error _ => attributes

/-- Asking the source inside an open span. -/
theorem asked_apply (h : Host) (t : Tracer) (s : Span) :
    (do
      let answer ← source.ask call
      let batch ← Batch.ofAnswer answer
      onFetchTracer (·.setAttribute "status" (.text batch.status.name))
      match batch.cursor? with
      | some cursor => onFetchTracer (·.setAttribute "next_page" (.text cursor))
      | none => pure ()
      pure batch : Run Batch) (h.during t s) =
      (source.outcome h.calls call, { h with calls := h.calls ++ [call] }.during t
        { s with attributes := answered s.attributes (source.outcome h.calls call) }) := by
  rw [ask_bind, show (h.during t s).calls = h.calls from rfl, Source.outcome]
  cases source h.calls call with
  | error e => rfl
  | ok answer =>
    dsimp only
    rw [ofAnswer_bind]
    cases Batch.read answer with
    | bad issues => rfl
    | ok batch =>
      dsimp only [answered]
      generalize batch.cursor? = cursor?
      cases cursor? <;> rfl

theorem fetchInside_apply (h : Host) (t : Tracer) (s : Span)
    (hs : s.attributes = [("data_set", .text call.dataSet)]) :
    source.fetchInside call (h.during t s) =
      (source.outcome h.calls call, { h with calls := h.calls ++ [call] }.during t
        { s with attributes := (Exchange.mk call (source.outcome h.calls call)).attributes }) := by
  have attributes (page? : Option String) (hpage : call.page = page?) :
      answered (page?.toList.foldl (fun noted page => noted.put "page" (.text page)) s.attributes)
        (source.outcome h.calls call) =
        (Exchange.mk call (source.outcome h.calls call)).attributes := by
    rw [hs, Exchange.attributes, hpage]
    cases source.outcome h.calls call with
    | error e => cases page? <;> simp [answered, Fields.put]
    | ok batch =>
      simp only [answered]
      generalize batch.cursor? = cursor?
      cases page? <;> cases cursor? <;> simp [Fields.put]
  unfold Source.fetchInside
  cases hpage : call.page with
  | none =>
    rw [← attributes none hpage]
    exact asked_apply h t s
  | some page =>
    rw [← attributes (some page) hpage]
    exact asked_apply h t { s with attributes := s.attributes.put "page" (.text page) }

/-- A fetch while no span is open: its result is the outcome of the call, and the call and its span
are noted. -/
theorem fetch_apply (source : Source) (call : Call) {h : Host} (hidle : h.fetchTracer.active = []) :
    source.fetch call h = (source.outcome h.calls call,
      { h with
        calls := h.calls ++ [call]
        fetchTracer := h.fetchTracer.note ⟨call, source.outcome h.calls call⟩ }) := by
  let opened : Span :=
    ⟨h.fetchTracer.next, none, h.fetchTracer.name ++ "." ++ "get_data", .client, .unset,
    none, [("data_set", .text call.dataSet)]⟩
  have hopened : { h with fetchTracer :=
      (h.fetchTracer.enter "get_data" .client [("data_set", .text call.dataSet)]) } =
      h.during { h.fetchTracer with next := h.fetchTracer.next + 1 } opened := by
    simp [Tracer.enter, Tracer.current?, hidle, Host.during, opened]
  rw [Source.fetch, onFetchTracer_bind, observe_bind, hopened,
    fetchInside_apply h _ opened rfl]
  cases source.outcome h.calls call with
  | ok batch =>
    rw [finishSpan, onFetchTracer_bind]
    simp only [Host.during, Tracer.leave, Tracer.close, Tracer.note, Exchange.span, opened, hidle]
    rfl
  | error e =>
    rw [finishSpan, onFetchTracer_bind]
    simp only [Host.during, Tracer.leave, Tracer.close, Tracer.note, Exchange.span, opened, hidle]
    rfl

end Fetching

/-! ## Many fetches -/

namespace Trace.Tracer

variable (t : Tracer) (xs : List Exchange)

def noteAll : Tracer := xs.foldl note t

theorem noteAll_append (ys : List Exchange) : t.noteAll (xs ++ ys) = (t.noteAll xs).noteAll ys :=
  List.foldl_append

theorem noteAll_active : (t.noteAll xs).active = t.active := by
  induction xs generalizing t with
  | nil => rfl
  | cons x rest ih => exact ih (t.note x)

theorem take_append_take {α : Type} (n : Nat) (l r : List α) :
    (l ++ r.take n).take n = (l ++ r).take n := by
  rw [List.take_append, List.take_append, List.take_take, Nat.min_eq_left (Nat.sub_le _ _)]

/-- Of the finished spans and the new ones the latest are kept. -/
theorem noteAll_finished (hroom : t.finished.length ≤ capacity) :
    (t.noteAll xs).finished =
      ((Exchange.spans t.name t.next xs).reverse ++ t.finished).take capacity := by
  induction xs generalizing t with
  | nil => exact (List.take_of_length_le hroom).symm
  | cons x rest ih =>
    have hnoted : (t.note x).finished.length ≤ capacity := List.length_take_le _ _
    have hlater := ih (t.note x) hnoted
    rw [Exchange.spans, List.reverse_cons, List.append_assoc]
    exact hlater.trans (take_append_take _ _ _)

end Trace.Tracer

theorem answered_append {source : Source} {past : List Call} {xs ys : List Exchange}
    (hx : Answered source past xs) (hy : Answered source (past ++ xs.map Exchange.call) ys) :
    Answered source past (xs ++ ys) := by
  induction xs generalizing past with
  | nil => simpa using hy
  | cons x rest ih => exact ⟨hx.1, ih hx.2 (by simpa using hy)⟩

/-- From one host to another, with no span open, the source was asked, and each exchange was noted
in the log and in the tracer. -/
def Host.Traced (source : Source) (h h' : Host) : Prop :=
  h.fetchTracer.active = [] → ∃ xs : List Exchange,
    h'.calls = h.calls ++ xs.map Exchange.call ∧ Answered source h.calls xs ∧
      h'.fetchTracer = h.fetchTracer.noteAll xs

namespace Host.Traced

variable {source : Source} {h h' h'' : Host}

theorem aside (hcalls : h'.calls = h.calls) (htracer : h'.fetchTracer = h.fetchTracer) :
    h.Traced source h' := fun _ => ⟨[], by simpa using hcalls, trivial, htracer⟩

theorem trans (hx : h.Traced source h') (hy : h'.Traced source h'') : h.Traced source h'' := by
  intro hidle
  obtain ⟨xs, hcalls, hanswered, htracer⟩ := hx hidle
  obtain ⟨ys, hcalls', hanswered', htracer'⟩ := hy (by rw [htracer, Tracer.noteAll_active, hidle])
  refine ⟨xs ++ ys, by simp [hcalls', hcalls], ?_, ?_⟩
  · exact answered_append hanswered (hcalls ▸ hanswered')
  · rw [htracer', htracer, Tracer.noteAll_append]

theorem fetch (source : Source) (call : Call) (h : Host) :
    h.Traced source (source.fetch call h).2 := by
  intro hidle
  rw [fetch_apply source call hidle]
  exact ⟨[⟨call, source.outcome h.calls call⟩], rfl, ⟨rfl, trivial⟩, rfl⟩

end Host.Traced

end Dossier
