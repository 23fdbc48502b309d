import Dossier.Host.Basic
import Dossier.Source.Batch

/-!
# Fetching

Every call of the data source is noted before the source answers and runs inside a span. What the
source answers must be a batch. Pages are fetched one after the other by their cursors, up to a
limit.
-/

set_option autoImplicit false

namespace Dossier

namespace Run

def errorLine (e : Failure) : String := e.name ++ ": " ++ e.text

def onFetchTracer (change : Trace.Tracer → Trace.Tracer) : Run Unit :=
  modify fun h => { h with fetchTracer := change h.fetchTracer }

def onBuildTracer (change : Trace.Tracer → Trace.Tracer) : Run Unit :=
  modify fun h => { h with buildTracer := change h.buildTracer }

def finishSpan {α : Type} (onTracer : (Trace.Tracer → Trace.Tracer) → Run Unit) :
    Except Failure α → Run α
  | .ok a => do
    onTracer (·.leave .normal)
    pure a
  | .error e => do
    onTracer (·.leave (.error (errorLine e)))
    throw e

end Run

open Run

def Source.ask (source : Source) (call : Call) : Run Value := do
  let h ← get
  set { h with calls := h.calls ++ [call] }
  lift (source h.calls call)

def Batch.ofAnswer (answer : Value) : Run Batch :=
  match Batch.read answer with
  | .ok b => pure b
  | .bad issues => throw (.invalid issues)

def Source.fetchInside (source : Source) (call : Call) : Run Batch := do
  match call.page with
  | some page => onFetchTracer (·.setAttribute "page" (.text page))
  | none => pure ()
  let answer ← source.ask call
  let batch ← Batch.ofAnswer answer
  onFetchTracer (·.setAttribute "status" (.text batch.status.name))
  match batch.cursor? with
  | some cursor => onFetchTracer (·.setAttribute "next_page" (.text cursor))
  | none => pure ()
  pure batch

def Source.fetch (source : Source) (call : Call) : Run Batch := do
  onFetchTracer (·.enter "get_data" .client [("data_set", .text call.dataSet)])
  let result ← observe (source.fetchInside call)
  finishSpan onFetchTracer result

def Source.fetchPages (source : Source) (dataSet : String) (params : Option Fields)
    (limit : Int) : Nat → Option String → Run (List Batch)
  | 0, _ => throw (.pageLimit dataSet limit)
  | left + 1, page => do
    let batch ← source.fetch ⟨dataSet, params, page, .null⟩
    if batch.status = .complete then
      match batch.cursor? with
      | some cursor => do
        let rest ← source.fetchPages dataSet params limit left (some cursor)
        pure (batch :: rest)
      | none => pure [batch]
    else pure [batch]

/-- Fetch every page of a data set. A page that is pending is the last one. -/
def Source.fetchAll (source : Source) (dataSet : String) (params : Option Fields)
    (maxPages : Option Int) : Run (List Batch) := do
  let limit ← match maxPages.filter (· ≠ 0) with
    | some limit => pure limit
    | none => (·.maxPages) <$> settings
  source.fetchPages dataSet params limit limit.toNat none

end Dossier
