import Dossier.Value.Basic

/-!
# Tracers

A tracer records spans of work. Spans nest: a span that is opened while another is open has that one
as its parent, and spans are left in the reverse order. A span that fails has the status of an
error; one that ends well keeps the status set inside it, or is marked as fine when none was set.
Work that is interrupted has neither failed nor ended well: its span stays as it is. Only the most
recent thousand spans are kept.
-/

set_option autoImplicit false

namespace Dossier.Trace

inductive Kind where
  | internal
  | client
  deriving DecidableEq, Repr, Inhabited

namespace Kind

def name : Kind → String
  | .internal => "internal"
  | .client => "client"

def options : List (String × Kind) := [("internal", .internal), ("client", .client)]

end Kind

inductive Status where
  | unset
  | ok
  | error
  deriving DecidableEq, Repr, Inhabited

namespace Status

def name : Status → String
  | .unset => "unset"
  | .ok => "ok"
  | .error => "error"

def options : List (String × Status) := [("unset", .unset), ("ok", .ok), ("error", .error)]

end Status

structure Span where
  id : Nat
  parent : Option Nat
  name : String
  kind : Kind
  status : Status
  message : Option String
  attributes : Fields
  deriving Repr, Inhabited

/-- How the work of a span ends. An error is told in one line; an interruption, such as a
cancellation, is raised like an error but is none. -/
inductive Ending where
  | normal
  | error (line : String)
  | interrupted
  deriving DecidableEq, Repr

structure Tracer where
  name : String
  traceId : Option String
  /-- Finished spans are also written to the trace folder. -/
  exports : Bool
  /-- The number of the next span. -/
  next : Nat
  /-- The open spans, innermost first. -/
  active : List Span
  /-- The finished spans, latest first. -/
  finished : List Span
  deriving Repr, Inhabited

def capacity : Nat := 1000

namespace Tracer

def new (name : String) (traceId : Option String) (exports : Bool) : Tracer :=
  ⟨name, traceId, exports, 0, [], []⟩

def current? (t : Tracer) : Option Span := t.active.head?

def recorded (t : Tracer) : List Span := t.finished.reverse

def enter (t : Tracer) (name : String) (kind : Kind) (attributes : Fields) : Tracer :=
  let span : Span :=
    ⟨t.next, t.current?.map Span.id, t.name ++ "." ++ name, kind, .unset, none, attributes⟩
  { t with next := t.next + 1, active := span :: t.active }

def amend (t : Tracer) (change : Span → Span) : Tracer :=
  match t.active with
  | [] => t
  | span :: rest => { t with active := change span :: rest }

def setAttribute (t : Tracer) (key : String) (value : Value) : Tracer :=
  t.amend fun span => { span with attributes := span.attributes.put key value }

def setStatus (t : Tracer) (status : Status) (message : Option String) : Tracer :=
  t.amend fun span => { span with status := status, message := message }

def close (span : Span) : Ending → Span
  | .error line => { span with status := .error, message := some line }
  | .interrupted => span
  | .normal =>
    if span.status = .unset then { span with status := .ok, message := none } else span

def leave (t : Tracer) (ending : Ending) : Tracer :=
  match t.active with
  | [] => t
  | span :: rest =>
    { t with active := rest, finished := (close span ending :: t.finished).take capacity }

end Tracer

end Dossier.Trace
