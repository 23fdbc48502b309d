import Dossier.Host.Basic
import Dossier.Trace.Block
import Dossier.Value.Display

/-!
# Tracers shared by name

A tracer is made when its name is first asked for, and asked for again it is the same one. A trace
may be continued under an identity of its own, which gives a tracer of its own. In debug mode the
spans that finish are also written out, which is taken to succeed here.
-/

set_option autoImplicit false

namespace Dossier.Trace

open Run

/-- The identity of a trace to be continued; an empty one is none. -/
def continued (traceId : Option String) : Option String := traceId.filter (· != "")

def sharedKey (name : String) (traceId : Option String) : String :=
  name ++ ":" ++ (continued traceId).getD "default"

def shared (name : String) (traceId : Option String) : Run Tracer := do
  let h ← get
  match h.tracers.lookup (sharedKey name traceId) with
  | some t => pure t
  | none => do
    let s ← settings
    let t := Tracer.new name (continued traceId) s.debug
    modify fun h => { h with tracers := h.tracers ++ [(sharedKey name traceId, t)] }
    pure t

def finishedSince (before after : Tracer) : List Span :=
  let known := before.finished.map Span.id
  after.recorded.filter fun span => !known.contains span.id

def put (name : String) (traceId : Option String) (before after : Tracer) : Run Unit :=
  let key := sharedKey name traceId
  let lines := if after.exports then
      (finishedSince before after).map fun span => TraceLine.mk (after.traceId.getD "") span
    else []
  modify fun h => { h with
    tracers := h.tracers.map fun entry => if entry.1 = key then (key, after) else entry
    exported := h.exported ++ lines }

def runShared (name : String) (traceId : Option String) (b : Block) : Run (List Block.Event) := do
  let before ← shared name traceId
  let (after, events) := Block.runAll [b] before
  put name traceId before after
  pure events

mutual

def plain : Value → Value
  | .date d => .text (Value.display (.date d))
  | .moment m => .text (Value.display (.moment m))
  | .clock t => .text (Value.display (.clock t))
  | .list items => .list (plainItems items)
  | .object fields => .object (plainFields fields)
  | v => v

def plainItems : List Value → List Value
  | [] => []
  | v :: rest => plain v :: plainItems rest

def plainFields : Fields → Fields
  | [] => []
  | (key, v) :: rest => (key, plain v) :: plainFields rest

end

def Span.toValue (s : Span) : Value :=
  .object [("name", .text s.name), ("kind", .text s.kind.name), ("status", .text s.status.name),
    ("status_message", (s.message.map Value.text).getD .null),
    ("attributes", .object (plainFields s.attributes))]

end Dossier.Trace
