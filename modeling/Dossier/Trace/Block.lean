import Dossier.Trace.Tracer

/-!
# Blocks of traced work

A block opens a span, sets attributes, runs the blocks inside it, sets a status and may then raise
an error. An error leaves one block after another until it leaves one that is marked as caught,
after which the block around that one goes on.
-/

set_option autoImplicit false

namespace Dossier.Trace

inductive Block where
  | mk (name : String) (kind : Kind) (attributes : Fields) (set : Fields) (inner : List Block)
      (status : Option (Status × Option String)) (raises : Option String) (caught : Bool)
  deriving Inhabited

namespace Block

def caught : Block → Bool
  | .mk _ _ _ _ _ _ _ c => c

inductive Event where
  /-- A span was opened; whether it was the current one. -/
  | opened (name : String) (isCurrent : Bool)
  | caught (message : String)
  | escaped (message : String)
  deriving DecidableEq, Repr

structure Outcome where
  tracer : Tracer
  events : List Event
  error : Option String

mutual

def run : Block → Tracer → Outcome
  | .mk name kind attributes set inner status raises _, t =>
    let id := t.next
    let t := t.enter name kind attributes
    let opened := Event.opened (t.name ++ "." ++ name) (t.current?.map Span.id == some id)
    let t := set.foldl (fun t entry => t.setAttribute entry.1 entry.2) t
    let p := runInner inner t
    match p.error with
    | some message =>
      ⟨p.tracer.leave (.error ("RuntimeError: " ++ message)), opened :: p.events, some message⟩
    | none =>
      let t := match status with
        | some (s, m) => p.tracer.setStatus s m
        | none => p.tracer
      match raises with
      | some message =>
        ⟨t.leave (.error ("RuntimeError: " ++ message)), opened :: p.events, some message⟩
      | none => ⟨t.leave .normal, opened :: p.events, none⟩

def runInner : List Block → Tracer → Outcome
  | [], t => ⟨t, [], none⟩
  | b :: rest, t =>
    let p := run b t
    match p.error with
    | none =>
      let q := runInner rest p.tracer
      ⟨q.tracer, p.events ++ q.events, q.error⟩
    | some message =>
      if b.caught then
        let q := runInner rest p.tracer
        ⟨q.tracer, p.events ++ .caught message :: q.events, q.error⟩
      else ⟨p.tracer, p.events, some message⟩

end

def runAll : List Block → Tracer → Tracer × List Event
  | [], t => (t, [])
  | b :: rest, t =>
    let p := run b t
    let noted := match p.error with
      | none => []
      | some message => [.escaped message]
    let (t, events) := runAll rest p.tracer
    (t, p.events ++ noted ++ events)

end Block

end Dossier.Trace
