import Dossier.Trace.Block

/-!
# Work on several tracers

Work opens blocks of one tracer or another inside each other. Inside a block it notes attributes and
a status in the span of that block. It may raise an error or be interrupted at any point, which
leaves one block after another until it leaves a part of the work that was only attempted.

A tracer that exports writes the span of a block to a file when the block is over and its span has
been recorded. Writing may fail, and its error leaves the block instead of anything that was on the
way.
-/

set_option autoImplicit false

namespace Dossier.Trace

structure Raised where
  kind : String
  text : String
  interrupts : Bool
  deriving DecidableEq, Repr, Inhabited

def Raised.line (e : Raised) : String := e.kind ++ ": " ++ e.text

def Raised.ending (e : Raised) : Ending := if e.interrupts then .interrupted else .error e.line

def Ending.of (raised : Option Raised) : Ending := (raised.map Raised.ending).getD .normal

@[simp] theorem Ending.of_none : Ending.of none = .normal := rfl

abbrev Tracers := String → Tracer

namespace Tracers

def put (ts : Tracers) (key : String) (t : Tracer) : Tracers := fun k => if k = key then t else ts k

def change (ts : Tracers) (key : String) (f : Tracer → Tracer) : Tracers := ts.put key (f (ts key))

/-- Change the tracer of the innermost block; outside all blocks there is none. -/
def changeOwn (ts : Tracers) (own : Option String) (f : Tracer → Tracer) : Tracers :=
  match own with
  | some key => ts.change key f
  | none => ts

end Tracers

inductive Work where
  | done
  | raise (e : Raised)
  /-- Note an attribute in the span of the innermost block. -/
  | note (key : String) (value : Value) (rest : Work)
  /-- Set the status of the span of the innermost block. -/
  | mark (s : Status) (message : Option String) (rest : Work)
  /-- Work inside a block, with the error of writing its span if that fails. -/
  | block (tracer name : String) (kind : Kind) (attributes : Fields) (inner : Work)
      (unwritten : Option Raised) (rest : Work)
  /-- Go on with the rest whether or not something leaves the inner work. -/
  | attempt (inner rest : Work)
  deriving Inhabited

namespace Work

def leaving (exports : Bool) (unwritten raised : Option Raised) : Option Raised :=
  (if exports then unwritten else none).or raised

@[simp] theorem leaving_written (exports : Bool) (raised : Option Raised) :
    leaving exports none raised = raised := by
  cases exports <;> rfl

def run : Work → Option String → Tracers → Tracers × Option Raised
  | done, _, ts => (ts, none)
  | raise e, _, ts => (ts, some e)
  | note key v rest, own, ts => rest.run own (ts.changeOwn own (·.setAttribute key v))
  | mark s m rest, own, ts => rest.run own (ts.changeOwn own (·.setStatus s m))
  | block tracer name kind attributes inner unwritten rest, own, ts =>
    let (ts, raised) := inner.run (some tracer) (ts.change tracer (·.enter name kind attributes))
    let ts := ts.change tracer (·.leave (.of raised))
    match leaving (ts tracer).exports unwritten raised with
    | some e => (ts, some e)
    | none => rest.run own ts
  | attempt inner rest, own, ts => rest.run own (inner.run own ts).1

end Work

namespace Block

def ending (status : Option (Status × Option String)) (raises : Option String) : Work :=
  let last : Work := match raises with
    | some message => .raise ⟨"RuntimeError", message, false⟩
    | none => .done
  match status with
  | some (s, m) => .mark s m last
  | none => last

mutual

/-- A block of a tracer and the work after it, as work. Its span is written without an error. -/
def work (tracer : String) : Block → Work → Work
  | .mk name kind attributes set inner status raises _, rest =>
    let steps := set.foldr (fun entry steps => .note entry.1 entry.2 steps)
      (works tracer inner (ending status raises))
    .block tracer name kind attributes steps none rest

def works (tracer : String) : List Block → Work → Work
  | [], rest => rest
  | b :: more, rest =>
    if b.caught then .attempt (work tracer b .done) (works tracer more rest)
    else work tracer b (works tracer more rest)

end

def outermost (tracer : String) : List Block → Work
  | [] => .done
  | b :: rest => .attempt (work tracer b .done) (outermost tracer rest)

end Block

end Dossier.Trace
