import Dossier.Trace.Work
import Dossier.Proofs.Source.Spans

/-!
# The spans of a forest of blocks

The blocks that ran make a forest, whatever left them. A tracer that was at work keeps the spans of
its own blocks of the forest, each behind those inside it, and is otherwise as it was: what is open
in it is what was open before. A span that could not be written to its file is kept like any other;
the error that comes of it belongs to the work around the block.
-/

set_option autoImplicit false

namespace Dossier.Trace

/-! ## Tracers by their keys -/

namespace Tracers

variable (ts : Tracers) (key other : String) (t : Tracer)

@[simp] theorem put_self : ts.put key t key = t := if_pos rfl

@[simp] theorem put_put (u : Tracer) : (ts.put key t).put key u = ts.put key u := by
  funext k
  by_cases hk : k = key <;> simp [put, hk]

@[simp] theorem put_same : ts.put key (ts key) = ts := by
  funext k
  by_cases hk : k = key <;> simp [put, hk]

@[simp] theorem change_self (f : Tracer → Tracer) : ts.change key f key = f (ts key) := if_pos rfl

theorem change_of_ne {key other : String} (hne : other ≠ key) (f : Tracer → Tracer) :
    ts.change key f other = ts other := if_neg hne

@[simp] theorem change_put (f : Tracer → Tracer) :
    (ts.put key t).change key f = ts.put key (f t) := by
  simp [change]

theorem enter_exports (name : String) (kind : Kind) (attributes : Fields) :
    (ts.change key (·.enter name kind attributes) other).exports = (ts other).exports := by
  by_cases hother : other = key
  · rw [hother, change_self]
    rfl
  · rw [change_of_ne ts hother]

end Tracers

/-! ## Blocks that ran -/

/-- A block that ran: the attributes of its span, the status last set inside it, and what left the
work inside it. -/
structure Ran where
  tracer : String
  name : String
  kind : Kind
  attributes : Fields
  status : Option (Status × Option String)
  raised : Option Raised

namespace Ran

/-- The status of the block with its message. It is an error when an error left the work inside it.
Work that was interrupted leaves what was set last, or nothing. Otherwise it is what was set last,
and fine when that is nothing. -/
def ended (b : Ran) : Status × Option String :=
  let last := b.status.getD (.unset, none)
  match b.raised with
  | some e => if e.interrupts then last else (.error, some e.line)
  | none => if last.1 = .unset then (.ok, none) else last

def span (b : Ran) (label : String) (id : Nat) (parent : Option Nat) : Span :=
  ⟨id, parent, label ++ "." ++ b.name, b.kind, b.ended.1, b.ended.2, b.attributes⟩

end Ran

inductive Forest where
  | nil
  | tree (b : Ran) (inner rest : Forest)

namespace Forest

def append : Forest → Forest → Forest
  | nil, g => g
  | tree b inner rest, g => tree b inner (rest.append g)

def count (key : String) : Forest → Nat
  | nil => 0
  | tree b inner rest => (if b.tracer = key then 1 else 0) + inner.count key + rest.count key

/-- The spans of a tracer's blocks in the order in which the blocks ended, numbered from `next` on
in the order in which they began. The parent of a span is the innermost block of the same tracer
around it; `parent` is the one around the whole forest. -/
def spans (key label : String) : Forest → Option Nat → Nat → List Span
  | nil, _, _ => []
  | tree b inner rest, parent, next =>
    if b.tracer = key then
      inner.spans key label (some next) (next + 1) ++
        b.span label next parent :: rest.spans key label parent (next + 1 + inner.count key)
    else
      inner.spans key label parent next ++ rest.spans key label parent (next + inner.count key)

variable (key label : String)

theorem count_append (f g : Forest) : (f.append g).count key = f.count key + g.count key := by
  induction f with
  | nil => simp [append, count]
  | tree b inner rest _ ih => simp [append, count, ih, Nat.add_assoc]

theorem spans_append (f g : Forest) (parent : Option Nat) (next : Nat) :
    (f.append g).spans key label parent next =
      f.spans key label parent next ++ g.spans key label parent (next + f.count key) := by
  induction f generalizing next with
  | nil => simp [append, spans, count]
  | tree b inner rest _ ih =>
    by_cases hb : b.tracer = key <;> simp [append, spans, count, hb, ih, Nat.add_assoc]

theorem spans_ids (f : Forest) (parent : Option Nat) (next : Nat) :
    ((f.spans key label parent next).map Span.id).Perm (List.range' next (f.count key)) := by
  induction f generalizing parent next with
  | nil => simp [spans, count]
  | tree b inner rest ihinner ihrest =>
    by_cases hb : b.tracer = key
    · simp only [spans, count, hb, if_true, List.map_append, List.map_cons, Ran.span]
      rw [Nat.add_assoc 1, Nat.add_comm 1, List.range'_succ]
      refine List.perm_middle.trans (.cons next ?_)
      rw [← List.range'_append_1]
      exact (ihinner (some next) (next + 1)).append (ihrest parent (next + 1 + inner.count key))
    · simp only [spans, count, hb, if_false, List.map_append, Nat.zero_add]
      rw [← List.range'_append_1]
      exact (ihinner parent next).append (ihrest parent (next + inner.count key))

end Forest

/-- What work comes to without any tracer: the blocks that ran in it, what it noted and set in the
span around it, and what left it. -/
structure Course where
  forest : Forest
  notes : Fields
  status : Option (Status × Option String)
  raised : Option Raised

namespace Course

/-- One course after another; of the statuses set the later one counts. -/
def append (c d : Course) : Course :=
  ⟨c.forest.append d.forest, c.notes ++ d.notes, d.status.or c.status, d.raised⟩

def annotate (c : Course) (s : Span) : Span :=
  let s := { s with
    attributes := c.notes.foldl (fun noted entry => noted.put entry.1 entry.2) s.attributes }
  match c.status with
  | some (status, message) => { s with status := status, message := message }
  | none => s

def ran (c : Course) (tracer name : String) (kind : Kind) (attributes : Fields) : Ran :=
  ⟨tracer, name, kind, c.notes.foldl (fun noted entry => noted.put entry.1 entry.2) attributes,
    c.status, c.raised⟩

theorem annotate_id (c : Course) (s : Span) : (c.annotate s).id = s.id := by
  unfold annotate
  cases c.status <;> rfl

theorem annotate_append (c d : Course) (s : Span) :
    (c.append d).annotate s = d.annotate (c.annotate s) := by
  rcases c with ⟨_, _, _ | _, _⟩ <;> rcases d with ⟨_, _, _ | _, _⟩ <;>
    simp [annotate, append, List.foldl_append]

theorem close_annotate (c : Course) (tracer label name : String) (kind : Kind) (attributes : Fields)
    (id : Nat) (parent : Option Nat) :
    Tracer.close (c.annotate ⟨id, parent, label ++ "." ++ name, kind, .unset, none, attributes⟩)
      (.of c.raised) = (c.ran tracer name kind attributes).span label id parent := by
  rcases c with ⟨forest, notes, set, raised⟩
  cases raised with
  | none =>
    rcases set with _ | ⟨status, message⟩
    · rfl
    · by_cases hs : status = .unset <;>
        simp [annotate, Tracer.close, Ending.of, ran, Ran.span, Ran.ended, hs]
  | some e =>
    rcases e with ⟨_, _, _ | _⟩ <;> rcases set with _ | ⟨status, message⟩ <;> rfl

end Course

namespace Work

def course (exports : String → Bool) : Work → Course
  | done => ⟨.nil, [], none, none⟩
  | raise e => ⟨.nil, [], none, some e⟩
  | note key v rest => Course.append ⟨.nil, [(key, v)], none, none⟩ (rest.course exports)
  | mark s m rest => Course.append ⟨.nil, [], some (s, m), none⟩ (rest.course exports)
  | block tracer name kind attributes inner unwritten rest =>
    let c := inner.course exports
    let here := Forest.tree (c.ran tracer name kind attributes) c.forest .nil
    match leaving (exports tracer) unwritten c.raised with
    | some e => ⟨here, [], none, some e⟩
    | none => Course.append ⟨here, [], none, none⟩ (rest.course exports)
  | attempt inner rest => (inner.course exports).append (rest.course exports)

end Work

/-! ## What a course does to a tracer -/

namespace Tracer

def keep (t : Tracer) (spans : List Span) : Tracer :=
  { t with finished := spans.foldl (fun kept s => (s :: kept).take capacity) t.finished }

def grow (t : Tracer) (key : String) (f : Forest) : Tracer :=
  { t.keep (f.spans key t.name (t.current?.map Span.id) t.next) with next := t.next + f.count key }

variable (t : Tracer) (key : String)

theorem grow_exports (f : Forest) : (t.grow key f).exports = t.exports := rfl

theorem grow_append (f g : Forest) : t.grow key (f.append g) = (t.grow key f).grow key g := by
  simp only [grow, keep, current?, Forest.spans_append, Forest.count_append, List.foldl_append,
    Nat.add_assoc]

theorem keep_recorded (spans : List Span) (hroom : t.finished.length ≤ capacity) :
    (t.keep spans).recorded =
      (t.recorded ++ spans).drop ((t.recorded ++ spans).length - capacity) := by
  have hkept : (t.keep spans).finished = (spans.reverse ++ t.finished).take capacity := by
    induction spans generalizing t with
    | nil => exact (List.take_of_length_le hroom).symm
    | cons s rest ih =>
      have hlater :=
        ih { t with finished := (s :: t.finished).take capacity } (List.length_take_le _ _)
      rw [List.reverse_cons, List.append_assoc]
      exact hlater.trans (take_append_take _ _ _)
  rw [recorded, hkept, List.reverse_take, List.reverse_append, List.reverse_reverse]
  simp only [recorded, List.length_append, List.length_reverse, Nat.add_comm]

theorem grow_amend (f : Forest) {change : Span → Span} (hid : ∀ s, (change s).id = s.id) :
    (t.grow key f).amend change = (t.amend change).grow key f := by
  rcases t with ⟨name, traceId, exports, next, _ | ⟨s, active⟩, finished⟩
  · rfl
  · simp [grow, keep, amend, current?, hid]

theorem amend_amend (f g : Span → Span) : (t.amend f).amend g = t.amend fun s => g (f s) := by
  rcases t with ⟨_, _, _, _, _ | _, _⟩ <;> rfl

/-- A block that is left adds itself to the blocks that ran inside it. -/
theorem leave_block (name : String) (kind : Kind) (attributes : Fields) (c : Course) :
    (((t.enter name kind attributes).amend c.annotate).grow key c.forest).leave
        (.of c.raised) =
      t.grow key (.tree (c.ran key name kind attributes) c.forest .nil) := by
  have htracer : (c.ran key name kind attributes).tracer = key := rfl
  simp only [enter, amend, grow, keep, leave, current?, List.head?_cons, Option.map_some,
    Course.annotate_id, c.close_annotate key, Forest.spans, Forest.count, htracer, if_true,
    List.foldl_append, List.foldl_cons, List.foldl_nil, Nat.add_zero, Nat.add_assoc]

/-- A block of another tracer leaves only the blocks inside it. -/
theorem grow_other {other : String} (hne : other ≠ key) (name : String) (kind : Kind)
    (attributes : Fields) (c : Course) :
    t.grow key (.tree (c.ran other name kind attributes) c.forest .nil) = t.grow key c.forest := by
  have htracer : ¬ (c.ran other name kind attributes).tracer = key := hne
  simp only [grow, keep, Forest.spans, Forest.count, if_neg htracer, List.append_nil, Nat.zero_add,
    Nat.add_zero]

end Tracer

def Course.onTracer (c : Course) (own : Option String) (key : String) (t : Tracer) : Tracer :=
  (if own = some key then t.amend c.annotate else t).grow key c.forest

theorem Course.onTracer_append (c d : Course) (own : Option String) (key : String) (t : Tracer) :
    (c.append d).onTracer own key t = d.onTracer own key (c.onTracer own key t) := by
  unfold onTracer
  by_cases hown : own = some key
  · simp only [if_pos hown]
    rw [Tracer.grow_amend _ _ _ d.annotate_id, Tracer.amend_amend, ← Tracer.grow_append]
    simp only [← annotate_append]
    rfl
  · simp only [if_neg hown]
    rw [← Tracer.grow_append]
    rfl

namespace Tracers

theorem changeOwn_apply (ts : Tracers) (own : Option String) (f : Tracer → Tracer) (key : String) :
    ts.changeOwn own f key = if own = some key then f (ts key) else ts key := by
  cases own with
  | none => simp [changeOwn]
  | some other =>
    by_cases hother : other = key
    · simp [changeOwn, hother]
    · simp [changeOwn, hother, change_of_ne ts (Ne.symm hother)]

end Tracers

theorem Course.onTracer_exports (c : Course) (own : Option String) (key : String) (t : Tracer) :
    (c.onTracer own key t).exports = t.exports := by
  unfold onTracer Tracer.amend
  split
  · rcases t with ⟨_, _, _, _, _ | _, _⟩ <;> rfl
  · rfl

theorem Course.onTracer_plain (f : Forest) (e : Option Raised) (own : Option String) (key : String)
    (t : Tracer) : Course.onTracer ⟨f, [], none, e⟩ own key t = t.grow key f := by
  have hsame : t.amend (Course.annotate ⟨f, [], none, e⟩) = t := by
    rcases t with ⟨_, _, _, _, _ | _, _⟩ <;> rfl
  simp only [onTracer, hsame, ite_self]

namespace Work

theorem note_course (ts : Tracers) (own : Option String) (name : String)
    (v : Value) (key : String) :
    ts.changeOwn own (·.setAttribute name v) key =
      Course.onTracer ⟨.nil, [(name, v)], none, none⟩ own key (ts key) := by
  rw [Tracers.changeOwn_apply]
  rfl

theorem mark_course (ts : Tracers) (own : Option String) (s : Status)
    (m : Option String) (key : String) :
    ts.changeOwn own (·.setStatus s m) key =
      Course.onTracer ⟨.nil, [], some (s, m), none⟩ own key (ts key) := by
  rw [Tracers.changeOwn_apply]
  rfl

theorem block_course (ts : Tracers) (c : Course) (tracer name : String) (kind : Kind)
    (attributes : Fields) (key : String) :
    Tracers.change (fun key => c.onTracer (some tracer) key
        (ts.change tracer (·.enter name kind attributes) key)) tracer
        (·.leave (.of c.raised)) key =
      (ts key).grow key (.tree (c.ran tracer name kind attributes) c.forest .nil) := by
  by_cases hkey : key = tracer
  · subst hkey
    rw [Tracers.change_self, Tracers.change_self, Course.onTracer, if_pos rfl]
    exact (ts key).leave_block key name kind attributes c
  · have hother : ¬ some tracer = some key := fun h => hkey (Option.some.inj h).symm
    rw [Tracers.change_of_ne _ hkey, Tracers.change_of_ne _ hkey, Course.onTracer, if_neg hother]
    exact ((ts key).grow_other key (Ne.symm hkey) name kind attributes c).symm

/-- Work does to every tracer what its course says, and is left by what leaves its course. -/
theorem run_course (exports : String → Bool) (w : Work) (own : Option String) (ts : Tracers)
    (hexports : ∀ key, (ts key).exports = exports key) :
    w.run own ts =
      (fun key => (w.course exports).onTracer own key (ts key), (w.course exports).raised) := by
  induction w generalizing own ts with
  | done =>
    exact Prod.ext (funext fun key => (Course.onTracer_plain .nil none own key (ts key)).symm) rfl
  | raise e =>
    exact Prod.ext (funext fun key =>
      (Course.onTracer_plain .nil (some e) own key (ts key)).symm) rfl
  | note name v rest ih =>
    have hnoted := note_course ts own name v
    rw [run, ih _ _ fun key => by rw [hnoted, Course.onTracer_exports, hexports]]
    simp only [course, Course.onTracer_append, hnoted]
    rfl
  | mark s m rest ih =>
    have hmarked := mark_course ts own s m
    rw [run, ih _ _ fun key => by rw [hmarked, Course.onTracer_exports, hexports]]
    simp only [course, Course.onTracer_append, hmarked]
    rfl
  | block tracer name kind attributes inner unwritten rest ihinner ihrest =>
    -- the span is closed before anything goes on, so all ways leave the same forest behind
    have hblock := block_course ts (inner.course exports) tracer name kind attributes
    have hopened (key : String) :
        (ts.change tracer (·.enter name kind attributes) key).exports = exports key := by
      rw [Tracers.enter_exports, hexports]
    rw [run, ihinner _ _ hopened, course]
    dsimp only
    rw [hblock tracer, Tracer.grow_exports, hexports]
    cases leaving (exports tracer) unwritten (inner.course exports).raised with
    | some e =>
      exact Prod.ext (funext fun key => (hblock key).trans
        (Course.onTracer_plain _ (some e) own key (ts key)).symm) rfl
    | none =>
      dsimp only
      rw [ihrest _ _ fun key => by rw [hblock, Tracer.grow_exports, hexports]]
      refine Prod.ext (funext fun key => ?_) rfl
      dsimp only
      rw [Course.onTracer_append, Course.onTracer_plain, ← hblock key]
  | attempt inner rest ihinner ihrest =>
    rw [run, ihinner _ _ hexports, ihrest _ _ fun key => by rw [Course.onTracer_exports, hexports]]
    simp only [course, Course.onTracer_append]
    rfl

end Work

/-! ## Blocks of one tracer -/

namespace Block

def goesOn (key : String) (rest : Work) (own : Option String) (ts : Tracers) (p : Outcome) :
    Tracers × Option Raised :=
  match p.error with
  | none => rest.run own (ts.put key p.tracer)
  | some message => (ts.put key p.tracer, some ⟨"RuntimeError", message, false⟩)

theorem run_notes (key : String) (set : Fields) (w : Work) (ts : Tracers) :
    (set.foldr (fun entry steps => Work.note entry.1 entry.2 steps) w).run (some key) ts =
      w.run (some key)
        (ts.put key (set.foldl (fun t entry => t.setAttribute entry.1 entry.2) (ts key))) := by
  induction set generalizing ts with
  | nil => simp
  | cons entry rest ih =>
    rw [List.foldr_cons, Work.run, ih]
    simp [Tracers.changeOwn, Tracers.change]

theorem ending_runtime (message : String) :
    Ending.of (some ⟨"RuntimeError", message, false⟩) = .error ("RuntimeError: " ++ message) := rfl

theorem run_ending (key : String) (status : Option (Status × Option String))
    (raises : Option String) (t : Tracer) (ts : Tracers) :
    (ending status raises).run (some key) (ts.put key t) =
      (ts.put key (match status with
        | some (s, m) => t.setStatus s m
        | none => t), raises.map fun message => ⟨"RuntimeError", message, false⟩) := by
  rcases status with _ | ⟨s, m⟩ <;> cases raises <;>
    simp [ending, Work.run, Tracers.changeOwn]

mutual

theorem run_work (key : String) (rest : Work) (own : Option String) (ts : Tracers) :
    ∀ b : Block, (work key b rest).run own ts = goesOn key rest own ts (run b (ts key))
  | .mk name kind attributes set inner status raises caught => by
    rw [work, Work.run, run_notes, run_works key _ _ _ inner]
    simp only [Tracers.change_self, Tracers.put_self, run, goesOn]
    generalize runInner inner _ = p
    cases p.error with
    | some message => simp [Tracers.change, ending_runtime]
    | none =>
      simp only [Tracers.change, Tracers.put_put, run_ending]
      rcases status with _ | ⟨s, m⟩ <;> cases raises <;> simp [ending_runtime]

theorem run_works (key : String) (rest : Work) (own : Option String) (ts : Tracers) :
    ∀ blocks : List Block,
      (works key blocks rest).run own ts = goesOn key rest own ts (runInner blocks (ts key))
  | [] => by simp [works, runInner, goesOn]
  | b :: more => by
    by_cases hcaught : b.caught = true
    · rw [works, if_pos hcaught, Work.run, run_work key .done own ts b,
        run_works key rest own _ more]
      simp only [runInner, hcaught, if_true, goesOn]
      cases (run b (ts key)).error <;> simp [Work.run]
    · rw [works, if_neg hcaught, run_work key _ own ts b]
      simp only [runInner, hcaught, goesOn]
      cases (run b (ts key)).error with
      | none => simp [run_works key rest own _ more, goesOn]
      | some message => simp

end

theorem runAll_outermost (key : String) (blocks : List Block) (ts : Tracers) :
    (outermost key blocks).run none ts = (ts.put key (runAll blocks (ts key)).1, none) := by
  induction blocks generalizing ts with
  | nil => simp [outermost, Work.run, runAll]
  | cons b rest ih =>
    rw [outermost, Work.run, run_work, ih, runAll, goesOn]
    cases (run b (ts key)).error <;> simp [Work.run]

end Block

/-! ## The account of a tracer -/

def Course.spans (c : Course) (key : String) (t : Tracer) : List Span :=
  c.forest.spans key t.name (t.current?.map Span.id) t.next

abbrev Work.courseOn (w : Work) (ts : Tracers) : Course := w.course fun key => (ts key).exports

/-- Whatever work is done with any number of tracers, wherever errors and interruptions are raised,
whether or not they are caught on the way, and whichever spans cannot be written out: in every
tracer the span that was current is so again; the latest of its earlier spans and of the spans of
its blocks that ran are kept, in the order in which they ended, each with the number of the
innermost block of the same tracer around it as its parent and with the status that `Ran.ended`
tells; numbers are given once. Something leaves the work when the course says so. Blocks of one
tracer that run one after the other are such work. -/
theorem Work.run_spans (w : Work) (ts : Tracers) (key : String)
    (hroom : (ts key).finished.length ≤ capacity) :
    ((w.run none ts).1 key).current? = (ts key).current? ∧
      ((w.run none ts).1 key).recorded =
        ((ts key).recorded ++ (w.courseOn ts).spans key (ts key)).drop
          (((ts key).recorded ++ (w.courseOn ts).spans key (ts key)).length - capacity) ∧
      (((w.courseOn ts).spans key (ts key)).map Span.id).Perm
        (List.range' (ts key).next ((w.courseOn ts).forest.count key)) ∧
      (w.run none ts).2 = (w.courseOn ts).raised ∧
      ∀ blocks : List Block,
        (Block.runAll blocks (ts key)).1 = ((Block.outermost key blocks).run none ts).1 key := by
  have hrun := run_course (fun key => (ts key).exports) w none ts fun _ => rfl
  have hafter : (w.run none ts).1 key = (ts key).grow key (w.courseOn ts).forest := by
    rw [hrun]
    exact congrArg (Tracer.grow · key (w.courseOn ts).forest) (if_neg (by simp))
  refine ⟨?_, ?_, (w.courseOn ts).forest.spans_ids key _ _ _, ?_, fun blocks => ?_⟩
  · rw [hafter]
    rfl
  · rw [hafter]
    exact (ts key).keep_recorded _ hroom
  · rw [hrun]
  · rw [Block.runAll_outermost]
    exact (Tracers.put_self ts key _).symm

/-- A report asks the store twice: in a draft that is only attempted, where the question fails, and
in its final form, which is marked. The report itself is cancelled after that. -/
def reporting : Work :=
  .block "app" "report" .internal []
    (.attempt
      (.block "app" "draft" .internal []
        (.block "store" "ask" .client [] (.raise ⟨"KeyError", "rooms", false⟩) none .done) none
          .done)
      (.block "app" "final" .internal []
        (.mark .ok (some "late")
          (.block "store" "ask" .client [] (.note "rows" (.int 2) .done) none .done)) none
        (.raise ⟨"CancelledError", "", true⟩)))
    none .done

theorem run_spans_reporting :
    (Tracer.new "app" none false).finished.length ≤ capacity ∧
      ((reporting.run none fun key => .new key none false).1 "app").current? = none ∧
      ((reporting.run none fun key => .new key none false).1 "app").recorded.map
          (fun s => (s.id, s.parent, s.name, s.status, s.message)) =
        [(1, some 0, "app.draft", .error, some "KeyError: rooms"),
          (2, some 0, "app.final", .ok, some "late"), (0, none, "app.report", .unset, none)] ∧
      ((reporting.run none fun key => .new key none false).1 "store").recorded.map
          (fun s => (s.id, s.parent, s.name, s.status, s.message)) =
        [(0, none, "store.ask", .error, some "KeyError: rooms"),
          (1, none, "store.ask", .ok, none)] := by
  obtain ⟨hcurrent, happ, -⟩ :=
    reporting.run_spans (fun key => .new key none false) "app" (by decide)
  obtain ⟨-, hstore, -⟩ := reporting.run_spans (fun key => .new key none false) "store" (by decide)
  refine ⟨by decide, hcurrent, ?_, ?_⟩
  · rw [happ]
    decide +kernel
  · rw [hstore]
    decide +kernel

/-- A status that is set to be open counts as none, and its message is lost. Work that is cancelled
is recorded as open. And a block that the error of writing its span leaves is recorded as it ended
before that. -/
theorem ended_open_or_unwritten :
    (Block.runAll [.mk "draft" .internal [] [] [] (some (.unset, some "later")) none false]
        (.new "app" none false)).1.recorded.map (fun s => (s.status, s.message)) = [(.ok, none)] ∧
      ((Work.run (.block "app" "draft" .internal []
        (.raise ⟨"CancelledError", "", true⟩) none .done)
          none fun key => .new key none false).1 "app").recorded.map
        (fun s => (s.status, s.message)) = [(.unset, none)] ∧
      (Work.run (.block "app" "draft" .internal [] .done (some ⟨"FileExistsError", "traces", false⟩)
          .done) none fun key => .new key none true).2 =
        some ⟨"FileExistsError", "traces", false⟩ ∧
      ((Work.run (.block "app" "draft" .internal [] .done
        (some ⟨"FileExistsError", "traces", false⟩)
          .done) none fun key => .new key none true).1 "app").recorded.map
        (fun s => (s.status, s.message)) = [(.ok, none)] := by
  decide +kernel

end Dossier.Trace
