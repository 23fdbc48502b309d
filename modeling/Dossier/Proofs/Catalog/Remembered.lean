import Dossier.Proofs.Catalog.Definition
import Dossier.Proofs.Catalog.Checked

/-!
# Definitions over time

Between two questions for definitions the files may change in any way. The first answer to a
question that is a definition is the answer from then on. Until then a type is answered for by the
files as they are, and no question has left anything behind.
-/

set_option autoImplicit false

namespace Dossier.Catalog

open Run

/-- What happens to the host of an open catalog: it is asked for the definition of a type, or files
are created, edited, broken or deleted. -/
inductive Event where
  | asked (key : String)
  | changed (files : Folder)

def happen (catalog : Catalog) (h : Host) : Event → Host
  | .asked key => (catalog.definition key h).2
  | .changed files => { h with files := files }

def after (catalog : Catalog) (h : Host) (events : List Event) : Host :=
  events.foldl catalog.happen h

def answer (catalog : Catalog) (h : Host) (events : List Event) (key : String) :
    Except Failure Definition :=
  (catalog.definition key (catalog.after h events)).1

def Event.isOf (key : String) : Event → Bool
  | .asked other => other == key
  | .changed _ => true

variable {catalog : Catalog} {h k : Host} {events : List Event}
  {key other : String} {d : Definition}
  {e : Failure}

theorem after_append (events later : List Event) :
    catalog.after h (events ++ later) = catalog.after (catalog.after h events) later :=
      List.foldl_append

/-! ## One question -/

theorem definition_error (he : (catalog.definition key h).1 = .error e) :
    (catalog.definition key h).2 = h := by
  rw [definition_apply] at he ⊢
  split at he
  · split at he
    · cases he
    · split at he
      · cases he
      · rfl
  · rfl

def Holds (catalog : Catalog) (key : String) (d : Definition) (h : Host) : Prop :=
  ∃ l, catalog.entries.lookup key = some (.declared l) ∧
    l.definition.or (h.definitions.lookup key) = some d

theorem Holds.definition (hd : catalog.Holds key d h) : catalog.definition key h = (.ok d, h) := by
  obtain ⟨l, hl, hd⟩ := hd
  rw [definition_apply, hl]
  dsimp only
  rw [hd]

theorem holds_of_ok (hd : (catalog.definition key h).1 = .ok d) :
    catalog.Holds key d (catalog.definition key h).2 := by
  rw [definition_apply] at hd ⊢
  split at hd
  · next l hl =>
    refine ⟨l, hl, ?_⟩
    split at hd
    · next d' hd' =>
      cases hd
      exact hd'
    · next hnone =>
      obtain ⟨hlisted, hread⟩ := Option.or_eq_none_iff.mp hnone
      split at hd
      · cases hd
        rw [hlisted, Option.none_or, List.lookup_append, hread]
        simp
      · cases hd
  · cases hd

theorem definition_lookup_other (hne : other ≠ key) :
    (catalog.definition other h).2.definitions.lookup key = h.definitions.lookup key := by
  rw [definition_apply]
  split
  · split
    · rfl
    · split
      · rw [List.lookup_append]
        simp [List.lookup_cons, beq_false_of_ne hne.symm]
      · rfl
  · rfl

theorem Holds.happen (hd : catalog.Holds key d h) (event : Event) :
    catalog.Holds key d (catalog.happen h event) := by
  cases event with
  | changed files => exact hd
  | asked other =>
    by_cases heq : other = key
    · subst heq
      rwa [Catalog.happen, hd.definition]
    · obtain ⟨l, hl, hd⟩ := hd
      exact ⟨l, hl, by rwa [Catalog.happen, definition_lookup_other heq]⟩

theorem Holds.after (hd : catalog.Holds key d h) (events : List Event) :
    catalog.Holds key d (catalog.after h events) := by
  induction events generalizing h with
  | nil => exact hd
  | cons event rest ih => exact ih (hd.happen event)

/-! ## Files as they are -/

def Unread (catalog : Catalog) (key : String) (h : Host) : Prop :=
  ∀ l, catalog.entries.lookup key = some (.declared l) → l.definition = none →
    h.definitions.lookup key = none

theorem Unread.written (hunread : catalog.Unread key h) :
    (catalog.definition key h).1 = catalog.written h key := by
  rw [Wizard.definition_value, Catalog.written]
  rcases hlookup : catalog.entries.lookup key with _ | ⟨label, category, criteria, _ | d⟩ | handler
  · rfl
  · rw [hunread _ hlookup rfl]
    rfl
  · rfl
  · rfl

theorem unread_of_error (he : (catalog.definition key h).1 = .error e) : catalog.Unread key h := by
  intro l hl hnone
  cases hread : h.definitions.lookup key with
  | none => rfl
  | some d =>
    have hholds : catalog.Holds key d h := ⟨l, hl, by rw [hnone, hread, Option.none_or]⟩
    rw [hholds.definition] at he
    cases he

def Unanswered (catalog : Catalog) (h : Host) (events : List Event) (key : String) : Prop :=
  ∀ before rest, events = before ++ .asked key :: rest → ∃ e, catalog.answer h before key = .error e

theorem Unread.after (hunread : catalog.Unread key h) (hraised : catalog.Unanswered h events key) :
    catalog.Unread key (catalog.after h events) := by
  induction events generalizing h with
  | nil => exact hunread
  | cons event rest ih =>
    have hlater : catalog.Unanswered (catalog.happen h event) rest key := fun before after hrest =>
      hraised (event :: before) after (by rw [hrest, List.cons_append])
    refine ih ?_ hlater
    cases event with
    | changed files => exact hunread
    | asked other =>
      by_cases heq : other = key
      · -- a question that raises reads nothing, so the host stays as it was
        subst heq
        obtain ⟨e, he⟩ := hraised [] rest rfl
        rwa [Catalog.happen, definition_error (h := h) he]
      · intro l hl hnone
        rw [Catalog.happen, definition_lookup_other heq]
        exact hunread l hl hnone

theorem happen_root (event : Event) : (catalog.happen h event).root = h.root := by
  cases event with
  | changed files => rfl
  | asked other =>
    obtain ⟨_, hhost, -⟩ := catalog.definition_host other h
    rw [happen, hhost]

theorem after_root (events : List Event) : (catalog.after h events).root = h.root := by
  induction events generalizing h with
  | nil => rfl
  | cons event rest ih => exact (ih (h := catalog.happen h event)).trans (happen_root event)

theorem written_congr (hroot : k.root = h.root) (hfiles : k.files = h.files) :
    catalog.written k key = catalog.written h key := by
  simp only [written, Configuration.definition_sees hroot hfiles]

theorem Unread.answer (hunread : catalog.Unread key h) (hraised : catalog.Unanswered h events key) :
    catalog.answer h events key =
      catalog.written { h with files := (catalog.after h events).files } key :=
  ((hunread.after hraised).written).trans (written_congr (after_root events) rfl)

/-! ## Other types -/

def sight (key : String) (h : Host) : Path × Folder × Option Definition :=
  (h.root, h.files, h.definitions.lookup key)

theorem definition_sight (hsight : sight key h = sight key k) :
    (catalog.definition key h).1 = (catalog.definition key k).1 ∧
      sight key (catalog.definition key h).2 = sight key (catalog.definition key k).2 := by
  simp only [sight, Prod.mk.injEq] at hsight
  obtain ⟨hroot, hfiles, hread⟩ := hsight
  rw [definition_apply, definition_apply, hread, Configuration.definition_sees hroot hfiles]
  split
  · split
    · exact ⟨rfl, by simp only [sight, hroot, hfiles, hread]⟩
    · split
      · exact ⟨rfl, by simp only [sight, hroot, hfiles, List.lookup_append, hread]⟩
      · exact ⟨rfl, by simp only [sight, hroot, hfiles, hread]⟩
  · exact ⟨rfl, by simp only [sight, hroot, hfiles, hread]⟩

theorem sight_other (hne : other ≠ key) :
    sight key (catalog.definition other h).2 = sight key h := by
  have hlookup : (catalog.definition other h).2.definitions.lookup key = h.definitions.lookup key :=
    definition_lookup_other hne
  obtain ⟨definitions, hhost, -⟩ := catalog.definition_host other h
  rw [hhost] at hlookup ⊢
  exact congrArg (fun read => (h.root, h.files, read)) hlookup

theorem happen_sight (hsight : sight key h = sight key k) (event : Event) :
    sight key (catalog.happen h event) = sight key (catalog.happen k event) := by
  cases event with
  | changed files =>
    simp only [sight, Prod.mk.injEq] at hsight
    simp only [sight, happen, hsight]
  | asked other =>
    by_cases heq : other = key
    · subst heq
      exact (definition_sight hsight).2
    · exact (sight_other heq).trans (hsight.trans (sight_other heq).symm)

theorem after_sight (hsight : sight key h = sight key k) (events : List Event) :
    sight key (catalog.after h events) =
      sight key (catalog.after k (events.filter (Event.isOf key))) := by
  induction events generalizing h k with
  | nil => exact hsight
  | cons event rest ih =>
    by_cases hof : event.isOf key = true
    · rw [List.filter_cons_of_pos hof]
      exact ih (happen_sight hsight event)
    · rw [List.filter_cons_of_neg hof]
      cases event with
      | changed files => exact absurd rfl hof
      | asked other => exact ih ((sight_other (by simpa [Event.isOf] using hof)).trans hsight)

/-! ## Whole courses -/

/-- Whatever happens to an open catalog: a definition that was the answer for a type stays the
answer; a question answered with an error changes nothing; from a catalog that has not read the
type, or from such an error on, as long as every question for the type is answered with an error,
the next one is answered by the files as they are then; and questions for other types make no
difference. -/
theorem answer_settles (catalog : Catalog) (h : Host) (events later : List Event) (key : String) :
    (∀ d, catalog.answer h events key = .ok d →
      catalog.answer h (events ++ .asked key :: later) key = .ok d) ∧
    (∀ e, catalog.answer h events key = .error e →
      catalog.after h (events ++ [.asked key]) = catalog.after h events ∧
      (catalog.Unanswered (catalog.after h events) later key →
        catalog.answer h (events ++ .asked key :: later) key =
          catalog.written { h with files :=
            (catalog.after h (events ++ .asked key :: later)).files } key)) ∧
    (h.definitions.lookup key = none → catalog.Unanswered h events key →
      catalog.answer h events key =
        catalog.written { h with files := (catalog.after h events).files } key) ∧
    catalog.answer h events key = catalog.answer h (events.filter (Event.isOf key)) key := by
  have hlater : catalog.after h (events ++ .asked key :: later) =
      catalog.after (catalog.definition key (catalog.after h events)).2 later := after_append _ _
  refine ⟨fun d hd => ?_, fun e he => ?_, fun hnone hraised => ?_, ?_⟩
  · have hholds := (holds_of_ok hd).after later
    rw [answer, hlater, hholds.definition]
  · have hsame := definition_error he
    refine ⟨(after_append _ _).trans hsame, fun hraised => ?_⟩
    have hanswer := (unread_of_error he).answer hraised
    rw [hsame] at hlater
    rw [answer, hlater]
    exact hanswer.trans (written_congr (after_root events) rfl)
  · exact Unread.answer (fun _ _ _ => hnone) hraised
  · exact (definition_sight (after_sight rfl events)).1

def memoCatalog : Catalog := ⟨[("memo", .declared ⟨"Memo", none, none, none⟩)], [], ["json"], ""⟩

def blankHost : Host := Host.start [Path.root] [] [] .empty .utc

/-- A type asked for too early has its definition as soon as the file is there, and still has it
when the file is deleted again. -/
theorem answer_settles_memo :
    (∃ e, memoCatalog.answer blankHost [] "memo" = .error e) ∧
    memoCatalog.after blankHost [.asked "memo"] = blankHost ∧
    ∃ d, memoCatalog.answer blankHost [.asked "memo", .changed memoFolder] "memo" = .ok d ∧
      memoCatalog.answer blankHost
        [.asked "memo", .changed memoFolder, .asked "memo", .changed .empty]
        "memo" = .ok d := by
  have hearly : memoCatalog.answer blankHost [] "memo" =
      .error (.definitionNotFound "memo" (some "json/proofs/memo.json")) := by
    rfl
  have hthere :
      (memoCatalog.answer blankHost [.asked "memo", .changed memoFolder] "memo").toOption.isSome =
      true := by
    decide +kernel
  obtain ⟨-, hraised, -⟩ := answer_settles memoCatalog blankHost [] [] "memo"
  refine ⟨⟨_, hearly⟩, (hraised _ hearly).1, ?_⟩
  cases hd : memoCatalog.answer blankHost [.asked "memo", .changed memoFolder] "memo" with
  | error e =>
    rw [hd] at hthere
    cases hthere
  | ok d =>
    exact ⟨d, rfl, (answer_settles memoCatalog blankHost [.asked "memo", .changed memoFolder]
      [.changed .empty] "memo").1 d hd⟩

end Dossier.Catalog
