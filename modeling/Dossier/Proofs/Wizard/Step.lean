import Dossier.Proofs.Criterion.Printing
import Dossier.Wizard.Assembly

/-!
# The steps of an assembly

An assembly that succeeds is a list of steps, one for each placement: the criterion found, the input
built, and the host before and after. The pages that come out are the pages that went in with the
input of every step put on them in turn.
-/

set_option autoImplicit false

namespace Dossier.Wizard

open Run

/-! ## Pages -/

/-- The page at an index; beyond the last page it is empty. -/
def pageAt (pages : List Page) (n : Nat) : Page := pages[n]?.getD Page.empty

theorem pageAt_beyond {pages : List Page} {n : Nat} (hn : pages.length ≤ n) :
    pageAt pages n = Page.empty := by
  simp [pageAt, hn]

theorem getElem?_eq_pageAt {pages : List Page} {n : Nat} (hn : n < pages.length) :
    pages[n]? = some (pageAt pages n) := by
  simp [pageAt, hn]

theorem exists_pageAt {pages : List Page} {page : Page} (hp : page ∈ pages) :
    ∃ n < pages.length, page = pageAt pages n := by
  obtain ⟨n, hn, rfl⟩ := List.mem_iff_getElem.mp hp
  exact ⟨n, hn, by simp [pageAt, hn]⟩

theorem grow_length (pages : List Page) (index : Nat) :
    (grow pages index).length = max pages.length (index + 1) := by
  simp only [grow, List.length_append, List.length_replicate]
  omega

theorem pageAt_grow (pages : List Page) (index n : Nat) :
    pageAt (grow pages index) n = pageAt pages n := by
  by_cases hn : n < pages.length
  · simp [pageAt, grow, List.getElem?_append_left hn]
  · rw [pageAt_beyond (by omega : pages.length ≤ n), pageAt, grow,
      List.getElem?_append_right (by omega), List.getElem?_replicate]
    split <;> rfl

theorem addInput_length (pages : List Page) (index : Nat) (input : Input) (isValid : Bool) :
    (addInput pages index input isValid).length = pages.length := by
  simp [addInput]

theorem pageAt_addInput {pages : List Page} {index : Nat} (hi : index < pages.length)
    (input : Input) (isValid : Bool) (n : Nat) :
    pageAt (addInput pages index input isValid) n =
      if n = index then ⟨(pageAt pages index).inputs ++ [input], isValid⟩ else pageAt pages n := by
  by_cases hn : n = index
  · subst hn
    simp [pageAt, addInput, hi]
  · simp [pageAt, addInput, hn, Ne.symm hn]

/-! ## Inputs -/

def plainText (property : String) (isRequired : Option Bool) : Criterion :=
  ⟨.text, property, "", isRequired, none, none, none, none, none, none, none⟩

def plainSelect (property : String) (isRequired : Option Bool) (choices : List Choice) :
    Criterion :=
  ⟨.select, property, "", isRequired, none, none, none, none, none, none, some choices⟩

def Input.isSettled (i : Input) : Bool :=
  !i.isDisabled && (i.isRequired != some true || !i.value.isNull)

def offered (source : Source) (maxPages : Option Int) (c : Criterion) (values scope : Fields)
    (isDisabled : Bool) : Run (List Choice) :=
  match isDisabled, c.control with
  | false, .select => c.choices source maxPages values scope
  | _, _ => pure []

def dress (c : Criterion) (values scope : Fields) (isDisabled : Bool) (choices : List Choice) :
    Run Input := do
  let label ← resolve scope c.label
  let placeholder ← match Criterion.filled? c.placeholder with
    | some s => some <$> resolve scope s
    | none => pure none
  pure ⟨c.property, c.control, label, choices, values.get c.property, placeholder, c.isRequired,
    isDisabled⟩

theorem buildInput_eq (source : Source) (maxPages : Option Int) (c : Criterion)
    (values scope : Fields) (isDisabled : Bool) :
    buildInput source maxPages c values scope isDisabled =
      offered source maxPages c values scope isDisabled >>= dress c values scope isDisabled := by
  unfold buildInput offered dress
  cases isDisabled <;> cases c.control <;> rfl

theorem dress_quiet (c : Criterion) (values scope : Fields) (isDisabled : Bool)
    (choices : List Choice) : Quiet (dress c values scope isDisabled choices) := by
  refine bind_quiet (resolve_quiet scope _) fun label => ?_
  cases Criterion.filled? c.placeholder with
  | some s => exact bind_quiet (map_quiet _ (resolve_quiet scope s)) fun _ => pure_quiet _
  | none => exact bind_quiet (pure_quiet _) fun _ => pure_quiet _

theorem buildInput_narrow (source : Source) (maxPages : Option Int) (c : Criterion)
    (values scope : Fields) (isDisabled : Bool) :
    Narrow (buildInput source maxPages c values scope isDisabled) := by
  rw [buildInput_eq]
  refine bind_narrow ?_ fun choices => quiet_narrow (dress_quiet c values scope isDisabled choices)
  unfold offered
  split
  · exact choices_narrow source maxPages values scope c
  · exact pure_narrow _

section Building

variable {source : Source} {maxPages : Option Int} {c : Criterion} {values scope : Fields}
  {isDisabled : Bool} {input : Input} {h h' : Host}

theorem dress_ok {choices : List Choice}
    (hrun : dress c values scope isDisabled choices h = (.ok input, h')) :
    ∃ label placeholder, input = ⟨c.property, c.control, label, choices, values.get c.property,
      placeholder, c.isRequired, isDisabled⟩ := by
  obtain ⟨label, h₁, -, hrest⟩ := bind_ok hrun
  cases hp : Criterion.filled? c.placeholder with
  | some s =>
    rw [hp] at hrest
    obtain ⟨placeholder, h₂, -, hlast⟩ := bind_ok hrest
    exact ⟨label, placeholder, (pure_ok hlast).1⟩
  | none =>
    rw [hp] at hrest
    obtain ⟨placeholder, h₂, -, hlast⟩ := bind_ok hrest
    exact ⟨label, placeholder, (pure_ok hlast).1⟩

theorem buildInput_parts
    (hrun : buildInput source maxPages c values scope isDisabled h = (.ok input, h')) :
    input.name = c.property ∧ input.value = values.get c.property ∧
      input.isRequired = c.isRequired ∧ input.isDisabled = isDisabled := by
  rw [buildInput_eq] at hrun
  obtain ⟨choices, h₁, -, hdress⟩ := bind_ok hrun
  obtain ⟨label, placeholder, rfl⟩ := dress_ok hdress
  exact ⟨rfl, rfl, rfl, rfl⟩

/-- An input that is disabled or no select control has no choices, and no data is fetched for it. -/
theorem buildInput_silent (hs : isDisabled = true ∨ c.control = .text)
    (hrun : buildInput source maxPages c values scope isDisabled h = (.ok input, h')) :
    input.choices = [] ∧ h'.calls = h.calls := by
  have none : offered source maxPages c values scope isDisabled = pure [] := by
    unfold offered
    rcases hs with hs | hs <;> rw [hs]
    cases isDisabled <;> rfl
  rw [buildInput_eq, none] at hrun
  obtain ⟨choices, h₁, hchoices, hdress⟩ := bind_ok hrun
  obtain ⟨rfl, rfl⟩ := pure_ok hchoices
  have hcalls := keeps_ok ((dress_quiet c values scope isDisabled []).keeps calls_steady) hdress
  obtain ⟨label, placeholder, rfl⟩ := dress_ok hdress
  exact ⟨rfl, hcalls⟩

end Building

/-! ## Steps -/

structure Step where
  placement : Placement
  criterion : Criterion
  input : Input
  before : Host
  after : Host

namespace Step

def Builds (source : Source) (criteria : Criteria) (values scope : Fields) (s : Step) : Prop :=
  criteria.lookup s.placement.name = some s.criterion ∧
    buildInput source none s.criterion values scope s.input.isDisabled s.before =
      (.ok s.input, s.after)

def isUnset (values : Fields) (s : Step) : Bool := (values.get s.criterion.property).isNull

def put (pages : List Page) (s : Step) : List Page :=
  addInput (grow pages s.placement.page) s.placement.page s.input s.input.isSettled

theorem put_length (pages : List Page) (s : Step) :
    (put pages s).length = max pages.length (s.placement.page + 1) := by
  rw [put, addInput_length, grow_length]

theorem pageAt_put (pages : List Page) (s : Step) (n : Nat) :
    pageAt (put pages s) n =
      if n = s.placement.page then
        ⟨(pageAt pages s.placement.page).inputs ++ [s.input], s.input.isSettled⟩
      else pageAt pages n := by
  have hroom : s.placement.page < (grow pages s.placement.page).length := by
    rw [grow_length]
    omega
  rw [put, pageAt_addInput hroom, pageAt_grow, pageAt_grow]

end Step

inductive Carried (source : Source) (criteria : Criteria) (values scope : Fields) :
    Host → List Step → Host → Prop
  | nil (h : Host) : Carried source criteria values scope h [] h
  | cons {s : Step} {rest : List Step} {h' : Host}
      (builds : s.Builds source criteria values scope)
      (later : Carried source criteria values scope s.after rest h') :
      Carried source criteria values scope s.before (s :: rest) h'

theorem carried_builds {source : Source} {criteria : Criteria} {values scope : Fields}
    {steps : List Step} {h h' : Host} (hc : Carried source criteria values scope h steps h') :
    ∀ s ∈ steps, s.Builds source criteria values scope := by
  induction hc with
  | nil h => simp
  | cons builds later ih => exact List.forall_mem_cons.mpr ⟨builds, ih⟩

def Locks (values : Fields) : Bool → Option String → List Step → Prop
  | _, _, [] => True
  | locked, last, s :: rest =>
    s.input.isDisabled = (locked || last.any fun property => (values.get property).isNull) ∧
      Locks values s.input.isDisabled (some s.criterion.property) rest

section Placing

variable {source : Source} {criteria : Criteria} {values scope : Fields} {rest : List Placement}
  {locked : Bool} {last : Option String} {pages result : List Page} {h h' : Host}

theorem place_cons_ok {p : Placement}
    (hrun : place source criteria values scope (p :: rest) locked last pages h =
      (.ok ⟨result, none⟩, h')) :
    ∃ s : Step, s.placement = p ∧ s.before = h ∧ s.Builds source criteria values scope ∧
      s.input.isDisabled = (locked || last.any fun property => (values.get property).isNull) ∧
      place source criteria values scope rest s.input.isDisabled (some s.criterion.property)
        (Step.put pages s) s.after = (.ok ⟨result, none⟩, h') := by
  rw [place] at hrun
  cases hc : criteria.lookup p.name with
  | none =>
    rw [hc] at hrun
    cases (pure_ok hrun).1
  | some c =>
    rw [hc] at hrun
    obtain ⟨outcome, h₁, hobserved, hrest⟩ := bind_ok hrun
    have hbuild := observe_ok hobserved
    -- a failure is handed on beside the pages, so a run that meets one still gives a value
    cases outcome with
    | error e => cases (pure_ok hrest).1
    | ok input =>
      obtain ⟨-, hvalue, hrequired, hdisabled⟩ := buildInput_parts hbuild
      refine ⟨⟨p, c, input, h, h₁⟩, rfl, rfl, ⟨hc, ?_⟩, hdisabled, ?_⟩
      · rw [← hdisabled] at hbuild
        exact hbuild
      · have hsettled : input.isSettled = (!input.isDisabled && isSatisfied c values) := by
          rw [Input.isSettled, isSatisfied, hvalue, hrequired]
        rw [← hdisabled, ← hsettled] at hrest
        exact hrest

/-- A successful assembly is a list of steps. -/
theorem place_steps {placements : List Placement}
    (hrun : place source criteria values scope placements locked last pages h =
      (.ok ⟨result, none⟩, h')) :
    ∃ steps, steps.map Step.placement = placements ∧
      Carried source criteria values scope h steps h' ∧ Locks values locked last steps ∧
      result = steps.foldl Step.put pages := by
  induction placements generalizing locked last pages h with
  | nil =>
    obtain ⟨hresult, rfl⟩ := pure_ok hrun
    cases hresult
    exact ⟨[], rfl, .nil _, trivial, rfl⟩
  | cons p rest ih =>
    obtain ⟨s, rfl, rfl, hbuilds, hdisabled, hrest⟩ := place_cons_ok hrun
    obtain ⟨steps, rfl, hcarried, hlocks, rfl⟩ := ih hrest
    exact ⟨s :: steps, rfl, .cons hbuilds hcarried, ⟨hdisabled, hlocks⟩, rfl⟩

end Placing

end Dossier.Wizard
