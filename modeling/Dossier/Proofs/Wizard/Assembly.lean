import Dossier.Proofs.Wizard.Step
import Mathlib.Tactic.Common

/-!
# What an assembly does to the pages

Each input is disabled exactly when a value is missing before it, and is put at the end of the page
its placement names. The page keeps only the verdict of the last input put on it; because a missing
value disables everything after it, that one verdict speaks for all inputs put on the page.
-/

set_option autoImplicit false

namespace Dossier.Wizard

open Run

/-! ## Disabled inputs -/

/-- An input is disabled by what the assembly started with or by a missing value before it. -/
theorem locks_disabled {values : Fields} {steps : List Step} {locked : Bool} {last : Option String}
    (hl : Locks values locked last steps) {before : List Step} {s : Step} {after : List Step}
    (hs : steps = before ++ s :: after) :
    s.input.isDisabled = true ↔
      (locked || last.any fun property => (values.get property).isNull) = true ∨
        ∃ t ∈ before, t.isUnset values = true := by
  -- what came before is carried by the flag and the last property alone
  induction before generalizing steps locked last with
  | nil =>
    subst hs
    rw [hl.1]
    simp
  | cons t before ih =>
    subst hs
    rw [ih hl.2 rfl, hl.1]
    simp [Step.isUnset, or_assoc]

theorem locks_monotone {values : Fields} {steps : List Step} {locked : Bool} {last : Option String}
    (hl : Locks values locked last steps) :
    steps.Pairwise fun s t => s.input.isDisabled = true → t.input.isDisabled = true := by
  induction steps generalizing locked last with
  | nil => exact .nil
  | cons s rest ih =>
    refine List.pairwise_cons.mpr ⟨fun t ht hs => ?_, ih hl.2⟩
    obtain ⟨before, after, rfl⟩ := List.append_of_mem ht
    rw [locks_disabled hl.2 rfl, hs]
    exact .inl rfl

/-! ## The pages after all steps -/

theorem foldl_put_inputs (steps : List Step) (pages : List Page) (n : Nat) :
    (pageAt (steps.foldl Step.put pages) n).inputs =
      (pageAt pages n).inputs ++
        (steps.filter fun s => s.placement.page = n).map Step.input := by
  induction steps generalizing pages with
  | nil => simp
  | cons s rest ih =>
    rw [List.foldl_cons, ih, Step.pageAt_put]
    by_cases hn : n = s.placement.page
    · simp [hn]
    · simp [hn, Ne.symm hn]

theorem foldl_put_untouched {steps : List Step} {n : Nat} (hn : ∀ s ∈ steps, s.placement.page ≠ n)
    (pages : List Page) : pageAt (steps.foldl Step.put pages) n = pageAt pages n := by
  induction steps generalizing pages with
  | nil => rfl
  | cons s rest ih =>
    rw [List.foldl_cons, ih (fun t ht => hn t (by simp [ht])), Step.pageAt_put,
      if_neg (Ne.symm (hn s (by simp)))]

/-- A page keeps the verdict of the last input put on it. -/
theorem foldl_put_valid {before : List Step} {s : Step} {after : List Step}
    (hlast : ∀ t ∈ after, t.placement.page ≠ s.placement.page) (pages : List Page) :
    (pageAt ((before ++ s :: after).foldl Step.put pages) s.placement.page).isValid =
      s.input.isSettled := by
  rw [List.foldl_append, List.foldl_cons, foldl_put_untouched hlast, Step.pageAt_put, if_pos rfl]

theorem foldl_put_length_le (steps : List Step) (pages : List Page) :
    pages.length ≤ (steps.foldl Step.put pages).length := by
  induction steps generalizing pages with
  | nil => exact Nat.le_refl _
  | cons s rest ih =>
    have hp := Step.put_length pages s
    have hr := ih (Step.put pages s)
    rw [List.foldl_cons]
    omega

theorem foldl_put_room {steps : List Step} {s : Step} (hs : s ∈ steps) (pages : List Page) :
    s.placement.page < (steps.foldl Step.put pages).length := by
  induction steps generalizing pages with
  | nil => simp at hs
  | cons t rest ih =>
    rw [List.foldl_cons]
    rcases List.mem_cons.mp hs with rfl | hrest
    · have hp := Step.put_length pages s
      have hr := foldl_put_length_le rest (Step.put pages s)
      omega
    · exact ih hrest _

theorem foldl_put_length (steps : List Step) (pages : List Page) :
    (steps.foldl Step.put pages).length = pages.length ∨
      ∃ s ∈ steps, (steps.foldl Step.put pages).length = s.placement.page + 1 := by
  induction steps generalizing pages with
  | nil => exact .inl rfl
  | cons s rest ih =>
    rw [List.foldl_cons]
    rcases ih (Step.put pages s) with hkept | ⟨t, ht, hgrown⟩
    · rw [Step.put_length] at hkept
      rcases Nat.le_total (s.placement.page + 1) pages.length with hle | hle
      · exact .inl (by omega)
      · exact .inr ⟨s, by simp, by omega⟩
    · exact .inr ⟨t, by simp [ht], hgrown⟩

/-! ## Verdicts -/

structure Step.Fits (values : Fields) (s : Step) : Prop where
  name : s.input.name = s.criterion.property
  value : s.input.value = values.get s.criterion.property
  isRequired : s.input.isRequired = s.criterion.isRequired

theorem Step.Builds.fits {source : Source} {criteria : Criteria} {values scope : Fields} {s : Step}
    (hb : s.Builds source criteria values scope) : s.Fits values := by
  obtain ⟨hname, hvalue, hrequired, -⟩ := buildInput_parts hb.2
  exact ⟨hname, hvalue, hrequired⟩

/-- An input that is settled vouches for all before it: none of them lacks a value. -/
theorem settled_before {values : Fields} {steps : List Step} (hl : Locks values false none steps)
    (hf : ∀ s ∈ steps, s.Fits values) {before : List Step} {s : Step} {after : List Step}
    (hs : steps = before ++ s :: after) (hsettled : s.input.isSettled = true) :
    ∀ t ∈ before, t.isUnset values = false ∧ t.input.isSettled = true := by
  have hset : ∀ t ∈ before, t.isUnset values = false := by
    intro t ht
    by_contra hunset
    have hdisabled : s.input.isDisabled = true :=
      (locks_disabled hl hs).mpr (.inr ⟨t, ht, by simpa using hunset⟩)
    simp [Input.isSettled, hdisabled] at hsettled
  intro t ht
  refine ⟨hset t ht, ?_⟩
  obtain ⟨earlier, later, rfl⟩ := List.append_of_mem ht
  have henabled : t.input.isDisabled = false := by
    by_contra hdisabled
    have hsplit : steps = earlier ++ t :: (later ++ s :: after) := by simpa using hs
    obtain hstart | ⟨u, hu, hunset⟩ :=
      (locks_disabled hl hsplit).mp (by simpa using hdisabled)
    · simp at hstart
    · simp [hset u (by simp [hu])] at hunset
  have hvalue : t.input.value.isNull = false := by
    rw [(hf t (by simp [hs])).value]
    exact hset t ht
  simp [Input.isSettled, henabled, hvalue]

theorem last_split {α : Type} {P : α → Prop} {l : List α} (h : ∃ a ∈ l, P a) :
    ∃ before a after, l = before ++ a :: after ∧ P a ∧ ∀ b ∈ after, ¬ P b := by
  induction l with
  | nil => simp at h
  | cons a l ih =>
    by_cases hl : ∃ b ∈ l, P b
    · obtain ⟨before, b, after, rfl, hb, hafter⟩ := ih hl
      exact ⟨a :: before, b, after, rfl, hb, hafter⟩
    · obtain ⟨b, hb, hP⟩ := h
      rcases List.mem_cons.mp hb with rfl | hb
      · exact ⟨[], b, l, rfl, hP, fun c hc hPc => hl ⟨c, hc, hPc⟩⟩
      · exact absurd ⟨b, hb, hP⟩ hl

/-- The verdict of the last input put on a page is the verdict of all of them. -/
theorem foldl_put_valid_iff {values : Fields} {steps : List Step}
    (hl : Locks values false none steps) (hf : ∀ s ∈ steps, s.Fits values) {n : Nat}
    (hn : ∃ s ∈ steps, s.placement.page = n) (pages : List Page) :
    (pageAt (steps.foldl Step.put pages) n).isValid = true ↔
      ∀ s ∈ steps, s.placement.page = n → s.input.isSettled = true := by
  obtain ⟨before, s, after, rfl, rfl, hafter⟩ := last_split hn
  rw [foldl_put_valid hafter]
  constructor
  · intro hsettled t ht hpage
    rcases List.mem_append.mp ht with hbefore | hrest
    · exact (settled_before hl hf rfl hsettled t hbefore).2
    · rcases List.mem_cons.mp hrest with rfl | hlater
      · exact hsettled
      · exact absurd hpage (hafter t hlater)
  · intro hall
    exact hall s (by simp) rfl

/-! ## The account -/

structure Account (values : Fields) (pages : List Page) (steps : List Step)
    (result : List Page) : Prop where
  /-- An input is disabled exactly when a value is missing before it. -/
  disabled : ∀ before s after, steps = before ++ s :: after →
    (s.input.isDisabled = true ↔ ∃ t ∈ before, t.isUnset values = true)
  /-- Neither a disabled input nor a text has choices or asks the data source. -/
  silent : ∀ s ∈ steps, s.input.isDisabled = true ∨ s.criterion.control = .text →
    s.input.choices = [] ∧ s.after.calls = s.before.calls
  inputs : ∀ n, (pageAt result n).inputs =
    (pageAt pages n).inputs ++ (steps.filter fun s => s.placement.page = n).map Step.input
  noneLost : pages.length ≤ result.length
  room : ∀ s ∈ steps, s.placement.page < result.length
  noMore : result.length = pages.length ∨ ∃ s ∈ steps, result.length = s.placement.page + 1
  fresh : ∀ n, pages.length ≤ n → n < result.length → (∀ s ∈ steps, s.placement.page ≠ n) →
    result[n]? = some Page.empty
  /-- A page is valid exactly when every input put on it is enabled and is filled in or optional. -/
  valid : ∀ n page, result[n]? = some page → (∃ s ∈ steps, s.placement.page = n) →
    (page.isValid = true ↔ ∀ s ∈ steps, s.placement.page = n → s.input.isDisabled = false ∧
      (s.criterion.isRequired ≠ some true ∨ s.isUnset values = false))
  kept : ∀ n, n < pages.length → (∀ s ∈ steps, s.placement.page ≠ n) → result[n]? = pages[n]?

theorem Step.Fits.isSettled_iff {values : Fields} {s : Step} (hf : s.Fits values) :
    s.input.isSettled = true ↔ s.input.isDisabled = false ∧
      (s.criterion.isRequired ≠ some true ∨ s.isUnset values = false) := by
  simp [Input.isSettled, Step.isUnset, hf.value, hf.isRequired]

theorem account_of_steps {source : Source} {criteria : Criteria} {values scope : Fields}
    {steps : List Step} {h h' : Host} (hc : Carried source criteria values scope h steps h')
    (hl : Locks values false none steps) (pages : List Page) :
    Account values pages steps (steps.foldl Step.put pages) := by
  have hf : ∀ s ∈ steps, s.Fits values := fun s hs => (carried_builds hc s hs).fits
  refine ⟨?_, ?_, foldl_put_inputs steps pages, foldl_put_length_le steps pages,
    fun s hs => foldl_put_room hs pages, foldl_put_length steps pages, ?_, ?_, ?_⟩
  · intro before s after hs
    simpa using locks_disabled hl hs
  · intro s hs hsilent
    exact buildInput_silent hsilent (carried_builds hc s hs).2
  · intro n hn hlt huntouched
    rw [getElem?_eq_pageAt hlt, foldl_put_untouched huntouched, pageAt_beyond hn]
  · intro n page hpage hn
    have hat : pageAt (steps.foldl Step.put pages) n = page := by simp [pageAt, hpage]
    rw [← hat, foldl_put_valid_iff hl hf hn]
    exact forall₂_congr fun s hs => imp_congr_right fun _ => (hf s hs).isSettled_iff
  · intro n hn huntouched
    have hlt := Nat.lt_of_lt_of_le hn (foldl_put_length_le steps pages)
    rw [getElem?_eq_pageAt hlt, foldl_put_untouched huntouched, getElem?_eq_pageAt hn]

/-- Every assembly that succeeds has a list of steps, one for each placement in order and each going
on from the host that the one before left, that accounts for the pages it gives. -/
theorem assemble_account {source : Source} {criteria : Criteria} {values scope : Fields}
    {placements : List Placement} {pages result : List Page} {h h' : Host}
    (hne : placements ≠ [])
    (hrun : assemble source criteria values scope placements pages h = (.ok ⟨result, none⟩, h')) :
    ∃ steps, steps.map Step.placement = placements ∧
      Carried source criteria values scope h steps h' ∧ Account values pages steps result := by
  rw [assemble, if_neg (by simpa using hne)] at hrun
  obtain ⟨steps, hplacements, hcarried, hlocks, rfl⟩ := place_steps hrun
  exact ⟨steps, hplacements, hcarried, account_of_steps hcarried hlocks pages⟩

/-- Placements that jump from page 2 to page 0 and back: the optional input on page 0 lets its page
be valid without a value, and by lacking one it disables the note on page 2. -/
theorem assemble_account_jump :
    ∃ result h',
      assemble .none [("group", plainText "group" (some true)),
          ("status", plainSelect "status" none [⟨.text "on", some "On"⟩]),
          ("note", plainText "note" none)] [("group", .text "g1")] []
        [⟨"group", 2⟩, ⟨"status", 0⟩, ⟨"note", 2⟩]
        [⟨[⟨"kind", .text, "", [], .null, none, none, false⟩], false⟩] Host.bare =
        (.ok ⟨result, none⟩, h') ∧
      result.map (fun page => (page.inputs.map Input.name, page.isValid)) =
        [(["kind", "status"], true), ([], false), (["group", "note"], false)] ∧
      ∃ steps, steps.map Step.placement = [⟨"group", 2⟩, ⟨"status", 0⟩, ⟨"note", 2⟩] ∧
        Carried .none [("group", plainText "group" (some true)),
          ("status", plainSelect "status" none [⟨.text "on", some "On"⟩]),
          ("note", plainText "note" none)] [("group", .text "g1")] [] Host.bare steps h' ∧
        Account [("group", .text "g1")]
          [⟨[⟨"kind", .text, "", [], .null, none, none, false⟩], false⟩] steps result := by
  have hruns : (assemble .none [("group", plainText "group" (some true)),
      ("status", plainSelect "status" none [⟨.text "on", some "On"⟩]),
      ("note", plainText "note" none)] [("group", .text "g1")] []
      [⟨"group", 2⟩, ⟨"status", 0⟩, ⟨"note", 2⟩]
      [⟨[⟨"kind", .text, "", [], .null, none, none, false⟩], false⟩] Host.bare).1.toOption.map
        (fun assembled => (assembled.failure.isNone,
          assembled.pages.map fun page => (page.inputs.map Input.name, page.isValid))) =
      some (true, [(["kind", "status"], true), ([], false), (["group", "note"], false)]) := by
    decide +kernel
  obtain ⟨⟨result, failure⟩, hresult, hparts⟩ := Option.map_eq_some_iff.mp hruns
  obtain ⟨hnone, hpages⟩ := Prod.mk.inj hparts
  obtain rfl := Option.isNone_iff_eq_none.mp hnone
  exact ⟨result, _, ok_of_toOption hresult, hpages,
    assemble_account (List.cons_ne_nil _ _) (ok_of_toOption hresult)⟩

end Dossier.Wizard
