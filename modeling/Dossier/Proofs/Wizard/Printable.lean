import Dossier.Proofs.Wizard.Completion
import Dossier.Proofs.Wizard.Labels
import Dossier.Proofs.Template.Resolve

/-!
# What the wizard accepts can be printed

Printing disables nothing and fetches its choices anew. Nothing in it fails, though, that did not go
well before: where placements never go back to an earlier page, a last page that is valid means that
every input was enabled, so that its label was resolved and its choices were fetched. Only the
default of a criterion is resolved for the first time, which takes a text without placeholders to be
safe.
-/

set_option autoImplicit false

namespace Dossier.Wizard

open Run

/-! ## Texts -/

section Texts

variable {scope : Fields} {h : Host}

/-- Where any text resolves, a text without placeholders resolves to itself. -/
theorem resolve_plain {s t u : String} (hplain : Template.contains s = false)
    (hother : (resolve scope t h).1 = .ok u) : (resolve scope s h).1 = .ok s := by
  obtain ⟨setting, h₁, hsetting, -⟩ := bind_ok (Prod.ext hother rfl)
  rw [resolve, bind_of_ok (congrArg Prod.fst hsetting), lift_apply, Template.resolve_done hplain]

end Texts

/-! ## One criterion -/

section Criterion

variable {source : Source} {criteria : Criteria} {values scope : Fields} {h h' : Host}

/-- The label of an input is the label of its criterion, resolved. -/
theorem buildInput_label {maxPages : Option Int} {c : Criterion} {isDisabled : Bool} {input : Input}
    (hrun : buildInput source maxPages c values scope isDisabled h = (.ok input, h')) :
    (resolve scope c.label h).1 = .ok input.label := by
  rw [buildInput_eq] at hrun
  obtain ⟨choices, h₁, hoffered, hdress⟩ := bind_ok hrun
  have hknown : h₁.known = h.known := by
    refine keeps_ok (Narrow.keeps ?_ known_aloof) hoffered
    unfold offered
    split
    · exact choices_narrow source maxPages values scope c
    · exact pure_narrow _
  obtain ⟨label, h₂, hlabel, hrest⟩ := bind_ok hdress
  have hinput : input.label = label := by
    cases hp : Criterion.filled? c.placeholder with
    | some s =>
      rw [hp] at hrest
      obtain ⟨placeholder, h₃, -, hlast⟩ := bind_ok hrest
      rw [(pure_ok hlast).1]
    | none =>
      rw [hp] at hrest
      obtain ⟨placeholder, h₃, -, hlast⟩ := bind_ok hrest
      rw [(pure_ok hlast).1]
  rw [hinput, ← (resolve_quiet scope c.label).sees hknown, hlabel]

/-- Where the choices of a select control are found, its value is printed. -/
theorem printedValue_total {c : Criterion} (value : Value)
    (hchoices : c.control = .select →
      ∃ choices, (c.choices source none values scope h).1 = .ok choices) :
    ∃ shown, (Criteria.printedValue source c values scope value h).1 = .ok shown := by
  unfold Criteria.printedValue
  cases hcontrol : c.control with
  | text => exact ⟨value, rfl⟩
  | select =>
    obtain ⟨choices, hfound⟩ := hchoices hcontrol
    dsimp only
    rw [bind_of_ok hfound]
    cases choices.find? fun choice => choice.value.same value <;> exact ⟨_, rfl⟩

/-- A printed criterion is told by the criterion that its placement names: it has the name of the
property, and its label is the resolved one. -/
def Tells (criteria : Criteria) (scope : Fields) (h : Host) (p : Placement) (q : PrintedCriterion) :
    Prop :=
  ∃ c, criteria.lookup p.name = some c ∧ q.name = c.property ∧
    (resolve scope c.label h).1 = .ok q.label

theorem printOne_total {c : Criterion} {label : String}
    (hlabel : (resolve scope c.label h).1 = .ok label)
    (hdefault : ∀ s, c.defaultDisplay = some s → Template.contains s = false)
    (hchoices : c.control = .select → ∀ k : Host, k.known = h.known →
      ∃ choices, (c.choices source none values scope k).1 = .ok choices) :
    ∃ printed, (Criteria.printOne source c values scope h).1 = .ok printed ∧
      printed.name = c.property ∧ printed.label = label := by
  have hknown := (resolve_quiet scope c.label).keeps known_aloof.toSteady h
  have hagain : (resolve scope c.label (resolve scope c.label h).2).1 = .ok label := by
    rw [(resolve_quiet scope c.label).sees hknown, hlabel]
  unfold Criteria.printOne
  rw [bind_of_ok hlabel]
  by_cases hunset : c.isRequired = some false ∧ (values.get c.property).isNull = true
  · simp only [hunset, and_self, if_true]
    have hplain : Template.contains (c.defaultDisplay.getD "") = false := by
      cases hd : c.defaultDisplay with
      | none => decide +kernel
      | some s => exact hdefault s hd
    rw [bind_of_ok (resolve_plain hplain hagain)]
    exact ⟨_, rfl, rfl, rfl⟩
  · simp only [hunset, if_false]
    obtain ⟨shown, hshown⟩ := printedValue_total (values.get c.property) fun hselect =>
      hchoices hselect _ hknown
    rw [bind_of_ok hshown]
    exact ⟨_, rfl, rfl, rfl⟩

/-- A criterion whose input was built enabled is printed on every host that goes by the same
settings and environment. -/
theorem Step.Builds.printOne (hsource : Timeless source) {s : Step}
    (hb : s.Builds source criteria values scope) (henabled : s.input.isDisabled = false)
    (hdefault : ∀ t, s.criterion.defaultDisplay = some t → Template.contains t = false)
    {k : Host} (hk : k.known = s.before.known) :
    ∃ printed, (Criteria.printOne source s.criterion values scope k).1 = .ok printed ∧
      Tells criteria scope k s.placement printed := by
  have hlabel : (resolve scope s.criterion.label k).1 = .ok s.input.label := by
    rw [(resolve_quiet scope _).sees hk, buildInput_label hb.2]
  have hchoices : s.criterion.control = .select → ∀ j : Host, j.known = k.known →
      ∃ choices, (s.criterion.choices source none values scope j).1 = .ok choices := by
    intro hselect j hj
    have hfetched := hb.choices hselect henabled
    rw [← (choices_repeats hsource none s.criterion j s.before (hj.trans hk)).1] at hfetched
    exact ⟨_, hfetched⟩
  obtain ⟨printed, hprinted, hname, hthere⟩ := printOne_total hlabel hdefault hchoices
  exact ⟨printed, hprinted, s.criterion, hb.1, hname, by rw [hlabel, hthere]⟩

end Criterion

/-! ## All placements -/

section Placements

variable {source : Source} {criteria : Criteria} {values scope : Fields}

theorem Tells.of_known {h k : Host} (hk : h.known = k.known) {p : Placement} {q : PrintedCriterion}
    (ht : Tells criteria scope h p q) : Tells criteria scope k p q := by
  obtain ⟨c, hc, hname, hlabel⟩ := ht
  exact ⟨c, hc, hname, by rw [← (resolve_quiet scope _).sees hk, hlabel]⟩

/-- Where every criterion is printed by itself, all of them are, one for each placement. -/
theorem print_total {placements : List Placement} {h : Host}
    (hall : ∀ p ∈ placements, ∃ c, criteria.lookup p.name = some c ∧ ∀ k : Host, k.known = h.known →
      ∃ printed, (Criteria.printOne source c values scope k).1 = .ok printed ∧
        Tells criteria scope k p printed) :
    ∃ printed, (criteria.print source values scope placements h).1 = .ok printed ∧
      List.Forall₂ (Tells criteria scope h) placements printed := by
  have later (k : Host) (hk : k.known = h.known) :
      ∃ printed, (criteria.print source values scope placements k).1 = .ok printed ∧
        List.Forall₂ (Tells criteria scope h) placements printed := by
    induction placements generalizing k with
    | nil => exact ⟨[], rfl, .nil⟩
    | cons p rest ih =>
      obtain ⟨⟨c, hc, hone⟩, hrest⟩ := List.forall_mem_cons.mp hall
      obtain ⟨first, hfirst, htold⟩ := hone k hk
      have hkept := (printOne_narrow source values scope c).keeps known_aloof k
      obtain ⟨others, hothers, htell⟩ := ih hrest _ (hkept.trans hk)
      refine ⟨first :: others, ?_, .cons (htold.of_known hk) htell⟩
      rw [Criteria.print, hc]
      dsimp only
      rw [bind_of_ok hfirst, bind_of_ok hothers]
      rfl
  exact later h rfl

end Placements

/-! ## Acceptance -/

section Acceptance

variable {source : Source} {criteria : Criteria} {values scope : Fields} {steps : List Step}

/-- Steps leave the settings and the environment that the first one found. -/
theorem carried_keeps {h h' : Host} (hc : Carried source criteria values scope h steps h') :
    h'.known = h.known := by
  induction hc with
  | nil h => rfl
  | @cons s rest h' builds later ih =>
    have hnarrow := buildInput_narrow source none s.criterion values scope s.input.isDisabled
    exact ih.trans (keeps_ok (hnarrow.keeps known_aloof) builds.2)

/-- When the wizard is complete and its placements never go back, no input is disabled. -/
theorem complete_enabled (hb : ∀ s ∈ steps, s.Builds source criteria values scope)
    (hl : Locks values false none steps) (hne : steps ≠ [])
    (horder : (steps.map Step.placement).Pairwise fun p q => p.page ≤ q.page)
    (hcomplete : Complete (steps.foldl Step.put [Page.empty])) :
    ∀ s ∈ steps, s.input.isDisabled = false := by
  have hf : ∀ s ∈ steps, s.Fits values := fun s hs => (hb s hs).fits
  have hsplit : steps = steps.dropLast ++ [steps.getLast hne] :=
    (List.dropLast_append_getLast hne).symm
  -- the last placement stands on the highest page, so the last page speaks for all
  have hhighest : ∀ p ∈ (steps.map Step.placement).getLast?, ∀ q ∈ steps.map Step.placement,
      q.page ≤ p.page := by
    rw [hsplit, List.map_append, List.pairwise_append] at horder
    rw [hsplit]
    intro p hp q hq
    obtain rfl : (steps.getLast hne).placement = p := by simpa using hp
    rw [List.map_append] at hq
    rcases List.mem_append.mp hq with hbefore | hlast
    · exact horder.2.2 q hbefore _ (by simp)
    · obtain rfl : q = (steps.getLast hne).placement := by simpa using hlast
      exact Nat.le_refl _
  have hready := (complete_iff_ready hb hl hne).mp hcomplete
  rw [throughHighest_eq_self hhighest, placed_steps fun s hs => (hb s hs).1] at hready
  have hsettled : (steps.getLast hne).input.isSettled = true := by
    rw [settled_iff_ready hl hf hsplit, ← hsplit]
    exact hready
  have hall : ∀ s ∈ steps, s.input.isSettled = true := by
    intro s hs
    rw [hsplit] at hs
    rcases List.mem_append.mp hs with hbefore | hlast
    · exact (settled_before hl hf hsplit hsettled s hbefore).2
    · rw [List.mem_singleton.mp hlast]
      exact hsettled
  intro s hs
  exact ((hf s hs).isSettled_iff.mp (hall s hs)).1

/-- What the wizard accepts can be printed. With defaults that hold no placeholder, placements that
never go back to an earlier page and a source whose answers do not depend on earlier calls, a
complete wizard means that the criteria are printed from the same values in the same scope, one for
each placement and in their order, at once and at any later time while settings and environment
stay. -/
theorem complete_printable {placements : List Placement} {result : List Page} {h h' : Host}
    (hsource : Timeless source)
    (hdefault : ∀ entry ∈ criteria, ∀ s, entry.2.defaultDisplay = some s →
      Template.contains s = false)
    (hne : placements ≠ []) (horder : placements.Pairwise fun p q => p.page ≤ q.page)
    (hassembled : assemble source criteria values scope placements [Page.empty] h =
      (.ok ⟨result, none⟩, h'))
    (hcomplete : Complete result) :
    h'.known = h.known ∧ ∀ k : Host, k.known = h.known →
      ∃ printed, ((Provider.declared criteria).printedCriteria source values scope placements k).1 =
          .ok printed ∧
        List.Forall₂ (Tells criteria scope k) placements printed := by
  rw [assemble, if_neg (by simpa using hne)] at hassembled
  obtain ⟨steps, rfl, hcarried, hlocks, rfl⟩ := place_steps hassembled
  have hbuilds := carried_builds hcarried
  have henabled := complete_enabled hbuilds hlocks (by simpa using hne) horder hcomplete
  refine ⟨carried_keeps hcarried, fun k hk => print_total fun p hp => ?_⟩
  obtain ⟨s, hs, rfl⟩ := List.mem_map.mp hp
  refine ⟨s.criterion, (hbuilds s hs).1, fun j hj => ?_⟩
  refine (hbuilds s hs).printOne hsource (henabled s hs) ?_
    (hj.trans (hk.trans (carried_known hcarried s hs).symm))
  obtain ⟨before, after, hsplit, -⟩ := List.lookup_eq_some_iff.mp (hbuilds s hs).1
  exact hdefault (s.placement.name, s.criterion) (by rw [hsplit]; simp)

end Acceptance

def notedCriteria : Criteria :=
  flagCriteria ++
    [("note", ⟨.text, "note", "Note on \x7b\x7bcriteria.kind\x7d\x7d", some false, none,
    some "No note", none, none, none, none, none⟩)]

/-- With a kind and a flag chosen the wizard is complete; all three criteria are printed later, when
users have been fetched besides, the note by its default. -/
theorem complete_printable_noted :
    ∃ (result : List Page) (h' : Host) (printed : List PrintedCriterion),
      assemble flagSource notedCriteria flagValues [("criteria", .object flagValues)]
        [⟨"kind", 0⟩, ⟨"flag", 0⟩, ⟨"note", 1⟩] [Page.empty] Host.bare = (.ok ⟨result, none⟩, h') ∧
      Complete result ∧
      ((Provider.declared notedCriteria).printedCriteria flagSource flagValues
        [("criteria", .object flagValues)] [⟨"kind", 0⟩, ⟨"flag", 0⟩, ⟨"note", 1⟩] laterHost).1 =
          .ok printed ∧
      List.Forall₂ (Tells notedCriteria [("criteria", .object flagValues)] laterHost)
        [⟨"kind", 0⟩, ⟨"flag", 0⟩, ⟨"note", 1⟩] printed := by
  have hruns : (assemble flagSource notedCriteria flagValues [("criteria", .object flagValues)]
      [⟨"kind", 0⟩, ⟨"flag", 0⟩, ⟨"note", 1⟩] [Page.empty] Host.bare).1.toOption.map
        (fun assembled =>
          (assembled.failure.isNone, (assembled.pages.getLast?.map Page.isValid).getD false)) =
      some (true, true) := by
    decide +kernel
  obtain ⟨⟨result, failure⟩, hresult, hparts⟩ := Option.map_eq_some_iff.mp hruns
  obtain ⟨hnone, hcomplete⟩ := Prod.mk.inj hparts
  obtain rfl := Option.isNone_iff_eq_none.mp hnone
  have hdefault : ∀ entry ∈ notedCriteria, ∀ s, entry.2.defaultDisplay = some s →
      Template.contains s = false := by
    intro entry hentry s hs
    simp only [notedCriteria, flagCriteria, plainText, List.cons_append, List.nil_append,
      List.mem_cons, List.not_mem_nil, or_false] at hentry
    obtain rfl | rfl | rfl := hentry
    · cases hs
    · cases hs
    · cases hs
      decide +kernel
  obtain ⟨-, hprints⟩ := complete_printable (fun _ _ _ => rfl) hdefault (List.cons_ne_nil _ _)
    (by decide) (ok_of_toOption hresult) hcomplete
  obtain ⟨printed, hprinted, htell⟩ := hprints laterHost rfl
  exact ⟨result, _, printed, ok_of_toOption hresult, hcomplete, hprinted, htell⟩

end Dossier.Wizard
