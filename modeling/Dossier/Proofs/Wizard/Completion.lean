import Dossier.Proofs.Wizard.Assembly
import Dossier.Wizard.Engine
import Mathlib.Data.List.DropRight

/-!
# When the wizard takes itself to be complete

The wizard of a declared type judges by its last page. That page speaks for the placements up to the
last one on it, and for no placement after that. Where the last placement of all stands on the last
page nothing is overlooked; where it does not, a placement on an earlier page may still be open.
-/

set_option autoImplicit false

namespace Dossier.Wizard

open Run

def Complete (pages : List Page) : Prop := (pages.getLast?.map Page.isValid).getD false = true

structure Filled (criteria : Criteria) (values : Fields) (placements : List Placement)
    (pages : List Page) : Prop where
  required : ∀ p ∈ placements, ∀ c, criteria.lookup p.name = some c → c.isRequired = some true →
    (values.get c.property).isNull = false
  valid : ∀ page ∈ pages, page.inputs ≠ [] → page.isValid = true

def Ready (values : Fields) (cs : List Criterion) : Prop :=
  (∀ c ∈ cs.dropLast, (values.get c.property).isNull = false) ∧
    ∀ c ∈ cs.getLast?, isSatisfied c values = true

instance (values : Fields) (cs : List Criterion) : Decidable (Ready values cs) :=
  inferInstanceAs (Decidable (_ ∧ _))

def placed (criteria : Criteria) (placements : List Placement) : List Criterion :=
  placements.filterMap fun p => criteria.lookup p.name

def highest (placements : List Placement) : Nat :=
  placements.foldr (fun p n => max p.page n) 0

def throughHighest (placements : List Placement) : List Placement :=
  placements.rdropWhile fun p => p.page ≠ highest placements

theorem page_le_highest {placements : List Placement} {p : Placement} (hp : p ∈ placements) :
    p.page ≤ highest placements := by
  induction placements with
  | nil => simp at hp
  | cons q rest ih =>
    simp only [highest, List.foldr_cons]
    rcases List.mem_cons.mp hp with rfl | hrest
    · exact Nat.le_max_left _ _
    · exact Nat.le_trans (ih hrest) (Nat.le_max_right _ _)

theorem exists_highest {placements : List Placement} (hne : placements ≠ []) :
    ∃ p ∈ placements, p.page = highest placements := by
  induction placements with
  | nil => exact absurd rfl hne
  | cons q rest ih =>
    rcases Nat.le_total (highest rest) q.page with hle | hle
    · exact ⟨q, by simp, (Nat.max_eq_left hle).symm⟩
    · by_cases hrest : rest = []
      · subst hrest
        exact ⟨q, by simp, by simp [highest]⟩
      · obtain ⟨p, hp, hpage⟩ := ih hrest
        refine ⟨p, by simp [hp], ?_⟩
        rw [hpage]
        exact (Nat.max_eq_right hle).symm

theorem throughHighest_split {before : List Placement} {p : Placement} {after : List Placement}
    (hp : p.page = highest (before ++ p :: after))
    (hafter : ∀ q ∈ after, q.page ≠ highest (before ++ p :: after)) :
    throughHighest (before ++ p :: after) = before ++ [p] := by
  unfold throughHighest
  generalize highest (before ++ p :: after) = top at hp hafter
  induction after using List.reverseRecOn with
  | nil => exact List.rdropWhile_concat_neg _ _ _ (by simp [hp])
  | append_singleton after q ih =>
    rw [← List.cons_append, ← List.append_assoc,
      List.rdropWhile_concat_pos _ _ _ (by simpa using hafter q (by simp))]
    exact ih fun r hr => hafter r (by simp [hr])

/-! ## Steps -/

section Steps

variable {source : Source} {criteria : Criteria} {values scope : Fields} {steps : List Step}

theorem placed_steps
    (hb : ∀ s ∈ steps, criteria.lookup s.placement.name = some s.criterion) :
    placed criteria (steps.map Step.placement) = steps.map Step.criterion := by
  induction steps with
  | nil => rfl
  | cons s rest ih =>
    have hs := hb s (by simp)
    have hrest := ih fun t ht => hb t (by simp [ht])
    simp only [placed] at hrest
    simp [placed, hs, hrest]

theorem settled_iff_ready (hl : Locks values false none steps) (hf : ∀ s ∈ steps, s.Fits values)
    {before : List Step} {s : Step} {after : List Step} (hs : steps = before ++ s :: after) :
    s.input.isSettled = true ↔ Ready values ((before ++ [s]).map Step.criterion) := by
  have henabled : s.input.isDisabled = false ↔ ∀ t ∈ before, t.isUnset values = false := by
    have hd := locks_disabled hl hs
    simp only [Bool.false_or, Option.any_none, Bool.false_eq_true, false_or] at hd
    rw [← Bool.not_eq_true, hd]
    simp
  have hfits := hf s (by simp [hs])
  rw [hfits.isSettled_iff, henabled]
  simp [Ready, Step.isUnset, isSatisfied]

/-- All is filled in exactly when the last input is settled. -/
theorem filled_iff_settled (hb : ∀ s ∈ steps, s.Builds source criteria values scope)
    (hl : Locks values false none steps) {before : List Step} {s : Step}
    (hs : steps = before ++ [s]) :
    Filled criteria values (steps.map Step.placement) (steps.foldl Step.put [Page.empty]) ↔
      s.input.isSettled = true := by
  have hf : ∀ t ∈ steps, t.Fits values := fun t ht => (hb t ht).fits
  have hmem : s ∈ steps := by simp [hs]
  have start (n : Nat) : (pageAt [Page.empty] n).inputs = [] := by cases n <;> rfl
  constructor
  · intro hfilled
    have hroom := foldl_put_room hmem [Page.empty]
    have hpage := hfilled.valid _ (List.mem_of_getElem? (getElem?_eq_pageAt hroom)) (by
      rw [foldl_put_inputs, start]
      simp only [List.nil_append, ne_eq, List.map_eq_nil_iff]
      exact List.ne_nil_of_mem (List.mem_filter.mpr ⟨hmem, by simp⟩))
    exact (foldl_put_valid_iff hl hf ⟨s, hmem, rfl⟩ _).mp hpage s hmem rfl
  · intro hsettled
    have hall : ∀ t ∈ steps, t.input.isSettled = true := by
      intro t ht
      rw [hs] at ht
      rcases List.mem_append.mp ht with hbefore | hlast
      · exact (settled_before hl hf hs hsettled t hbefore).2
      · rw [List.mem_singleton.mp hlast]
        exact hsettled
    refine ⟨?_, ?_⟩
    · intro p hp c hc hrequired
      obtain ⟨t, ht, rfl⟩ := List.mem_map.mp hp
      obtain rfl : t.criterion = c := Option.some.inj ((hb t ht).1.symm.trans hc)
      have hverdict := (hf t ht).isSettled_iff.mp (hall t ht)
      exact hverdict.2.resolve_left fun hoptional => hoptional hrequired
    · intro page hpage hinputs
      obtain ⟨n, hn, rfl⟩ := exists_pageAt hpage
      have hheld : ∃ t ∈ steps, t.placement.page = n := by
        by_contra hnone
        refine hinputs ?_
        rw [foldl_put_untouched (fun t ht heq => hnone ⟨t, ht, heq⟩), start]
      exact (foldl_put_valid_iff hl hf hheld _).mpr fun t ht _ => hall t ht

/-- The last page speaks for the criteria up to the last placement on the highest page. -/
theorem complete_iff_ready (hb : ∀ s ∈ steps, s.Builds source criteria values scope)
    (hl : Locks values false none steps) (hne : steps ≠ []) :
    Complete (steps.foldl Step.put [Page.empty]) ↔
      Ready values (placed criteria (throughHighest (steps.map Step.placement))) := by
  have hf : ∀ s ∈ steps, s.Fits values := fun s hs => (hb s hs).fits
  have htop : ∃ s ∈ steps, s.placement.page = highest (steps.map Step.placement) := by
    have hplacements : steps.map Step.placement ≠ [] := by simpa using hne
    obtain ⟨p, hp, hpage⟩ := exists_highest hplacements
    obtain ⟨s, hs, rfl⟩ := List.mem_map.mp hp
    exact ⟨s, hs, hpage⟩
  obtain ⟨before, s, after, hsplit, hpage, hafter⟩ := last_split htop
  have hthrough : throughHighest (steps.map Step.placement) =
      (before ++ [s]).map Step.placement := by
    have hmap : steps.map Step.placement =
        before.map Step.placement ++ s.placement :: after.map Step.placement := by simp [hsplit]
    rw [hmap] at hpage hafter ⊢
    rw [throughHighest_split hpage]
    · simp
    · intro q hq
      obtain ⟨t, ht, rfl⟩ := List.mem_map.mp hq
      exact hafter t ht
  -- the highest page is the last one, and keeps the verdict of the last input put on it
  have hlength : (steps.foldl Step.put [Page.empty]).length = s.placement.page + 1 := by
    have hmem : s ∈ steps := by simp [hsplit]
    have hroom := foldl_put_room hmem [Page.empty]
    rcases foldl_put_length steps [Page.empty] with hone | ⟨t, ht, hgrown⟩
    · have hstart : [Page.empty].length = 1 := rfl
      omega
    · have hle := page_le_highest (List.mem_map_of_mem (f := Step.placement) ht)
      omega
  have hlast : (steps.foldl Step.put [Page.empty]).getLast? =
      some (pageAt (steps.foldl Step.put [Page.empty]) s.placement.page) := by
    rw [List.getLast?_eq_getElem?, hlength, Nat.add_sub_cancel,
      getElem?_eq_pageAt (by omega)]
  have hverdict : (pageAt (steps.foldl Step.put [Page.empty]) s.placement.page).isValid =
      s.input.isSettled := by
    rw [hsplit]
    exact foldl_put_valid (fun t ht => by rw [hpage]; exact hafter t ht) _
  rw [Complete, hlast, hthrough, placed_steps (by
    intro t ht
    refine (hb t ?_).1
    rw [hsplit]
    simp only [List.mem_append, List.mem_cons] at ht ⊢
    tauto), ← settled_iff_ready hl hf hsplit, ← hverdict]
  rfl

end Steps

/-! ## Runs -/

section Runs

variable {builder : Builder} {criteria : Criteria} {d : Definition} {values : Fields}
  {pages : List Page} {h h' : Host}

theorem declaredForm_pages {provider : Provider} {start : List Page} {form : Form}
    (hrun : Engine.declaredForm builder provider d values start h = (.ok form, h')) :
    ∃ h₁, provider.addInputs builder.source values (Scope.start values builder.messages)
      d.criteria start h = (.ok ⟨form.pages, none⟩, h₁) := by
  obtain ⟨⟨pages, failure⟩, h₁, hassembled, hrest⟩ := bind_ok hrun
  cases failure with
  | some e => cases hrest
  | none =>
    obtain ⟨suggestion, h₃, -, hdescribed⟩ := bind_ok hrest
    obtain ⟨description, h₄, -, hlast⟩ := bind_ok hdescribed
    rw [(pure_ok hlast).1]
    exact ⟨h₁, hassembled⟩

/-- An assembly from one empty page is complete when the placements up to the last one on the
highest page are ready, and has everything filled in when all placements are. -/
theorem addInputs_complete_filled
    (hrun : (Provider.declared criteria).addInputs builder.source values
      (Scope.start values builder.messages) d.criteria [Page.empty] h = (.ok ⟨pages, none⟩, h')) :
    (Complete pages ↔ Ready values (placed criteria (throughHighest d.criteria))) ∧
      (Filled criteria values d.criteria pages ↔ Ready values (placed criteria d.criteria)) := by
  change assemble _ _ _ _ _ _ h = _ at hrun
  by_cases hnone : d.criteria = []
  · rw [hnone] at hrun ⊢
    obtain ⟨hpages, -⟩ := pure_ok hrun
    cases hpages
    have hready : Ready values [] := ⟨by simp, by simp⟩
    refine ⟨⟨fun _ => hready, fun _ => rfl⟩, ⟨fun _ => hready, fun _ => ⟨by simp, ?_⟩⟩⟩
    intro page hpage _
    obtain rfl : page = ⟨[], true⟩ := by simpa [markLast, Page.empty] using hpage
    rfl
  · rw [assemble, if_neg (by simpa using hnone)] at hrun
    obtain ⟨steps, hplacements, hcarried, hlocks, rfl⟩ := place_steps hrun
    have hb := carried_builds hcarried
    have hf : ∀ s ∈ steps, s.Fits values := fun s hs => (hb s hs).fits
    rw [← hplacements] at hnone ⊢
    have hsteps : steps ≠ [] := fun hempty => hnone (by rw [hempty]; rfl)
    refine ⟨complete_iff_ready hb hlocks hsteps, ?_⟩
    have hlast : steps = steps.dropLast ++ [steps.getLast hsteps] :=
      (List.dropLast_append_getLast hsteps).symm
    rw [filled_iff_settled hb hlocks hlast, settled_iff_ready hlocks hf hlast, ← hlast,
      placed_steps fun s hs => (hb s hs).1]

theorem throughHighest_eq_self {placements : List Placement}
    (hlast : ∀ p ∈ placements.getLast?, ∀ q ∈ placements, q.page ≤ p.page) :
    throughHighest placements = placements := by
  refine List.rdropWhile_eq_self_iff.mpr fun hne => ?_
  obtain ⟨q, hq, hpage⟩ := exists_highest hne
  have hle := hlast _ (List.getLast?_eq_some_getLast hne) q hq
  have hge := page_le_highest (List.getLast_mem hne)
  have heq : (placements.getLast hne).page = highest placements := by omega
  simp [heq]

/-- Exactly when a complete wizard has everything filled in: when the placements after the last one
on the highest page add nothing that is still open. Placements of which the last stands on the
highest page leave nothing open. -/
theorem complete_imp_filled_iff (builder : Builder) (d : Definition)
    (hrun : (Provider.declared criteria).addInputs builder.source values
      (Scope.start values builder.messages) d.criteria [Page.empty] h = (.ok ⟨pages, none⟩, h')) :
    (∀ form h₂, Engine.declaredForm builder (.declared criteria) d values [Page.empty] h =
      (.ok form, h₂) → form.pages = pages) ∧
    ((Complete pages → Filled criteria values d.criteria pages) ↔
      (Ready values (placed criteria (throughHighest d.criteria)) →
        Ready values (placed criteria d.criteria))) ∧
    ((∀ p ∈ d.criteria.getLast?, ∀ q ∈ d.criteria, q.page ≤ p.page) →
      Complete pages → Filled criteria values d.criteria pages) := by
  obtain ⟨hcomplete, hfilled⟩ := addInputs_complete_filled hrun
  refine ⟨?_, ?_, ?_⟩
  · intro form h₂ hform
    obtain ⟨h₁, hpages⟩ := declaredForm_pages hform
    cases hrun.symm.trans hpages
    rfl
  · rw [hcomplete, hfilled]
  · intro hlast
    rw [hcomplete, hfilled, throughHighest_eq_self hlast]
    exact id

end Runs

def plainBlueprint (suggestedName : String) : Blueprint :=
  ⟨.monthly, false, suggestedName, .tabular, none, "", "", "", none, none, [], [], none, false, []⟩

/-- With both values chosen, placements that go back to an earlier page leave nothing open. -/
theorem complete_imp_filled_back :
    ∃ pages h',
      (Provider.declared [("group", plainText "group" (some true)),
          ("reason", plainText "reason" (some true))]).addInputs .none
        [("group", .text "g1"), ("reason", .text "audit")]
        (Scope.start [("group", .text "g1"), ("reason", .text "audit")] [])
        [⟨"group", 1⟩, ⟨"reason", 0⟩] [Page.empty] Host.bare = (.ok ⟨pages, none⟩, h') ∧
      (Complete pages →
        Filled [("group", plainText "group" (some true)),
            ("reason", plainText "reason" (some true))]
          [("group", .text "g1"), ("reason", .text "audit")]
          [⟨"group", 1⟩, ⟨"reason", 0⟩] pages) := by
  have hruns : ((Provider.declared [("group", plainText "group" (some true)),
      ("reason", plainText "reason" (some true))]).addInputs .none
      [("group", .text "g1"), ("reason", .text "audit")]
      (Scope.start [("group", .text "g1"), ("reason", .text "audit")] [])
      [⟨"group", 1⟩, ⟨"reason", 0⟩] [Page.empty] Host.bare).1.toOption.map
        (fun assembled => assembled.failure.isNone) = some true := by
    decide +kernel
  obtain ⟨⟨pages, failure⟩, hpages, hnone⟩ := Option.map_eq_some_iff.mp hruns
  obtain rfl := Option.isNone_iff_eq_none.mp hnone
  have hiff := (complete_imp_filled_iff ⟨.none, none, [], "", ""⟩
    ⟨"", [⟨"group", 1⟩, ⟨"reason", 0⟩], plainBlueprint "Memo", []⟩ (ok_of_toOption hpages)).2.1
  exact ⟨pages, _, ok_of_toOption hpages, hiff.mpr fun _ => by decide +kernel⟩

/-- A required criterion on an earlier page than the one before it can be overlooked: the name is
suggested although the reason is missing and its page is not valid. -/
theorem complete_with_open_page :
    ∃ form h',
      Engine.declaredForm ⟨.none, none, [], "", ""⟩
        (.declared [("group", plainText "group" (some true)),
          ("reason", plainText "reason" (some true))])
        ⟨"", [⟨"group", 1⟩, ⟨"reason", 0⟩],
          plainBlueprint "Memo of \x7b\x7bcriteria.group\x7d\x7d", []⟩
        [("group", .text "g1")] [Page.empty] Host.bare = (.ok form, h') ∧
      Complete form.pages ∧ form.suggestedName = "Memo of g1" ∧
      ¬ Filled [("group", plainText "group" (some true)),
          ("reason", plainText "reason" (some true))]
        [("group", .text "g1")] [⟨"group", 1⟩, ⟨"reason", 0⟩] form.pages := by
  have hshown : (Engine.declaredForm ⟨.none, none, [], "", ""⟩
      (.declared [("group", plainText "group" (some true)),
        ("reason", plainText "reason" (some true))])
      ⟨"", [⟨"group", 1⟩, ⟨"reason", 0⟩],
        plainBlueprint "Memo of \x7b\x7bcriteria.group\x7d\x7d", []⟩
      [("group", .text "g1")] [Page.empty] Host.bare).1.toOption.map
        (fun form => (form.suggestedName, form.pages.getLast?.map Page.isValid)) =
      some ("Memo of g1", some true) := by
    decide +kernel
  obtain ⟨form, hform, hparts⟩ := Option.map_eq_some_iff.mp hshown
  obtain ⟨hname, hlast⟩ := Prod.mk.inj hparts
  refine ⟨form, _, ok_of_toOption hform, ?_, hname, ?_⟩
  · rw [Complete, hlast]
    rfl
  · intro hfilled
    have hreason := hfilled.required ⟨"reason", 0⟩ (by simp) _ rfl rfl
    exact absurd hreason (by decide +kernel)

end Dossier.Wizard
