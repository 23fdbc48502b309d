import Dossier.Proofs.Criterion.Choosing
import Dossier.Wizard.Assembly

/-!
# The lines that are printed

Printing that succeeds is a list of lines, one for each placement. The default of a criterion is
shown, without a call, for one that is declared optional and has no value. The wizard is more
lenient: it lets a criterion stay unset that is not declared required. Where a criterion declares
neither, the default is shown only by chance.
-/

set_option autoImplicit false

namespace Dossier

open Run

/-! ## Lines -/

structure PrintLine where
  placement : Placement
  criterion : Criterion
  printed : PrintedCriterion
  before : Host
  after : Host

def PrintLine.Prints (source : Source) (criteria : Criteria)
    (values scope : Fields) (l : PrintLine) :
    Prop :=
  criteria.lookup l.placement.name = some l.criterion ∧
    Criteria.printOne source l.criterion values scope l.before = (.ok l.printed, l.after)

inductive Printing (source : Source) (criteria : Criteria) (values scope : Fields) :
    Host → List PrintLine → Host → Prop
  | nil (h : Host) : Printing source criteria values scope h [] h
  | cons {l : PrintLine} {rest : List PrintLine} {h' : Host}
      (prints : l.Prints source criteria values scope)
      (later : Printing source criteria values scope l.after rest h') :
      Printing source criteria values scope l.before (l :: rest) h'

section Lines

variable {source : Source} {criteria : Criteria} {values scope : Fields} {h h' : Host}

/-- Printing that succeeds is a list of lines. -/
theorem print_lines {placements : List Placement} {printed : List PrintedCriterion}
    (hrun : criteria.print source values scope placements h = (.ok printed, h')) :
    ∃ lines, lines.map PrintLine.placement = placements ∧ lines.map PrintLine.printed = printed ∧
      Printing source criteria values scope h lines h' := by
  induction placements generalizing printed h with
  | nil =>
    obtain ⟨rfl, rfl⟩ := pure_ok hrun
    exact ⟨[], rfl, rfl, .nil _⟩
  | cons p placements ih =>
    rw [Criteria.print] at hrun
    cases hfound : criteria.lookup p.name with
    | none =>
      rw [hfound] at hrun
      cases hrun
    | some c =>
      rw [hfound] at hrun
      obtain ⟨first, h₁, hfirst, hrest⟩ := bind_ok hrun
      obtain ⟨rest, h₂, hlater, hpure⟩ := bind_ok hrest
      obtain ⟨rfl, rfl⟩ := pure_ok hpure
      obtain ⟨lines, rfl, rfl, hlines⟩ := ih hlater
      have hprints : PrintLine.Prints source criteria values scope ⟨p, c, first, h, h₁⟩ :=
        ⟨hfound, hfirst⟩
      exact ⟨⟨p, c, first, h, h₁⟩ :: lines, rfl, rfl, .cons hprints hlines⟩

/-- Every line finds the settings and the environment that the first one found. -/
theorem printing_lines {lines : List PrintLine}
    (hlines : Printing source criteria values scope h lines h') :
    ∀ l ∈ lines, l.Prints source criteria values scope ∧ l.before.known = h.known := by
  induction hlines with
  | nil h => simp
  | @cons l rest h' prints later ih =>
    have hkeeps := (printOne_narrow source values scope l.criterion).keeps known_aloof
    have hkept : l.after.known = l.before.known := keeps_ok hkeeps prints.2
    refine List.forall_mem_cons.mpr ⟨⟨prints, rfl⟩, fun m hm => ?_⟩
    exact ⟨(ih m hm).1, (ih m hm).2.trans hkept⟩

end Lines

/-! ## Choices of a criterion -/

theorem same_null (v : Value) : v.same .null = v.isNull := by
  cases v <;> simp [Value.same, Value.isNull, Value.numeric?]

section Choices

variable {source : Source} {values scope : Fields} {h h' : Host}

/-- Choices that are fetched take a call. -/
theorem choices_grows {c : Criterion} {w : Criterion.Wiring} {maxPages : Option Int}
    {choices : List Choice} (hwiring : c.wiring? = some w)
    (hrun : c.choices source maxPages values scope h = (.ok choices, h')) :
    h.calls.length < h'.calls.length := by
  rw [Criterion.choices_wired hwiring] at hrun
  obtain ⟨fetched, h₁, hfetched, hfixed⟩ := bind_ok hrun
  obtain ⟨fixed, hresolved, -⟩ := map_ok hfixed
  obtain ⟨params, pages, hcollects⟩ := Criterion.fetchChoices_collects hfetched
  obtain ⟨batches, hpaged, -⟩ := hcollects.batches
  rw [keeps_ok ((resolveChoices_quiet scope _).keeps calls_steady) hresolved]
  exact hpaged.grows

/-- The first choice without a value keeps its place, with its label resolved. -/
theorem resolveChoices_find {choices resolved : List Choice}
    (hrun : Criterion.resolveChoices scope choices h = (.ok resolved, h')) :
    match choices.find? (·.value.isNull) with
    | some c => ∃ r label, resolved.find? (·.value.isNull) = some r ∧ r.label = some label ∧
        (resolve scope (c.label.getD "") h).1 = .ok label
    | none => resolved.find? (·.value.isNull) = none := by
  induction choices generalizing resolved h with
  | nil =>
    obtain ⟨rfl, -⟩ := pure_ok hrun
    rfl
  | cons c rest ih =>
    obtain ⟨first, h₁, hfirst, hrest⟩ := bind_ok hrun
    obtain ⟨later, h₂, hlater, hpure⟩ := bind_ok hrest
    obtain ⟨rfl, rfl⟩ := pure_ok hpure
    have hchoice := resolveChoice_resolved hfirst
    obtain ⟨label, hresolved, hlabel⟩ := hchoice.label
    have hnull := hchoice.isNull
    have hknown := keeps_ok ((resolveChoice_quiet scope c).keeps known_aloof.toSteady) hfirst
    cases hc : c.value.isNull with
    | true =>
      simp only [List.find?_cons, hnull, hc]
      exact ⟨first, label, rfl, hlabel, hresolved⟩
    | false =>
      simp only [List.find?_cons, hnull, hc]
      have hfound := ih hlater
      cases hrests : rest.find? (·.value.isNull) with
      | none => simpa only [hrests] using hfound
      | some choice =>
        rw [hrests] at hfound
        obtain ⟨r, label, hr, hlabel, hthere⟩ := hfound
        exact ⟨r, label, hr, hlabel, by rw [← (resolve_quiet scope _).sees hknown, hthere]⟩

end Choices

/-! ## Defaults -/

def Criterion.MayStayUnset (c : Criterion) (values : Fields) : Prop :=
  Wizard.isSatisfied c values = true ∧ (values.get c.property).isNull = true

def Criterion.showDefault (c : Criterion) (scope : Fields) : Run PrintedCriterion := do
  let label ← resolve scope c.label
  let shown ← resolve scope (c.defaultDisplay.getD "")
  pure ⟨c.property, label, .text shown⟩

def Criterion.DefaultChosen (c : Criterion) (scope : Fields) (h : Host) : Prop :=
  c.control = .select ∧ c.wiring? = none ∧
    ∃ choice shown, (c.fixedChoices.getD []).find? (·.value.isNull) = some choice ∧
      (resolve scope (choice.label.getD "") h).1 = .ok shown ∧
      (resolve scope (c.defaultDisplay.getD "") h).1 = .ok shown

structure PrintLine.ShowsDefault (scope : Fields) (l : PrintLine) : Prop where
  shown : (l.criterion.showDefault scope l.before).1 = .ok l.printed
  silent : l.after.calls = l.before.calls

section Defaults

variable {source : Source} {criteria : Criteria} {values scope : Fields}
  {h h' : Host} {c : Criterion}

/-- A criterion that is declared optional and has no value shows its default, whatever the source.
-/
theorem printOne_optional (hoptional : c.isRequired = some false)
    (hunset : (values.get c.property).isNull = true) :
    Criteria.printOne source c values scope = c.showDefault scope := by
  unfold Criteria.printOne Criterion.showDefault
  simp only [hoptional, hunset, and_self, if_true]

theorem showDefault_quiet (c : Criterion) (scope : Fields) : Quiet (c.showDefault scope) :=
  bind_quiet (resolve_quiet scope _) fun _ =>
    bind_quiet (resolve_quiet scope _) fun _ => pure_quiet _

theorem printOne_other (hrequired : c.isRequired ≠ some false) :
    Criteria.printOne source c values scope = (do
      let label ← resolve scope c.label
      let shown ← Criteria.printedValue source c values scope (values.get c.property)
      pure ⟨c.property, label, shown⟩) := by
  unfold Criteria.printOne
  simp only [hrequired, false_and, if_false]

/-- Without wiring a select control prints for no value the label of its first choice without one.
-/
theorem printedValue_fixed {shown : Value} (hselect : c.control = .select)
    (hwiring : c.wiring? = none)
    (hrun : Criteria.printedValue source c values scope .null h = (.ok shown, h')) :
    h'.calls = h.calls ∧
    match (c.fixedChoices.getD []).find? (·.value.isNull) with
    | some choice => ∃ label, (resolve scope (choice.label.getD "") h).1 = .ok label ∧
        shown = .text label
    | none => shown = .null := by
  unfold Criteria.printedValue Criterion.choices at hrun
  rw [hselect, hwiring] at hrun
  simp only [pure_bind, List.append_nil, bind_pure, same_null] at hrun
  obtain ⟨choices, h₁, hchoices, hfind⟩ := bind_ok hrun
  have hcalls := keeps_ok ((resolveChoices_quiet scope _).keeps calls_steady) hchoices
  have hfound := resolveChoices_find hchoices
  split at hfound
  · obtain ⟨r, label, hr, hlabel, hresolved⟩ := hfound
    rw [hr] at hfind
    obtain ⟨rfl, rfl⟩ := pure_ok hfind
    exact ⟨hcalls, label, hresolved, by rw [hlabel]; rfl⟩
  · rw [hfound] at hfind
    obtain ⟨rfl, rfl⟩ := pure_ok hfind
    exact ⟨hcalls, rfl⟩

/-- With wiring a select control asks for its choices, whatever it prints. -/
theorem printedValue_fetched {w : Criterion.Wiring} {value shown : Value}
    (hselect : c.control = .select) (hwiring : c.wiring? = some w)
    (hrun : Criteria.printedValue source c values scope value h = (.ok shown, h')) :
    h.calls.length < h'.calls.length := by
  unfold Criteria.printedValue at hrun
  rw [hselect] at hrun
  obtain ⟨choices, h₁, hchoices, hfind⟩ := bind_ok hrun
  have hcalls : h'.calls = h₁.calls := by
    cases hchoice : choices.find? fun choice => choice.value.same value with
    | some choice =>
      rw [hchoice] at hfind
      rw [(pure_ok hfind).2]
    | none =>
      rw [hchoice] at hfind
      rw [(pure_ok hfind).2]
  rw [hcalls]
  exact choices_grows hwiring hchoices

theorem showDefault_value {printed : PrintedCriterion}
    (hshown : (c.showDefault scope h).1 = .ok printed) :
    ∃ shown, (resolve scope (c.defaultDisplay.getD "") h).1 = .ok shown ∧
      printed.value = .text shown := by
  obtain ⟨label, h₁, hlabel, hrest⟩ := bind_ok (Prod.ext hshown rfl)
  obtain ⟨shown, h₂, hdefault, hpure⟩ := bind_ok hrest
  obtain ⟨rfl, -⟩ := pure_ok hpure
  have hknown := keeps_ok ((resolve_quiet scope c.label).keeps known_aloof.toSteady) hlabel
  exact ⟨shown, by rw [← (resolve_quiet scope _).sees hknown, hdefault], rfl⟩

theorem showDefault_ok {label shown : String} (hlabel : (resolve scope c.label h).1 = .ok label)
    (hdefault : (resolve scope (c.defaultDisplay.getD "") h).1 = .ok shown) :
    (c.showDefault scope h).1 = .ok ⟨c.property, label, .text shown⟩ := by
  have hknown := (resolve_quiet scope c.label).keeps known_aloof.toSteady h
  rw [Criterion.showDefault, bind_of_ok hlabel, bind_of_ok]
  · rfl
  · rw [(resolve_quiet scope _).sees hknown, hdefault]

theorem Criterion.DefaultChosen.of_known {k : Host} (hknown : h.known = k.known)
    (hc : c.DefaultChosen scope h) : c.DefaultChosen scope k := by
  obtain ⟨hselect, hwiring, choice, shown, hfind, hchoice, hdefault⟩ := hc
  rw [(resolve_quiet scope _).sees hknown] at hchoice hdefault
  exact ⟨hselect, hwiring, choice, shown, hfind, hchoice, hdefault⟩

/-- What is printed for no value is the default, without a call, exactly by such a choice. -/
theorem printedValue_null_iff {shown : Value}
    (hrun : Criteria.printedValue source c values scope .null h = (.ok shown, h')) :
    (h'.calls = h.calls ∧
      ∃ t, (resolve scope (c.defaultDisplay.getD "") h).1 = .ok t ∧ shown = .text t) ↔
      c.DefaultChosen scope h := by
  cases hcontrol : c.control with
  | text =>
    rw [Criteria.printedValue, hcontrol] at hrun
    obtain ⟨rfl, -⟩ := pure_ok hrun
    constructor
    · rintro ⟨-, t, -, ht⟩
      cases ht
    · rintro ⟨hselect, -⟩
      rw [hcontrol] at hselect
      cases hselect
  | select =>
    cases hwiring : c.wiring? with
    | some w =>
      have hgrows := printedValue_fetched hcontrol hwiring hrun
      constructor
      · rintro ⟨hsilent, -⟩
        rw [hsilent] at hgrows
        exact absurd hgrows (Nat.lt_irrefl _)
      · rintro ⟨-, hnone, -⟩
        rw [hwiring] at hnone
        cases hnone
    | none =>
      obtain ⟨hsilent, hchosen⟩ := printedValue_fixed hcontrol hwiring hrun
      cases hfind : (c.fixedChoices.getD []).find? (·.value.isNull) with
      | none =>
        rw [hfind] at hchosen
        constructor
        · rintro ⟨-, t, -, ht⟩
          rw [hchosen] at ht
          cases ht
        · rintro ⟨-, -, choice, -, hsome, -⟩
          rw [hfind] at hsome
          cases hsome
      | some choice =>
        rw [hfind] at hchosen
        obtain ⟨t, ht, rfl⟩ := hchosen
        constructor
        · rintro ⟨-, s, hs, hsame⟩
          cases hsame
          exact ⟨hcontrol, hwiring, choice, t, hfind, ht, hs⟩
        · rintro ⟨-, -, choice', s, hsome, hs, hdefault⟩
          rw [hfind] at hsome
          cases hsome
          rw [ht] at hs
          cases hs
          exact ⟨hsilent, t, hdefault, rfl⟩

/-- Where the wizard lets a criterion stay unset, its default is shown exactly when it is declared
optional, or when it has a choice for no value that looks like its default. -/
theorem showsDefault_iff {l : PrintLine} (hprints : l.Prints source criteria values scope)
    (hunset : l.criterion.MayStayUnset values) :
    l.ShowsDefault scope ↔
      l.criterion.isRequired = some false ∨ l.criterion.DefaultChosen scope l.before := by
  have hnull : values.get l.criterion.property = .null := by
    have hisNull := hunset.2
    cases hvalue : values.get l.criterion.property <;> simp_all [Value.isNull]
  have hrun := hprints.2
  by_cases hoptional : l.criterion.isRequired = some false
  · rw [printOne_optional hoptional hunset.2] at hrun
    have hsilent := keeps_ok ((showDefault_quiet l.criterion scope).keeps calls_steady) hrun
    exact ⟨fun _ => .inl hoptional, fun _ => ⟨by rw [hrun], hsilent⟩⟩
  rw [printOne_other hoptional, hnull] at hrun
  obtain ⟨label, h₁, hlabel, hrest⟩ := bind_ok hrun
  obtain ⟨shown, h₂, hshown, hpure⟩ := bind_ok hrest
  obtain ⟨hprinted, hafter⟩ := pure_ok hpure
  obtain ⟨hhere, halike⟩ := quiet_ok (resolve_quiet scope _) hlabel (.refl l.before)
  have hiff := printedValue_null_iff hshown
  constructor
  · intro hdefault
    obtain ⟨t, ht, hsame⟩ := showDefault_value hdefault.shown
    rw [← (resolve_quiet scope _).sees halike.known] at ht
    refine .inr ((hiff.mp ⟨?_, t, ht, ?_⟩).of_known halike.known)
    · rw [← hafter, hdefault.silent, halike.calls]
    · rw [← hsame, hprinted]
  · rintro (hdeclared | hchosen)
    · exact absurd hdeclared hoptional
    · obtain ⟨hsilent, t, ht, rfl⟩ := hiff.mpr (hchosen.of_known halike.known.symm)
      rw [(resolve_quiet scope _).sees halike.known] at ht
      exact ⟨by rw [showDefault_ok hhere ht, hprinted], by rw [hafter, hsilent, halike.calls]⟩

end Defaults

namespace Criteria

/-- A criterion that is declared optional shows its default without a call, however its default
resolves. In a printing that succeeds, all criteria that the wizard lets stay unset show their
defaults without a call exactly when each of them is declared optional, or has a choice for no value
that looks like its default. -/
theorem print_unset_iff (source : Source) (criteria : Criteria) (values scope : Fields)
    (placements : List Placement) (h : Host) :
    (∀ c : Criterion, c.isRequired = some false → (values.get c.property).isNull = true →
      (printOne source c values scope h).1 = (c.showDefault scope h).1 ∧
        (printOne source c values scope h).2.calls = h.calls) ∧
    ∀ printed h', criteria.print source values scope placements h = (.ok printed, h') →
      ∃ lines, lines.map PrintLine.placement = placements ∧
        lines.map PrintLine.printed = printed ∧ Printing source criteria values scope h lines h' ∧
        ((∀ l ∈ lines, l.criterion.MayStayUnset values → l.ShowsDefault scope) ↔
          ∀ p ∈ placements, ∀ c, criteria.lookup p.name = some c → c.MayStayUnset values →
            c.isRequired = some false ∨ c.DefaultChosen scope h) := by
  refine ⟨fun c hoptional hunset => ?_, fun printed h' hrun => ?_⟩
  · rw [printOne_optional hoptional hunset]
    exact ⟨rfl, (showDefault_quiet c scope).keeps calls_steady h⟩
  obtain ⟨lines, rfl, rfl, hlines⟩ := print_lines hrun
  refine ⟨lines, rfl, rfl, hlines, ?_⟩
  constructor
  · intro hshown p hp c hc hunset
    obtain ⟨l, hl, rfl⟩ := List.mem_map.mp hp
    obtain ⟨hprints, hknown⟩ := printing_lines hlines l hl
    obtain rfl : l.criterion = c := Option.some.inj (hprints.1.symm.trans hc)
    obtain hoptional | hchosen := (showsDefault_iff hprints hunset).mp (hshown l hl hunset)
    · exact .inl hoptional
    · exact .inr (hchosen.of_known hknown)
  · intro hall l hl hunset
    obtain ⟨hprints, hknown⟩ := printing_lines hlines l hl
    refine (showsDefault_iff hprints hunset).mpr ?_
    obtain hoptional | hchosen := hall _ (List.mem_map_of_mem hl) _ hprints.1 hunset
    · exact .inl hoptional
    · exact .inr (hchosen.of_known hknown.symm)

def optionalGroup : Criterion :=
  ⟨.select, "group", "Group", some false, none, some "Any \x7b\x7bcriteria.kind\x7d\x7d group",
    some "groups", none, some "id", some "name", none⟩

def unsetCriteria : Criteria :=
  [("group", optionalGroup),
    ("size", ⟨.select, "size", "Size", none, none, some "All sizes", none, none, none, none,
      some [⟨.int 1, some "One"⟩, ⟨.null, some "All sizes"⟩]⟩)]

def kindValues : Fields := [("kind", .text "open")]

theorem print_unset_iff_kind :
    (printOne .none optionalGroup kindValues (Scope.start kindValues []) Host.bare).2.calls = [] ∧
    ∃ (printed : List PrintedCriterion) (h' : Host) (lines : List PrintLine),
      unsetCriteria.print .none kindValues (Scope.start kindValues []) [⟨"group", 0⟩, ⟨"size", 1⟩]
        Host.bare = (.ok printed, h') ∧
      printed.map (·.value.text?) = [some "Any open group", some "All sizes"] ∧
      lines.map PrintLine.printed = printed ∧
      ∀ l ∈ lines, l.criterion.MayStayUnset kindValues →
        l.ShowsDefault (Scope.start kindValues []) := by
  have hruns : (unsetCriteria.print .none kindValues (Scope.start kindValues [])
      [⟨"group", 0⟩, ⟨"size", 1⟩] Host.bare).1.toOption.map (fun printed =>
        printed.map (·.value.text?)) = some [some "Any open group", some "All sizes"] := by
    decide +kernel
  obtain ⟨printed, hprinted, hvalues⟩ := Option.map_eq_some_iff.mp hruns
  have hrun := ok_of_toOption hprinted
  obtain ⟨hoptional, hall⟩ := print_unset_iff .none unsetCriteria kindValues
    (Scope.start kindValues []) [⟨"group", 0⟩, ⟨"size", 1⟩] Host.bare
  obtain ⟨lines, -, hlines, -, hiff⟩ := hall printed _ hrun
  refine ⟨(hoptional optionalGroup rfl rfl).2, printed, _, lines, hrun, hvalues, hlines,
    hiff.mpr fun p hp c hc _ => ?_⟩
  have hresolves :
    (resolve (Scope.start kindValues []) "All sizes" Host.bare).1 = .ok "All sizes" :=
    congrArg Prod.fst (ok_of_toOption (by decide +kernel))
  simp only [List.mem_cons, List.not_mem_nil, or_false] at hp
  obtain rfl | rfl := hp
  · cases hc
    exact .inl rfl
  · cases hc
    exact .inr ⟨rfl, rfl, ⟨.null, some "All sizes"⟩, "All sizes", rfl, hresolves, hresolves⟩

def statusCriterion : Criterion :=
  ⟨.select, "status", "Status", none, none, some "Any status", some "statuses", none, some "id",
    some "name", none⟩

def statusSource : Source := fun _ _ =>
  .ok (.object [("status", .text "complete"),
    ("data", .list [.object [("id", .text "on"), ("name", .text "On")]])])

/-- The wizard lets the status stay unset, and yet it is printed without its default, after a call.
-/
theorem print_unset_fetched :
    (Wizard.assemble statusSource [("status", statusCriterion)] []
      (Scope.start [] []) [⟨"status", 0⟩]
        [] Host.bare).1.toOption.map (fun assembled =>
          assembled.pages.map fun page => (page.inputs.map (·.isDisabled), page.isValid)) =
      some [([false], true)] ∧
    (print statusSource [("status", statusCriterion)] [] (Scope.start [] []) [⟨"status", 0⟩]
        Host.bare).1.toOption.map (fun printed => printed.map fun q => q.value.isNull) =
      some [true] ∧
    (print statusSource [("status", statusCriterion)] [] (Scope.start [] []) [⟨"status", 0⟩]
        Host.bare).2.calls.map (·.dataSet) = ["statuses"] := by
  decide +kernel

end Criteria

end Dossier
