import Dossier.Proofs.Host.Limits
import Dossier.Proofs.Template.Stopping

/-!
# Placeholders of a condition that name nothing

A placeholder that is unknown, and not for a criterion that is not set, is a failure when a
condition comes to it. The sides of a condition are read from left to right, the side of the
criteria first, up to the first placeholder that gives way to no text. What stands behind that one
is not read.
-/

set_option autoImplicit false

namespace Dossier

open Template Run

namespace Condition

structure Misnamed (env : Environment) (scope : Fields) (body : List Char) : Prop where
  unknown : isBlankBody body = true ∨ meaning env scope (Text.trim body) = .unknown
  otherwise : isUnsetCriterion scope body = false

instance (env : Environment) (scope : Fields) (body : List Char) :
    Decidable (Misnamed env scope body) :=
  decidable_of_iff ((isBlankBody body = true ∨ meaning env scope (Text.trim body) = .unknown) ∧
    isUnsetCriterion scope body = false) ⟨fun ⟨hu, ho⟩ => ⟨hu, ho⟩, fun ⟨hu, ho⟩ => ⟨hu, ho⟩⟩

/-- How a side is resolved. With `orMissing` nothing is not written. -/
def rules (env : Environment) (scope : Fields) (orMissing : Bool) : Rules :=
  ⟨meaning env scope, false, if orMissing then none else some []⟩

def firstStop (env : Environment) (scope : Fields) (orMissing : Bool) (side : String) :
    Option (List Char) :=
  (placeholders side.toList).find? (rules env scope orMissing).stops

section Sides

variable {c : Condition} {scope : Fields} {h : Host} {settings : Settings}

theorem misnamed_stops {env : Environment} {body : List Char} (hmisnamed : Misnamed env scope body)
    (orMissing : Bool) : (rules env scope orMissing).stops body = true := by
  rcases hmisnamed.unknown with hblank | hunknown
  · simp [Rules.stops, hblank]
  · simp [Rules.stops, Rules.replacement?, rules, hunknown]

theorem ending_unknown {r : Rules} {body : List Char}
    (hunknown : isBlankBody body = true ∨ r.meaning (Text.trim body) = .unknown) :
    r.ending body = some (.invalid body) := by
  rw [Rules.ending]
  rcases hunknown with hblank | hunknown
  · rw [if_pos hblank]
  · rw [hunknown]
    exact ite_self _

theorem ending_cases {r : Rules} {body : List Char} {halt : Halt}
    (hending : r.ending body = some halt) :
    halt = .tooLarge ∨ halt = .invalid body ∧
      (isBlankBody body = true ∨ r.meaning (Text.trim body) = .unknown) := by
  rw [Rules.ending] at hending
  split at hending
  · next hblank =>
    cases hending
    exact .inr ⟨rfl, .inl hblank⟩
  · split at hending
    · next hunknown =>
      cases hending
      exact .inr ⟨rfl, .inr hunknown⟩
    · cases hending
      exact .inl rfl
    all_goals cases hending

/-- A side with a misnamed placeholder has a first placeholder that gives way to no text. -/
theorem exists_firstStop {env : Environment} {side : String} {body : List Char}
    (hbody : body ∈ placeholders side.toList) (hmisnamed : Misnamed env scope body)
    (orMissing : Bool) : ∃ first, firstStop env scope orMissing side = some first := by
  refine Option.isSome_iff_exists.mp (List.find?_isSome.mpr ⟨body, hbody, ?_⟩)
  exact misnamed_stops hmisnamed orMissing

/-- The outcome of a side after its passes. -/
theorem operand_known (hread : h.known.1 = .ok settings) (orMissing : Bool) (side : String) :
    (operand scope orMissing side h).1 =
      match passes (rules h.known.2 scope orMissing) settings.maxPasses.toNat side.toList with
      | .ok result => .ok (result.map String.ofList)
      | .error (.invalid body) =>
        if isUnsetCriterion scope body then .ok none
        else .error ((Halt.invalid body).toFailure settings.maxPasses)
      | .error halt => .error (halt.toFailure settings.maxPasses) := by
  have hsetting : (templateSetting none none h).1 = .ok ⟨h.known.2, settings.maxPasses⟩ := by
    rw [templateSetting_known, hread]
    rfl
  rw [operand, bind_of_ok hsetting]
  simp only [rules]
  cases passes _ settings.maxPasses.toNat side.toList with
  | ok result => rfl
  | error halt =>
    cases halt with
    | invalid body =>
      simp only
      split <;> rfl
    | _ => rfl

/-- At the first placeholder that gives way to no text a side fails if it is misnamed. Otherwise the
side is missing, or the placeholder is for a number that cannot be written. -/
theorem operand_stops (hc : h.Checked) (hread : h.known.1 = .ok settings) {orMissing : Bool}
    {side : String} {body : List Char}
    (hstop : firstStop h.known.2 scope orMissing side = some body) :
    (Misnamed h.known.2 scope body → (operand scope orMissing side h).1 =
      .error (.invalidToken (String.ofList (wrap body)))) ∧
    (¬ Misnamed h.known.2 scope body → (operand scope orMissing side h).1 = .ok none ∨
      (operand scope orMissing side h).1 = .error (.fault .numberTooLarge)) := by
  have hlimit := hc.passes hread
  obtain ⟨left, hleft⟩ : ∃ left, settings.maxPasses.toNat = left + 1 :=
    ⟨settings.maxPasses.toNat - 1, by omega⟩
  rw [operand_known hread, hleft, passes_stops rfl hstop]
  constructor
  · intro hmisnamed
    rw [ending_unknown hmisnamed.unknown]
    simp only [hmisnamed.otherwise]
    rfl
  · intro hnot
    cases hending : (rules h.known.2 scope orMissing).ending body with
    | none => exact .inl rfl
    | some halt =>
      rcases ending_cases hending with rfl | ⟨rfl, hunknown⟩
      · exact .inr rfl
      · have hunset : isUnsetCriterion scope body = true := by
          by_contra hset
          exact hnot ⟨hunknown, by simpa using hset⟩
        exact .inl (by simp only [hunset, if_true])

/-- The side of the criteria is resolved first, then the other one. -/
theorem holds_known (c : Condition) (scope : Fields) (h : Host) :
    (c.holds scope h).1 =
      match (operand scope false c.criteria h).1 with
      | .error e => .error e
      | .ok none => .ok false
      | .ok (some chosen) =>
        match (operand scope (chosen == idUndefined) c.value h).1 with
        | .error e => .error e
        | .ok none => .ok (chosen == idUndefined)
        | .ok (some value) => .ok (value == chosen) := by
  rw [holds, bind_apply]
  have hknown := (operand_quiet scope false c.criteria).keeps known_aloof.toSteady h
  rcases hfirst : operand scope false c.criteria h with ⟨e | _ | chosen, h₁⟩
  · rfl
  · rfl
  · rw [hfirst] at hknown
    dsimp only
    by_cases hundefined : chosen = idUndefined
    · rw [if_pos hundefined, beq_iff_eq.mpr hundefined, bind_apply,
        ← (operand_quiet scope true c.value).sees hknown]
      rcases operand scope true c.value h₁ with ⟨e | _ | value, h₂⟩ <;> rfl
    · rw [if_neg hundefined, beq_false_of_ne hundefined, bind_apply,
        ← (operand_quiet scope false c.value).sees hknown]
      rcases operand scope false c.value h₁ with ⟨e | _ | value, h₂⟩ <;> rfl

/-- A side that fails does so at a placeholder or at a number that cannot be written. -/
theorem operand_failed (hread : h.known.1 = .ok settings) {orMissing : Bool} {side : String}
    {e : Failure} (hfailed : (operand scope orMissing side h).1 = .error e) :
    e.OfToken ∨ e = .fault .numberTooLarge := by
  rw [operand_known hread] at hfailed
  cases hpasses : passes (rules h.known.2 scope orMissing) settings.maxPasses.toNat side.toList with
  | ok result =>
    rw [hpasses] at hfailed
    cases hfailed
  | error halt =>
    rw [hpasses] at hfailed
    cases halt with
    | invalid body =>
      simp only at hfailed
      split at hfailed
      · cases hfailed
      · cases hfailed
        exact .inl (by simp [Failure.ofToken_iff, Halt.toFailure])
    | tooManyPasses body =>
      cases hfailed
      exact .inl (by simp [Failure.ofToken_iff, Halt.toFailure])
    | tooLarge =>
      cases hfailed
      exact .inr rfl

theorem holds_failed (hread : h.known.1 = .ok settings) {e : Failure}
    (hfailed : (c.holds scope h).1 = .error e) : e.OfToken ∨ e = .fault .numberTooLarge := by
  rw [holds_known] at hfailed
  split at hfailed
  · next hcriteria =>
    cases hfailed
    exact operand_failed hread hcriteria
  · cases hfailed
  · split at hfailed
    · next hvalue =>
      cases hfailed
      exact operand_failed hread hvalue
    · cases hfailed
    · cases hfailed

/-- The failure of a condition that has a misnamed placeholder, in the order of reading. -/
theorem holds_ofToken_iff (hc : h.Checked) (hread : h.known.1 = .ok settings)
    (hmisnamed : (∃ body ∈ placeholders c.criteria.toList, Misnamed h.known.2 scope body) ∨
      ∃ body ∈ placeholders c.value.toList, Misnamed h.known.2 scope body) :
    (∃ e, (c.holds scope h).1 = .error e ∧ e.OfToken) ↔
      match firstStop h.known.2 scope false c.criteria with
      | some first => Misnamed h.known.2 scope first
      | none => (∃ e, (operand scope false c.criteria h).1 = .error e ∧ e.OfToken) ∨
        ∃ chosen first, (operand scope false c.criteria h).1 = .ok (some chosen) ∧
          firstStop h.known.2 scope (chosen == idUndefined) c.value = some first ∧
          Misnamed h.known.2 scope first := by
  rw [holds_known]
  cases hstop : firstStop h.known.2 scope false c.criteria with
  | some first =>
    obtain ⟨hfails, hpasses⟩ := operand_stops hc hread hstop
    by_cases hfirst : Misnamed h.known.2 scope first
    · rw [hfails hfirst]
      simp [hfirst, Failure.ofToken_iff]
    · rcases hpasses hfirst with hmissing | hlarge
      · rw [hmissing]
        simp [hfirst]
      · rw [hlarge]
        simp [hfirst, Failure.ofToken_iff]
  | none =>
    have hvalue : ∃ body ∈ placeholders c.value.toList, Misnamed h.known.2 scope body := by
      refine hmisnamed.resolve_left ?_
      rintro ⟨body, hbody, hm⟩
      obtain ⟨first, hfirst⟩ := exists_firstStop hbody hm false
      cases hstop.symm.trans hfirst
    cases hcriteria : (operand scope false c.criteria h).1 with
    | error e => simp
    | ok chosen? =>
      cases chosen? with
      | none => simp
      | some chosen =>
        obtain ⟨body, hbody, hm⟩ := hvalue
        obtain ⟨first, hfirst⟩ := exists_firstStop hbody hm (chosen == idUndefined)
        obtain ⟨hfails, hpasses⟩ := operand_stops hc hread hfirst
        by_cases hnamed : Misnamed h.known.2 scope first
        · simp only [hfails hnamed]
          simp [hfirst, hnamed, Failure.ofToken_iff]
        · rcases hpasses hnamed with hmissing | hlarge
          · simp only [hmissing]
            simp [hfirst, hnamed]
          · simp only [hlarge]
            simp [hfirst, hnamed, Failure.ofToken_iff]

end Sides

end Condition

namespace Definition

theorem applyOverrides_append (scope : Fields) (before rest : List Override) (entries : Fields) :
    applyOverrides scope (before ++ rest) entries =
      applyOverrides scope before entries >>= applyOverrides scope rest := by
  induction before generalizing entries with
  | nil => rw [List.nil_append, applyOverrides, pure_bind]
  | cons o before ih =>
    rw [List.cons_append, applyOverrides, applyOverrides, bind_assoc]
    refine congrArg _ (funext fun holds => ?_)
    cases holds with
    | true =>
      simp only [if_true, bind_assoc]
      exact congrArg _ (funext fun laid => ih laid)
    | false => exact ih entries

/-- A composition fails as the condition of an override does, when it comes to that override. -/
theorem compose_failed {d : Definition} {scope entries : Fields} {before after : List Override}
    {o : Override} {h h₁ : Host} {e : Failure} (hsplit : d.overrides = before ++ o :: after)
    (hreached : applyOverrides scope before d.blueprint.entries h = (.ok entries, h₁))
    (hfailed : (o.condition.holds scope h).1 = .error e) : (d.compose scope h).1 = .error e := by
  have hknown := keeps_ok
    ((applyOverrides_quiet scope before d.blueprint.entries).keeps known_aloof.toSteady) hreached
  rw [← (holds_quiet o.condition scope).sees hknown] at hfailed
  have hoverride : (applyOverrides scope (o :: after) entries h₁).1 = .error e := by
    rw [applyOverrides, bind_of_error hfailed]
  have hall : (applyOverrides scope d.overrides d.blueprint.entries h).1 = .error e := by
    rw [hsplit, applyOverrides_append, bind_apply, hreached]
    exact hoverride
  rw [compose, bind_of_error hall]

end Definition

namespace Condition

/-- A condition with a misnamed placeholder fails at it exactly when no other placeholder is read
first that gives way to no text; otherwise it tells, or fails at a number that cannot be written. A
composition that comes to the condition fails alike. -/
theorem holds_misnamed_iff {scope : Fields} {h : Host} {settings : Settings} (c : Condition)
    (hc : h.Checked) (hread : h.known.1 = .ok settings)
    (hmisnamed : (∃ body ∈ placeholders c.criteria.toList, Misnamed h.known.2 scope body) ∨
      ∃ body ∈ placeholders c.value.toList, Misnamed h.known.2 scope body) :
    ((∃ e, (c.holds scope h).1 = .error e ∧ e.OfToken) ↔
      match firstStop h.known.2 scope false c.criteria with
      | some first => Misnamed h.known.2 scope first
      | none => (∃ e, (operand scope false c.criteria h).1 = .error e ∧ e.OfToken) ∨
        ∃ chosen first, (operand scope false c.criteria h).1 = .ok (some chosen) ∧
          firstStop h.known.2 scope (chosen == idUndefined) c.value = some first ∧
          Misnamed h.known.2 scope first) ∧
    ((∃ e, (c.holds scope h).1 = .error e ∧ e.OfToken) ∨ (∃ told, (c.holds scope h).1 = .ok told) ∨
      (c.holds scope h).1 = .error (.fault .numberTooLarge)) ∧
    ∀ (d : Definition) before o after entries h₁ e, d.overrides = before ++ o :: after →
      o.condition = c →
      Definition.applyOverrides scope before d.blueprint.entries h = (.ok entries, h₁) →
      (c.holds scope h).1 = .error e → (d.compose scope h).1 = .error e := by
  refine ⟨holds_ofToken_iff hc hread hmisnamed, ?_, ?_⟩
  · cases hholds : (c.holds scope h).1 with
    | ok told => exact .inr (.inl ⟨told, rfl⟩)
    | error e =>
      rcases holds_failed hread hholds with htoken | rfl
      · exact .inl ⟨e, rfl, htoken⟩
      · exact .inr (.inr rfl)
  · rintro d before o after entries h₁ e hsplit rfl hreached hfailed
    exact Definition.compose_failed hsplit hreached hfailed

def wrongKind : String := "\x7b\x7bcritera.kind\x7d\x7d"

def unsetKind : String := "\x7b\x7bcriteria.kind\x7d\x7d"

/-- Beside a text without placeholders the wrong kind is found. -/
theorem holds_misnamed_iff_kind :
    Host.Checked (.start [] [] [] .empty .utc) ∧
      (∃ settings, (Host.start [] [] [] .empty .utc).known.1 = .ok settings) ∧
      (∃ body ∈ placeholders wrongKind.toList,
        Misnamed (Host.start [] [] [] .empty .utc).known.2 (Scope.start [] []) body) ∧
      ∃ e, (holds ⟨wrongKind, "x"⟩ (Scope.start [] []) (.start [] [] [] .empty .utc)).1 = .error e ∧
        e.OfToken := by
  have hc : Host.Checked (.start [] [] [] .empty .utc) := fun s hs => by cases hs
  have hreads : (Host.start [] [] [] .empty .utc).known.1.toOption.isSome = true := by
    decide +kernel
  have hread : ∃ settings, (Host.start [] [] [] .empty .utc).known.1 = .ok settings := by
    cases hknown : (Host.start [] [] [] .empty .utc).known.1 with
    | ok settings => exact ⟨settings, rfl⟩
    | error e =>
      rw [hknown] at hreads
      cases hreads
  have hmisnamed : ∃ body ∈ placeholders wrongKind.toList,
      Misnamed (Host.start [] [] [] .empty .utc).known.2 (Scope.start [] []) body := by
    decide +kernel
  refine ⟨hc, hread, hmisnamed, ?_⟩
  obtain ⟨settings, hsettings⟩ := hread
  refine (holds_misnamed_iff ⟨wrongKind, "x"⟩ hc hsettings (.inr hmisnamed)).1.mpr ?_
  have hcriteria :
      firstStop (Host.start [] [] [] .empty .utc).known.2 (Scope.start [] []) false "x" =
      none := by
    decide +kernel
  have hvalue : firstStop (Host.start [] [] [] .empty .utc).known.2 (Scope.start [] [])
      ("x" == idUndefined) wrongKind = some "critera.kind".toList := by
    decide +kernel
  have hchosen : (operand (Scope.start [] []) false "x" (.start [] [] [] .empty .utc)).1.toOption =
      some (some "x") := by
    decide +kernel
  rw [hcriteria]
  exact .inr ⟨"x", _, congrArg Prod.fst (ok_of_toOption hchosen), hvalue, by decide +kernel⟩

/-- Behind a criterion that is not set the wrong kind is not found, on the same side or on the
other; nor is it behind nothing when the optional value that was not chosen is asked for. -/
theorem holds_wrong_kind :
    (∀ body ∈ placeholders wrongKind.toList,
      Misnamed [] (Scope.start [("status", .null)] []) body) ∧
    (holds ⟨wrongKind, unsetKind⟩ (Scope.start [("status", .null)] [])
      Host.bare).1.toOption = some false ∧
    (holds ⟨"x", unsetKind ++ wrongKind⟩ (Scope.start [("status", .null)] [])
      Host.bare).1.toOption = some false ∧
    (holds ⟨"\x7b\x7bcriteria.status\x7d\x7d" ++ wrongKind, idUndefined⟩
      (Scope.start [("status", .null)] []) Host.bare).1.toOption = some true := by
  decide +kernel

end Condition

end Dossier
