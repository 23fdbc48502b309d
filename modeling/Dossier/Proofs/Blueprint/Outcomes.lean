import Dossier.Proofs.Blueprint.Overrides

/-!
# How composing a blueprint ends

Where every condition can be told, composing gives a blueprint or a failure of the configuration, as
long as the overrides that hold have parameters that can be merged. Parameters that are null, zero,
false or empty are not merged but put in place as they are, so that they are judged with the
blueprint they end up in. A value that is neither empty nor an object stops the merge before there
is anything to judge.
-/

set_option autoImplicit false

namespace Dossier

open Run

def Value.isMergeable (v : Value) : Bool := !v.isTruthy || v.object?.isSome

theorem Value.isMergeable_cases {v : Value} (hv : v.isMergeable = true) :
    v.isTruthy = false ∨ ∃ fields, v = .object fields := by
  cases v with
  | object fields => exact .inr ⟨fields, rfl⟩
  | _ => exact .inl (by simpa [isMergeable, object?] using hv)

def Override.mergeable (o : Override) : Bool := ((o.value? paramsKey).getD .null).isMergeable

def Reported (result : Except Failure Blueprint) : Prop :=
  (∃ b, result = .ok b) ∨ ∃ e, result = .error e ∧ e.isConfiguration = true

theorem ofEntries_reported (entries : Fields) : Reported (Blueprint.ofEntries entries) := by
  unfold Blueprint.ofEntries
  split
  · next b hread => exact .inl ⟨b, rfl⟩
  · next issues hread => exact .inr ⟨_, rfl, rfl⟩

theorem not_reported_fault (cause : Fault) : ¬ Reported (.error (.fault cause)) := by
  rintro (⟨b, hb⟩ | ⟨e, he, hconfiguration⟩)
  · cases hb
  · cases he
    cases hconfiguration

/-! ## One override -/

/-- A patch whose parameters can be merged is laid over the entries, and so is what comes next: the
parameters under it are an object or do not count as present. -/
theorem overlay_mergeable {entries : Fields} {o : Override}
    (hbase : (entries.get paramsKey).isMergeable = true) (ho : o.mergeable = true) :
    ∃ merged, Blueprint.overlay entries o.patch = .ok merged ∧
      (merged.get paramsKey).isMergeable = true := by
  have hput (fields params : Fields) :
      ((fields.put paramsKey (.object params)).get paramsKey).isMergeable = true := by
    rw [Fields.get_eq, Fields.get?_put_self]
    exact Bool.or_true _
  unfold Blueprint.overlay
  simp only [get_ownKeys]
  split
  · next htruthy =>
    obtain hfalsy | ⟨params, hparams⟩ := Value.isMergeable_cases ho
    · rw [hfalsy] at htruthy
      cases htruthy
    rw [hparams]
    dsimp only
    split
    · exact ⟨_, rfl, hput _ _⟩
    · next v hv =>
      obtain hfalsy | ⟨base, hobject⟩ := Value.isMergeable_cases hbase
      · rw [hfalsy]
        exact ⟨_, rfl, hput _ _⟩
      · exact absurd hobject (hv base)
  · refine ⟨_, rfl, ?_⟩
    -- what is there now is the falsy value of the patch, or what was there before
    rw [Fields.get_eq, Fields.get?_merge, last?_ownKeys]
    cases hvalue : o.value? paramsKey with
    | none => exact hbase
    | some v => simpa [Override.mergeable, hvalue] using ho

theorem overlay_unmergeable (entries : Fields) {o : Override} (ho : o.mergeable = false) :
    Blueprint.overlay entries o.patch = .error (.fault .notMergeable) := by
  unfold Blueprint.overlay
  simp only [get_ownKeys]
  obtain ⟨htruthy, hobject⟩ : ((o.value? paramsKey).getD .null).isTruthy = true ∧
      ((o.value? paramsKey).getD .null).object? = none := by
    simpa [Override.mergeable, Value.isMergeable] using ho
  rw [if_pos htruthy]
  split
  · next params hparams =>
    rw [hparams] at hobject
    cases hobject
  · rfl

/-! ## All overrides that hold -/

def Condition.Told (c : Condition) (scope : Fields) (h : Host) : Prop :=
  ∃ holds, (c.holds scope h).1 = .ok holds

instance (c : Condition) (scope : Fields) (h : Host) : Decidable (c.Told scope h) :=
  decidable_of_iff ((c.holds scope h).1.toOption.isSome = true) <| by
    unfold Condition.Told
    cases (c.holds scope h).1 <;> simp [Except.toOption]

structure Overlaid (overrides : List Override) (result : Except Failure Fields) : Prop where
  merged : (∀ o ∈ overrides, o.mergeable = true) → ∃ final, result = .ok final
  stopped : (∃ o ∈ overrides, o.mergeable = false) → result = .error (.fault .notMergeable)

theorem applyOverrides_overlaid {scope entries : Fields} {overrides : List Override}
    {start h : Host} (hknown : h.known = start.known)
    (htold : ∀ o ∈ overrides, o.condition.Told scope start)
    (hbase : (entries.get paramsKey).isMergeable = true) :
    Overlaid (overrides.filter fun o => o.applies scope start)
      (Definition.applyOverrides scope overrides entries h).1 := by
  induction overrides generalizing entries h with
  | nil => exact ⟨fun _ => ⟨entries, rfl⟩, by simp⟩
  | cons o rest ih =>
    have htold' : ∀ o ∈ rest, o.condition.Told scope start :=
      fun o ho => htold o (List.mem_cons_of_mem _ ho)
    obtain ⟨holds, hholds⟩ := htold o List.mem_cons_self
    have hheld : (o.condition.holds scope h).1 = .ok holds :=
      ((holds_quiet o.condition scope).sees hknown).trans hholds
    have hlater : (o.condition.holds scope h).2.known = start.known :=
      ((holds_quiet o.condition scope).keeps known_aloof.toSteady h).trans hknown
    have happlies : o.applies scope start = holds := by simp [Override.applies, hholds]
    rw [Definition.applyOverrides, bind_of_ok hheld, List.filter_cons, happlies]
    cases holds with
    | false => exact ih hlater htold' hbase
    | true =>
      simp only [if_true]
      cases ho : o.mergeable with
      | true =>
        obtain ⟨merged, hmerged, hnext⟩ := overlay_mergeable hbase ho
        rw [hmerged]
        have hrest := ih hlater htold' hnext
        refine ⟨fun hall => hrest.merged (List.forall_mem_cons.mp hall).2, fun hstops => ?_⟩
        obtain hstops | hstops := (List.exists_mem_cons_iff ..).mp hstops
        · rw [ho] at hstops
          cases hstops
        · exact hrest.stopped hstops
      | false =>
        rw [overlay_unmergeable entries ho]
        refine ⟨fun hall => ?_, fun _ => rfl⟩
        have hmergeable := hall o List.mem_cons_self
        rw [ho] at hmergeable
        cases hmergeable

/-! ## Definitions that were read -/

theorem Definition.read_blueprint {raw : Value} {d : Definition} (hread : read raw = .ok d) :
    ∃ e, Blueprint.read (.object e) = .ok d.blueprint := by
  unfold Definition.read Schema.record at hread
  split at hread
  · next fields =>
    simp only [Schema.seq_ok_iff, Schema.map_ok_iff] at hread
    obtain ⟨_, overrides, ⟨_, blueprint, ⟨_, criteria, ⟨description, -, rfl⟩, -, rfl⟩, hblueprint,
      rfl⟩, -, rfl⟩ := hread
    unfold Schema.required at hblueprint
    split at hblueprint
    · next v hfound =>
      rw [Schema.under_ok_iff] at hblueprint
      cases v with
      | object e => exact ⟨e, hblueprint⟩
      | _ => cases hblueprint
    · cases hblueprint
  · cases hread

/-- The parameters of a blueprint that was read are an object, or null. -/
theorem read_params_mergeable {e : Fields} {b : Blueprint}
    (hread : Blueprint.read (.object e) = .ok b) :
    (b.entries.get paramsKey).isMergeable = true := by
  rw [Fields.get_eq, Blueprint.get?_declared (Blueprint.read_undeclared hread) (by decide)]
  change (Blueprint.orNull (b.dataSetParams.map .object)).isMergeable = true
  cases b.dataSetParams with
  | none => rfl
  | some params => exact Bool.or_true _

section Composing

variable {d : Definition} {scope : Fields} {h : Host}

theorem compose_merged (htold : ∀ o ∈ d.overrides, o.condition.Told scope h)
    (hbase : (d.blueprint.entries.get paramsKey).isMergeable = true)
    (hall : ∀ o ∈ d.matching scope h, o.mergeable = true) :
    ∃ final, Laid (d.matching scope h) d.blueprint.entries final ∧
      (d.compose scope h).1 = Blueprint.ofEntries final := by
  obtain ⟨final, hfinal⟩ := (applyOverrides_overlaid (h := h) rfl htold hbase).merged hall
  refine ⟨final, applyOverrides_ok (Prod.ext hfinal rfl), ?_⟩
  rw [Definition.compose, bind_of_ok hfinal, lift_apply]

theorem compose_stopped (htold : ∀ o ∈ d.overrides, o.condition.Told scope h)
    (hbase : (d.blueprint.entries.get paramsKey).isMergeable = true)
    (hstops : ∃ o ∈ d.matching scope h, o.mergeable = false) :
    (d.compose scope h).1 = .error (.fault .notMergeable) := by
  rw [Definition.compose,
    bind_of_error ((applyOverrides_overlaid (h := h) rfl htold hbase).stopped hstops)]

/-- Composing a definition that was read, under conditions that can all be told, ends in one of two
ways. When all overrides that hold have parameters that can be merged, the outcome is that of
reading the entries with the overrides laid over them: a blueprint or a failure of the
configuration. When one of them has not, it is a fault. -/
theorem compose_reported_iff {raw : Value} (hread : Definition.read raw = .ok d)
    (htold : ∀ o ∈ d.overrides, o.condition.Told scope h) :
    (Reported (d.compose scope h).1 ↔ ∀ o ∈ d.matching scope h, o.mergeable = true) ∧
    ((∀ o ∈ d.matching scope h, o.mergeable = true) →
      ∃ final, Laid (d.matching scope h) d.blueprint.entries final ∧
        (d.compose scope h).1 = Blueprint.ofEntries final) ∧
    ((∃ o ∈ d.matching scope h, o.mergeable = false) →
      (d.compose scope h).1 = .error (.fault .notMergeable)) := by
  obtain ⟨e, hblueprint⟩ := Definition.read_blueprint hread
  have hbase := read_params_mergeable hblueprint
  refine ⟨⟨fun hreported => ?_, fun hall => ?_⟩, compose_merged htold hbase,
    compose_stopped htold hbase⟩
  · by_contra hnot
    obtain ⟨o, ho, hunmergeable⟩ := by simpa using hnot
    rw [compose_stopped htold hbase ⟨o, ho, hunmergeable⟩] at hreported
    exact not_reported_fault _ hreported
  · obtain ⟨final, -, hcompose⟩ := compose_merged htold hbase hall
    rw [hcompose]
    exact ofEntries_reported final

end Composing

def writtenUsers (params : Value) : Value :=
  .object [("proofSpec", .object [("dataSet", .text "users"), ("title", .text "Users")]),
    ("overrides", .list [.object [
      ("condition", .object [("value", .text "\x7b\x7bcriteria.kind\x7d\x7d"),
        ("criteria", .text "audit")]),
      ("proofSpec", .object [("dataSetParams", params)])]])]

def patchedUsers (params : Value) : Definition :=
  ⟨"", [], ⟨.monthly, false, "", .tabular, none, "Users", "", "users", none,
    none, [], [], none, false,
    []⟩, [whenKind "audit" [("dataSetParams", params)]]⟩

theorem read_writtenUsers (params : Value) :
    Definition.read (writtenUsers params) = .ok (patchedUsers params) := by
  rfl

theorem patchedUsers_told (params : Value) :
    ∀ o ∈ (patchedUsers params).overrides, o.condition.Told auditScope Host.bare := by
  intro o ho
  obtain rfl := List.mem_singleton.mp ho
  change Condition.Told ⟨"\x7b\x7bcriteria.kind\x7d\x7d", "audit"⟩ auditScope Host.bare
  decide +kernel

/-- A patch with one group is merged, and the outcome is reported. -/
theorem compose_reported_group :
    ∃ d, Definition.read (writtenUsers (.object [("group", .text "g1")])) = .ok d ∧
      (∀ o ∈ d.overrides, o.condition.Told auditScope Host.bare) ∧
      d.matching auditScope Host.bare ≠ [] ∧ Reported (d.compose auditScope Host.bare).1 := by
  have htold := patchedUsers_told (.object [("group", .text "g1")])
  have hmatching : ((patchedUsers (.object [("group", .text "g1")])).matching auditScope
      Host.bare).isEmpty = false := by
    decide +kernel
  refine ⟨_, read_writtenUsers _, htold, fun hnil => ?_, ?_⟩
  · rw [hnil] at hmatching
    cases hmatching
  · exact (compose_reported_iff (read_writtenUsers _) htold).1.mpr (by decide +kernel)

/-- A patch whose parameters are a list of groups holds, but composing ends in a fault that nothing
reports. -/
theorem compose_listed_groups :
    ∃ d, Definition.read (writtenUsers (.list [.text "g1"])) = .ok d ∧
      (∀ o ∈ d.overrides, o.condition.Told auditScope Host.bare) ∧
      (d.compose auditScope Host.bare).1 = .error (.fault .notMergeable) ∧
      ¬ Reported (d.compose auditScope Host.bare).1 := by
  have htold := patchedUsers_told (.list [.text "g1"])
  have hstopped : ((patchedUsers (.list [.text "g1"])).compose auditScope Host.bare).1 =
      .error (.fault .notMergeable) :=
    compose_stopped htold rfl (by decide +kernel)
  refine ⟨_, read_writtenUsers _, htold, hstopped, ?_⟩
  rw [hstopped]
  exact not_reported_fault _

end Dossier
