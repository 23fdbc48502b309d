import Dossier.Proofs.Host.Quiet
import Dossier.Proofs.Blueprint.Reading
import Mathlib.Data.List.DropRight

/-!
# Overrides laid over a blueprint

The overrides whose conditions hold are laid over a blueprint in order. The last one that has a key
decides what stands under it. The parameters of the data set are the exception: they are decided one
by one, but an override with an empty object of parameters drops all that came before it.
-/

set_option autoImplicit false

namespace Dossier

open Run

/-- The value that a patch has under a key; of two spellings of the key the last one counts. -/
def Override.value? (o : Override) (key : String) : Option Value :=
  (o.patch.reverse.find? fun entry => Blueprint.ownKey entry.1 = key).map Prod.snd

def Override.applies (scope : Fields) (h : Host) (o : Override) : Bool :=
  match (o.condition.holds scope h).1 with
  | .ok holds => holds
  | .error _ => false

def Definition.matching (d : Definition) (scope : Fields) (h : Host) : List Override :=
  d.overrides.filter fun o => o.applies scope h

def lastValue? (overrides : List Override) (key : String) : Option Value :=
  overrides.reverse.findSome? fun o => o.value? key

inductive Laid : List Override → Fields → Fields → Prop
  | nil (entries : Fields) : Laid [] entries entries
  | cons {o : Override} {rest : List Override} {entries merged final : Fields}
      (first : Blueprint.overlay entries o.patch = .ok merged) (later : Laid rest merged final) :
      Laid (o :: rest) entries final

/-! ## One override -/

theorem lookup_map_keys (rename : String → String) (fields : Fields) (key : String) :
    (fields.map fun (k, v) => (rename k, v)).lookup key =
      (fields.find? fun entry => rename entry.1 = key).map Prod.snd := by
  induction fields with
  | nil => rfl
  | cons entry rest ih =>
    obtain ⟨k, v⟩ := entry
    by_cases h : rename k = key
    · simp [h]
    · have h' : (key == rename k) = false := by simpa using Ne.symm h
      simpa [h, List.lookup_cons, h'] using ih

theorem get?_ownKeys (o : Override) (key : String) :
    Fields.get? (Blueprint.ownKeys o.patch) key = o.value? key := by
  unfold Blueprint.ownKeys Fields.ofEntries Override.value?
  rw [Fields.get?_merge, Fields.last?, ← List.map_reverse, lookup_map_keys]
  simp [Fields.get?]

theorem get_ownKeys (o : Override) (key : String) :
    (Blueprint.ownKeys o.patch).get key = (o.value? key).getD .null := by
  rw [Fields.get_eq, get?_ownKeys]

theorem last?_ownKeys (o : Override) (key : String) :
    Fields.last? (Blueprint.ownKeys o.patch) key = o.value? key := by
  have hn : (Blueprint.ownKeys o.patch).keys.Nodup := Fields.merge_nodup (by simp [Fields.keys]) _
  rw [Fields.last?_eq_get? hn, get?_ownKeys]

def Fields.params (entries : Fields) : Fields := ((entries.get paramsKey).object?).getD []

/-- A patch is merged into the entries. Where it has parameters, these are merged into the
parameters in their turn. -/
theorem overlay_ok {entries merged : Fields} {o : Override}
    (hok : Blueprint.overlay entries o.patch = .ok merged) :
    (((o.value? paramsKey).getD .null).isTruthy = false ∧
        merged = entries.merge (Blueprint.ownKeys o.patch)) ∨
      ∃ params, o.value? paramsKey = some (.object params) ∧ params ≠ [] ∧
        merged = (entries.merge (Blueprint.ownKeys o.patch)).put paramsKey
          (.object (entries.params.merge params)) := by
  unfold Blueprint.overlay at hok
  simp only [get_ownKeys] at hok
  split at hok
  · next htruthy =>
    right
    split at hok
    · next params hparams =>
      have hvalue : o.value? paramsKey = some (.object params) := by
        cases hv : o.value? paramsKey with
        | none => simp [hv] at hparams
        | some v => simpa [hv] using hparams
      refine ⟨params, hvalue, fun hnil => by simp [hvalue, hnil, Value.isTruthy] at htruthy, ?_⟩
      split at hok
      · next base hbase =>
        cases hok
        simp [Fields.params, hbase, Value.object?]
      · next v hv =>
        split at hok
        · cases hok
        · cases hok
          have hnone : (entries.get paramsKey).object? = none := by
            cases hbase : entries.get paramsKey with
            | object base => exact absurd hbase (hv base)
            | _ => rfl
          simp [Fields.params, hnone]
    · cases hok
  · next hfalsy =>
    cases hok
    exact .inl ⟨by simpa using hfalsy, rfl⟩

section One

variable {entries merged : Fields} {o : Override} {key : String}

theorem get?_overlay (hok : Blueprint.overlay entries o.patch = .ok merged)
    (hkey : key ≠ paramsKey) :
    merged.get? key = (o.value? key).or (entries.get? key) := by
  obtain ⟨-, rfl⟩ | ⟨params, -, -, rfl⟩ := overlay_ok hok
  · rw [Fields.get?_merge, last?_ownKeys]
  · rw [Fields.get?_put_of_ne _ _ hkey, Fields.get?_merge, last?_ownKeys]

theorem overlay_nodup (hok : Blueprint.overlay entries o.patch = .ok merged)
    (hn : entries.keys.Nodup) : merged.keys.Nodup := by
  obtain ⟨-, rfl⟩ | ⟨params, -, -, rfl⟩ := overlay_ok hok
  · exact Fields.merge_nodup hn _
  · exact Fields.put_nodup (Fields.merge_nodup hn _) _ _

theorem overlay_keys (hok : Blueprint.overlay entries o.patch = .ok merged)
    (hkey : key ∈ entries.keys) : key ∈ merged.keys := by
  rw [Fields.mem_keys_iff] at hkey
  have hmerged : ((entries.merge (Blueprint.ownKeys o.patch)).get? key).isSome = true := by
    rw [Fields.get?_merge]
    simp [hkey]
  rw [Fields.mem_keys_iff]
  obtain ⟨-, rfl⟩ | ⟨params, -, -, rfl⟩ := overlay_ok hok
  · exact hmerged
  · rw [Fields.get?_put]
    split
    · rfl
    · exact hmerged

end One

/-! ## All overrides that hold -/

theorem applies_congr {h₁ h₂ : Host} (hknown : h₁.known = h₂.known)
    (scope : Fields) (o : Override) :
    o.applies scope h₁ = o.applies scope h₂ := by
  unfold Override.applies
  rw [(holds_quiet o.condition scope).sees hknown]

/-- What is laid over the entries are the overrides whose conditions hold at the start. -/
theorem applyOverrides_ok {scope entries final : Fields} {overrides : List Override} {h h' : Host}
    (hrun : Definition.applyOverrides scope overrides entries h = (.ok final, h')) :
    Laid (overrides.filter fun o => o.applies scope h) entries final := by
  -- the host that is asked about a later condition knows what the first one knew
  suffices hlaid : ∀ start : Host, start.known = h.known →
      Laid (overrides.filter fun o => o.applies scope start) entries final from hlaid h rfl
  intro start hstart
  induction overrides generalizing entries h with
  | nil =>
    obtain ⟨rfl, -⟩ := pure_ok hrun
    exact .nil _
  | cons o rest ih =>
    obtain ⟨holds, h₁, hholds, hrest⟩ := bind_ok hrun
    have hknown : h₁.known = h.known :=
      keeps_ok ((holds_quiet o.condition scope).keeps known_aloof.toSteady) hholds
    have happlies : o.applies scope start = holds := by
      rw [applies_congr hstart]
      simp [Override.applies, hholds]
    rw [List.filter_cons, happlies]
    cases holds with
    | false => exact ih hrest (hstart.trans hknown.symm)
    | true =>
      obtain ⟨merged, h₂, hlift, hlater⟩ := bind_ok hrest
      obtain ⟨hmerged, rfl⟩ := lift_ok hlift
      exact .cons hmerged (ih hlater (hstart.trans hknown.symm))

theorem compose_laid {d : Definition} {scope : Fields} {b : Blueprint} {h h' : Host}
    (hrun : d.compose scope h = (.ok b, h')) :
    ∃ final, Laid (d.matching scope h) d.blueprint.entries final ∧
      Blueprint.read (.object (Blueprint.withMessage final)) = .ok b := by
  obtain ⟨final, h₁, hlay, hread⟩ := bind_ok hrun
  obtain ⟨hread, -⟩ := lift_ok hread
  refine ⟨final, applyOverrides_ok hlay, ?_⟩
  unfold Blueprint.ofEntries at hread
  split at hread
  · next b' hb =>
    cases hread
    exact hb
  · cases hread

section Laying

variable {overrides : List Override} {entries final : Fields} {key : String}

theorem lastValue?_cons (o : Override) (rest : List Override) (key : String) :
    lastValue? (o :: rest) key = (lastValue? rest key).or (o.value? key) := by
  simp [lastValue?, List.findSome?_append]

theorem laid_get? (hl : Laid overrides entries final) (hkey : key ≠ paramsKey) :
    final.get? key = (lastValue? overrides key).or (entries.get? key) := by
  induction hl with
  | nil entries => rfl
  | cons first later ih => rw [ih, get?_overlay first hkey, lastValue?_cons, Option.or_assoc]

theorem laid_nodup (hl : Laid overrides entries final) (hn : entries.keys.Nodup) :
    final.keys.Nodup := by
  induction hl with
  | nil entries => exact hn
  | cons first later ih => exact ih (overlay_nodup first hn)

theorem laid_keys (hl : Laid overrides entries final) (hkey : key ∈ entries.keys) :
    key ∈ final.keys := by
  induction hl with
  | nil entries => exact hkey
  | cons first later ih => exact ih (overlay_keys first hkey)

end Laying

/-! ## Entries of a composed blueprint -/

/-- What is asked for under a key: the value of the last override that holds and has the key,
otherwise what the blueprint has of its own. -/
def Definition.asked (d : Definition) (scope : Fields) (h : Host) (key : String) : Option Value :=
  (lastValue? (d.matching scope h) key).or (d.blueprint.entries.get? key)

def IsUnsaid (key : String) (asked : Option Value) : Prop :=
  key = "noResultsMessage" ∧ (asked.getD .null).isTruthy = false

instance (key : String) (asked : Option Value) : Decidable (IsUnsaid key asked) :=
  inferInstanceAs (Decidable (_ ∧ _))

theorem get?_withMessage (entries : Fields) (key : String) :
    (Blueprint.withMessage entries).get? key =
      if IsUnsaid key (entries.get? key) then some (.text defaultNoResults)
      else entries.get? key := by
  unfold Blueprint.withMessage
  rw [Fields.get_eq]
  by_cases htruthy : ((entries.get? "noResultsMessage").getD .null).isTruthy = true
  · have hsaid : ¬ IsUnsaid key (entries.get? key) := by
      rintro ⟨rfl, hfalsy⟩
      rw [htruthy] at hfalsy
      cases hfalsy
    rw [if_pos htruthy, if_neg hsaid]
  · rw [if_neg htruthy, Fields.get?_put]
    by_cases hkey : key = "noResultsMessage"
    · subst hkey
      rw [if_pos rfl, if_pos ⟨rfl, by simpa using htruthy⟩]
    · rw [if_neg hkey, if_neg fun hunsaid => hkey hunsaid.1]

theorem withMessage_nodup {entries : Fields} (hn : entries.keys.Nodup) :
    (Blueprint.withMessage entries).keys.Nodup := by
  unfold Blueprint.withMessage
  split
  · exact hn
  · exact Fields.put_nodup hn _ _

theorem withMessage_keys {entries : Fields} {key : String} (hkey : key ∈ entries.keys) :
    key ∈ (Blueprint.withMessage entries).keys := by
  rw [Fields.mem_keys_iff] at hkey ⊢
  rw [get?_withMessage]
  split
  · rfl
  · exact hkey

theorem settled_unique {key : String} {v final₁ final₂ : Option Value}
    (h₁ : Blueprint.Settled key v final₁) (h₂ : Blueprint.Settled key v final₂) :
    final₁ = final₂ := by
  cases v with
  | none => exact h₁.trans h₂.symm
  | some v =>
    obtain ⟨w₁, hw₁, rfl⟩ := h₁
    obtain ⟨w₂, hw₂, rfl⟩ := h₂
    rw [hw₁] at hw₂
    cases hw₂
    rfl

/-- The entries of a composed blueprint come from what is read. -/
theorem composed_settled {d : Definition} {scope : Fields} {b : Blueprint} {h h' : Host}
    (hrun : d.compose scope h = (.ok b, h')) (key : String) :
    ∃ final, Laid (d.matching scope h) d.blueprint.entries final ∧
      Blueprint.Settled key ((Blueprint.withMessage final).get? key) (b.entries.get? key) := by
  obtain ⟨final, hlaid, hread⟩ := compose_laid hrun
  have hn := withMessage_nodup (laid_nodup hlaid d.blueprint.entries_nodup)
  have hall : ∀ name ∈ Blueprint.names, name ∈ (Blueprint.withMessage final).keys :=
    fun name hname => withMessage_keys (laid_keys hlaid (d.blueprint.names_subset_entries hname))
  exact ⟨final, hlaid, Blueprint.entries_settled hn hall hread key⟩

/-- Every entry of a composed blueprint but the parameters is what the last override that holds has
under its key, otherwise what the blueprint had, both as they are read. Only a message for no
results that is null, empty, zero or false gives way to the default one. -/
theorem compose_entry {d : Definition} {scope : Fields} {b : Blueprint} {h h' : Host}
    (hrun : d.compose scope h = (.ok b, h')) {key : String} (hkey : key ≠ paramsKey) :
    (if IsUnsaid key (d.asked scope h key) then
        b.entries.get? key = some (.text defaultNoResults)
      else Blueprint.Settled key (d.asked scope h key) (b.entries.get? key)) ∧
    (d.blueprint.Proper → lastValue? (d.matching scope h) key = none →
      ¬ IsUnsaid key (d.blueprint.entries.get? key) →
      b.entries.get? key = d.blueprint.entries.get? key) := by
  obtain ⟨final, hlaid, hsettled⟩ := composed_settled hrun key
  have hasked : final.get? key = d.asked scope h key := laid_get? hlaid hkey
  rw [get?_withMessage, hasked] at hsettled
  constructor
  · split
    · next hunsaid =>
      rw [if_pos hunsaid, hunsaid.1] at hsettled
      rw [hunsaid.1]
      exact settled_unique hsettled ⟨.text defaultNoResults, rfl, rfl⟩
    · next hsaid =>
      rw [if_neg hsaid] at hsettled
      exact hsettled
  · intro hproper hnone hsaid
    have hown : d.asked scope h key = d.blueprint.entries.get? key := by
      simp [Definition.asked, hnone]
    rw [hown, if_neg hsaid] at hsettled
    exact settled_unique hsettled (Blueprint.entries_settled d.blueprint.entries_nodup
      (fun _ => d.blueprint.names_subset_entries) (Blueprint.read_entries hproper) key)

def usersBlueprint : Blueprint :=
  ⟨.monthly, false, "", .tabular, none, "Users", "", "users",
    some [("group", .text "g1"), ("limit", .int 50)], none, [], [], none, false,
    [("owner", .text "it")]⟩

def whenKind (kind : String) (patch : Fields) : Override :=
  ⟨⟨"\x7b\x7bcriteria.kind\x7d\x7d", kind⟩, patch⟩

def auditScope : Fields := Scope.start [("kind", .text "audit")] []

def renamedUsers : Definition :=
  ⟨"", [], usersBlueprint,
    [whenKind "audit" [("data_set", .text "people"), ("dataSet", .text "staff")],
      whenKind "review" [("dataSet", .text "guests"), ("title", .text "Guests")]]⟩

/-- The later spelling counts, and a patch that does not hold leaves the title alone. -/
theorem compose_entry_renamed :
    ∃ b h', renamedUsers.compose auditScope Host.bare = (.ok b, h') ∧
      b.entries.get? "dataSet" = some (.text "staff") ∧
      b.entries.get? "title" = some (.text "Users") := by
  have hruns : (renamedUsers.compose auditScope Host.bare).1.toOption.isSome = true := by
    decide +kernel
  have hset : (renamedUsers.asked auditScope Host.bare "dataSet").bind Value.text? =
      some "staff" := by
    decide +kernel
  have htitle :
      (lastValue? (renamedUsers.matching auditScope Host.bare) "title").isNone = true := by
    decide +kernel
  obtain ⟨b, hb⟩ := Option.isSome_iff_exists.mp hruns
  have hrun := ok_of_toOption hb
  refine ⟨b, _, hrun, ?_, ?_⟩
  · obtain ⟨v, hasked, hv⟩ := Option.bind_eq_some_iff.mp hset
    cases v <;> cases hv
    have hkey : "dataSet" ≠ paramsKey := by decide
    have hentry := (compose_entry hrun hkey).1
    rw [hasked, if_neg fun hunsaid => absurd hunsaid.1 (by decide)] at hentry
    obtain ⟨w, hw, hfinal⟩ := hentry
    cases hw
    exact hfinal
  · have hproper : usersBlueprint.Proper := ⟨by decide, by decide⟩
    exact (compose_entry hrun (by decide)).2 hproper (Option.isNone_iff_eq_none.mp htitle)
      fun hunsaid => absurd hunsaid.1 (by decide)

def countedUsers : Definition :=
  ⟨"", [], usersBlueprint, [whenKind "audit" [("noResultsMessage", .int 0)]]⟩

/-- A message that is the number zero is neither null nor empty, and no text either; it gives way to
the default one all the same. -/
theorem compose_zero_message :
    ∃ b h', countedUsers.compose auditScope Host.bare = (.ok b, h') ∧
      countedUsers.asked auditScope Host.bare "noResultsMessage" = some (.int 0) ∧
      b.entries.get? "noResultsMessage" = some (.text defaultNoResults) ∧
      ¬ Blueprint.Settled "noResultsMessage" (some (.int 0))
        (b.entries.get? "noResultsMessage") := by
  have hruns : (countedUsers.compose auditScope Host.bare).1.toOption.bind
      (fun b => (b.entries.get? "noResultsMessage").bind Value.text?) = some defaultNoResults := by
    decide +kernel
  have hzero : (countedUsers.asked auditScope Host.bare "noResultsMessage").bind Value.int? =
      some 0 := by
    decide +kernel
  obtain ⟨b, hb, hmessage⟩ := Option.bind_eq_some_iff.mp hruns
  obtain ⟨message, hentry, htext⟩ := Option.bind_eq_some_iff.mp hmessage
  obtain ⟨v, hasked, hv⟩ := Option.bind_eq_some_iff.mp hzero
  cases message <;> cases htext
  cases v <;> cases hv
  refine ⟨b, _, ok_of_toOption hb, hasked, hentry, ?_⟩
  rintro ⟨w, hw, -⟩
  cases hw

/-! ## Parameters of a composed blueprint -/

def Override.params? (o : Override) : Option Fields := (o.value? paramsKey).bind Value.object?

def Override.param? (o : Override) (name : String) : Option Value :=
  o.params?.bind fun params => params.last? name

def Override.empties (o : Override) : Bool := o.params?.any List.isEmpty

def lastParam? (overrides : List Override) (name : String) : Option Value :=
  overrides.reverse.findSome? fun o => o.param? name

def Blueprint.param? (b : Blueprint) (name : String) : Option Value := b.entries.params.get? name

/-- What is asked for as a parameter: the value in the last override that holds and names it,
otherwise the own one. -/
def Definition.askedParam (d : Definition) (scope : Fields) (h : Host) (name : String) :
    Option Value :=
  (lastParam? (d.matching scope h) name).or (d.blueprint.param? name)

def sinceEmptied (overrides : List Override) : List Override :=
  overrides.rtakeWhile fun o => !o.empties

def Override.carry (name : String) (v : Option Value) (o : Override) : Option Value :=
  if o.empties then none else (o.param? name).or v

theorem params_of_get? {entries params : Fields}
    (hparams : entries.get? paramsKey = some (.object params)) : entries.params = params := by
  simp [Fields.params, Fields.get_eq, hparams, Value.object?]

theorem overlay_param {entries merged : Fields} {o : Override}
    (hok : Blueprint.overlay entries o.patch = .ok merged)
    (hobj : ∀ v, o.value? paramsKey = some v → v.object?.isSome = true) (name : String) :
    merged.params.get? name = o.carry name (entries.params.get? name) := by
  obtain ⟨hfalsy, rfl⟩ | ⟨params, hvalue, hne, rfl⟩ := overlay_ok hok
  · cases hvalue : o.value? paramsKey with
    | none =>
      have hkept : (entries.merge (Blueprint.ownKeys o.patch)).get? paramsKey =
          entries.get? paramsKey := by
        rw [Fields.get?_merge, last?_ownKeys, hvalue, Option.none_or]
      simp [Override.carry, Override.empties, Override.param?, Override.params?, hvalue,
        Fields.params, Fields.get_eq, hkept]
    | some v =>
      obtain ⟨params, hparams⟩ := Option.isSome_iff_exists.mp (hobj v hvalue)
      cases v with
      | object given =>
        have hnil : given = [] := by simpa [hvalue, Value.isTruthy] using hfalsy
        subst hnil
        have hdropped : (entries.merge (Blueprint.ownKeys o.patch)).get? paramsKey =
            some (.object []) := by
          rw [Fields.get?_merge, last?_ownKeys, hvalue, Option.some_or]
        rw [params_of_get? hdropped]
        simp [Override.carry, Override.empties, Override.params?, hvalue,
          Value.object?, Fields.get?]
      | _ => cases hparams
  · rw [params_of_get? (Fields.get?_put_self _ _ _), Fields.get?_merge]
    simp [Override.carry, Override.empties, Override.param?, Override.params?,
      hvalue, Value.object?,
      hne]

theorem laid_param {overrides : List Override} {entries final : Fields}
    (hl : Laid overrides entries final)
    (hobj : ∀ o ∈ overrides, ∀ v, o.value? paramsKey = some v → v.object?.isSome = true)
    (name : String) :
    final.params.get? name = overrides.foldl (Override.carry name) (entries.params.get? name) := by
  induction hl with
  | nil entries => rfl
  | cons first later ih =>
    rw [ih fun o ho => hobj o (by simp [ho]), overlay_param first (hobj _ (by simp)),
      List.foldl_cons]

theorem lastParam?_concat (overrides : List Override) (o : Override) (name : String) :
    lastParam? (overrides ++ [o]) name = (o.param? name).or (lastParam? overrides name) := by
  simp only [lastParam?, List.reverse_append, List.reverse_cons, List.reverse_nil, List.nil_append,
    List.cons_append, List.findSome?_cons]
  cases o.param? name <;> rfl

theorem param?_of_empties {o : Override} (ho : o.empties = true) (name : String) :
    o.param? name = none := by
  unfold Override.empties at ho
  unfold Override.param?
  cases hparams : o.params? with
  | none => rfl
  | some params =>
    have hnil : params = [] := by simpa [hparams] using ho
    rw [hnil]
    rfl

/-- A parameter survives exactly when no override drops it for good. -/
theorem carried_iff (overrides : List Override) (name : String) (own : Option Value) :
    overrides.foldl (Override.carry name) own = (lastParam? overrides name).or own ↔
      (overrides.any Override.empties = true → ((lastParam? overrides name).or own).isSome = true →
        (lastParam? (sinceEmptied overrides) name).isSome = true) := by
  induction overrides using List.reverseRecOn with
  | nil => simp [lastParam?]
  | append_singleton overrides o ih =>
    rw [List.foldl_append, List.foldl_cons, List.foldl_nil, lastParam?_concat]
    by_cases ho : o.empties = true
    · have hsince : sinceEmptied (overrides ++ [o]) = [] :=
        List.rtakeWhile_concat_neg _ _ _ (by simp [ho])
      have hnone : lastParam? [] name = none := rfl
      rw [param?_of_empties ho, hsince, hnone, Option.none_or]
      generalize (lastParam? overrides name).or own = asked
      cases asked <;> simp [Override.carry, ho]
    · have hsince : sinceEmptied (overrides ++ [o]) = sinceEmptied overrides ++ [o] :=
        List.rtakeWhile_concat_pos _ _ _ (by simp [ho])
      rw [hsince, lastParam?_concat]
      simp only [Override.carry, ho]
      cases hp : o.param? name with
      | some v => simp
      | none => simpa [ho] using ih

theorem settled_params {raw final : Fields}
    (hs : Blueprint.Settled paramsKey (raw.get? paramsKey) (final.get? paramsKey)) :
    final.params = raw.params := by
  simp only [Fields.params, Fields.get_eq]
  cases hraw : raw.get? paramsKey with
  | none =>
    rw [hraw] at hs
    rw [show final.get? paramsKey = none from hs]
  | some v =>
    rw [hraw] at hs
    obtain ⟨w, hw, hfinal⟩ := hs
    rw [hfinal]
    cases v with
    | null =>
      cases hw
      rfl
    | object params =>
      cases hw
      rfl
    | _ => cases hw

/-- A composed blueprint has every parameter that is asked for, and no other, unless an override
that holds declares an empty object of parameters: then exactly if the last one that does so drops
nothing that is not named again after it. -/
theorem compose_params_iff {d : Definition} {scope : Fields} {b : Blueprint} {h h' : Host}
    (hrun : d.compose scope h = (.ok b, h'))
    (hobj : ∀ o ∈ d.overrides, ∀ v, o.value? paramsKey = some v → v.object?.isSome = true) :
    (∀ name, b.param? name = d.askedParam scope h name) ↔
      ((d.matching scope h).any Override.empties = true →
        ∀ name, (d.askedParam scope h name).isSome = true →
          (lastParam? (sinceEmptied (d.matching scope h)) name).isSome = true) := by
  obtain ⟨final, hlaid, hsettled⟩ := composed_settled hrun paramsKey
  have hmessage : (Blueprint.withMessage final).get? paramsKey = final.get? paramsKey := by
    rw [get?_withMessage, if_neg]
    rintro ⟨hkey, -⟩
    exact absurd hkey (by decide)
  rw [hmessage] at hsettled
  have hmatching : ∀ o ∈ d.matching scope h, ∀ v, o.value? paramsKey = some v →
      v.object?.isSome = true := fun o ho => hobj o (List.mem_of_mem_filter ho)
  have hparam (name : String) : b.param? name =
      (d.matching scope h).foldl (Override.carry name) (d.blueprint.param? name) := by
    rw [Blueprint.param?, settled_params hsettled, laid_param hlaid hmatching]
    rfl
  have hiff (name : String) := carried_iff (d.matching scope h) name (d.blueprint.param? name)
  constructor
  · intro hall hempties name hasked
    exact (hiff name).mp (by rw [← hparam, hall]; rfl) hempties hasked
  · intro hkept name
    rw [hparam]
    exact (hiff name).mpr fun hempties hasked => hkept hempties name hasked

def limitedUsers : Definition :=
  ⟨"", [], usersBlueprint, [whenKind "audit"
    [("dataSetParams", .object [("limit", .int 10), ("status", .text "open")])]]⟩

theorem compose_params_limited :
    ∃ b h', limitedUsers.compose auditScope Host.bare = (.ok b, h') ∧
      (∀ name, b.param? name = limitedUsers.askedParam auditScope Host.bare name) ∧
      (b.param? "group").bind Value.text? = some "g1" := by
  have hruns : (limitedUsers.compose auditScope Host.bare).1.toOption.isSome = true := by
    decide +kernel
  have hempties : (limitedUsers.matching auditScope Host.bare).any Override.empties = false := by
    decide +kernel
  have hgroup : (limitedUsers.askedParam auditScope Host.bare "group").bind Value.text? =
      some "g1" := by
    decide +kernel
  obtain ⟨b, hb⟩ := Option.isSome_iff_exists.mp hruns
  have hobj : ∀ o ∈ limitedUsers.overrides, ∀ v, o.value? paramsKey = some v →
      v.object?.isSome = true := by
    intro o ho v hv
    obtain rfl := List.mem_singleton.mp ho
    cases hv
    rfl
  have hall := (compose_params_iff (ok_of_toOption hb) hobj).mpr fun hany => by
    rw [hempties] at hany
    cases hany
  exact ⟨b, _, ok_of_toOption hb, hall, by rw [hall, hgroup]⟩

def clearedUsers : Definition :=
  ⟨"", [], usersBlueprint, [whenKind "audit" [("dataSetParams", .object [])]]⟩

/-- A patch that names no parameter takes all of them away. -/
theorem compose_params_cleared :
    ∃ b h', clearedUsers.compose auditScope Host.bare = (.ok b, h') ∧
      (∀ o ∈ clearedUsers.overrides, o.params?.isSome = true ∧ o.param? "limit" = none) ∧
      (clearedUsers.askedParam auditScope Host.bare "limit").isSome = true ∧
      b.param? "limit" = none := by
  have hruns : (clearedUsers.compose auditScope Host.bare).1.toOption.bind
      (fun b => some (b.param? "limit").isNone) = some true := by
    decide +kernel
  have hlimit : (clearedUsers.askedParam auditScope Host.bare "limit").isSome = true := by
    decide +kernel
  obtain ⟨b, hb, hnone⟩ := Option.bind_eq_some_iff.mp hruns
  refine ⟨b, _, ok_of_toOption hb, ?_, hlimit, by simpa using hnone⟩
  intro o ho
  obtain rfl := List.mem_singleton.mp ho
  exact ⟨rfl, rfl⟩

end Dossier
