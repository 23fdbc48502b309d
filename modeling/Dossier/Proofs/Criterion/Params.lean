import Dossier.Proofs.Host.Limits
import Dossier.Proofs.Template.Filling

/-!
# Parameters that name criteria

The parameters of a data set see the criteria alone. Where every placeholder in them names a
criterion that has a value, and values are written without braces, the parameters resolve with each
placeholder replaced by the value it names; nothing but a number that cannot be written can keep
them from that.
-/

set_option autoImplicit false

namespace Dossier

open Template

namespace Template

/-! ## Paths of two names -/

theorem names_pointless {p : List Char} (hp : ∀ c ∈ p, c ≠ '.') : names p = [p] := by
  induction p with
  | nil => rfl
  | cons c p ih =>
    obtain ⟨hc, hrest⟩ := List.forall_mem_cons.mp hp
    rw [names, if_neg hc, ih hrest]

theorem names_point {u : List Char} (hu : ∀ c ∈ u, c ≠ '.') (s : List Char) :
    names (u ++ '.' :: s) = u :: names s := by
  induction u with
  | nil => rfl
  | cons c u ih =>
    obtain ⟨hc, hrest⟩ := List.forall_mem_cons.mp hu
    rw [List.cons_append, names, if_neg hc, ih hrest]

end Template

/-! ## Placeholders of criteria -/

/-- A placeholder for the criterion with a property. Blanks at the ends of a placeholder do not
count. -/
structure NamesCriterion (body : List Char) (property : String) : Prop where
  path : Text.trim body = "criteria.".toList ++ property.toList
  plain : ∀ c ∈ property.toList, c ≠ '.' ∧ isBrace c = false

def Value.IsPlain (v : Value) : Prop :=
  match written v with
  | .unknown => False
  | .text t => Braceless t
  | .nothing | .tooLarge => True

def Criterion.Gives (values : Fields) (body t : List Char) : Prop :=
  ∃ property v, NamesCriterion body property ∧ values.get? property = some v ∧ v.isNull = false ∧
    written v = .text t

section Naming

variable {body : List Char} {property : String} {values : Fields}

theorem NamesCriterion.named (hnames : NamesCriterion body property) :
    isBlankBody body = false := by
  rw [isBlankBody, hnames.path]
  rfl

/-- Among the criteria alone, the placeholder stands for the value of the criterion. -/
theorem NamesCriterion.meaning (hnames : NamesCriterion body property)
    (env : Environment) {v : Value} (hv : values.get? property = some v) :
    Template.meaning env [("criteria", .object values)] (Text.trim body) = written v := by
  have hpath : (names (Text.trim body)).map String.ofList = ["criteria", property] := by
    have hsplit : Text.trim body = "criteria".toList ++ '.' :: property.toList := hnames.path
    rw [hsplit, names_point (by simp), names_pointless fun c hc => (hnames.plain c hc).1]
    simp
  have hlookup : values.lookup property = some v := hv
  simp [Template.meaning, hpath, variableName?, walk, hlookup]

/-- What a placeholder for a criterion with a value stands for. -/
theorem NamesCriterion.gives (hnames : NamesCriterion body property)
    (hvalue : (values.get property).isNull = false)
    (hplain : ∀ property v, values.get? property = some v → v.IsPlain) (env : Environment) :
    Template.meaning env [("criteria", .object values)] (Text.trim body) = .tooLarge ∨
      ∃ t, Template.meaning env [("criteria", .object values)] (Text.trim body) = .text t ∧
        Braceless t ∧ Criterion.Gives values body t := by
  obtain ⟨v, hget, hnotNull⟩ := Fields.exists_get? hvalue
  have hv := hplain property v hget
  rw [hnames.meaning env hget]
  unfold Value.IsPlain at hv
  cases hwritten : written v with
  | unknown =>
    rw [hwritten] at hv
    exact hv.elim
  | nothing =>
    cases v with
    | null => cases hnotNull
    | int n =>
      rw [written] at hwritten
      cases hshown : Number.showInt? n <;> rw [hshown] at hwritten <;> cases hwritten
    | _ => cases hwritten
  | tooLarge => exact .inl rfl
  | text t =>
    rw [hwritten] at hv
    exact .inr ⟨t, rfl, hv, property, v, hnames, hget, hnotNull, hwritten⟩

end Naming

section Resolving

variable {values : Fields}

/-- A text resolves with its placeholders filled in, unless a number in it cannot be written. -/
theorem resolve_fills {setting : Setting} (hlimit : 1 ≤ setting.limit)
    (hplain : ∀ property v, values.get? property = some v → v.IsPlain) {s : String}
    (hrefers : ∀ body ∈ placeholders s.toList,
      ∃ property, NamesCriterion body property ∧ (values.get property).isNull = false) :
    Template.resolve setting [("criteria", .object values)] false s =
        .error (.fault .numberTooLarge) ∨
      ∃ t, Template.resolve setting [("criteria", .object values)] false s =
          .ok (String.ofList t) ∧ Fills (Criterion.Gives values) (pieces s.toList) t := by
  let r : Rules := ⟨meaning setting.environment [("criteria", .object values)], false, some []⟩
  have hplaces : ∀ body ∈ placeholders s.toList, r.Places body := by
    intro body hbody
    obtain ⟨property, hnames, hvalue⟩ := hrefers body hbody
    refine ⟨hnames.named, ?_⟩
    refine (hnames.gives hvalue hplain setting.environment).imp_right ?_
    rintro ⟨t, hmeaning, hbraceless, -⟩
    exact ⟨t, by simp only [Rules.replacement?, r, hmeaning], hbraceless⟩
  obtain ⟨n, hn⟩ : ∃ n, setting.limit.toNat = n + 1 := ⟨setting.limit.toNat - 1, by omega⟩
  rw [Template.resolve, Template.run, hn]
  rcases passes_fills n hplaces with hfails | ⟨t, hrun, hfills⟩
  · left
    rw [hfails]
    rfl
  · refine .inr ⟨t, by rw [hrun]; rfl, hfills.imp fun body hbody v hv => ?_⟩
    obtain ⟨property, hnames, hvalue⟩ := hrefers body hbody
    rcases hnames.gives hvalue hplain setting.environment with hlarge | ⟨t, hmeaning, -, hgives⟩
    · simp [Rules.replacement?, r, hlarge] at hv
    · simp only [Rules.replacement?, r, hmeaning, Option.some.injEq] at hv
      exact hv ▸ hgives

/-! ## All parameters -/

def Criterion.Refers (values params : Fields) : Prop :=
  ∀ entry ∈ params, ∀ s, entry.2 = .text s → ∀ body ∈ placeholders s.toList,
    ∃ property, NamesCriterion body property ∧ (values.get property).isNull = false

/-- A parameter as it is resolved: in a text the placeholders give way to the values they name, and
other values stay. -/
structure Criterion.Filled (values : Fields) (given filled : String × Value) : Prop where
  key : filled.1 = given.1
  text : ∀ s, given.2 = .text s → ∃ t, filled.2 = .text (String.ofList t) ∧
    Fills (Gives values) (pieces s.toList) t
  other : given.2.text? = none → filled.2 = given.2

theorem filled_other {entry : String × Value} (hother : entry.2.text? = none) :
    Criterion.Filled values entry entry := by
  refine ⟨rfl, fun s hs => ?_, fun _ => rfl⟩
  rw [hs] at hother
  cases hother

theorem resolveEntries_other (setting : Setting) (scope rest : Fields) (key : String) {v : Value}
    (hother : v.text? = none) :
    resolveEntries setting scope ((key, v) :: rest) =
      (resolveEntries setting scope rest).map ((key, v) :: ·) := by
  cases v with
  | text s => cases hother
  | _ => rfl

theorem resolveEntries_fills {setting : Setting} (hlimit : 1 ≤ setting.limit)
    (hplain : ∀ property v, values.get? property = some v → v.IsPlain) {params : Fields}
    (hrefers : Criterion.Refers values params) :
    resolveEntries setting [("criteria", .object values)] params =
        .error (.fault .numberTooLarge) ∨
      ∃ filled, resolveEntries setting [("criteria", .object values)] params = .ok filled ∧
        List.Forall₂ (Criterion.Filled values) params filled := by
  induction params with
  | nil => exact .inr ⟨[], rfl, .nil⟩
  | cons entry rest ih =>
    obtain ⟨hentry, hrest⟩ := List.forall_mem_cons.mp hrefers
    obtain ⟨key, v⟩ := entry
    have hlater := ih hrest
    cases hv : v.text? with
    | none =>
      rw [resolveEntries_other setting _ rest key hv]
      rcases hlater with hfails | ⟨filled, hrun, hfilled⟩
      · exact .inl (by rw [hfails]; rfl)
      · exact .inr ⟨(key, v) :: filled, by rw [hrun]; rfl, .cons (filled_other hv) hfilled⟩
    | some s =>
      obtain rfl : v = .text s := by cases v <;> cases hv; rfl
      rw [resolveEntries]
      rcases resolve_fills hlimit hplain (hentry s rfl) with hfails | ⟨t, ht, hfills⟩
      · exact .inl (by rw [hfails])
      rw [ht]
      rcases hlater with hfails | ⟨filled, hrun, hfilled⟩
      · exact .inl (by rw [hfails]; rfl)
      · refine .inr ⟨(key, .text (String.ofList t)) :: filled, by rw [hrun]; rfl, .cons ?_ hfilled⟩
        refine ⟨rfl, fun s' hs' => ?_, fun hnone => ?_⟩
        · cases hs'
          exact ⟨t, rfl, hfills⟩
        · cases hnone

end Resolving

/-- The parameters of a criterion as they are resolved; without any there are none. -/
def Criterion.FilledParams (values : Fields) : Option Fields → Option Fields → Prop
  | some params, some filled => List.Forall₂ (Criterion.Filled values) params filled
  | none, none => True
  | _, _ => False

section Running

variable {values : Fields} {params : Option Fields} {h : Host}

open Run

/-- Parameters that refer to criteria with values are filled in, or fail in a way that is none of
placeholders. -/
theorem resolveParams_fills (hc : h.Checked) {k : Host} (hk : k.known = h.known)
    (hplain : ∀ property v, values.get? property = some v → v.IsPlain)
    (hrefers : ∀ given ∈ params, Criterion.Refers values given) :
    (∃ filled, (resolveParams none [("criteria", .object values)] params k).1 = .ok filled ∧
        Criterion.FilledParams values params filled) ∨
      ∃ e, (resolveParams none [("criteria", .object values)] params k).1 = .error e ∧
        ¬ e.OfToken := by
  cases params with
  | none => exact .inl ⟨none, rfl, trivial⟩
  | some given =>
    have hgiven := hrefers given rfl
    rw [resolveParams]
    by_cases htexts : (given.any fun entry => entry.2.text?.isSome) = true
    · rw [if_pos htexts, bind_apply]
      have hsetting := templateSetting_known k
      rw [hk] at hsetting
      cases hknown : h.known.1 with
      | error e =>
        rw [hknown] at hsetting
        refine .inr ⟨e, ?_, known_tokenless h e hknown⟩
        rw [show templateSetting none none k = (.error e, _) from Prod.ext hsetting rfl]
      | ok settings =>
        rw [hknown] at hsetting
        rw [show templateSetting none none k = (.ok _, _) from Prod.ext hsetting rfl]
        dsimp only
        rw [map_apply, lift_apply]
        have hlimit : 1 ≤ (⟨h.known.2, settings.maxPasses⟩ : Setting).limit := hc.passes hknown
        rcases resolveEntries_fills hlimit hplain hgiven with hfails | ⟨filled, hrun, hfilled⟩
        · exact .inr ⟨_, by rw [hfails]; rfl, by simp [Failure.ofToken_iff]⟩
        · exact .inl ⟨some filled, by rw [hrun]; rfl, hfilled⟩
    · rw [if_neg htexts]
      refine .inl ⟨some given, rfl, List.forall₂_same.mpr fun entry hentry => filled_other ?_⟩
      have hnone : ∀ entry ∈ given, ¬ entry.2.text?.isSome = true := by
        simpa only [List.any_eq_true, not_exists, not_and] using htexts
      simpa using hnone entry hentry

end Running

end Dossier
