import Dossier.Proofs.Template.WellFormed
import Mathlib.Data.Set.Finite.Lattice

/-!
# What placeholders are replaced by is well-formed

Numbers and truth values are written without braces. A path leads to a value inside the scope, so
where all texts inside the scope and the environment are well-formed, so is every text that a
placeholder stands for.
-/

set_option autoImplicit false

namespace Dossier.Template

open Number

/-! ## Numbers -/

theorem isBrace_of_isDigit {c : Char} (hc : c.isDigit = true) : isBrace c = false := by
  rw [Bool.eq_false_iff]
  intro hbrace
  rw [isBrace, Bool.or_eq_true, beq_iff_eq, beq_iff_eq] at hbrace
  rcases hbrace with rfl | rfl <;> simp at hc

theorem toDigits_braceless (n : Nat) : Braceless (Nat.toDigits 10 n) := fun _ hc =>
  isBrace_of_isDigit (Nat.isDigit_of_mem_toDigits (by decide) (by decide) hc)

theorem intText_braceless (n : Int) : Braceless (intText n).toList := by
  rw [intText, String.toList_ofList]
  split
  · exact braceless_cons.mpr ⟨rfl, toDigits_braceless _⟩
  · exact toDigits_braceless _

theorem padZeros_braceless {digits : List Char} (hd : Braceless digits) (width : Nat) :
    Braceless (padZeros width digits) :=
  braceless_append.mpr ⟨braceless_replicate rfl _, hd⟩

theorem positional_braceless {digits : List Char} (hd : Braceless digits) (style : Style)
    (point : Int) : Braceless (positional style digits point) := by
  have hfraction : Braceless (if style.keepsFraction then ['.', '0'] else []) := by
    split <;> decide
  rw [positional]
  split
  · exact braceless_append.mpr
      ⟨braceless_append.mpr ⟨hd, braceless_replicate rfl _⟩, hfraction⟩
  · split
    · exact braceless_append.mpr ⟨hd.subset (List.take_subset _ _),
        braceless_cons.mpr ⟨rfl, hd.subset (List.drop_subset _ _)⟩⟩
    · exact braceless_cons.mpr ⟨rfl, braceless_cons.mpr
        ⟨rfl, braceless_append.mpr ⟨braceless_replicate rfl _, hd⟩⟩⟩

theorem scientific_braceless {digits : List Char} (hd : Braceless digits) (style : Style)
    (point : Int) : Braceless (scientific style digits point) := by
  have hexponent := padZeros_braceless (toDigits_braceless (point - 1).natAbs) style.exponentDigits
  have hsign : isBrace (if point - 1 < 0 then '-' else '+') = false := by split <;> rfl
  have htail := braceless_cons.mpr ⟨(rfl : isBrace 'e' = false),
    braceless_cons.mpr ⟨hsign, hexponent⟩⟩
  match digits, hd with
  | [], hd => exact braceless_append.mpr ⟨hd, htail⟩
  | [c], hd => exact braceless_append.mpr ⟨hd, htail⟩
  | c :: d :: rest, hd =>
    obtain ⟨hc, hrest⟩ := braceless_cons.mp hd
    exact braceless_append.mpr
      ⟨braceless_cons.mpr ⟨hc, braceless_cons.mpr ⟨rfl, hrest⟩⟩, htail⟩

theorem magnitude_braceless (style : Style) (x : Decimal) : Braceless (style.magnitude x) := by
  rw [Style.magnitude]
  split
  · exact positional_braceless (toDigits_braceless _) _ _
  · exact scientific_braceless (toDigits_braceless _) _ _

theorem write_braceless {style : Style} (hnan : Braceless style.nan.toList)
    (hinfinity : Braceless style.infinity.toList) (x : Binary) :
    Braceless (style.write x).toList := by
  cases x with
  | nan => exact hnan
  | infinite negative =>
    rw [Style.write]
    split
    · rw [String.toList_append]
      exact braceless_append.mpr ⟨by decide, hinfinity⟩
    · exact hinfinity
  | finite negative m e =>
    rw [Style.write, String.toList_ofList]
    split
    · exact braceless_cons.mpr ⟨rfl, magnitude_braceless _ _⟩
    · exact magnitude_braceless _ _

theorem showBinary_braceless (x : Binary) : Braceless (showBinary x).toList := by
  have hshown : Braceless (Style.shown.write x).toList := write_braceless (by decide) (by decide) x
  rw [showBinary]
  split
  · split
    · exact intText_braceless _
    · exact hshown
  · exact hshown

theorem showInt_braceless {n : Int} {s : String} (hs : showInt? n = some s) :
    Braceless s.toList := by
  rw [showInt?] at hs
  split at hs
  · cases hs
    exact intText_braceless n
  · obtain ⟨x, -, rfl⟩ := Option.map_eq_some_iff.mp hs
    exact showBinary_braceless x

/-! ## Values -/

inductive Within (v : Value) : Value → Prop where
  | self : Within v v
  | item {items : List Value} {w : Value} (hitem : w ∈ items) (hin : Within v w) :
      Within v (.list items)
  | entry {fields : Fields} {key : String} {w : Value} (hentry : (key, w) ∈ fields)
      (hin : Within v w) : Within v (.object fields)

theorem within_list {v : Value} {items : List Value} :
    Within v (.list items) ↔ v = .list items ∨ ∃ w ∈ items, Within v w := by
  constructor
  · intro hv
    cases hv with
    | self => exact .inl rfl
    | item hitem hin => exact .inr ⟨_, hitem, hin⟩
  · rintro (rfl | ⟨w, hitem, hin⟩)
    · exact .self
    · exact .item hitem hin

theorem within_object {v : Value} {fields : Fields} :
    Within v (.object fields) ↔ v = .object fields ∨ ∃ entry ∈ fields, Within v entry.2 := by
  constructor
  · intro hv
    cases hv with
    | self => exact .inl rfl
    | entry hentry hin => exact .inr ⟨_, hentry, hin⟩
  · rintro (rfl | ⟨entry, hentry, hin⟩)
    · exact .self
    · exact .entry hentry hin

theorem within_finite (w : Value) : {v | Within v w}.Finite := by
  match w with
  | .list items =>
    have hitems : ∀ x ∈ items, {v | Within v x}.Finite := fun x _ => within_finite x
    refine ((Set.finite_singleton (.list items)).union
      ((List.finite_toSet items).biUnion hitems)).subset fun v hv => ?_
    rcases within_list.mp hv with hself | ⟨x, hx, hin⟩
    · exact .inl hself
    · exact .inr (Set.mem_biUnion hx hin)
  | .object fields =>
    have hentries : ∀ entry ∈ fields, {v | Within v entry.2}.Finite :=
      fun entry _ => within_finite entry.2
    refine ((Set.finite_singleton (.object fields)).union
      ((List.finite_toSet fields).biUnion hentries)).subset fun v hv => ?_
    rcases within_object.mp hv with hself | ⟨entry, hentry, hin⟩
    · exact .inl hself
    · exact .inr (Set.mem_biUnion hentry hin)
  | .null | .bool _ | .int _ | .float _ | .text _ | .date _ | .moment _ | .clock _ =>
    refine Set.Subsingleton.finite fun u hu v hv => ?_
    cases hu
    cases hv
    rfl
termination_by sizeOf w
decreasing_by
  · have hlt := List.sizeOf_lt_of_mem ‹x ∈ items›
    simp only [Value.list.sizeOf_spec]
    omega
  · have hlt := List.sizeOf_lt_of_mem ‹entry ∈ fields›
    obtain ⟨key, v⟩ := entry
    simp only [Prod.mk.sizeOf_spec, Value.object.sizeOf_spec] at hlt ⊢
    omega

theorem mem_of_lookup {α : Type} {entries : List (String × α)} {key : String} {a : α}
    (ha : entries.lookup key = some a) : (key, a) ∈ entries := by
  obtain ⟨before, after, rfl, -⟩ := List.lookup_eq_some_iff.mp ha
  simp

theorem walk_within {names : List String} {v w : Value} (hwalk : walk w names = some v) :
    Within v w := by
  induction names generalizing w with
  | nil =>
    rw [walk] at hwalk
    cases hwalk
    exact .self
  | cons name rest ih =>
    cases w with
    | object fields =>
      rw [walk] at hwalk
      cases hfound : fields.lookup name with
      | none => rw [hfound] at hwalk; cases hwalk
      | some x =>
        rw [hfound] at hwalk
        exact .entry (mem_of_lookup hfound) (ih hwalk)
    | _ => cases hwalk

/-- A value that is no text is written without braces. -/
theorem written_cases {v : Value} {t : List Char} (ht : written v = .text t) :
    (∃ s, v = .text s ∧ t = s.toList) ∨ Braceless t := by
  cases v with
  | text s =>
    cases ht
    exact .inl ⟨s, rfl, rfl⟩
  | bool b =>
    cases ht
    cases b <;> exact .inr (by decide)
  | int n =>
    rw [written] at ht
    cases hshown : showInt? n with
    | none => rw [hshown] at ht; cases ht
    | some s =>
      rw [hshown] at ht
      cases ht
      exact .inr (showInt_braceless hshown)
  | float x =>
    cases ht
    exact .inr (showBinary_braceless x)
  | _ => cases ht

/-- What a path stands for is written in the environment or comes from a value inside the scope. -/
theorem meaning_cases {env : Environment} {scope : Fields} {path t : List Char}
    (ht : meaning env scope path = .text t) :
    (∃ entry ∈ env, t = entry.2.toList) ∨
      ∃ v, Within v (.object scope) ∧ written v = .text t := by
  rw [meaning] at ht
  split at ht
  · cases hvariable : env.lookup _ with
    | none => rw [hvariable] at ht; cases ht
    | some s =>
      rw [hvariable] at ht
      simp only at ht
      split at ht
      · cases ht
      · cases ht
        exact .inl ⟨_, mem_of_lookup hvariable, rfl⟩
  · split at ht
    · next v hwalk => exact .inr ⟨v, walk_within hwalk, ht⟩
    · cases ht

theorem meaning_wellFormed {env : Environment} {scope : Fields} {path t : List Char}
    (hscope : ∀ s, Within (.text s) (.object scope) → WellFormed s.toList)
    (henv : ∀ entry ∈ env, WellFormed entry.2.toList) (ht : meaning env scope path = .text t) :
    WellFormed t := by
  rcases meaning_cases ht with ⟨entry, hentry, rfl⟩ | ⟨v, hv, hwritten⟩
  · exact henv entry hentry
  · rcases written_cases hwritten with ⟨s, rfl, rfl⟩ | hbraceless
    · exact hscope s hv
    · exact wellFormed_of_braceless hbraceless

end Dossier.Template
