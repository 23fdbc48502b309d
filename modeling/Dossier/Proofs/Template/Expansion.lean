import Dossier.Proofs.Template.WellFormed
import Mathlib.Data.ENat.Lattice
import Mathlib.Data.Set.Finite.Lattice
import Mathlib.Order.CompletePartialOrder

/-!
# The full expansion of a text

The full expansion of a text replaces every placeholder at its own place by the full expansion of
what it stands for. It exists when placeholders do not stand for texts that lead back to themselves.
How deep placeholders are nested is counted along the longest chain of them. Replacing a single
placeholder, wherever it is, does not change the full expansion.
-/

set_option autoImplicit false

namespace Dossier.Template

def Rules.replacement? (r : Rules) (body : List Char) : Option (List Char) :=
  match r.meaning (Text.trim body) with
  | .text t => some t
  | .nothing => r.nothing
  | .unknown => none
  | .tooLarge => none

theorem Rules.replacement_cases {r : Rules} {body v : List Char}
    (hv : r.replacement? body = some v) :
    r.meaning (Text.trim body) = .text v ∨
      r.meaning (Text.trim body) = .nothing ∧ r.nothing = some v := by
  rw [replacement?] at hv
  cases hm : r.meaning (Text.trim body) with
  | text t =>
    rw [hm] at hv
    cases hv
    exact .inl rfl
  | nothing =>
    rw [hm] at hv
    exact .inr ⟨rfl, hv⟩
  | unknown => rw [hm] at hv; cases hv
  | tooLarge => rw [hm] at hv; cases hv

section Looking

variable {look : List Char → Option (List Char)}

inductive Expands (look : List Char → Option (List Char)) : List Piece → List Char → Prop where
  | nil : Expands look [] []
  | plain {c : Char} {ps : List Piece} {t : List Char} (hrest : Expands look ps t) :
      Expands look (.plain c :: ps) (c :: t)
  | placeholder {body v u t : List Char} {ps : List Piece} (hlook : look body = some v)
      (hinner : Expands look (pieces v) u) (hrest : Expands look ps t) :
      Expands look (.placeholder body :: ps) (u ++ t)

theorem expands_append {ps qs : List Piece} {t : List Char} :
    Expands look (ps ++ qs) t ↔ ∃ u v, t = u ++ v ∧ Expands look ps u ∧ Expands look qs v := by
  induction ps generalizing t with
  | nil =>
    constructor
    · intro ht
      exact ⟨[], t, rfl, .nil, ht⟩
    · rintro ⟨u, v, rfl, hu, hv⟩
      cases hu
      exact hv
  | cons p ps ih =>
    constructor
    · intro ht
      cases ht with
      | plain hrest =>
        obtain ⟨u, v, rfl, hu, hv⟩ := ih.mp hrest
        exact ⟨_ :: u, v, rfl, .plain hu, hv⟩
      | placeholder hlook hinner hrest =>
        obtain ⟨u, v, rfl, hu, hv⟩ := ih.mp hrest
        exact ⟨_ ++ u, v, (List.append_assoc _ _ _).symm, .placeholder hlook hinner hu, hv⟩
    · rintro ⟨u, v, rfl, hu, hv⟩
      cases hu with
      | plain hrest => exact .plain (ih.mpr ⟨_, _, rfl, hrest, hv⟩)
      | placeholder hlook hinner hrest =>
        rw [List.append_assoc]
        exact .placeholder hlook hinner (ih.mpr ⟨_, _, rfl, hrest, hv⟩)

theorem expands_unique {ps : List Piece} {t u : List Char} (ht : Expands look ps t)
    (hu : Expands look ps u) : t = u := by
  induction ht generalizing u with
  | nil => cases hu; rfl
  | plain _ ih =>
    cases hu with
    | plain hrest => rw [ih hrest]
  | placeholder hlook _ _ ihinner ihrest =>
    cases hu with
    | placeholder hlook' hinner hrest =>
      obtain rfl := Option.some.inj (hlook.symm.trans hlook')
      rw [ihinner hinner, ihrest hrest]

theorem expands_plain {ps : List Piece} (hps : bodies ps = []) :
    Expands look ps (ps.flatMap Piece.text) := by
  induction ps with
  | nil => exact .nil
  | cons p ps ih =>
    cases p with
    | plain c => exact .plain (ih hps)
    | placeholder body => cases hps

/-- Replacing one placeholder leaves the full expansion as it is. -/
theorem expands_swap {body v : List Char} (hlook : look body = some v) {ps : List Piece}
    {t : List Char} : Expands look (swap body (pieces v) ps) t ↔ Expands look ps t := by
  induction ps generalizing t with
  | nil => rfl
  | cons p ps ih =>
    rw [swap]
    split
    · next hp =>
      subst hp
      rw [expands_append]
      constructor
      · rintro ⟨u, w, rfl, hu, hw⟩
        exact .placeholder hlook hu hw
      · intro ht
        cases ht with
        | placeholder hlook' hinner hrest =>
          obtain rfl := Option.some.inj (hlook.symm.trans hlook')
          exact ⟨_, _, rfl, hinner, hrest⟩
    · constructor
      · intro ht
        cases ht with
        | plain hrest => exact .plain (ih.mp hrest)
        | placeholder hlook' hinner hrest => exact .placeholder hlook' hinner (ih.mp hrest)
      · intro ht
        cases ht with
        | plain hrest => exact .plain (ih.mpr hrest)
        | placeholder hlook' hinner hrest => exact .placeholder hlook' hinner (ih.mpr hrest)

/-! ## How deep placeholders are nested -/

inductive Reaches (look : List Char → Option (List Char)) : List Char → List Char → Prop where
  | here {s body : List Char} (hbody : body ∈ placeholders s) : Reaches look s body
  | through {s body v inner : List Char} (hbody : body ∈ placeholders s)
      (hlook : look body = some v) (hinner : Reaches look v inner) : Reaches look s inner

/-- Some chain of placeholders, each in the text that the one before is replaced by, is this
long. -/
def Nested (look : List Char → Option (List Char)) : Nat → List Char → Prop
  | 0, _ => True
  | n + 1, s => ∃ body ∈ placeholders s, ∃ v ∈ look body, Nested look n v

noncomputable def depth (look : List Char → Option (List Char)) (s : List Char) : ℕ∞ :=
  ⨆ n : {n : ℕ // Nested look n s}, (n.val : ℕ∞)

instance decidableNested (look : List Char → Option (List Char)) :
    (n : Nat) → (s : List Char) → Decidable (Nested look n s)
  | 0, _ => isTrue trivial
  | n + 1, s =>
    have := decidableNested look n
    inferInstanceAs (Decidable (∃ body ∈ placeholders s, ∃ v ∈ look body, Nested look n v))

/-- What is reached lies in every set that the placeholders of the text are in and that none of its
members leads out of. -/
theorem reaches_closed {P : List Char → Prop} {s body : List Char} (hreach : Reaches look s body)
    (hstart : ∀ b ∈ placeholders s, P b)
    (hstep : ∀ b, P b → ∀ v ∈ look b, ∀ c ∈ placeholders v, P c) : P body := by
  induction hreach with
  | here hbody => exact hstart _ hbody
  | through hbody hlook _ ih => exact ih (hstep _ (hstart _ hbody) _ hlook)

theorem nested_pred {n : Nat} {s : List Char} (hn : Nested look (n + 1) s) : Nested look n s := by
  induction n generalizing s with
  | zero => trivial
  | succ n ih =>
    obtain ⟨body, hbody, v, hv, hrest⟩ := hn
    exact ⟨body, hbody, v, hv, ih hrest⟩

theorem nested_le {m n : Nat} (hle : m ≤ n) {s : List Char} (hn : Nested look n s) :
    Nested look m s := by
  induction hle with
  | refl => exact hn
  | step _ ih => exact ih (nested_pred hn)

theorem depth_le_iff {n : Nat} {s : List Char} :
    depth look s ≤ n ↔ ¬ Nested look (n + 1) s := by
  rw [depth, iSup_le_iff]
  constructor
  · intro hall hn
    exact absurd (Nat.cast_le.mp (hall ⟨n + 1, hn⟩)) (Nat.not_succ_le_self n)
  · rintro hnot ⟨m, hm⟩
    refine Nat.cast_le.mpr (Nat.le_of_not_lt fun hlt => hnot (nested_le hlt hm))

theorem lt_depth_iff {n : Nat} {s : List Char} :
    (n : ℕ∞) < depth look s ↔ Nested look (n + 1) s := by
  rw [← not_le, depth_le_iff, not_not]

theorem le_depth_iff {n : Nat} {s : List Char} : (n : ℕ∞) ≤ depth look s ↔ Nested look n s := by
  cases n with
  | zero => simp [Nested]
  | succ n => rw [Nat.cast_succ, ENat.natCast_add_one_le_iff, lt_depth_iff]

theorem depth_plain {s : List Char} (hs : placeholders s = []) : depth look s = 0 := by
  have hle : depth look s ≤ (0 : ℕ) :=
    depth_le_iff.mpr fun ⟨body, hbody, _⟩ => by simp [hs] at hbody
  simpa using hle

/-- A text is one level deeper than the deepest of the texts its placeholders are replaced by. -/
theorem depth_eq {s : List Char} :
    depth look s = ⨆ body ∈ placeholders s, ⨆ v ∈ look body, (depth look v + 1) := by
  refine ENat.eq_of_forall_natCast_le_iff fun n => ?_
  cases n with
  | zero => simp
  | succ n =>
    rw [le_depth_iff, Nat.cast_succ, ENat.natCast_add_one_le_iff]
    simp only [lt_iSup_iff, ENat.natCast_lt_add_one_iff, le_depth_iff, Nested, exists_prop]

/-! ## Placeholders that lead back to themselves -/

def Leads (look : List Char → Option (List Char)) (body inner : List Char) : Prop :=
  ∃ v ∈ look body, Reaches look v inner

theorem nested_of_cycle {body : List Char} (hcycle : Leads look body body) (n : Nat)
    {s : List Char} (hreach : Reaches look s body) : Nested look n s := by
  obtain ⟨v, hv, hback⟩ := hcycle
  induction n generalizing s with
  | zero => trivial
  | succ n ih =>
    -- one level is spent on the way to the cycle, the others on going round it
    induction hreach with
    | here hbody => exact ⟨_, hbody, v, hv, ih hback⟩
    | through hbody hlook hinner => exact ⟨_, hbody, _, hlook, ih hinner⟩

/-- Nested placeholders form a chain in which each leads to all that follow. -/
theorem nested_chain {n : Nat} {s : List Char} (hn : Nested look n s) :
    ∃ chain : List (List Char), chain.length = n ∧ (∀ b ∈ chain, Reaches look s b) ∧
      chain.Pairwise (Leads look) := by
  induction n generalizing s with
  | zero => exact ⟨[], rfl, by simp, .nil⟩
  | succ n ih =>
    obtain ⟨body, hbody, v, hv, hrest⟩ := hn
    obtain ⟨chain, hlength, hreach, hleads⟩ := ih hrest
    refine ⟨body :: chain, by rw [List.length_cons, hlength], ?_, ?_⟩
    · intro b hb
      rcases List.mem_cons.mp hb with rfl | hb
      · exact .here hbody
      · exact .through hbody hv (hreach b hb)
    · exact List.pairwise_cons.mpr ⟨fun b hb => ⟨v, hv, hreach b hb⟩, hleads⟩

/-- Where only so many placeholders are reached, there is no end to the depth exactly when one of
them leads back to itself. -/
theorem depth_eq_top_iff {s : List Char} (hfinite : {body | Reaches look s body}.Finite) :
    depth look s = ⊤ ↔ ∃ body, Reaches look s body ∧ Leads look body body := by
  constructor
  · intro htop
    by_contra hnone
    obtain ⟨chain, hlength, hreach, hleads⟩ := nested_chain
      (le_depth_iff.mp (htop ▸ le_top : (hfinite.toFinset.card + 1 : ℕ) ≤ depth look s))
    have hdistinct : chain.Nodup := by
      refine hleads.imp_of_mem fun {b c} hb _ hlead heq => ?_
      subst heq
      exact hnone ⟨b, hreach b hb, hlead⟩
    have hcard : chain.toFinset.card ≤ hfinite.toFinset.card :=
      Finset.card_le_card fun b hb =>
        hfinite.mem_toFinset.mpr (hreach b (List.mem_toFinset.mp hb))
    rw [List.toFinset_card_of_nodup hdistinct] at hcard
    omega
  · rintro ⟨body, hreach, hcycle⟩
    exact ENat.eq_top_iff_forall_ge.mpr fun n => le_depth_iff.mpr (nested_of_cycle hcycle n hreach)

theorem reaches_finite (hvalues : {v | ∃ body, look body = some v}.Finite) (s : List Char) :
    {body | Reaches look s body}.Finite := by
  have hcover : {body | Reaches look s body} ⊆ {body | body ∈ placeholders s} ∪
      ⋃ v ∈ {v | ∃ body, look body = some v}, {body | body ∈ placeholders v} := fun b hb =>
    reaches_closed hb (fun _ hbody => .inl hbody) fun c _ v hv _ hinner =>
      .inr (Set.mem_biUnion (show v ∈ {v | ∃ body, look body = some v} from ⟨c, hv⟩) hinner)
  exact ((List.finite_toSet _).union
    (hvalues.biUnion fun v _ => List.finite_toSet _)).subset hcover

end Looking

end Dossier.Template
