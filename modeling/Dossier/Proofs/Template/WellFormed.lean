import Dossier.Template.Resolve
import Mathlib.Tactic.Common

/-!
# Well-formed texts

A text is well-formed when its only braces are those of placeholders, each of which names something
on one line. Its pieces can be read off in one way, and the first place where the text of a
placeholder occurs in it is a placeholder. Replacing that place replaces one piece.
-/

set_option autoImplicit false

namespace Dossier.Template

def isBrace (c : Char) : Bool := c == '\x7b' || c == '\x7d'

def IsName (body : List Char) : Prop :=
  (∀ c ∈ body, isBrace c = false ∧ c ≠ '\n') ∧ isBlankBody body = false

def Piece.IsClean : Piece → Prop
  | .plain c => isBrace c = false
  | .placeholder body => IsName body

def Clean (ps : List Piece) : Prop := ∀ p ∈ ps, p.IsClean

def WellFormed (s : List Char) : Prop := ∃ ps, Clean ps ∧ ps.flatMap Piece.text = s

instance (body : List Char) : Decidable (IsName body) :=
  have := List.decidableBAll (fun c => isBrace c = false ∧ c ≠ '\n') body
  inferInstanceAs (Decidable (_ ∧ _))

instance (p : Piece) : Decidable p.IsClean :=
  match p with
  | .plain c => inferInstanceAs (Decidable (isBrace c = false))
  | .placeholder body => inferInstanceAs (Decidable (IsName body))

instance (ps : List Piece) : Decidable (Clean ps) := List.decidableBAll Piece.IsClean ps

theorem clean_nil : Clean [] := by simp [Clean]

theorem clean_cons {p : Piece} {ps : List Piece} : Clean (p :: ps) ↔ p.IsClean ∧ Clean ps :=
  List.forall_mem_cons

theorem clean_append {ps qs : List Piece} : Clean (ps ++ qs) ↔ Clean ps ∧ Clean qs :=
  List.forall_mem_append

theorem IsName.ne_nil {body : List Char} (hn : IsName body) : body ≠ [] := by
  rintro rfl
  exact absurd hn.2 (by decide)

theorem isBrace_opening {c : Char} (hc : isBrace c = false) : c ≠ '\x7b' := by
  rintro rfl
  exact absurd hc (by decide)

theorem isBrace_closing {c : Char} (hc : isBrace c = false) : c ≠ '\x7d' := by
  rintro rfl
  exact absurd hc (by decide)

/-! ## Reading the pieces -/

theorem startsTwice_cons_ne {b c : Char} (rest : List Char) (hc : c ≠ b) :
    startsTwice b (c :: rest) = false := by
  simp [startsTwice, hc]

theorem closing_body {body : List Char} (hbody : ∀ c ∈ body, isBrace c = false ∧ c ≠ '\n')
    (after : List Char) : closing (body ++ '\x7d' :: '\x7d' :: after) = some (body, after) := by
  induction body with
  | nil => rfl
  | cons c body ih =>
    obtain ⟨hc, hline⟩ := hbody c (by simp)
    rw [List.cons_append, closing, startsTwice_cons_ne _ (isBrace_closing hc), if_neg (by simp),
      if_neg hline, ih fun d hd => hbody d (by simp [hd])]
    rfl

theorem opening_wrap {body : List Char} (hn : IsName body) (after : List Char) :
    opening (wrap body ++ after) = some (body, after) := by
  have htwice : startsTwice '\x7b' (wrap body ++ after) = true := rfl
  have hdrop : (wrap body ++ after).drop 2 = body ++ '\x7d' :: '\x7d' :: after := by simp [wrap]
  rw [opening, if_pos htwice, hdrop, closing_body hn.1]

theorem opening_plain {c : Char} (hc : isBrace c = false) (rest : List Char) :
    opening (c :: rest) = none := by
  rw [opening, startsTwice_cons_ne _ (isBrace_opening hc), if_neg (by simp)]

theorem pieces_of_opening {s body after : List Char} (ho : opening s = some (body, after)) :
    pieces s = .placeholder body :: pieces after := by
  cases s with
  | nil => cases ho
  | cons c rest =>
    rw [pieces]
    split
    · next h =>
      rw [ho] at h
      cases h
      rfl
    · next h =>
      rw [ho] at h
      cases h

theorem pieces_of_no_opening {c : Char} {rest : List Char} (ho : opening (c :: rest) = none) :
    pieces (c :: rest) = .plain c :: pieces rest := by
  rw [pieces]
  split
  · next h =>
    rw [ho] at h
    cases h
  · rfl

/-- Clean pieces are read off their text. -/
theorem pieces_of_clean {ps : List Piece} (hps : Clean ps) :
    pieces (ps.flatMap Piece.text) = ps := by
  induction ps with
  | nil => simp [pieces]
  | cons p ps ih =>
    obtain ⟨hp, hrest⟩ := clean_cons.mp hps
    rw [List.flatMap_cons]
    cases p with
    | plain c =>
      exact (pieces_of_no_opening (opening_plain hp _)).trans (congrArg _ (ih hrest))
    | placeholder body =>
      rw [Piece.text, pieces_of_opening (opening_wrap hp _), ih hrest]

/-- A text is well-formed exactly when the pieces read off it are clean. -/
theorem wellFormed_iff {s : List Char} : WellFormed s ↔ Clean (pieces s) := by
  constructor
  · rintro ⟨ps, hps, rfl⟩
    rwa [pieces_of_clean hps]
  · intro hs
    exact ⟨pieces s, hs, pieces_text s⟩

instance (s : List Char) : Decidable (WellFormed s) := decidable_of_iff _ wellFormed_iff.symm

/-! ## Texts without braces -/

def Braceless (s : List Char) : Prop := ∀ c ∈ s, isBrace c = false

instance (s : List Char) : Decidable (Braceless s) :=
  List.decidableBAll (fun c => isBrace c = false) s

theorem braceless_cons {c : Char} {s : List Char} :
    Braceless (c :: s) ↔ isBrace c = false ∧ Braceless s :=
  List.forall_mem_cons

theorem braceless_append {s t : List Char} : Braceless (s ++ t) ↔ Braceless s ∧ Braceless t :=
  List.forall_mem_append

theorem Braceless.subset {s t : List Char} (ht : Braceless t) (hst : s ⊆ t) : Braceless s :=
  fun c hc => ht c (hst hc)

theorem braceless_replicate {c : Char} (hc : isBrace c = false) (n : Nat) :
    Braceless (List.replicate n c) := by
  intro d hd
  rw [List.eq_of_mem_replicate hd]
  exact hc

theorem wellFormed_of_braceless {s : List Char} (hs : Braceless s) : WellFormed s := by
  refine ⟨s.map Piece.plain, ?_, ?_⟩
  · intro p hp
    obtain ⟨c, hc, rfl⟩ := List.mem_map.mp hp
    exact hs c hc
  · induction s with
    | nil => rfl
    | cons c s ih =>
      rw [List.map_cons, List.flatMap_cons, ih (braceless_cons.mp hs).2]
      rfl

/-! ## Replacing a placeholder -/

def bodies (ps : List Piece) : List (List Char) := ps.filterMap Piece.body?

def swap (body : List Char) (new : List Piece) : List Piece → List Piece
  | [] => []
  | p :: ps => if p = .placeholder body then new ++ ps else p :: swap body new ps

theorem swap_clean {body : List Char} {new ps : List Piece} (hnew : Clean new) (hps : Clean ps) :
    Clean (swap body new ps) := by
  induction ps with
  | nil => exact clean_nil
  | cons p ps ih =>
    obtain ⟨hp, hrest⟩ := clean_cons.mp hps
    rw [swap]
    split
    · exact clean_append.mpr ⟨hnew, hrest⟩
    · exact clean_cons.mpr ⟨hp, ih hrest⟩

/-- What is left of the bodies once one placeholder is replaced. -/
theorem bodies_swap {body : List Char} {new ps : List Piece} (hbody : body ∈ bodies ps) :
    (body :: bodies (swap body new ps)).Perm (bodies new ++ bodies ps) := by
  induction ps with
  | nil => simp [bodies] at hbody
  | cons p ps ih =>
    rw [swap]
    split
    · next hp =>
      subst hp
      simp only [bodies, List.filterMap_append, List.filterMap_cons, Piece.body?]
      exact List.perm_middle.symm
    · next hp =>
      cases p with
      | plain c => exact ih hbody
      | placeholder other =>
        have hne : body ≠ other := fun heq => hp (by rw [heq])
        have hrest : body ∈ bodies ps := (List.mem_cons.mp hbody).resolve_left hne
        have hswap : (other :: body :: bodies (swap body new ps)).Perm
            (other :: (bodies new ++ bodies ps)) := (ih hrest).cons other
        exact (List.Perm.swap _ _ _).trans (hswap.trans List.perm_middle.symm)

theorem replaceFirst_skip {c : Char} {u : List Char} (hu : ∀ d ∈ u, d ≠ c)
    (old new s : List Char) :
    replaceFirst (c :: old) new (u ++ s) = u ++ replaceFirst (c :: old) new s := by
  induction u with
  | nil => rfl
  | cons d u ih =>
    have hd : (c == d) = false := by simpa using (hu d (by simp)).symm
    rw [List.cons_append, replaceFirst, List.isPrefixOf, hd, Bool.false_and, if_neg (by simp),
      ih fun e he => hu e (by simp [he])]
    rfl

theorem replaceFirst_found {c : Char} (old new s : List Char) :
    replaceFirst (c :: old) new (c :: old ++ s) = new ++ s := by
  have hprefix : (c :: old).isPrefixOf (c :: (old ++ s)) = true :=
    List.isPrefixOf_iff_prefix.mpr (List.prefix_append _ _)
  rw [List.cons_append, replaceFirst, if_pos hprefix, ← List.cons_append, List.drop_left]

theorem replaceFirst_other {body other : List Char} (hbody : IsName body) (hother : IsName other)
    (hne : other ≠ body) (new s : List Char) :
    replaceFirst (wrap body) new (wrap other ++ s) =
      wrap other ++ replaceFirst (wrap body) new s := by
  -- an occurrence could start at one of the two opening braces, but nowhere behind them
  have hhead : (wrap body).isPrefixOf (wrap other ++ s) = false := by
    rw [Bool.eq_false_iff, ne_eq, List.isPrefixOf_iff_prefix]
    rintro ⟨t, ht⟩
    have hopen := opening_wrap hother s
    rw [← ht, opening_wrap hbody t] at hopen
    cases hopen
    exact hne rfl
  have hsecond : (wrap body).isPrefixOf ('\x7b' :: (other ++ '\x7d' :: '\x7d' :: s)) = false := by
    cases other with
    | nil => exact absurd rfl hother.ne_nil
    | cons d rest =>
      have hd := isBrace_opening (hother.1 d (by simp)).1
      simp [wrap, List.isPrefixOf, hd.symm]
  have hrest : ∀ d ∈ other ++ ['\x7d', '\x7d'], d ≠ '\x7b' := by
    intro d hd
    rcases List.mem_append.mp hd with hd | hd
    · exact isBrace_opening (hother.1 d hd).1
    · rintro rfl
      exact absurd hd (by decide)
  have hshape : wrap other ++ s = '\x7b' :: '\x7b' :: (other ++ '\x7d' :: '\x7d' :: s) := by
    simp [wrap]
  rw [hshape] at hhead ⊢
  rw [replaceFirst, hhead, if_neg (by simp), replaceFirst, hsecond, if_neg (by simp)]
  have hskip := replaceFirst_skip hrest (wrap body).tail new s
  simp only [List.append_assoc, List.cons_append, List.nil_append] at hskip
  exact (congrArg (fun t => '\x7b' :: '\x7b' :: t) hskip).trans (by simp [wrap])

/-- In a clean text a placeholder is first found where its first piece is. -/
theorem replaceFirst_clean {body : List Char} {new ps : List Piece} (hbody : IsName body)
    (hps : Clean ps) : replaceFirst (wrap body) (new.flatMap Piece.text) (ps.flatMap Piece.text) =
      (swap body new ps).flatMap Piece.text := by
  induction ps with
  | nil => rfl
  | cons p ps ih =>
    obtain ⟨hp, hrest⟩ := clean_cons.mp hps
    rw [swap, List.flatMap_cons]
    split
    · next hfound =>
      rw [hfound, List.flatMap_append]
      exact replaceFirst_found _ _ _
    · next hfound =>
      rw [List.flatMap_cons, ← ih hrest]
      cases p with
      | plain c =>
        refine replaceFirst_skip (u := [c]) (fun d hd => ?_) _ _ _
        rw [List.mem_singleton.mp hd]
        exact isBrace_opening hp
      | placeholder other =>
        exact replaceFirst_other hbody hp (fun heq => hfound (by rw [heq])) _ _

end Dossier.Template
