import Dossier.Proofs.Template.Occurrence
import Dossier.Proofs.Template.Stopping

/-!
# The text behind a pass and the text before it

A pass that has come to a placeholder has changed only what stands before it: that placeholder and
all that follows are still as they were. What stands before has each placeholder written at the
first place where its text then stood. That is its own place, unless an earlier one was given a text
that holds it.
-/

set_option autoImplicit false

namespace Dossier.Template

/-! ## Pieces written -/

section Writing

variable {look : List Char → Option (List Char)}

def Piece.filled (look : List Char → Option (List Char)) : Piece → List Char
  | .plain c => [c]
  | .placeholder body => (look body).getD []

def filled (look : List Char → Option (List Char)) (ps : List Piece) : List Char :=
  ps.flatMap (Piece.filled look)

/-- The text of pieces that follow a text, with each placeholder replaced in turn at the first place
where its text then stands. Where that is before the placeholder, the placeholder itself stays. -/
def sweep (look : List Char → Option (List Char)) : List Char → List Piece → List Char
  | u, [] => u
  | u, .plain c :: ps => sweep look (u ++ [c]) ps
  | u, .placeholder body :: ps =>
    if wrap body <:+: u then
      sweep look (replaceFirst (wrap body) ((look body).getD []) u ++ wrap body) ps
    else sweep look (u ++ (look body).getD []) ps

def InPlace (look : List Char → Option (List Char)) (u : List Char) (ps : List Piece) : Prop :=
  ∀ before body after, ps = before ++ .placeholder body :: after →
    ¬ wrap body <:+: u ++ filled look before

theorem filled_cons (p : Piece) (ps : List Piece) :
    filled look (p :: ps) = p.filled look ++ filled look ps := rfl

theorem filled_append (ps qs : List Piece) :
    filled look (ps ++ qs) = filled look ps ++ filled look qs := List.flatMap_append

theorem InPlace.tail {u : List Char} {p : Piece} {ps : List Piece}
    (hinPlace : InPlace look u (p :: ps)) : InPlace look (u ++ p.filled look) ps := by
  rintro before body after rfl
  have hlater := hinPlace (p :: before) body after rfl
  rwa [filled_cons, ← List.append_assoc] at hlater

/-- In place, each placeholder is replaced where it stands. -/
theorem sweep_inPlace {u : List Char} {ps : List Piece} (hinPlace : InPlace look u ps) :
    sweep look u ps = u ++ filled look ps := by
  induction ps generalizing u with
  | nil => exact (List.append_nil u).symm
  | cons p ps ih =>
    have hlater := ih hinPlace.tail
    rw [filled_cons, ← List.append_assoc, ← hlater]
    cases p with
    | plain c => rfl
    | placeholder body =>
      have hhere := hinPlace [] body ps rfl
      rw [filled, List.flatMap_nil, List.append_nil] at hhere
      rw [sweep, if_neg hhere]
      rfl

end Writing

/-! ## The pass -/

section Sweeping

variable {r : Rules}

/-- The first placeholder that gives way to no text, if there is one, with the pieces around it. -/
theorem all_go_or_stop (r : Rules) (ps : List Piece) :
    (∀ body ∈ bodies ps, r.stops body = false) ∨
      ∃ before body after, ps = before ++ .placeholder body :: after ∧
        (∀ b ∈ bodies before, r.stops b = false) ∧ r.stops body = true := by
  induction ps with
  | nil => exact .inl (by simp [bodies])
  | cons p ps ih =>
    cases p with
    | plain c =>
      refine ih.imp id ?_
      rintro ⟨before, body, after, rfl, hgo, hstops⟩
      exact ⟨.plain c :: before, body, after, rfl, hgo, hstops⟩
    | placeholder b =>
      cases hb : r.stops b with
      | true => exact .inr ⟨[], b, ps, rfl, by simp [bodies], hb⟩
      | false =>
        refine ih.imp (fun hall => List.forall_mem_cons.mpr ⟨hb, hall⟩) ?_
        rintro ⟨before, body, after, rfl, hgo, hstops⟩
        exact ⟨.placeholder b ::
          before, body, after, rfl, List.forall_mem_cons.mpr ⟨hb, hgo⟩, hstops⟩

theorem bodies_append (ps qs : List Piece) : bodies (ps ++ qs) = bodies ps ++ bodies qs :=
  List.filterMap_append

theorem placeholders_append {s : List Char} {before after : List Piece}
    (hs : pieces s = before ++ after) : placeholders s = bodies before ++ bodies after := by
  rw [placeholders, hs]
  exact bodies_append before after

theorem placeholders_split {s body : List Char} {before after : List Piece}
    (hs : pieces s = before ++ .placeholder body :: after) :
    placeholders s = bodies before ++ body :: bodies after :=
  placeholders_append hs

theorem mem_placeholders {s body : List Char} {before after : List Piece}
    (hs : pieces s = before ++ .placeholder body :: after) : body ∈ placeholders s := by
  rw [placeholders_split hs]
  exact List.mem_append_right _ List.mem_cons_self

/-- A pass over pieces that all give way to texts changes nothing behind them. -/
theorem pass_sweep {ps : List Piece} (hbodies : ∀ body ∈ bodies ps, IsBody body)
    (hgo : ∀ body ∈ bodies ps, r.stops body = false) (later : List (List Char))
    (u rest : List Char) :
    pass r (bodies ps ++ later) (u ++ (ps.flatMap Piece.text ++ rest)) =
      pass r later (sweep r.replacement? u ps ++ rest) := by
  induction ps generalizing u with
  | nil => rfl
  | cons p ps ih =>
    cases p with
    | plain c =>
      have hmove : u ++ ((Piece.plain c :: ps).flatMap Piece.text ++ rest) =
          (u ++ [c]) ++ (ps.flatMap Piece.text ++ rest) := by
        simp [Piece.text]
      rw [hmove]
      exact ih hbodies hgo (u ++ [c])
    | placeholder body =>
      obtain ⟨hbody, hbodies⟩ := List.forall_mem_cons.mp hbodies
      obtain ⟨hhere, hgo⟩ := List.forall_mem_cons.mp hgo
      obtain ⟨hblank, v, hv⟩ := Rules.stops_eq_false_iff.mp hhere
      have hsplit : u ++ ((Piece.placeholder body :: ps).flatMap Piece.text ++ rest) =
          u ++ (wrap body ++ (ps.flatMap Piece.text ++ rest)) := by
        simp [Piece.text]
      change pass r (body :: (bodies ps ++ later)) _ = _
      rw [hsplit, pass_replace hblank hv, sweep, hv, Option.getD_some]
      by_cases hstands : wrap body <:+: u
      · rw [if_pos hstands, replaceFirst_before hstands, ← List.append_assoc]
        exact ih hbodies hgo _
      · rw [if_neg hstands, replaceFirst_here hbody hstands, ← List.append_assoc]
        exact ih hbodies hgo _

/-- The same for all pieces of a text. -/
theorem pass_all_go {s : List Char} (hgo : ∀ body ∈ placeholders s, r.stops body = false) :
    pass r (placeholders s) s = .ok (.complete (sweep r.replacement? [] (pieces s))) := by
  have hsweep := pass_sweep placeholders_isBody hgo [] [] []
  rw [List.append_nil, List.append_nil, List.append_nil, List.nil_append] at hsweep
  rw [pieces_text] at hsweep
  exact hsweep

/-- A pass comes to a placeholder with all before it written, and with the text from it on as it
was. -/
theorem pass_comes_to {s body : List Char} {before after : List Piece}
    (hs : pieces s = before ++ .placeholder body :: after)
    (hgo : ∀ b ∈ bodies before, r.stops b = false) :
    pass r (placeholders s) s = pass r (body :: bodies after)
      (sweep r.replacement? [] before ++ (wrap body ++ after.flatMap Piece.text)) := by
  have hfound := placeholders_split hs
  have hbodies : ∀ b ∈ bodies before, IsBody b := fun b hb =>
    placeholders_isBody b (by rw [hfound]; exact List.mem_append_left _ hb)
  have htext : s = before.flatMap Piece.text ++ (wrap body ++ after.flatMap Piece.text) := by
    rw [← pieces_text s, hs, List.flatMap_append]
    rfl
  have hsweep := pass_sweep hbodies hgo (body :: bodies after) []
    (wrap body ++ after.flatMap Piece.text)
  rw [List.nil_append, ← htext] at hsweep
  rw [hfound, hsweep]

end Sweeping

end Dossier.Template
