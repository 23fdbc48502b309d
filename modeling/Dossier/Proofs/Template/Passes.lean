import Dossier.Proofs.Template.Stopping
import Mathlib.Data.List.Perm.Subperm

/-!
# Passes over a well-formed text

A pass replaces each placeholder found, but where its text first occurs, which may be in what an
earlier replacement wrote. What a pass leaves is therefore known only up to order: the placeholders
left are those of the texts written. That is enough. The full expansion stays the same, and the
text that is left is one level less deep, so as many passes are made as the text is deep.
-/

set_option autoImplicit false

namespace Dossier.Template

open scoped List

theorem placeholders_of_clean {ps : List Piece} (hps : Clean ps) :
    placeholders (ps.flatMap Piece.text) = bodies ps := by
  rw [placeholders, pieces_of_clean hps, bodies]

theorem isName_of_mem {ps : List Piece} (hps : Clean ps) {body : List Char}
    (hbody : body ∈ bodies ps) : IsName body := by
  obtain ⟨p, hp, hbody⟩ := List.mem_filterMap.mp hbody
  have hclean := hps p hp
  cases p with
  | plain c => cases hbody
  | placeholder b =>
    cases hbody
    exact hclean

def inner (look : List Char → Option (List Char)) (body : List Char) : List (List Char) :=
  (look body).elim [] placeholders

theorem mem_inner {look : List Char → Option (List Char)} {body b : List Char} :
    b ∈ inner look body ↔ ∃ v ∈ look body, b ∈ placeholders v := by
  cases h : look body <;> simp [inner, h]

/-! ## One pass -/

section Pass

variable {r : Rules} {ps : List Piece}

def Rules.Serves (r : Rules) (body : List Char) : Prop :=
  ∃ v, r.replacement? body = some v ∧ WellFormed v

structure Passed (r : Rules) (later : List (List Char)) (ps qs : List Piece) : Prop where
  clean : Clean qs
  run : pass r later (ps.flatMap Piece.text) = .ok (.complete (qs.flatMap Piece.text))
  /-- The full expansion is as it was. -/
  expands : ∀ t, Expands r.replacement? qs t ↔ Expands r.replacement? ps t
  /-- The placeholders replaced make way for those of the texts written. -/
  exchanged : later ++ bodies qs ~ later.flatMap (inner r.replacement?) ++ bodies ps

theorem pass_passed {later : List (List Char)} (hps : Clean ps)
    (hlater : later <+~ bodies ps) (hserves : ∀ body ∈ later, r.Serves body) :
    ∃ qs, Passed r later ps qs := by
  induction later generalizing ps with
  | nil => exact ⟨ps, hps, rfl, fun _ => Iff.rfl, List.Perm.refl _⟩
  | cons body later ih =>
    have hbody : body ∈ bodies ps := hlater.subset (by simp)
    have hn := isName_of_mem hps hbody
    obtain ⟨v, hv, hwell⟩ := hserves body (by simp)
    have hclean : Clean (swap body (pieces v) ps) := swap_clean (wellFormed_iff.mp hwell) hps
    have hswap : body :: bodies (swap body (pieces v) ps) ~ placeholders v ++ bodies ps :=
      bodies_swap hbody
    -- what is still to be replaced stays among the placeholders, wherever this one was found
    have hleft : later <+~ bodies (swap body (pieces v) ps) := by
      refine (List.subperm_cons body).mp ((hlater.trans ?_).trans hswap.symm.subperm)
      exact (List.sublist_append_right _ _).subperm
    obtain ⟨qs, hqs⟩ := ih hclean hleft fun b hb => hserves b (by simp [hb])
    refine ⟨qs, hqs.clean, ?_, fun t => (hqs.expands t).trans (expands_swap hv), ?_⟩
    · rw [pass_replace hn.2 hv, ← hqs.run, ← replaceFirst_clean hn hps, pieces_text]
    · have hinner : inner r.replacement? body = placeholders v := by rw [inner, hv]; rfl
      calc body :: later ++ bodies qs
        _ ~ body :: (later.flatMap (inner r.replacement?) ++ bodies (swap body (pieces v) ps)) :=
          hqs.exchanged.cons body
        _ ~ later.flatMap (inner r.replacement?) ++ body :: bodies (swap body (pieces v) ps) :=
          List.perm_middle.symm
        _ ~ later.flatMap (inner r.replacement?) ++ (placeholders v ++ bodies ps) :=
          hswap.append_left _
        _ ~ (body :: later).flatMap (inner r.replacement?) ++ bodies ps := by
          rw [List.flatMap_cons, hinner, ← List.append_assoc]
          exact List.perm_append_comm.append_right _

theorem Passed.left {qs : List Piece} (hp : Passed r (bodies ps) ps qs) :
    bodies qs ~ (bodies ps).flatMap (inner r.replacement?) :=
  (List.perm_append_left_iff _).mp (hp.exchanged.trans List.perm_append_comm)

theorem Passed.mem_left {qs : List Piece} (hp : Passed r (bodies ps) ps qs) (hps : Clean ps)
    {b : List Char} : b ∈ placeholders (qs.flatMap Piece.text) ↔
      ∃ body ∈ placeholders (ps.flatMap Piece.text), ∃ v ∈ r.replacement? body,
        b ∈ placeholders v := by
  rw [placeholders_of_clean hp.clean, placeholders_of_clean hps, hp.left.mem_iff]
  simp only [List.mem_flatMap, mem_inner]

theorem Passed.reaches {qs : List Piece} (hp : Passed r (bodies ps) ps qs) (hps : Clean ps)
    {b : List Char} (hb : Reaches r.replacement? (qs.flatMap Piece.text) b) :
    Reaches r.replacement? (ps.flatMap Piece.text) b := by
  cases hb with
  | here hleft =>
    obtain ⟨body, hbody, v, hv, hinner⟩ := (hp.mem_left hps).mp hleft
    exact .through hbody hv (.here hinner)
  | through hleft hlook hrest =>
    obtain ⟨body, hbody, v, hv, hinner⟩ := (hp.mem_left hps).mp hleft
    exact .through hbody hv (.through hinner hlook hrest)

/-- A pass takes away one level. -/
theorem Passed.nested {qs : List Piece} (hp : Passed r (bodies ps) ps qs) (hps : Clean ps)
    (n : Nat) : Nested r.replacement? (n + 1) (qs.flatMap Piece.text) ↔
      Nested r.replacement? (n + 2) (ps.flatMap Piece.text) := by
  constructor
  · rintro ⟨b, hb, w, hw, hrest⟩
    obtain ⟨body, hbody, v, hv, hinner⟩ := (hp.mem_left hps).mp hb
    exact ⟨body, hbody, v, hv, b, hinner, w, hw, hrest⟩
  · rintro ⟨body, hbody, v, hv, b, hinner, w, hw, hrest⟩
    exact ⟨b, (hp.mem_left hps).mpr ⟨body, hbody, v, hv, hinner⟩, w, hw, hrest⟩

end Pass

/-! ## All passes -/

section Passes

variable {r : Rules} {s : List Char}

theorem passes_done (left : Nat) (hs : placeholders s = []) : passes r left s = .ok (some s) := by
  rw [passes, hs]

theorem passes_out {body : List Char} {later : List (List Char)}
    (hs : placeholders s = body :: later) : passes r 0 s = .error (.tooManyPasses body) := by
  rw [passes, hs]

/-- A text in which something is written for nothing is never missing. -/
theorem passes_written (hnothing : r.nothing ≠ none) (left : Nat) (s : List Char) :
    passes r left s ≠ .ok none := by
  induction left generalizing s with
  | zero =>
    cases hs : placeholders s with
    | nil =>
      rw [passes_done _ hs]
      nofun
    | cons body later =>
      rw [passes_out hs]
      nofun
  | succ left ih =>
    by_cases hs : placeholders s = []
    · rw [passes_done _ hs]
      nofun
    rw [passes_succ hs]
    cases hrun : pass r (placeholders s) s with
    | error halt => nofun
    | ok outcome =>
      cases outcome with
      | complete t => exact ih t
      | stopped t => nofun
      | missing => exact absurd hrun (pass_written hnothing _ s)

theorem passes_complete {left : Nat} {t : List Char} (hs : placeholders s ≠ [])
    (hpass : pass r (placeholders s) s = .ok (.complete t)) :
    passes r (left + 1) s = passes r left t := by
  rw [passes_succ hs, hpass]

def Rules.ServesAll (r : Rules) (s : List Char) : Prop :=
  ∀ body, Reaches r.replacement? s body → r.Serves body

theorem exists_passed {ps : List Piece} (hps : Clean ps)
    (hserves : r.ServesAll (ps.flatMap Piece.text)) :
    ∃ qs, Passed r (bodies ps) ps qs ∧ r.ServesAll (qs.flatMap Piece.text) := by
  obtain ⟨qs, hqs⟩ := pass_passed hps (List.Subperm.refl _) fun body hbody =>
    hserves body (.here (by rwa [placeholders_of_clean hps]))
  exact ⟨qs, hqs, fun b hb => hserves b (hqs.reaches hps hb)⟩

theorem Passed.passes {ps qs : List Piece} (hp : Passed r (bodies ps) ps qs) (hps : Clean ps)
    (hne : bodies ps ≠ []) (left : Nat) :
    passes r (left + 1) (ps.flatMap Piece.text) = passes r left (qs.flatMap Piece.text) := by
  refine passes_complete ?_ ?_
  · rwa [placeholders_of_clean hps]
  · rw [placeholders_of_clean hps]
    exact hp.run

/-- With as many passes as the text is deep, what comes out is the full expansion. -/
theorem passes_expands {left : Nat} {ps : List Piece} (hps : Clean ps)
    (hserves : r.ServesAll (ps.flatMap Piece.text))
    (hdepth : ¬ Nested r.replacement? (left + 1) (ps.flatMap Piece.text)) :
    ∃ t, Expands r.replacement? ps t ∧ passes r left (ps.flatMap Piece.text) = .ok (some t) := by
  induction left generalizing ps with
  | zero =>
    have hnone : bodies ps = [] := by
      rw [← placeholders_of_clean hps]
      refine List.eq_nil_iff_forall_not_mem.mpr fun body hbody => hdepth ?_
      obtain ⟨v, hv, -⟩ := hserves body (.here hbody)
      exact ⟨body, hbody, v, hv, trivial⟩
    exact ⟨_, expands_plain hnone, passes_done 0 (by rw [placeholders_of_clean hps, hnone])⟩
  | succ left ih =>
    by_cases hnone : bodies ps = []
    · exact ⟨_, expands_plain hnone, passes_done _ (by rw [placeholders_of_clean hps, hnone])⟩
    · obtain ⟨qs, hqs, hserved⟩ := exists_passed hps hserves
      obtain ⟨t, ht, hrun⟩ := ih hqs.clean hserved fun hn => hdepth ((hqs.nested hps left).mp hn)
      exact ⟨t, (hqs.expands t).mp ht, (hqs.passes hps hnone left).trans hrun⟩

/-- With fewer passes than the text is deep, a placeholder is left over. -/
theorem passes_exceeded {left : Nat} {ps : List Piece} (hps : Clean ps)
    (hserves : r.ServesAll (ps.flatMap Piece.text))
    (hdepth : Nested r.replacement? (left + 1) (ps.flatMap Piece.text)) :
    ∃ body, Reaches r.replacement? (ps.flatMap Piece.text) body ∧
      passes r left (ps.flatMap Piece.text) = .error (.tooManyPasses body) := by
  induction left generalizing ps with
  | zero =>
    obtain ⟨body, hbody, -⟩ := hdepth
    cases hfound : placeholders (ps.flatMap Piece.text) with
    | nil => simp [hfound] at hbody
    | cons first later => exact ⟨first, .here (by simp [hfound]), passes_out hfound⟩
  | succ left ih =>
    obtain ⟨body, hbody, -⟩ := id hdepth
    rw [placeholders_of_clean hps] at hbody
    obtain ⟨qs, hqs, hserved⟩ := exists_passed hps hserves
    obtain ⟨b, hb, hrun⟩ := ih hqs.clean hserved ((hqs.nested hps left).mpr hdepth)
    exact ⟨b, hqs.reaches hps hb, (hqs.passes hps (List.ne_nil_of_mem hbody) left).trans hrun⟩

end Passes

end Dossier.Template
