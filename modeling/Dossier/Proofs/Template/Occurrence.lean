import Dossier.Proofs.Template.WellFormed

/-!
# Where the text of a placeholder occurs

What a placeholder found in a text has between its braces may hold braces itself, but no line break,
and two closing braces end it where they first stand. So the text of a placeholder never overlaps
itself. Where a text goes on with a placeholder, the first place of the text of that placeholder is
either there or wholly before it, and a replacement in what comes before leaves the placeholder and
all that follows as they are.
-/

set_option autoImplicit false

namespace Dossier.Template

/-! ## Between the braces -/

/-- Two closing braces after the text are the first place at which it is closed, and no line break
comes before them. -/
def IsBody (body : List Char) : Prop := closing (body ++ ['\x7d', '\x7d']) = some (body, [])

instance (body : List Char) : Decidable (IsBody body) :=
  inferInstanceAs (Decidable (closing (body ++ ['\x7d', '\x7d']) = some (body, [])))

theorem startsTwice_append {c : Char} {u : List Char} (hu : 2 ≤ u.length) (s t : List Char) :
    startsTwice c (u ++ s) = startsTwice c (u ++ t) := by
  match u, hu with
  | _ :: _ :: _, _ => rfl

/-- A text that is closed is closed there whatever follows. -/
theorem closing_append {s body after : List Char} (hs : closing s = some (body, after))
    (t : List Char) : closing (s ++ t) = some (body, after ++ t) := by
  induction s generalizing body after with
  | nil => cases hs
  | cons c rest ih =>
    have hlength : 2 ≤ (c :: rest).length := by
      have := congrArg List.length (closing_text hs)
      simp only [List.length_append, List.length_cons] at this ⊢
      omega
    have hsame := startsTwice_append hlength (c := '\x7d') t []
    rw [List.append_nil, List.cons_append] at hsame
    rw [closing] at hs
    rw [List.cons_append, closing, hsame]
    split at hs
    · next htwice =>
      cases hs
      cases rest with
      | nil => simp at hlength
      | cons d rest => rw [if_pos htwice]; rfl
    · next htwice =>
      split at hs
      · cases hs
      · next hline =>
        obtain ⟨⟨b, a⟩, hclosing, hmap⟩ := Option.map_eq_some_iff.mp hs
        cases hmap
        rw [if_neg htwice, if_neg hline, ih hclosing]
        rfl

theorem closing_isBody {s body after : List Char} (hs : closing s = some (body, after)) :
    IsBody body := by
  induction s generalizing body after with
  | nil => cases hs
  | cons c rest ih =>
    rw [closing] at hs
    split at hs
    · cases hs
      rfl
    · next htwice =>
      split at hs
      · cases hs
      · next hline =>
        obtain ⟨⟨b, a⟩, hclosing, hmap⟩ := Option.map_eq_some_iff.mp hs
        cases hmap
        have hrest : c :: rest = (c :: (b ++ ['\x7d', '\x7d'])) ++ after := by
          simpa using closing_text hclosing
        rw [hrest, startsTwice_append (by simp) after [], List.append_nil] at htwice
        rw [IsBody, List.cons_append, closing, if_neg htwice, if_neg hline, ih hclosing]
        rfl

theorem closing_line {s body after : List Char} (hs : closing s = some (body, after)) :
    '\n' ∉ body := by
  induction s generalizing body after with
  | nil => cases hs
  | cons c rest ih =>
    rw [closing] at hs
    split at hs
    · cases hs
      simp
    · split at hs
      · cases hs
      · next hline =>
        obtain ⟨⟨b, a⟩, hclosing, hmap⟩ := Option.map_eq_some_iff.mp hs
        cases hmap
        rw [List.mem_cons, not_or]
        exact ⟨Ne.symm hline, ih hclosing⟩

theorem IsBody.line {body : List Char} (hbody : IsBody body) : '\n' ∉ body := closing_line hbody

theorem IsBody.closing {body : List Char} (hbody : IsBody body) (after : List Char) :
    closing (body ++ '\x7d' :: '\x7d' :: after) = some (body, after) := by
  have happend := closing_append hbody after
  rwa [List.append_assoc] at happend

/-- A placeholder is read back from its text. -/
theorem IsBody.opening {body : List Char} (hbody : IsBody body) (after : List Char) :
    opening (wrap body ++ after) = some (body, after) := by
  have htwice : startsTwice '\x7b' (wrap body ++ after) = true := rfl
  have hdrop : (wrap body ++ after).drop 2 = body ++ '\x7d' :: '\x7d' :: after := by simp [wrap]
  rw [Template.opening, if_pos htwice, hdrop, hbody.closing]

theorem opening_isBody {s body after : List Char} (hs : opening s = some (body, after)) :
    IsBody body := by
  rw [opening] at hs
  split at hs
  · exact closing_isBody hs
  · cases hs

theorem placeholders_isBody {s : List Char} : ∀ body ∈ placeholders s, IsBody body := by
  induction s using pieces.induct with
  | case1 => simp [placeholders, pieces]
  | case2 c rest body after hopening ih =>
    rw [placeholders, pieces_of_opening hopening]
    exact List.forall_mem_cons.mpr ⟨opening_isBody hopening, ih⟩
  | case3 c rest hopening ih =>
    rw [placeholders, pieces_of_no_opening hopening]
    exact ih

/-- A text without placeholders has none anywhere. -/
theorem opening_none {x y : List Char} (hs : placeholders (x ++ y) = []) : opening y = none := by
  induction x with
  | nil =>
    cases hopening : opening y with
    | none => rfl
    | some found =>
      rw [List.nil_append, placeholders, pieces_of_opening hopening] at hs
      cases hs
  | cons c x ih =>
    cases hopening : opening (c :: (x ++ y)) with
    | none =>
      rw [List.cons_append, placeholders, pieces_of_no_opening hopening] at hs
      exact ih hs
    | some found =>
      rw [List.cons_append, placeholders, pieces_of_opening hopening] at hs
      cases hs

/-- A text in which the text of a placeholder stands holds a placeholder, though it need not be that
one. -/
theorem placeholders_ne_nil {body s : List Char} (hbody : IsBody body)
    (hstands : wrap body <:+: s) :
    placeholders s ≠ [] := by
  obtain ⟨x, y, rfl⟩ := hstands
  rw [List.append_assoc]
  intro hnone
  have hopening := opening_none hnone
  rw [hbody.opening] at hopening
  cases hopening

/-! ## No overlap -/

/-- A text is closed by the first two closing braces in a row. -/
theorem closing_length_le {y z body after : List Char}
    (hs : closing (y ++ '\x7d' :: '\x7d' :: z) = some (body, after)) : body.length ≤ y.length := by
  induction y generalizing body with
  | nil =>
    cases hs
    exact Nat.le_refl 0
  | cons c y ih =>
    rw [List.cons_append, closing] at hs
    split at hs
    · cases hs
      exact Nat.zero_le _
    · split at hs
      · cases hs
      · obtain ⟨⟨b, a⟩, hclosing, hmap⟩ := Option.map_eq_some_iff.mp hs
        cases hmap
        exact Nat.succ_le_succ (ih hclosing)

/-- The text of a placeholder does not begin as it ends. -/
theorem wrap_unbordered {body x : List Char} (hbody : IsBody body) (hstart : x <+: wrap body)
    (hsuffix : x <:+ wrap body) : x = [] ∨ x = wrap body := by
  obtain ⟨y, hy⟩ := hstart
  obtain ⟨p, hp⟩ := hsuffix
  match p, x with
  | [], x => exact .inr hp
  | _, [] => exact .inl rfl
  | [_], x =>
    -- one brace further on, the same text would be closed one character earlier
    exfalso
    obtain ⟨-, rfl⟩ := List.cons.inj hp
    have hshift : (body ++ ['\x7d', '\x7d']) ++ y = '\x7b' :: (body ++ ['\x7d', '\x7d']) :=
      (List.cons.inj hy).2
    have hclosed := closing_append hbody y
    rw [hshift, Template.closing, startsTwice_cons_ne _ (by decide), if_neg (by simp),
      if_neg (by decide), hbody] at hclosed
    simp at hclosed
  | _ :: _ :: p, [c] =>
    exfalso
    obtain ⟨rfl, -⟩ := List.cons.inj hy
    have hend : p ++ ['\x7b'] = (body ++ ['\x7d']) ++ ['\x7d'] := by
      simpa [wrap] using (List.cons.inj (List.cons.inj hp).2).2
    cases (List.append_inj' hend rfl).2
  | _ :: _ :: p, c :: d :: x =>
    exfalso
    rw [wrap, List.cons_append, List.cons_append, List.cons.injEq, List.cons.injEq] at hy
    obtain ⟨rfl, rfl, hy⟩ := hy
    have hin : p ++ '\x7b' :: '\x7b' :: x = body ++ ['\x7d', '\x7d'] :=
      (List.cons.inj (List.cons.inj hp).2).2
    -- the closing braces at its end stand further to the left at its beginning
    have hclose : ['\x7d', '\x7d'] <:+ '\x7b' :: '\x7b' :: x :=
      List.suffix_of_suffix_length_le ⟨body, rfl⟩ ⟨p, hin⟩ (by simp)
    obtain ⟨z, rfl⟩ : ['\x7d', '\x7d'] <:+ x := by
      simpa [List.suffix_cons_iff] using hclose
    have hclosed : Template.closing (z ++ '\x7d' :: '\x7d' :: y) = some (body, []) := by
      rw [← hbody]
      simpa [wrap] using congrArg Template.closing hy
    have hshort := closing_length_le hclosed
    have hlength := congrArg List.length hin
    simp only [List.length_append, List.length_cons, List.length_nil] at hlength
    omega

/-- Where a text goes on with a placeholder, the text of the placeholder begins it only if it lies
in what comes before. -/
theorem prefix_before {body u after : List Char} (hbody : IsBody body) (hu : u ≠ [])
    (hstart : wrap body <+: u ++ (wrap body ++ after)) : wrap body <+: u := by
  rcases List.prefix_or_prefix_of_prefix hstart (List.prefix_append u _) with hbefore | ⟨x, hx⟩
  · exact hbefore
  · have hover : u ++ x <+: u ++ (wrap body ++ after) := by rwa [hx]
    have hshort : x.length ≤ (wrap body).length := by
      rw [← hx, List.length_append]
      exact Nat.le_add_left _ _
    have hborder : x <+: wrap body :=
      List.prefix_of_prefix_length_le ((List.prefix_append_right_inj u).mp hover)
        (List.prefix_append _ _) hshort
    rcases wrap_unbordered hbody hborder ⟨u, hx⟩ with rfl | rfl
    · exact ⟨[], by rw [List.append_nil, ← hx, List.append_nil]⟩
    · exact absurd (List.append_left_eq_self.mp hx) hu

/-! ## The first place -/

/-- Where the text of the placeholder stands nowhere before it, it is replaced itself. -/
theorem replaceFirst_here {body u : List Char} (hbody : IsBody body) (hnone : ¬ wrap body <:+: u)
    (v after : List Char) :
    replaceFirst (wrap body) v (u ++ (wrap body ++ after)) = u ++ (v ++ after) := by
  induction u with
  | nil => exact replaceFirst_found _ v after
  | cons c u ih =>
    have hhere : ¬ wrap body <+: c :: u ++ (wrap body ++ after) := fun hstart =>
      hnone (prefix_before hbody (List.cons_ne_nil c u) hstart).isInfix
    rw [← List.isPrefixOf_iff_prefix, List.cons_append] at hhere
    rw [List.cons_append, replaceFirst, if_neg hhere, ih fun hlater =>
      hnone (List.infix_cons hlater)]
    rfl

/-- Where the text of the placeholder stands before it, it is replaced there. -/
theorem replaceFirst_before {body u : List Char} (hstands : wrap body <:+: u) (v rest : List Char) :
    replaceFirst (wrap body) v (u ++ rest) = replaceFirst (wrap body) v u ++ rest := by
  induction u with
  | nil => cases List.eq_nil_of_infix_nil hstands
  | cons c u ih =>
    rw [List.cons_append, replaceFirst, replaceFirst]
    by_cases hhere : wrap body <+: c :: u
    · have hlonger : wrap body <+: c :: (u ++ rest) := hhere.trans (List.prefix_append _ rest)
      rw [if_pos (List.isPrefixOf_iff_prefix.mpr hhere),
        if_pos (List.isPrefixOf_iff_prefix.mpr hlonger), ← List.cons_append,
        List.drop_append_of_le_length hhere.length_le, List.append_assoc]
    · -- an occurrence that begins earlier than the one in what follows ends earlier too
      have hlater : wrap body <:+: u :=
        (List.infix_cons_iff.mp hstands).resolve_left hhere
      have hnone : ¬ wrap body <+: c :: (u ++ rest) := fun hlonger =>
        hhere (List.prefix_of_prefix_length_le hlonger (List.prefix_append (c :: u) rest)
          (Nat.le_succ_of_le hlater.length_le))
      rw [if_neg (hhere ∘ List.isPrefixOf_iff_prefix.mp),
        if_neg (hnone ∘ List.isPrefixOf_iff_prefix.mp), ih hlater]
      rfl

end Dossier.Template
