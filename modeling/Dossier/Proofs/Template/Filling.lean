import Dossier.Proofs.Template.Resolve
import Dossier.Proofs.Template.Sweep

/-!
# Filling in a text as it stands

A text may hold braces that belong to no placeholder. As long as each of its placeholders names
something and is replaced by a text without braces, one pass fills them in where they stand and no
placeholder is left: a stray brace starts no placeholder after the pass that it did not start
before.
-/

set_option autoImplicit false

namespace Dossier.Template

inductive Fills (writes : List Char → List Char → Prop) : List Piece → List Char → Prop
  | nil : Fills writes [] []
  | plain {c : Char} {ps : List Piece} {t : List Char} (rest : Fills writes ps t) :
      Fills writes (.plain c :: ps) (c :: t)
  | placeholder {body v t : List Char} {ps : List Piece} (write : writes body v)
      (rest : Fills writes ps t) : Fills writes (.placeholder body :: ps) (v ++ t)

theorem Fills.imp {writes writes' : List Char → List Char → Prop}
    {ps : List Piece} {t : List Char} (hfills : Fills writes ps t)
    (himp : ∀ body ∈ bodies ps, ∀ v, writes body v → writes' body v) : Fills writes' ps t := by
  induction hfills with
  | nil => exact .nil
  | plain rest ih => exact .plain (ih himp)
  | @placeholder body v t ps write rest ih =>
    exact .placeholder (himp body (by simp [bodies, Piece.body?]) v write)
      (ih fun b hb => himp b (List.mem_filterMap.mpr (by
        obtain ⟨p, hp, hbody⟩ := List.mem_filterMap.mp hb
        exact ⟨p, by simp [hp], hbody⟩)))

theorem fills_filled {look : List Char → Option (List Char)} {ps : List Piece}
    (hlook : ∀ body ∈ bodies ps, ∃ v, look body = some v) :
    Fills (fun body v => look body = some v) ps (filled look ps) := by
  induction ps with
  | nil => exact .nil
  | cons p ps ih =>
    cases p with
    | plain c => exact .plain (ih hlook)
    | placeholder body =>
      obtain ⟨⟨v, hv⟩, hlater⟩ := List.forall_mem_cons.mp hlook
      have hwrite : (Piece.placeholder body).filled look = v := by
        rw [Piece.filled, hv, Option.getD_some]
      rw [filled_cons, hwrite]
      exact .placeholder hv (ih hlater)

/-! ## Stray braces -/

/-- What two opening braces are followed by is closed where no line break comes before the close. -/
theorem closing_open {u : List Char} (hu : '\n' ∉ u) (after : List Char) :
    closing (u ++ '\x7d' :: '\x7d' :: after) ≠ none := by
  induction u with
  | nil => simp [closing, startsTwice]
  | cons c u ih =>
    rw [List.mem_cons, not_or] at hu
    rw [List.cons_append, closing]
    split
    · simp
    · rw [if_neg (Ne.symm hu.1), ne_eq, Option.map_eq_none_iff]
      exact ih hu.2

/-- What keeps two opening braces from being closed before a placeholder keeps them so whatever the
placeholder is replaced by. -/
theorem closing_none {w s : List Char} (hnone : closing (w ++ s) = none) (hs : closing s ≠ none)
    (t : List Char) : closing (w ++ t) = none := by
  induction w with
  | nil => exact absurd hnone hs
  | cons c w ih =>
    rw [List.cons_append, closing] at hnone ⊢
    split at hnone
    · cases hnone
    next hclose =>
    split at hnone
    · next hline =>
      subst hline
      rw [startsTwice_cons_ne _ (by decide), if_neg (by simp), if_pos rfl]
    next hline =>
    have hrest := Option.map_eq_none_iff.mp hnone
    cases w with
    | nil => exact absurd hrest hs
    | cons d w =>
      rw [List.cons_append] at hclose ⊢
      have hsame : startsTwice '\x7d' (c :: d :: (w ++ t)) = false := by
        simpa [startsTwice] using hclose
      rw [hsame, if_neg (by simp), if_neg hline, ← List.cons_append, ih hrest]
      rfl

def Shut (u rest : List Char) : Prop := ∀ x y, u = x ++ y → y ≠ [] → opening (y ++ rest) = none

theorem shut_nil (rest : List Char) : Shut [] rest := by
  intro x y hxy hy
  obtain ⟨-, rfl⟩ := List.append_eq_nil_iff.mp hxy.symm
  exact absurd rfl hy

theorem Shut.tail {c : Char} {u rest : List Char} (hshut : Shut (c :: u) rest) : Shut u rest :=
  fun x y hxy hy => hshut (c :: x) y (by rw [hxy, List.cons_append]) hy

theorem Shut.snoc {c : Char} {u rest : List Char} (hshut : Shut u (c :: rest))
    (hopening : opening (c :: rest) = none) : Shut (u ++ [c]) rest := by
  intro x y hxy hy
  rcases List.eq_nil_or_concat y with rfl | ⟨y, d, rfl⟩
  · exact absurd rfl hy
  rw [List.concat_eq_append] at hxy ⊢
  obtain ⟨rfl, hd⟩ := List.append_inj' (hxy.trans (List.append_assoc x y [d]).symm) rfl
  cases hd
  rw [List.append_assoc]
  cases y with
  | nil => exact hopening
  | cons e y => exact hshut x (e :: y) rfl (List.cons_ne_nil e y)

theorem pieces_shut {u rest : List Char} (hshut : Shut u rest) :
    pieces (u ++ rest) = u.map Piece.plain ++ pieces rest := by
  induction u with
  | nil => rfl
  | cons c u ih =>
    have hopening : opening (c :: (u ++ rest)) = none :=
      hshut [] (c :: u) rfl (List.cons_ne_nil c u)
    rw [List.cons_append, pieces_of_no_opening hopening, ih hshut.tail]
    rfl

theorem placeholders_shut {u : List Char} (hshut : Shut u []) : placeholders u = [] := by
  have hpieces := pieces_shut hshut
  rw [List.append_nil] at hpieces
  rw [placeholders, hpieces, pieces, List.append_nil, List.filterMap_map]
  exact List.filterMap_eq_nil_iff.mpr fun c _ => rfl

/-- The text of a placeholder does not stand in a text in which none starts. -/
theorem Shut.not_infix {body u rest : List Char} (hbody : IsBody body) (hshut : Shut u rest) :
    ¬ wrap body <:+: u := by
  rintro ⟨x, y, rfl⟩
  have hopening := hshut x (wrap body ++ y) (List.append_assoc x _ y) (by simp [wrap])
  rw [List.append_assoc, hbody.opening] at hopening
  cases hopening

/-- A text before a placeholder stays shut when a text without braces takes its place. -/
theorem Shut.write {body u v after : List Char} (hbody : IsBody body)
    (hshut : Shut u (wrap body ++ after)) (hv : Braceless v) : Shut (u ++ v) after := by
  have hbrace (c : Char) (s : List Char) (hc : c ≠ '\x7b') : opening (c :: s) = none := by
    rw [opening, startsTwice_cons_ne _ hc, if_neg (by simp)]
  have hopened (n : Nat) :
      closing (List.replicate n '\x7b' ++ (body ++ '\x7d' :: '\x7d' :: after)) ≠
      none := by
    rw [← List.append_assoc]
    refine closing_open (fun hline => ?_) after
    rcases List.mem_append.mp hline with hline | hline
    · exact absurd (List.eq_of_mem_replicate hline) (by decide)
    · exact hbody.line hline
  have hcloses : closing (wrap body ++ after) ≠ none := by
    simpa [wrap, List.replicate] using hopened 2
  -- a brace right before the placeholder would have opened a placeholder that takes it in
  have hopens : opening ('\x7b' :: (wrap body ++ after)) ≠ none := by
    simpa [opening, wrap, startsTwice, List.replicate] using hopened 1
  intro x y hxy hy
  rcases List.append_eq_append_iff.mp hxy with ⟨w, rfl, rfl⟩ | ⟨w, rfl, rfl⟩
  · -- from inside the text written
    cases y with
    | nil => exact absurd rfl hy
    | cons c y =>
      refine hbrace c _ (isBrace_opening ?_)
      exact (braceless_append.mp hv).2 c (by simp)
  · -- from before it
    rcases w with _ | ⟨c, _ | ⟨d, w⟩⟩
    · cases v with
      | nil => exact absurd rfl hy
      | cons c v => exact hbrace c _ (isBrace_opening (braceless_cons.mp hv).1)
    · have hopening := hshut x [c] rfl (by simp)
      rw [List.append_assoc]
      refine hbrace c _ ?_
      rintro rfl
      exact hopens hopening
    · have hopening := hshut x (c :: d :: w) rfl (by simp)
      rw [List.append_assoc]
      by_cases htwice : startsTwice '\x7b' (c :: d :: w ++ (wrap body ++ after)) = true
      · rw [opening, if_pos htwice] at hopening
        rw [opening, startsTwice_append (by simp) _ (wrap body ++ after), if_pos htwice]
        exact closing_none (w := w) hopening hcloses (v ++ after)
      · rw [opening, startsTwice_append (by simp) _ (wrap body ++ after), if_neg htwice]

/-! ## Pieces of a text -/

theorem pieces_tail {s : List Char} {p : Piece} {ps : List Piece} (hs : pieces s = p :: ps) :
    ∃ rest, pieces rest = ps := by
  cases s with
  | nil =>
    rw [pieces] at hs
    cases hs
  | cons c rest =>
    cases hopening : opening (c :: rest) with
    | none =>
      rw [pieces_of_no_opening hopening] at hs
      exact ⟨rest, (List.cons.inj hs).2⟩
    | some found =>
      rw [pieces_of_opening hopening] at hs
      exact ⟨found.2, (List.cons.inj hs).2⟩

/-- The pieces from some place on are those of the text from there on. -/
theorem pieces_suffix {s : List Char} {before after : List Piece}
    (hs : pieces s = before ++ after) :
    pieces (after.flatMap Piece.text) = after := by
  induction before generalizing s with
  | nil =>
    rw [List.nil_append] at hs
    rw [← hs, pieces_text]
  | cons p before ih =>
    obtain ⟨rest, hrest⟩ := pieces_tail hs
    exact ih hrest

theorem opening_plain_piece {s : List Char} {c : Char} {ps : List Piece}
    (hs : pieces s = .plain c :: ps) : opening s = none := by
  cases hopening : opening s with
  | none => rfl
  | some found =>
    rw [pieces_of_opening hopening] at hs
    cases hs

section Shutting

variable {look : List Char → Option (List Char)} {s : List Char}

/-- Placeholders that texts without braces are written for leave the text shut, up to any place. -/
theorem filled_shut {before after : List Piece} (hs : pieces s = before ++ after)
    (hlook : ∀ body ∈ bodies before, ∃ v, look body = some v ∧ Braceless v) :
    Shut (filled look before) (after.flatMap Piece.text) := by
  induction before using List.reverseRecOn generalizing after with
  | nil => exact shut_nil _
  | append_singleton before p ih =>
    rw [List.append_assoc] at hs
    rw [bodies_append] at hlook
    obtain ⟨hbefore, hp⟩ := List.forall_mem_append.mp hlook
    have hshut := ih hs hbefore
    have hpieces := pieces_suffix hs
    rw [filled_append]
    cases p with
    | plain c => exact hshut.snoc (opening_plain_piece hpieces)
    | placeholder body =>
      obtain ⟨v, hv, hbraceless⟩ := hp body (by simp [bodies, Piece.body?])
      have hbody : IsBody body := placeholders_isBody body (mem_placeholders hs)
      have hwrite : filled look [.placeholder body] = v := by simp [filled, Piece.filled, hv]
      rw [hwrite]
      exact hshut.write hbody hbraceless

/-- So each placeholder stands where its text is first found. -/
theorem filled_inPlace (hlook : ∀ body ∈ placeholders s, ∃ v, look body = some v ∧ Braceless v) :
    InPlace look [] (pieces s) := by
  intro before body after hs
  have hfound := placeholders_split hs
  have hshut := filled_shut hs fun b hb => hlook b (by rw [hfound]; exact List.mem_append_left _ hb)
  exact hshut.not_infix (placeholders_isBody body (mem_placeholders hs))

end Shutting

/-! ## One pass -/

section Pass

variable {r : Rules} {s : List Char}

/-- A placeholder that is not blank is replaced by a text without braces, or stands for a number
that cannot be written. -/
structure Rules.Places (r : Rules) (body : List Char) : Prop where
  named : isBlankBody body = false
  text : r.meaning (Text.trim body) = .tooLarge ∨
    ∃ v, r.replacement? body = some v ∧ Braceless v

/-- Passes fill in all placeholders where they stand, if every one is replaced by a text without
braces and one pass is allowed. -/
theorem passes_filled (n : Nat) (hnamed : ∀ body ∈ placeholders s, isBlankBody body = false)
    (hlook : ∀ body ∈ placeholders s, ∃ v, r.replacement? body = some v ∧ Braceless v) :
    passes r (n + 1) s = .ok (some (filled r.replacement? (pieces s))) := by
  have hpass := pass_all_go fun body hbody => Rules.stops_eq_false_iff.mpr
    ⟨hnamed body hbody, (hlook body hbody).imp fun _ => And.left⟩
  rw [sweep_inPlace (filled_inPlace hlook), List.nil_append] at hpass
  by_cases hs : placeholders s = []
  · rw [hs] at hpass
    have hsame : s = filled r.replacement? (pieces s) := Pass.complete.inj (Except.ok.inj hpass)
    rw [passes_done _ hs, ← hsame]
  · have hshut := filled_shut (List.append_nil (pieces s)).symm hlook
    rw [passes_complete hs hpass, passes_done _ (placeholders_shut hshut)]

/-- A number that cannot be written is what can keep them from it. -/
theorem passes_fills {s : List Char} (n : Nat) (hplaces : ∀ body ∈ placeholders s, r.Places body) :
    passes r (n + 1) s = .error .tooLarge ∨
      ∃ t, passes r (n + 1) s = .ok (some t) ∧
        Fills (fun body v => r.replacement? body = some v) (pieces s) t := by
  have hnamed := fun body hbody => (hplaces body hbody).named
  rcases all_go_or_stop r (pieces s) with hgo | ⟨before, body, after, hs, hgo, hstops⟩
  · right
    have hlook (body : List Char) (hbody : body ∈ placeholders s) :
        ∃ v, r.replacement? body = some v ∧ Braceless v := by
      obtain ⟨-, v, hv⟩ := Rules.stops_eq_false_iff.mp (hgo body hbody)
      refine (hplaces body hbody).text.resolve_left fun hlarge => ?_
      simp [Rules.replacement?, hlarge] at hv
    exact ⟨_, passes_filled n hnamed hlook,
      fills_filled fun body hbody => (hlook body hbody).imp fun _ => And.left⟩
  · left
    have hbody : body ∈ placeholders s := mem_placeholders hs
    have hlarge : r.meaning (Text.trim body) = .tooLarge := by
      refine (hplaces body hbody).text.resolve_right ?_
      rintro ⟨v, hv, -⟩
      simp [Rules.stops, hv, hnamed body hbody] at hstops
    rw [passes_succ (List.ne_nil_of_mem hbody), pass_comes_to hs hgo,
      pass_tooLarge (hnamed body hbody) hlarge]

end Pass

/-! ## Resolving -/

section Resolving

variable {env : Environment} {scope : Fields} {s : String}

/-- A text whose placeholders all stand for texts without braces resolves with each replaced where
it stands, whatever braces stand around them. At no time are there other placeholders than those of
the text that are still to come. -/
theorem resolveValue_inPlace {env? : Option Environment} {limit? : Option Int} {limit : Int}
    {h h' : Host} (hsetting : Run.templateSetting env? limit? h = (.ok ⟨env, limit⟩, h'))
    (hlimit : 1 ≤ limit)
    (hfound : ∀ body ∈ placeholders s.toList, isBlankBody body = false ∧
      ∃ v, standsFor env scope body = some v ∧ Braceless v) (suppress : Bool) :
    Run.resolveValue env? limit? scope suppress (.text s) h =
        (.ok (.text (String.ofList (filled (standsFor env scope) (pieces s.toList)))), h') ∧
      ∀ before after, pieces s.toList = before ++ after →
        pieces (filled (standsFor env scope) before ++ after.flatMap Piece.text) =
          (filled (standsFor env scope) before).map Piece.plain ++ after := by
  have hlook := fun body hbody => (hfound body hbody).2
  constructor
  · obtain ⟨n, hn⟩ : ∃ n, limit.toNat = n + 1 := ⟨limit.toNat - 1, by omega⟩
    have hpasses := passes_filled (r := ⟨meaning env scope, suppress, some []⟩) n
      (fun body hbody => (hfound body hbody).1) hlook
    rw [resolveValue_text hsetting]
    simp only [resolve, run, hn, hpasses]
    rfl
  · intro before after hs
    have hshut := filled_shut hs fun body hbody => hlook body (by
      rw [placeholders_append hs]
      exact List.mem_append_left _ hbody)
    rw [pieces_shut hshut, pieces_suffix hs]

end Resolving

def braced : String :=
  "\x7b\x7b open\n\x7b\"to\": [\x7b\x7b criteria.name \x7d\x7d], \"by\": \x7b\x7bcriteria.title\x7d\x7d\x7d\x7d\x7d"

/-- The braces that belong to no placeholder stay as they are, and none appears. -/
theorem resolveValue_inPlace_braced :
    Run.resolveValue (some []) (some 1) greetings false (.text braced) Host.bare =
        (.ok (.text (String.ofList (filled (standsFor [] greetings) (pieces braced.toList)))),
          Host.bare) ∧
      String.ofList (filled (standsFor [] greetings) (pieces braced.toList)) =
        "\x7b\x7b open\n\x7b\"to\": [Ann], \"by\": \x7d\x7d\x7d" := by
  have hfound : ∀ body ∈ placeholders braced.toList, isBlankBody body = false ∧
      ∃ v, standsFor [] greetings body = some v ∧ Braceless v := by
    have hlooked : placeholders braced.toList =
        [" criteria.name ".toList, "criteria.title".toList] := by decide +kernel
    simp only [hlooked, List.forall_mem_cons]
    exact ⟨⟨by decide +kernel, "Ann".toList, by decide +kernel⟩,
      ⟨by decide +kernel, [], by decide +kernel⟩, by simp⟩
  exact ⟨(resolveValue_inPlace rfl (Int.le_refl 1) hfound false).1, by decide +kernel⟩

end Dossier.Template
