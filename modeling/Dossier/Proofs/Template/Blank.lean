import Dossier.Proofs.Host.Limits
import Dossier.Proofs.Template.Suppression

/-!
# Blank placeholders

A blank placeholder is a failure wherever a pass finds it, also behind one that is unknown. A pass
finds what stood in its text when it began. So a blank placeholder that comes in with a text written
is found by the next pass, if there is one: there is none once an unknown placeholder has stopped a
pass with errors suppressed. And a number that cannot be written fails first where it stands first.
-/

set_option autoImplicit false

namespace Dossier.Template

def hasBlank (s : List Char) : Bool := (placeholders s).any isBlankBody

inductive ComesTo (r : Rules) : Nat → List Char → Nat → List Char → Prop
  | here {left : Nat} {s : List Char} : ComesTo r left s left s
  | further {left k : Nat} {s t u : List Char} (run : pass r (placeholders s) s = .ok (.complete t))
      (later : ComesTo r left t k u) : ComesTo r (left + 1) s k u

def TurnsUp (r : Rules) (left : Nat) (s u : List Char) : Prop :=
  ∃ k v, ComesTo r left s k v ∧
    (u = v ∨ ∃ j, k = j + 1 ∧ pass r (placeholders v) v = .ok (.stopped u))

/-- A pass over the text goes as far as a placeholder that is not blank: all that come before it
give way to texts. -/
structure GoesUpTo (r : Rules) (s : List Char) (before : List Piece) (body : List Char)
    (after : List Piece) : Prop where
  split : pieces s = before ++ .placeholder body :: after
  go : ∀ b ∈ bodies before, r.stops b = false
  named : isBlankBody body = false

def upTo (r : Rules) (before : List Piece) (body : List Char) (after : List Piece) : List Char :=
  sweep r.replacement? [] before ++ (wrap body ++ after.flatMap Piece.text)

section Passes

variable {r : Rules} {left k : Nat} {s t u body : List Char} {before after : List Piece}

theorem hasBlank_eq_false_iff :
    hasBlank s = false ↔ ∀ b ∈ placeholders s, isBlankBody b = false := by
  simp [hasBlank]

theorem hasBlank_eq_true_iff : hasBlank s = true ↔ ∃ b ∈ placeholders s, isBlankBody b = true := by
  simp [hasBlank]

theorem ComesTo.passes (hcomes : ComesTo r left s k u) : passes r left s = passes r k u := by
  induction hcomes with
  | here => rfl
  | @further left k s t u run later ih =>
    rw [← ih]
    by_cases hs : placeholders s = []
    · rw [hs] at run
      cases run
      rw [passes_done _ hs, passes_done _ hs]
    · exact passes_complete hs run

/-- What comes out is one of the texts that turn up. -/
theorem turnsUp_result (hrun : passes r left s = .ok (some t)) : TurnsUp r left s t := by
  induction left generalizing s with
  | zero =>
    cases hs : placeholders s with
    | nil =>
      rw [passes_done _ hs] at hrun
      cases hrun
      exact ⟨0, t, .here, .inl rfl⟩
    | cons body later =>
      rw [passes_out hs] at hrun
      cases hrun
  | succ left ih =>
    by_cases hs : placeholders s = []
    · rw [passes_done _ hs] at hrun
      cases hrun
      exact ⟨left + 1, t, .here, .inl rfl⟩
    rw [passes_succ hs] at hrun
    cases hpass : pass r (placeholders s) s with
    | error halt =>
      rw [hpass] at hrun
      cases hrun
    | ok outcome =>
      rw [hpass] at hrun
      cases outcome with
      | complete v =>
        obtain ⟨k, w, hcomes, hw⟩ := ih hrun
        exact ⟨k, w, .further hpass hcomes, hw⟩
      | stopped v =>
        cases hrun
        exact ⟨left + 1, s, .here, .inr ⟨left, rfl, hpass⟩⟩
      | missing => cases hrun

/-! ## The end of a pass -/

namespace GoesUpTo

theorem placeholders (hgoes : GoesUpTo r s before body after) :
    placeholders s = bodies before ++ body :: bodies after := placeholders_split hgoes.split

theorem ne_nil (hgoes : GoesUpTo r s before body after) : Template.placeholders s ≠ [] :=
  List.ne_nil_of_mem (mem_placeholders hgoes.split)

/-- A blank placeholder of the text can only come after it. -/
theorem hasBlank_iff (hgoes : GoesUpTo r s before body after) :
    hasBlank s = true ↔ ∃ b ∈ bodies after, isBlankBody b = true := by
  have hbefore : ∀ b ∈ bodies before, isBlankBody b = false := fun b hb =>
    (Rules.stops_eq_false_iff.mp (hgoes.go b hb)).1
  rw [hasBlank_eq_true_iff, hgoes.placeholders]
  constructor
  · rintro ⟨b, hb, hblank⟩
    rcases List.mem_append.mp hb with hb | hb
    · rw [hbefore b hb] at hblank
      cases hblank
    · rcases List.mem_cons.mp hb with rfl | hb
      · rw [hgoes.named] at hblank
        cases hblank
      · exact ⟨b, hb, hblank⟩
  · rintro ⟨b, hb, hblank⟩
    exact ⟨b, List.mem_append_right _ (List.mem_cons_of_mem body hb), hblank⟩

theorem pass_tooLarge (hgoes : GoesUpTo r s before body after)
    (hmeaning : r.meaning (Text.trim body) = .tooLarge) :
    pass r (Template.placeholders s) s = .error .tooLarge := by
  rw [pass_comes_to hgoes.split hgoes.go, Template.pass_tooLarge hgoes.named hmeaning]

theorem pass_unknown (hgoes : GoesUpTo r s before body after)
    (hmeaning : r.meaning (Text.trim body) = .unknown) :
    pass r (Template.placeholders s) s =
      if r.suppress then stop (bodies after) (upTo r before body after)
      else .error (.invalid body) := by
  rw [pass_comes_to hgoes.split hgoes.go, Template.pass_unknown hgoes.named hmeaning]
  rfl

end GoesUpTo

/-- How a pass ends when nothing is written as some text: it is complete, fails for an invalid
placeholder or for a number that cannot be written, or stops at an unknown placeholder with no blank
one after it. -/
theorem pass_ends (hnothing : r.nothing ≠ none) (s : List Char) :
    (∃ t, pass r (placeholders s) s = .ok (.complete t) ∧ hasBlank s = false) ∨
    (∃ body, pass r (placeholders s) s = .error (.invalid body)) ∨
    (∃ before body after, GoesUpTo r s before body after ∧
      r.meaning (Text.trim body) = .tooLarge ∧ pass r (placeholders s) s = .error .tooLarge) ∨
    ∃ before body after, GoesUpTo r s before body after ∧ r.suppress = true ∧
      r.meaning (Text.trim body) = .unknown ∧ (∀ b ∈ bodies after, isBlankBody b = false) ∧
      pass r (placeholders s) s = .ok (.stopped (upTo r before body after)) := by
  rcases all_go_or_stop r (pieces s) with hgo | ⟨before, body, after, hs, hgo, hstops⟩
  · refine .inl ⟨_, pass_all_go hgo, hasBlank_eq_false_iff.mpr fun b hb => ?_⟩
    exact (Rules.stops_eq_false_iff.mp (hgo b hb)).1
  · rcases Rules.stops_cases hstops with hblank | ⟨hnamed, hmeaning | hmeaning | ⟨-, hnone⟩⟩
    · exact .inr (.inl ⟨body, by rw [pass_comes_to hs hgo, pass_blank hblank]⟩)
    · have hgoes : GoesUpTo r s before body after := ⟨hs, hgo, hnamed⟩
      have hpass := hgoes.pass_unknown hmeaning
      cases hsuppress : r.suppress with
      | false => exact .inr (.inl ⟨body, by rw [hpass, hsuppress, if_neg Bool.false_ne_true]⟩)
      | true =>
        rw [hsuppress, if_pos rfl] at hpass
        cases hfind : (bodies after).find? isBlankBody with
        | some blank => exact .inr (.inl ⟨blank, by rw [hpass, stop, hfind]⟩)
        | none =>
          have hnamed : ∀ b ∈ bodies after, isBlankBody b = false := fun b hb => by
            simpa using List.find?_eq_none.mp hfind b hb
          rw [stop_named hnamed] at hpass
          exact .inr (.inr (.inr ⟨before, body, after, hgoes, rfl, hmeaning, hnamed, hpass⟩))
    · have hgoes : GoesUpTo r s before body after := ⟨hs, hgo, hnamed⟩
      exact .inr (.inr (.inl ⟨before, body, after, hgoes, hmeaning, hgoes.pass_tooLarge hmeaning⟩))
    · exact absurd hnone hnothing

/-! ## The end of all passes -/

/-- No number that cannot be written stands before a blank placeholder, and with errors suppressed
no pass that stops at an unknown placeholder leaves a blank one in what it has written. -/
def Rules.FindsBlanks (r : Rules) (left : Nat) (s : List Char) : Prop :=
  ∀ k u before body after, ComesTo r left s (k + 1) u → GoesUpTo r u before body after →
    (r.meaning (Text.trim body) = .tooLarge → hasBlank u = false) ∧
    (r.suppress = true → r.meaning (Text.trim body) = .unknown → hasBlank u = false →
      hasBlank (upTo r before body after) = false)

/-- A pass that begins with a blank placeholder fails for a blank one, unless a number stops it
before. -/
theorem pass_hasBlank (hnothing : r.nothing ≠ none) (hblank : hasBlank u = true)
    (hnumbers : ∀ before body after, GoesUpTo r u before body after →
      r.meaning (Text.trim body) = .tooLarge → hasBlank u = false) :
    ∃ body, pass r (placeholders u) u = .error (.invalid body) := by
  rcases pass_ends hnothing u with ⟨t, -, hnone⟩ | hpass |
    ⟨before, body, after, hgoes, hmeaning, -⟩ | ⟨before, body, after, hgoes, -, -, hnamed, -⟩
  · rw [hnone] at hblank
    cases hblank
  · exact hpass
  · rw [hnumbers before body after hgoes hmeaning] at hblank
    cases hblank
  · obtain ⟨b, hb, hbblank⟩ := hgoes.hasBlank_iff.mp hblank
    rw [hnamed b hb] at hbblank
    cases hbblank

/-- A pass that stops at an unknown placeholder has begun without a blank one. -/
theorem pass_stopped (hnothing : r.nothing ≠ none)
    (hstopped : pass r (placeholders s) s = .ok (.stopped u)) :
    ∃ before body after, GoesUpTo r s before body after ∧ r.suppress = true ∧
      r.meaning (Text.trim body) = .unknown ∧ hasBlank s = false ∧
        u = upTo r before body after := by
  rcases pass_ends hnothing s with ⟨t, hpass, -⟩ | ⟨body, hpass⟩ |
    ⟨before, body, after, -, -, hpass⟩ |
    ⟨before, body, after, hgoes, hsuppress, hmeaning, hnamed, hpass⟩
  · cases hstopped.symm.trans hpass
  · cases hstopped.symm.trans hpass
  · cases hstopped.symm.trans hpass
  · cases hstopped.symm.trans hpass
    refine ⟨before, body, after, hgoes, hsuppress, hmeaning, ?_, rfl⟩
    rw [← Bool.not_eq_true, hgoes.hasBlank_iff]
    rintro ⟨b, hb, hbblank⟩
    rw [hnamed b hb] at hbblank
    cases hbblank

/-- All passes fail for a placeholder as soon as a blank one turns up, exactly when blank ones are
found. -/
theorem passes_blank_iff (hnothing : r.nothing ≠ none) :
    (∀ u, TurnsUp r left s u → hasBlank u = true →
      ∃ halt, passes r left s = .error halt ∧ halt ≠ .tooLarge) ↔ r.FindsBlanks left s := by
  constructor
  · intro hrefuses k u before body after hcomes hgoes
    refine ⟨fun hmeaning => ?_, fun hsuppress hmeaning hnamed => ?_⟩
    · rw [← Bool.not_eq_true]
      intro hblank
      obtain ⟨halt, hrun, hhalt⟩ := hrefuses u ⟨k + 1, u, hcomes, .inl rfl⟩ hblank
      rw [hcomes.passes, passes_succ hgoes.ne_nil, hgoes.pass_tooLarge hmeaning] at hrun
      cases hrun
      exact hhalt rfl
    · rw [← Bool.not_eq_true]
      intro hblank
      have hafter : ∀ b ∈ bodies after, isBlankBody b = false := fun b hb =>
        hasBlank_eq_false_iff.mp hnamed b (by rw [hgoes.placeholders]; simp [hb])
      have hpass := hgoes.pass_unknown hmeaning
      rw [hsuppress, if_pos rfl, stop_named hafter] at hpass
      obtain ⟨halt, hrun, -⟩ := hrefuses _ ⟨k + 1, u, hcomes, .inr ⟨k, rfl, hpass⟩⟩ hblank
      rw [hcomes.passes, passes_succ hgoes.ne_nil, hpass] at hrun
      cases hrun
  · rintro hfinds u ⟨k, v, hcomes, rfl | ⟨j, rfl, hstopped⟩⟩ hblank
    · -- the text is one that a pass begins with, unless no pass is left
      have hne : placeholders u ≠ [] := by
        obtain ⟨b, hb, -⟩ := hasBlank_eq_true_iff.mp hblank
        exact List.ne_nil_of_mem hb
      rw [hcomes.passes]
      cases k with
      | zero =>
        obtain ⟨body, later, hu⟩ := List.exists_cons_of_ne_nil hne
        exact ⟨.tooManyPasses body, passes_out hu, nofun⟩
      | succ k =>
        obtain ⟨body, hpass⟩ := pass_hasBlank hnothing hblank fun before body after hgoes =>
          (hfinds k u before body after hcomes hgoes).1
        exact ⟨.invalid body, by rw [passes_succ hne, hpass], nofun⟩
    · -- the text is what a pass has left
      obtain ⟨before, body, after, hgoes, hsuppress, hmeaning, hnone, rfl⟩ :=
        pass_stopped hnothing hstopped
      rw [(hfinds j v before body after hcomes hgoes).2 hsuppress hmeaning hnone] at hblank
      cases hblank

end Passes

/-! ## Resolving -/

section Resolving

variable {env : Environment} {scope : Fields}

theorem toFailure_ofToken_iff {limit : Int} {halt : Halt} :
    (halt.toFailure limit).OfToken ↔ halt ≠ .tooLarge := by
  cases halt <;> simp [Halt.toFailure, Failure.ofToken_iff]

/-- A text with a blank placeholder never comes out, and wherever one turns up the failure is that
of a placeholder, exactly when no number that cannot be written stands before a blank placeholder
and, with errors suppressed, no pass that stops leaves one in what it has written. -/
theorem resolveValue_blank_iff {env? : Option Environment} {limit? : Option Int} {limit : Int}
    {h h' : Host} (hsetting : Run.templateSetting env? limit? h = (.ok ⟨env, limit⟩, h'))
    (suppress : Bool) (s : String) :
    ((∀ t k, Run.resolveValue env? limit? scope suppress (.text s) h = (.ok (.text t), k) →
        hasBlank t.toList = false) ∧
      ∀ u, TurnsUp ⟨meaning env scope, suppress, some []⟩ limit.toNat s.toList u →
        hasBlank u = true →
        ∃ e, Run.resolveValue env? limit? scope suppress (.text s) h = (.error e, h') ∧ e.OfToken) ↔
    Rules.FindsBlanks ⟨meaning env scope, suppress, some []⟩ limit.toNat s.toList := by
  rw [← passes_blank_iff (r := ⟨meaning env scope, suppress, some []⟩) nofun]
  rcases hrun : passes ⟨meaning env scope, suppress, some []⟩ limit.toNat s.toList with halt | _ | v
  · rw [resolveValue_halted hsetting hrun]
    constructor
    · intro hclaim u hu hblank
      obtain ⟨e, he, htoken⟩ := hclaim.2 u hu hblank
      cases he
      exact ⟨halt, rfl, toFailure_ofToken_iff.mp htoken⟩
    · refine fun hrefuses => ⟨fun t k ht => ?_, fun u hu hblank => ?_⟩
      · cases (Prod.mk.inj ht).1
      obtain ⟨halt', hhalt, hne⟩ := hrefuses u hu hblank
      cases hhalt
      exact ⟨_, rfl, toFailure_ofToken_iff.mpr hne⟩
  · exact absurd hrun (passes_written (by simp) _ _)
  · rw [resolveValue_passed hsetting hrun]
    constructor
    · intro hclaim u hu hblank
      obtain ⟨e, he, -⟩ := hclaim.2 u hu hblank
      cases he
    · -- nothing fails, so nothing blank turns up, and what comes out is one of the texts that do
      intro hrefuses
      have hnone (u : List Char)
          (hu : TurnsUp ⟨meaning env scope, suppress, some []⟩ limit.toNat s.toList u)
          (hblank : hasBlank u = true) : False := by
        obtain ⟨halt, hhalt, -⟩ := hrefuses u hu hblank
        cases hhalt
      refine ⟨fun t k ht => ?_, fun u hu hblank => (hnone u hu hblank).elim⟩
      cases ht
      rw [← Bool.not_eq_true, String.toList_ofList]
      exact hnone v (turnsUp_result hrun)

end Resolving

/-- An unknown criterion is left in a greeting, and nothing blank with it. -/
theorem resolveValue_blank_greeting :
    ∃ t, Run.resolveValue (some []) (some 1) greetings true (.text unknownGreeting) Host.bare =
        (.ok (.text t), Host.bare) ∧ hasBlank t.toList = false := by
  have hpass : pass ⟨meaning [] greetings, true, some []⟩ (placeholders unknownGreeting.toList)
      unknownGreeting.toList = .ok (.stopped "Ann, \x7b\x7bcriteria.age\x7d\x7d".toList) := by
    decide +kernel
  have hsmall : ∀ b ∈ placeholders unknownGreeting.toList,
      meaning [] greetings (Text.trim b) ≠ .tooLarge := by decide +kernel
  have hfinds : Rules.FindsBlanks ⟨meaning [] greetings, true, some []⟩ (Int.toNat 1)
      unknownGreeting.toList := by
    intro k u before body after hcomes hgoes
    -- the first pass stops, so no other text is come to
    cases hcomes with
    | further run later => cases hpass.symm.trans run
    | here =>
      refine ⟨fun hmeaning => absurd hmeaning (hsmall body (mem_placeholders hgoes.split)),
        fun _ hmeaning _ => ?_⟩
      have hstop := hgoes.pass_unknown hmeaning
      rw [hpass, if_pos rfl, stop] at hstop
      split at hstop
      · cases hstop
      · rw [← Pass.stopped.inj (Except.ok.inj hstop)]
        decide +kernel
  have hpasses : passes ⟨meaning [] greetings, true, some []⟩ (Int.toNat 1) unknownGreeting.toList =
      .ok (some "Ann, \x7b\x7bcriteria.age\x7d\x7d".toList) := by decide +kernel
  have hsetting : Run.templateSetting (some []) (some 1) Host.bare = (.ok ⟨[], 1⟩, Host.bare) := rfl
  have hrun := resolveValue_passed hsetting hpasses
  exact ⟨_, hrun, ((resolveValue_blank_iff hsetting true unknownGreeting).mpr hfinds).1 _ _ hrun⟩

def blankNote : Fields := [("criteria", .object [("note", .text "\x7b\x7b \x7d\x7d")])]

/-- A note written before an unknown criterion leaves its blank placeholder in the text. -/
theorem note_leaves_blank :
    ∃ t k, Run.resolveValue (some []) none blankNote true
        (.text "\x7b\x7bcriteria.note\x7d\x7d \x7b\x7bcriteria.date\x7d\x7d") Host.bare =
          (.ok (.text t), k) ∧
      t = "\x7b\x7b \x7d\x7d \x7b\x7bcriteria.date\x7d\x7d" ∧ hasBlank t.toList = true := by
  have hrun : passes ⟨meaning [] blankNote, true, some []⟩ (Int.toNat 32)
      "\x7b\x7bcriteria.note\x7d\x7d \x7b\x7bcriteria.date\x7d\x7d".toList =
      .ok (some "\x7b\x7b \x7d\x7d \x7b\x7bcriteria.date\x7d\x7d".toList) := by decide +kernel
  have hsetting : Run.templateSetting (some []) none Host.bare = (.ok ⟨[], 32⟩, Host.bare) := rfl
  exact ⟨_, _, resolveValue_passed hsetting hrun, by decide +kernel, by decide +kernel⟩

end Dossier.Template
