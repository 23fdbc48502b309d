import Dossier.Proofs.Template.Resolve
import Dossier.Proofs.Template.Sweep

/-!
# Failing with errors suppressed

With errors suppressed, a placeholder that stands for nothing known ends the resolution of its text
without a failure. That placeholder is then still there, so the text shows that it is not resolved.
What stands before it has been replaced, each placeholder at the first place of its text. This is
its own place unless a text written before brings in the same placeholder.
-/

set_option autoImplicit false

namespace Dossier.Template

/-! ## Two outcomes of one text -/

/-- How a text may come out without suppression and with it: resolved both times, failed both times,
or failed at a placeholder that suppression leaves in the text. -/
inductive Endings : Except Halt (Option (List Char)) → Except Halt (Option (List Char)) → Prop
  | resolved {t : List Char} (hdone : placeholders t = []) : Endings (.ok (some t)) (.ok (some t))
  | failed (halt halt' : Halt) : Endings (.error halt) (.error halt')
  | stopped {body t : List Char} (hbody : IsBody body) (hthere : wrap body <:+: t) :
      Endings (.error (.invalid body)) (.ok (some t))

section Passes

variable (m : List Char → Meaning)

theorem passes_endings (left : Nat) (s : List Char) :
    Endings (passes ⟨m, false, some []⟩ left s) (passes ⟨m, true, some []⟩ left s) := by
  induction left generalizing s with
  | zero =>
    cases hs : placeholders s with
    | nil =>
      rw [passes_done _ hs, passes_done _ hs]
      exact .resolved hs
    | cons body later =>
      rw [passes_out hs, passes_out hs]
      exact .failed _ _
  | succ left ih =>
    by_cases hs : placeholders s = []
    · rw [passes_done _ hs, passes_done _ hs]
      exact .resolved hs
    rw [passes_succ hs, passes_succ hs]
    rcases all_go_or_stop ⟨m, true, some []⟩ (pieces s) with
      hgo | ⟨before, body, after, hpieces, hgo, hstops⟩
    · have hpass (suppress : Bool) := pass_all_go (r := ⟨m, suppress, some []⟩) hgo
      rw [hpass, hpass]
      exact ih _
    · have hpass (suppress : Bool) := pass_comes_to (r := ⟨m, suppress, some []⟩) hpieces hgo
      rw [hpass, hpass]
      rcases Rules.stops_cases hstops with
        hblank | ⟨hblank, hmeaning | hmeaning | ⟨-, hnothing⟩⟩
      · rw [pass_blank hblank, pass_blank hblank]
        exact .failed _ _
      · have hstop (suppress : Bool) := pass_unknown (r := ⟨m, suppress, some []⟩) hblank hmeaning
        rw [hstop, hstop, if_neg Bool.false_ne_true, if_pos rfl, stop]
        -- a blank placeholder further on is a failure even where this one is not
        cases (bodies after).find? isBlankBody with
        | some blank => exact .failed _ _
        | none =>
          have hbody : IsBody body := placeholders_isBody body (mem_placeholders hpieces)
          dsimp only
          exact .stopped hbody ⟨_, _, List.append_assoc _ _ _⟩
      · have hlarge (suppress : Bool) := pass_tooLarge (r := ⟨m, suppress, some []⟩) hblank hmeaning
        rw [hlarge, hlarge]
        exact .failed _ _
      · cases hnothing

end Passes

section Resolving

variable {env? : Option Environment} {limit? : Option Int} {scope : Fields}

/-- Without a setting, no value with a text in it is resolved. -/
theorem resolveValue_unset {v : Value} {e : Failure} {h h' : Host} (hv : hasText v = true)
    (hsetting : Run.templateSetting env? limit? h = (.error e, h')) (suppress : Bool) :
    Run.resolveValue env? limit? scope suppress v h = (.error e, h') := by
  unfold Run.resolveValue
  rw [if_pos hv, Run.bind_apply, hsetting]

/-- The three ways for a text that is resolved on a host. -/
theorem resolveValue_endings (env? : Option Environment) (limit? : Option Int) (scope : Fields)
    (s : String) (h : Host) : ∃ h',
    (∃ t, contains t = false ∧
      Run.resolveValue env? limit? scope false (.text s) h = (.ok (.text t), h') ∧
      Run.resolveValue env? limit? scope true (.text s) h = (.ok (.text t), h')) ∨
    (∃ e e', Run.resolveValue env? limit? scope false (.text s) h = (.error e, h') ∧
      Run.resolveValue env? limit? scope true (.text s) h = (.error e', h')) ∨
    ∃ body t, contains t = true ∧ wrap body <:+: t.toList ∧
      Run.resolveValue env? limit? scope false (.text s) h =
        (.error (.invalidToken (String.ofList (wrap body))), h') ∧
      Run.resolveValue env? limit? scope true (.text s) h = (.ok (.text t), h') := by
  rcases hsetting : Run.templateSetting env? limit? h with ⟨e | setting, h'⟩
  · exact ⟨h', .inr (.inl ⟨e, e, resolveValue_unset rfl hsetting false,
      resolveValue_unset rfl hsetting true⟩)⟩
  refine ⟨h', ?_⟩
  have hendings := passes_endings (meaning setting.environment scope) setting.limit.toNat s.toList
  rw [resolveValue_text hsetting, resolveValue_text hsetting]
  unfold resolve run
  generalize passes ⟨_, false, _⟩ _ _ = plain at hendings ⊢
  generalize passes ⟨_, true, _⟩ _ _ = suppressed at hendings ⊢
  cases hendings with
  | @resolved t hdone => exact .inl ⟨String.ofList t, by simp [contains, hdone], rfl, rfl⟩
  | failed halt halt' => exact .inr (.inl ⟨_, _, rfl, rfl⟩)
  | @stopped body t hbody hthere =>
    refine .inr (.inr ⟨body, String.ofList t, ?_, by simpa using hthere, rfl, rfl⟩)
    simpa [contains] using placeholders_ne_nil hbody hthere

/-- A text is resolved exactly when suppression gives the same text and no placeholder in it.
Whatever else suppression gives holds the placeholder at which resolution fails without it. -/
theorem resolveValue_suppressed (env? : Option Environment) (limit? : Option Int) (scope : Fields)
    (s : String) (h : Host) :
    (∀ t h', Run.resolveValue env? limit? scope false (.text s) h = (.ok (.text t), h') ↔
      Run.resolveValue env? limit? scope true (.text s) h = (.ok (.text t), h') ∧
        contains t = false) ∧
    ∀ t h', Run.resolveValue env? limit? scope true (.text s) h = (.ok (.text t), h') →
      (contains t = true ↔ ∃ body, wrap body <:+: t.toList ∧
        Run.resolveValue env? limit? scope false (.text s) h =
          (.error (.invalidToken (String.ofList (wrap body))), h')) := by
  obtain ⟨h₁, ⟨u, hdone, hplain, hsuppressed⟩ | ⟨e, e', hplain, hsuppressed⟩ |
    ⟨body, u, hleft, hthere, hplain, hsuppressed⟩⟩ := resolveValue_endings env? limit? scope s h
  · rw [hplain, hsuppressed]
    refine ⟨fun t h' => ⟨fun hrun => ⟨hrun, ?_⟩, And.left⟩, fun t h' hrun => ?_⟩
    · cases hrun
      exact hdone
    · cases hrun
      rw [hdone]
      refine ⟨nofun, ?_⟩
      rintro ⟨_, -, hfailed⟩
      cases hfailed
  · rw [hplain, hsuppressed]
    refine ⟨fun t h' => ⟨fun hrun => ?_, fun hrun => ?_⟩, fun t h' hrun => ?_⟩
    · cases hrun
    · cases hrun.1
    · cases hrun
  · rw [hplain, hsuppressed]
    refine ⟨fun t h' => ⟨fun hrun => ?_, ?_⟩, fun t h' hrun => ?_⟩
    · cases hrun
    · rintro ⟨hrun, hdone⟩
      cases hrun
      exact absurd hleft (by simp [hdone])
    · cases hrun
      exact ⟨fun _ => ⟨body, hthere, rfl⟩, fun _ => hleft⟩

end Resolving

def unknownGreeting : String := "\x7b\x7bcriteria.name\x7d\x7d, \x7b\x7bcriteria.age\x7d\x7d"

/-- The placeholder that suppression leaves is the one that is invalid without it. -/
theorem resolveValue_suppressed_greeting :
    Run.resolveValue (some []) (some 1) greetings true (.text unknownGreeting) Host.bare =
        (.ok (.text "Ann, \x7b\x7bcriteria.age\x7d\x7d"), Host.bare) ∧
      ∃ body, wrap body <:+: "Ann, \x7b\x7bcriteria.age\x7d\x7d".toList ∧
        Run.resolveValue (some []) (some 1) greetings false (.text unknownGreeting) Host.bare =
          (.error (.invalidToken (String.ofList (wrap body))), Host.bare) := by
  have hpasses : passes ⟨meaning [] greetings, true, some []⟩ 1 unknownGreeting.toList =
      .ok (some "Ann, \x7b\x7bcriteria.age\x7d\x7d".toList) := by decide +kernel
  have hrun : Run.resolveValue (some []) (some 1) greetings true (.text unknownGreeting) Host.bare =
      (.ok (.text "Ann, \x7b\x7bcriteria.age\x7d\x7d"), Host.bare) := by
    rw [resolveValue_text rfl]
    simp only [resolve, run, Int.toNat_one, hpasses]
    rfl
  exact ⟨hrun, ((resolveValue_suppressed (some []) (some 1) greetings
    unknownGreeting Host.bare).2 _ _
    hrun).mp (by decide +kernel)⟩

/-! ## What is left of a text -/

section Stopped

variable {m : List Char → Meaning} {s body : List Char} {before after : List Piece}

theorem stop_named {later : List (List Char)} (hnamed : ∀ b ∈ later, isBlankBody b = false)
    (s : List Char) : stop later s = .ok (.stopped s) := by
  have hnone : later.find? isBlankBody = none :=
    List.find?_eq_none.mpr fun b hb => by rw [hnamed b hb]; exact Bool.false_ne_true
  rw [stop, hnone]

/-- From the first unknown placeholder on, suppression leaves the text as it is, if none is blank.
-/
theorem passes_stopped (hs : pieces s = before ++ .placeholder body :: after)
    (hnamed : ∀ b ∈ placeholders s, isBlankBody b = false)
    (hbefore : ∀ b ∈ bodies before, ∃ v, Rules.replacement? ⟨m, true, some []⟩ b = some v)
    (hunknown : m (Text.trim body) = .unknown) (left : Nat) :
    passes ⟨m, true, some []⟩ (left + 1) s =
      .ok (some (sweep (Rules.replacement? ⟨m, true, some []⟩) [] before ++
        (wrap body ++ after.flatMap Piece.text))) := by
  have hbody := mem_placeholders hs
  rw [placeholders_split hs] at hnamed
  obtain ⟨hearlier, hhere, hlater⟩ :=
    (List.forall_mem_append.trans (and_congr_right' List.forall_mem_cons)).mp hnamed
  have hgo : ∀ b ∈ bodies before, Rules.stops ⟨m, true, some []⟩ b = false := fun b hb =>
    Rules.stops_eq_false_iff.mpr ⟨hearlier b hb, hbefore b hb⟩
  rw [passes_succ (List.ne_nil_of_mem hbody), pass_comes_to hs hgo, pass_unknown hhere hunknown,
    if_pos rfl, stop_named hlater]

/-- Suppression leaves the text from the first unknown placeholder on, and before it each
placeholder is replaced at the first place of its text. That makes the same text as replacing each
where it stands exactly when the two agree on what stands before; so it is when no placeholder there
has its text in what comes before it once that is written. -/
theorem resolveValue_stopped_iff {env : Environment}
    {env? : Option Environment} {limit? : Option Int}
    {limit : Int} {scope : Fields} {s : String} {h h' : Host}
    (hsetting : Run.templateSetting env? limit? h = (.ok ⟨env, limit⟩, h')) (hlimit : 1 ≤ limit)
    (hs : pieces s.toList = before ++ .placeholder body :: after)
    (hnamed : ∀ b ∈ placeholders s.toList, isBlankBody b = false)
    (hbefore : ∀ b ∈ bodies before, ∃ v, standsFor env scope b = some v)
    (hunknown : meaning env scope (Text.trim body) = .unknown) :
    Run.resolveValue env? limit? scope true (.text s) h =
        (.ok (.text (String.ofList (sweep (standsFor env scope) [] before ++
          (wrap body ++ after.flatMap Piece.text)))), h') ∧
      (Run.resolveValue env? limit? scope true (.text s) h =
          (.ok (.text (String.ofList (filled (standsFor env scope) before ++
            (wrap body ++ after.flatMap Piece.text)))), h') ↔
        sweep (standsFor env scope) [] before = filled (standsFor env scope) before) ∧
      (InPlace (standsFor env scope) [] before →
        sweep (standsFor env scope) [] before = filled (standsFor env scope) before) := by
  obtain ⟨n, hn⟩ : ∃ n, limit.toNat = n + 1 := ⟨limit.toNat - 1, by omega⟩
  have hpasses := passes_stopped hs hnamed hbefore hunknown n
  have hrun : Run.resolveValue env? limit? scope true (.text s) h =
      (.ok (.text (String.ofList (sweep (standsFor env scope) [] before ++
        (wrap body ++ after.flatMap Piece.text)))), h') := by
    rw [resolveValue_text hsetting]
    simp only [resolve, run, hn, hpasses]
    rfl
  refine ⟨hrun, ⟨fun hclaimed => ?_, fun hsame => ?_⟩, sweep_inPlace⟩
  · have htexts := Value.text.inj (Except.ok.inj (Prod.mk.inj (hrun.symm.trans hclaimed)).1)
    exact List.append_cancel_right (String.ofList_injective htexts)
  · rw [hrun, hsame]

end Stopped

/-- In place before the unknown criterion, the name is written where it stands. -/
theorem resolveValue_stopped_greeting :
    Run.resolveValue (some []) (some 1) greetings true (.text unknownGreeting) Host.bare =
        (.ok (.text (String.ofList (filled (standsFor [] greetings)
          (pieces "\x7b\x7bcriteria.name\x7d\x7d, ".toList) ++
            (wrap "criteria.age".toList ++ [])))), Host.bare) ∧
      String.ofList (filled (standsFor [] greetings)
          (pieces "\x7b\x7bcriteria.name\x7d\x7d, ".toList) ++
            (wrap "criteria.age".toList ++ [])) = "Ann, \x7b\x7bcriteria.age\x7d\x7d" := by
  have hsetting : Run.templateSetting (some []) (some 1) Host.bare = (.ok ⟨[], 1⟩, Host.bare) := rfl
  have hs : pieces unknownGreeting.toList = pieces "\x7b\x7bcriteria.name\x7d\x7d, ".toList ++
      .placeholder "criteria.age".toList :: [] := by decide +kernel
  have hbefore : ∀ b ∈ bodies (pieces "\x7b\x7bcriteria.name\x7d\x7d, ".toList),
      (standsFor [] greetings b).isSome := by decide +kernel
  have hrun := resolveValue_stopped_iff hsetting (Int.le_refl 1) hs (by decide +kernel)
    (fun b hb => Option.isSome_iff_exists.mp (hbefore b hb)) (by decide +kernel)
  exact ⟨hrun.2.1.mpr (by decide +kernel), by decide +kernel⟩

def referringNote : Fields :=
  [("criteria", .object [("note", .text "see \x7b\x7bcriteria.org\x7d\x7d"),
    ("org", .text "Acme")])]

def noteAndOrg : List Char :=
  "\x7b\x7bcriteria.note\x7d\x7d / \x7b\x7bcriteria.org\x7d\x7d / ".toList

/-- The note brings in the placeholder that comes after it, and is given the text in its stead. -/
theorem note_takes_text :
    pieces (noteAndOrg ++ wrap "criteria.date".toList) =
        pieces noteAndOrg ++ .placeholder "criteria.date".toList :: [] ∧
      (∀ b ∈ placeholders (noteAndOrg ++ wrap "criteria.date".toList), isBlankBody b = false) ∧
      (∀ b ∈ bodies (pieces noteAndOrg), (standsFor [] referringNote b).isSome) ∧
      meaning [] referringNote (Text.trim "criteria.date".toList) = .unknown ∧
      String.ofList (filled (standsFor [] referringNote) (pieces noteAndOrg) ++
          wrap "criteria.date".toList) =
        "see \x7b\x7bcriteria.org\x7d\x7d / Acme / \x7b\x7bcriteria.date\x7d\x7d" ∧
      (Run.resolveValue (some []) none referringNote true
          (.text (String.ofList (noteAndOrg ++ wrap "criteria.date".toList)))
          Host.bare).1.toOption.bind Value.text? =
        some "see Acme / \x7b\x7bcriteria.org\x7d\x7d / \x7b\x7bcriteria.date\x7d\x7d" := by
  decide +kernel

end Dossier.Template
