import Dossier.Proofs.Host.Frame
import Dossier.Proofs.Template.Passes
import Dossier.Proofs.Template.Rendering

/-!
# Resolving a well-formed text

In a scope and an environment of well-formed texts, resolving a well-formed text gives its full
expansion when the limit allows as many passes as the text is deep, and fails for their number
otherwise. Suppressing errors makes no difference where every placeholder can be replaced.
-/

set_option autoImplicit false

namespace Dossier.Template

/-- What a placeholder is replaced by in an environment and a scope; nothing is written as the empty
text. -/
def standsFor (env : Environment) (scope : Fields) : List Char → Option (List Char) :=
  Rules.replacement? ⟨meaning env scope, false, some []⟩

section Resolving

variable {env : Environment} {scope : Fields} {s : String}

theorem standsFor_wellFormed (hscope : ∀ t, Within (.text t) (.object scope) → WellFormed t.toList)
    (henv : ∀ entry ∈ env, WellFormed entry.2.toList) {body v : List Char}
    (hv : standsFor env scope body = some v) : WellFormed v := by
  rcases Rules.replacement_cases hv with hm | ⟨-, hnothing⟩
  · exact meaning_wellFormed hscope henv hm
  · cases hnothing
    exact ⟨[], clean_nil, rfl⟩

theorem standsFor_finite (env : Environment) (scope : Fields) :
    {v | ∃ body, standsFor env scope body = some v}.Finite := by
  have hvalues := (within_finite (.object scope)).image fun v =>
    match written v with
    | .text t => t
    | _ => []
  have henv := List.finite_toSet (env.map fun entry => entry.2.toList)
  refine ((henv.union hvalues).union (Set.finite_singleton [])).subset ?_
  rintro v ⟨body, hv⟩
  rcases Rules.replacement_cases hv with hm | ⟨-, hnothing⟩
  · rcases meaning_cases hm with ⟨entry, hentry, rfl⟩ | ⟨w, hw, hwritten⟩
    · exact .inl (.inl (List.mem_map.mpr ⟨entry, hentry, rfl⟩))
    · exact .inl (.inr ⟨w, hw, by simp only [hwritten]⟩)
  · cases hnothing
    exact .inr rfl

/-- There is no end to the depth of a text exactly when a placeholder leads back to itself. -/
theorem depth_standsFor_eq_top_iff (env : Environment) (scope : Fields) (s : List Char) :
    depth (standsFor env scope) s = ⊤ ↔
      ∃ body, Reaches (standsFor env scope) s body ∧ Leads (standsFor env scope) body body :=
  depth_eq_top_iff (reaches_finite (standsFor_finite env scope) s)

theorem standsFor_serves {s : List Char}
    (hscope : ∀ t, Within (.text t) (.object scope) → WellFormed t.toList)
    (henv : ∀ entry ∈ env, WellFormed entry.2.toList)
    (hfound : ∀ body, Reaches (standsFor env scope) s body → (standsFor env scope body).isSome)
    (suppress : Bool) : Rules.ServesAll ⟨meaning env scope, suppress, some []⟩ s := by
  intro body hbody
  obtain ⟨v, hv⟩ := Option.isSome_iff_exists.mp (hfound body hbody)
  exact ⟨v, hv, standsFor_wellFormed hscope henv hv⟩

/-- A text without placeholders resolves to itself. -/
theorem resolve_done {setting : Setting} {suppress : Bool} (hs : contains s = false) :
    resolve setting scope suppress s = .ok s := by
  have hnone : placeholders s.toList = [] := by simpa [contains] using hs
  simp only [resolve, run, passes_done _ hnone]
  simp [Except.map]

theorem resolveValue_text {env? : Option Environment} {limit? : Option Int} {setting : Setting}
    {h h' : Host} (hsetting : Run.templateSetting env? limit? h = (.ok setting, h'))
    (suppress : Bool) :
    Run.resolveValue env? limit? scope suppress (.text s) h =
      ((resolve setting scope suppress s).map .text, h') := by
  change (Run.templateSetting env? limit? >>= fun setting =>
    Run.lift (resolveValue setting scope suppress (.text s))) h = _
  rw [Run.bind_apply, hsetting]
  exact Run.lift_apply _ _

section Outcome

variable {env? : Option Environment} {limit? : Option Int} {limit : Int} {suppress : Bool}
  {h h' : Host} (hsetting : Run.templateSetting env? limit? h = (.ok ⟨env, limit⟩, h'))
include hsetting

/-- A text comes out as its passes leave it. -/
theorem resolveValue_passed {t : List Char}
    (hrun : passes ⟨meaning env scope, suppress, some []⟩ limit.toNat s.toList = .ok (some t)) :
    Run.resolveValue env? limit? scope suppress (.text s) h =
      (.ok (.text (String.ofList t)), h') := by
  rw [resolveValue_text hsetting]
  simp only [resolve, run, hrun]
  rfl

theorem resolveValue_halted {halt : Halt}
    (hrun : passes ⟨meaning env scope, suppress, some []⟩ limit.toNat s.toList = .error halt) :
    Run.resolveValue env? limit? scope suppress (.text s) h =
      (.error (halt.toFailure limit), h') := by
  rw [resolveValue_text hsetting]
  simp only [resolve, run, hrun]
  rfl

end Outcome

/-- With the environment and the limit in force, a well-formed text resolves to its full expansion,
of which there is one, or fails because it is deeper than the limit allows. -/
theorem resolveValue_depth {env? : Option Environment} {limit? : Option Int} {limit : Int}
    {h h' : Host} (hsetting : Run.templateSetting env? limit? h = (.ok ⟨env, limit⟩, h'))
    (hs : WellFormed s.toList)
    (hscope : ∀ t, Within (.text t) (.object scope) → WellFormed t.toList)
    (henv : ∀ entry ∈ env, WellFormed entry.2.toList)
    (hfound : ∀ body, Reaches (standsFor env scope) s.toList body →
      (standsFor env scope body).isSome) (suppress : Bool) :
    (depth (standsFor env scope) s.toList ≤ limit.toNat →
      ∃ t, (∀ u, Expands (standsFor env scope) (pieces s.toList) u ↔ u = t) ∧
        Run.resolveValue env? limit? scope suppress (.text s) h =
          (.ok (.text (String.ofList t)), h')) ∧
    (limit.toNat < depth (standsFor env scope) s.toList →
      ∃ body, Reaches (standsFor env scope) s.toList body ∧
        Run.resolveValue env? limit? scope suppress (.text s) h =
          (.error (.tokenRecursion (String.ofList (wrap body)) limit), h')) := by
  have hps := wellFormed_iff.mp hs
  have hserves := standsFor_serves hscope henv hfound suppress
  have htext := pieces_text s.toList
  rw [resolveValue_text hsetting, depth_le_iff, lt_depth_iff]
  constructor
  · intro hdepth
    obtain ⟨t, ht, hrun⟩ := passes_expands hps (htext ▸ hserves) (htext ▸ hdepth)
    rw [htext] at hrun
    refine ⟨t, fun u => ⟨fun hu => expands_unique hu ht, ?_⟩, ?_⟩
    · rintro rfl
      exact ht
    · simp only [resolve, run, hrun]
      rfl
  · intro hdepth
    obtain ⟨body, hbody, hrun⟩ := passes_exceeded hps (htext ▸ hserves) (htext ▸ hdepth)
    rw [htext] at hbody hrun
    refine ⟨body, hbody, ?_⟩
    simp only [resolve, run, hrun]
    rfl

end Resolving

def greetings : Fields :=
  [("messages", .object [("hello", .text "Hello \x7b\x7b criteria.name \x7d\x7d")]),
    ("criteria", .object [("name", .text "Ann"), ("title", .null), ("visits", .int 2)])]

def greeting : String := "\x7b\x7bmessages.hello\x7d\x7d, \x7b\x7bcriteria.title\x7d\x7d"

/-- Two levels deep, a greeting resolves in two passes and not in one. -/
theorem resolveValue_depth_greeting :
    (∃ t, (∀ u, Expands (standsFor [] greetings) (pieces greeting.toList) u ↔ u = t) ∧
      Run.resolveValue (some []) (some 2) greetings false (.text greeting) Host.bare =
        (.ok (.text (String.ofList t)), Host.bare)) ∧
    ∃ body, Reaches (standsFor [] greetings) greeting.toList body ∧
      Run.resolveValue (some []) (some 1) greetings false (.text greeting) Host.bare =
        (.error (.tokenRecursion (String.ofList (wrap body)) 1), Host.bare) := by
  have hs : WellFormed greeting.toList := by decide +kernel
  have hscope : ∀ t, Within (.text t) (.object greetings) → WellFormed t.toList := by
    intro t ht
    simp only [greetings, within_object, reduceCtorEq, List.mem_cons, List.not_mem_nil,
      exists_eq_or_imp, false_or, or_false, exists_eq_left] at ht
    rcases ht with ht | ht | ht | ht <;> cases ht <;> decide +kernel
  have hfound : ∀ body, Reaches (standsFor [] greetings) greeting.toList body →
      (standsFor [] greetings body).isSome := by
    intro body hreach
    have hlisted := reaches_closed
      (P := (· ∈ ["messages.hello".toList, " criteria.name ".toList, "criteria.title".toList]))
      hreach (by decide +kernel) (by decide +kernel)
    have hall : ∀ b ∈ ["messages.hello".toList, " criteria.name ".toList,
        "criteria.title".toList], (standsFor [] greetings b).isSome := by decide +kernel
    exact hall body hlisted
  exact ⟨(resolveValue_depth rfl hs hscope (by simp) hfound false).1
      (depth_le_iff.mpr (by decide +kernel)),
    (resolveValue_depth rfl hs hscope (by simp) hfound false).2
      (lt_depth_iff.mpr (by decide +kernel))⟩

end Dossier.Template
