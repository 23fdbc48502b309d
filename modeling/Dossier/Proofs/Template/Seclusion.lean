import Dossier.Proofs.Template.Resolve
import Dossier.Scope

/-!
# When the environment makes no difference

A text that a placeholder stands for is looked through again, so a text of the criteria may bring in
a variable of the environment, and texts may form a placeholder together. Which placeholders are
looked up on the way decides: the environment shows in the outcome only if one of them names a
variable. None ever does where all texts are well-formed and hold no such placeholder.
-/

set_option autoImplicit false

namespace Dossier

namespace Template

def namesVariable (body : List Char) : Bool :=
  (variableName? ((names (Text.trim body)).map String.ofList)).isSome

/-- The placeholders that a pass looks up: all up to the first that gives way to no text. A blank
one is not looked up. -/
def Rules.looked (r : Rules) : List (List Char) → List (List Char)
  | [] => []
  | body :: later =>
    if isBlankBody body then []
    else body :: (if (r.replacement? body).isSome then r.looked later else [])

inductive LooksUp (r : Rules) : Nat → List Char → List Char → Prop
  | now {left : Nat} {s body : List Char} (looked : body ∈ r.looked (placeholders s)) :
      LooksUp r (left + 1) s body
  | next {left : Nat} {s t body : List Char} (run : pass r (placeholders s) s = .ok (.complete t))
      (later : LooksUp r left t body) : LooksUp r (left + 1) s body

/-! ## Passes that look up the same -/

section Looking

variable {m m' : List Char → Meaning} {suppress : Bool} {nothing : Option (List Char)}

theorem looked_later {r : Rules} {body v : List Char} (hblank : isBlankBody body = false)
    (hv : r.replacement? body = some v) (later : List (List Char)) :
    r.looked (body :: later) = body :: r.looked later := by
  simp [Rules.looked, hblank, hv]

theorem looked_subset {r : Rules} {bodies : List (List Char)} {body : List Char}
    (hbody : body ∈ r.looked bodies) : body ∈ bodies := by
  induction bodies with
  | nil => cases hbody
  | cons b later ih =>
    rw [Rules.looked] at hbody
    split at hbody
    · cases hbody
    · rcases List.mem_cons.mp hbody with rfl | hlater
      · exact List.mem_cons_self
      · split at hlater
        · exact List.mem_cons_of_mem b (ih hlater)
        · cases hlater

/-- A pass depends on the placeholders that it looks up alone. -/
theorem pass_looked {later : List (List Char)}
    (hsame : ∀ body ∈ Rules.looked ⟨m, suppress, nothing⟩ later,
      m' (Text.trim body) = m (Text.trim body)) (s : List Char) :
    pass ⟨m', suppress, nothing⟩ later s = pass ⟨m, suppress, nothing⟩ later s := by
  induction later generalizing s with
  | nil => rfl
  | cons body later ih =>
    by_cases hblank : isBlankBody body = true
    · rw [pass, pass, if_pos hblank, if_pos hblank]
    have hhere : m' (Text.trim body) = m (Text.trim body) :=
      hsame body (by simp [Rules.looked, hblank])
    have hlater {v : List Char}
        (hv : Rules.replacement? ⟨m, suppress, nothing⟩ body = some v) (s : List Char) :
        pass ⟨m', suppress, nothing⟩ later s = pass ⟨m, suppress, nothing⟩ later s := by
      refine ih (fun b hb => hsame b ?_) s
      rw [looked_later (by simpa using hblank) hv]
      exact List.mem_cons_of_mem body hb
    rw [pass, pass, if_neg hblank, if_neg hblank]
    dsimp only
    rw [hhere]
    cases hmeaning : m (Text.trim body) with
    | unknown => rfl
    | tooLarge => rfl
    | text t => exact hlater (by simp only [Rules.replacement?, hmeaning]; rfl) _
    | nothing =>
      cases nothing with
      | none => rfl
      | some t => exact hlater (by simp only [Rules.replacement?, hmeaning]; rfl) _

/-- So do all passes. -/
theorem passes_looked {left : Nat} {s : List Char}
    (hsame : ∀ body, LooksUp ⟨m, suppress, nothing⟩ left s body →
      m' (Text.trim body) = m (Text.trim body)) :
    passes ⟨m', suppress, nothing⟩ left s = passes ⟨m, suppress, nothing⟩ left s := by
  induction left generalizing s with
  | zero =>
    unfold passes
    rfl
  | succ left ih =>
    have hpass := pass_looked (fun body hbody => hsame body (.now hbody)) s
    by_cases hs : placeholders s = []
    · rw [passes_done _ hs, passes_done _ hs]
    rw [passes_succ hs, passes_succ hs, hpass]
    cases hrun : pass ⟨m, suppress, nothing⟩ (placeholders s) s with
    | error halt => rfl
    | ok outcome =>
      cases outcome with
      | complete t => exact ih fun body hbody => hsame body (.next hrun hbody)
      | stopped t => rfl
      | missing => rfl

end Looking

/-! ## Values -/

/-- A text comes out the same wherever the placeholders looked up on the way stand for the same. -/
theorem resolve_looked {env env' : Environment} {limit : Int}
    {scope scope' : Fields} {suppress : Bool} {s : String}
    (hsame : ∀ body, LooksUp ⟨meaning env scope, suppress, some []⟩ limit.toNat s.toList body →
      meaning env' scope' (Text.trim body) = meaning env scope (Text.trim body)) :
    resolve ⟨env', limit⟩ scope' suppress s = resolve ⟨env, limit⟩ scope suppress s := by
  unfold resolve run
  rw [passes_looked hsame]

section Values

variable {setting setting' : Setting} {scope scope' : Fields} {suppress : Bool}

mutual

/-- So does a value of which all texts come out the same. -/
theorem resolveValue_congr (v : Value)
    (hv : ∀ s, Within (.text s) v →
      resolve setting' scope' suppress s = resolve setting scope suppress s) :
    resolveValue setting' scope' suppress v = resolveValue setting scope suppress v := by
  cases v with
  | text s => rw [resolveValue, resolveValue, hv s .self]
  | list items =>
    rw [resolveValue, resolveValue,
      resolveItems_congr items fun v hin s hs => hv s (.item hin hs)]
  | object fields =>
    rw [resolveValue, resolveValue,
      resolveFields_congr fields fun key v hin s hs => hv s (.entry hin hs)]
  | _ => rfl

theorem resolveItems_congr (items : List Value)
    (hitems : ∀ v ∈ items, ∀ s, Within (.text s) v →
      resolve setting' scope' suppress s = resolve setting scope suppress s) :
    resolveItems setting' scope' suppress items = resolveItems setting scope suppress items := by
  cases items with
  | nil => rfl
  | cons v rest =>
    rw [resolveItems, resolveItems, resolveValue_congr v (hitems v (by simp)),
      resolveItems_congr rest fun v hv => hitems v (by simp [hv])]

theorem resolveFields_congr (fields : Fields)
    (hfields : ∀ key v, (key, v) ∈ fields → ∀ s, Within (.text s) v →
      resolve setting' scope' suppress s = resolve setting scope suppress s) :
    resolveFields setting' scope' suppress fields =
      resolveFields setting scope suppress fields := by
  cases fields with
  | nil => rfl
  | cons entry rest =>
    obtain ⟨key, v⟩ := entry
    rw [resolveFields, resolveFields, resolveValue_congr v (hfields key v (by simp)),
      resolveFields_congr rest fun key v hin => hfields key v (by simp [hin])]

end

end Values

theorem meaning_secluded {body : List Char} (hbody : namesVariable body = false)
    (env env' : Environment) (scope : Fields) :
    meaning env' scope (Text.trim body) = meaning env scope (Text.trim body) := by
  have hnone : variableName? ((names (Text.trim body)).map String.ofList) = none := by
    simpa [namesVariable] using hbody
  unfold meaning
  simp only [hnone]

def Blind (env : Environment) (limit : Int) (scope : Fields) (suppress : Bool) (s : String) :
    Prop :=
  ∀ body, LooksUp ⟨meaning env scope, suppress, some []⟩ limit.toNat s.toList body →
    namesVariable body = false

theorem resolve_blind {env env' : Environment} {limit : Int} {scope : Fields} {suppress : Bool}
    {s : String} (hs : Blind env limit scope suppress s) :
    resolve ⟨env', limit⟩ scope suppress s = resolve ⟨env, limit⟩ scope suppress s :=
  resolve_looked fun body hbody => meaning_secluded (hs body hbody) env env' scope

/-! ## Texts that are free of some placeholders -/

def Free (kind : List Char → Bool) (s : List Char) : Prop :=
  WellFormed s ∧ ∀ body ∈ placeholders s, kind body = false

instance (kind : List Char → Bool) (s : List Char) : Decidable (Free kind s) :=
  have := List.decidableBAll (fun body => kind body = false) (placeholders s)
  inferInstanceAs (Decidable (_ ∧ _))

theorem placeholders_braceless {s : List Char} (hs : Braceless s) : placeholders s = [] := by
  induction s with
  | nil => simp [placeholders, pieces]
  | cons c s ih =>
    obtain ⟨hc, hrest⟩ := braceless_cons.mp hs
    rw [placeholders, pieces_of_no_opening (opening_plain hc s)]
    exact ih hrest

theorem free_of_braceless (kind : List Char → Bool) {s : List Char} (hs : Braceless s) :
    Free kind s :=
  ⟨wellFormed_of_braceless hs, by simp [placeholders_braceless hs]⟩

section Free

variable {kind : List Char → Bool} {env : Environment} {scope : Fields} {suppress : Bool}

/-- In a scope and an environment of free texts a placeholder stands for one. -/
theorem standsFor_free (hscope : ∀ s, Within (.text s) (.object scope) → Free kind s.toList)
    (henv : ∀ entry ∈ env, Free kind entry.2.toList) {body v : List Char}
    (hv : standsFor env scope body = some v) : Free kind v := by
  rcases Rules.replacement_cases hv with hm | ⟨-, hnothing⟩
  · rcases meaning_cases hm with ⟨entry, hentry, rfl⟩ | ⟨w, hw, hwritten⟩
    · exact henv entry hentry
    · rcases written_cases hwritten with ⟨s, rfl, rfl⟩ | hbraceless
      · exact hscope s hw
      · exact free_of_braceless kind hbraceless
  · cases hnothing
    exact free_of_braceless kind (by decide)

/-- A pass that is complete replaced every placeholder. -/
theorem pass_complete {r : Rules} {later : List (List Char)} {s t : List Char}
    (hrun : pass r later s = .ok (.complete t)) :
      ∀ body ∈ later, ∃ v, r.replacement? body = some v := by
  induction later generalizing s with
  | nil => simp
  | cons body later ih =>
    cases hstops : r.stops body with
    | true => exact absurd hrun (pass_incomplete hstops later s t)
    | false =>
      obtain ⟨hblank, v, hv⟩ := Rules.stops_eq_false_iff.mp hstops
      rw [pass_replace hblank hv] at hrun
      exact List.forall_mem_cons.mpr ⟨⟨v, hv⟩, ih hrun⟩

/-- Where placeholders of other kinds stand for free texts, a complete pass over a free text leaves
one. -/
theorem pass_free
    (hstands : ∀ body v, kind body = false → standsFor env scope body = some v → Free kind v)
    {s t : List Char} (hs : Free kind s)
    (hrun : pass ⟨meaning env scope, suppress, some []⟩ (placeholders s) s = .ok (.complete t)) :
    Free kind t := by
  have hps := wellFormed_iff.mp hs.1
  have hserves : ∀ body ∈ bodies (pieces s),
      Rules.Serves ⟨meaning env scope, suppress, some []⟩ body := by
    intro body hbody
    obtain ⟨v, hv⟩ := pass_complete hrun body hbody
    exact ⟨v, hv, (hstands body v (hs.2 body hbody) hv).1⟩
  obtain ⟨qs, hqs⟩ := pass_passed hps (List.Subperm.refl _) hserves
  have hpass := hqs.run
  rw [pieces_text] at hpass
  cases hrun.symm.trans hpass
  refine ⟨⟨qs, hqs.clean, rfl⟩, fun b hb => ?_⟩
  obtain ⟨body, hbody, v, hv, hinner⟩ := (hqs.mem_left hps).mp hb
  rw [pieces_text] at hbody
  exact (hstands body v (hs.2 body hbody) hv).2 b hinner

theorem looksUp_free
    (hstands : ∀ body v, kind body = false → standsFor env scope body = some v → Free kind v)
    {left : Nat} {s body : List Char} (hs : Free kind s)
    (hlooks : LooksUp ⟨meaning env scope, suppress, some []⟩ left s body) : kind body = false := by
  induction hlooks with
  | now looked => exact hs.2 _ (looked_subset looked)
  | next run later ih => exact ih (pass_free hstands hs run)

end Free

/-! ## Secluded texts -/

def Secluded (s : List Char) : Prop :=
  WellFormed s ∧ ∀ body ∈ placeholders s, namesVariable body = false

instance (s : List Char) : Decidable (Secluded s) :=
  inferInstanceAs (Decidable (Free namesVariable s))

theorem secluded_of_braceless {s : List Char} (hs : Braceless s) : Secluded s :=
  free_of_braceless namesVariable hs

section Secluded

variable {env : Environment} {scope : Fields} {suppress : Bool}

/-- In a scope of secluded texts a placeholder that names no variable stands for one. -/
theorem standsFor_secluded (hscope : ∀ s, Within (.text s) (.object scope) → Secluded s.toList)
    {body v : List Char} (hbody : namesVariable body = false)
    (hv : standsFor env scope body = some v) : Secluded v := by
  have hnone : variableName? ((names (Text.trim body)).map String.ofList) = none := by
    simpa [namesVariable] using hbody
  rcases Rules.replacement_cases hv with hm | ⟨-, hnothing⟩
  · simp only [meaning, hnone] at hm
    split at hm
    · next w hwalk =>
      rcases written_cases hm with ⟨s, rfl, rfl⟩ | hbraceless
      · exact hscope s (walk_within hwalk)
      · exact secluded_of_braceless hbraceless
    · cases hm
  · cases hnothing
    exact secluded_of_braceless (by decide)

theorem looksUp_secluded (hscope : ∀ s, Within (.text s) (.object scope) → Secluded s.toList)
    {left : Nat} {s body : List Char} (hs : Secluded s)
    (hlooks : LooksUp ⟨meaning env scope, suppress, some []⟩ left s body) :
    namesVariable body = false :=
  looksUp_free (fun _ _ hbody hv => standsFor_secluded hscope hbody hv) hs hlooks

end Secluded

end Template

/-! ## The scope of a request -/

open Template

theorem within_texts {s : String} {messages : Messages}
    (hs : Within (.text s) (.object messages.toFields)) : ∃ key, (key, s) ∈ messages := by
  rcases within_object.mp hs with hself | ⟨entry, hentry, hin⟩
  · cases hself
  obtain ⟨⟨key, t⟩, hmessage, rfl⟩ := List.mem_map.mp hentry
  cases hin
  exact ⟨key, hmessage⟩

theorem constants_free (kind : List Char → Bool) {s : String}
    (hs : Within (.text s) (.object constants)) :
    Free kind s.toList := by
  have htexts : constants =
      Messages.toFields [("ID_ALL", idAll), ("ID_ANY", idAny), ("ID_NONE", idNone),
        ("ID_UNDEFINED", idUndefined)] := rfl
  rw [htexts] at hs
  obtain ⟨key, hkey⟩ := within_texts hs
  have hall : ∀ entry ∈ [("ID_ALL", idAll), ("ID_ANY", idAny), ("ID_NONE", idNone),
      ("ID_UNDEFINED", idUndefined)], Free kind entry.2.toList := by
    intro entry hentry
    refine free_of_braceless kind ?_
    revert entry
    decide +kernel
  exact hall _ hkey

/-- With free texts among the criteria and the messages, a scope starts with free texts only. -/
theorem start_free {kind : List Char → Bool} {criteria messages : Fields}
    (hcriteria : ∀ s, Within (.text s) (.object criteria) → Free kind s.toList)
    (hmessages : ∀ s, Within (.text s) (.object messages) → Free kind s.toList) {s : String}
    (hs : Within (.text s) (.object (Scope.start criteria messages))) : Free kind s.toList := by
  rcases within_object.mp hs with hself | ⟨entry, hentry, hin⟩
  · cases hself
  simp only [Scope.start, List.mem_cons, List.not_mem_nil, or_false] at hentry
  rcases hentry with rfl | rfl | rfl | rfl
  · exact hmessages s hin
  · exact constants_free kind hin
  · exact hcriteria s hin
  · rcases within_object.mp hin with hself | ⟨entry, hentry, -⟩
    · cases hself
    · cases hentry

theorem start_secluded {criteria : Fields} {messages : Messages}
    (hcriteria : ∀ s, Within (.text s) (.object criteria) → Secluded s.toList)
    (hmessages : ∀ entry ∈ messages, Secluded entry.2.toList) {s : String}
    (hs : Within (.text s) (.object (Scope.start criteria messages.toFields))) :
    Secluded s.toList := by
  refine start_free hcriteria (fun t ht => ?_) hs
  obtain ⟨key, hkey⟩ := within_texts ht
  exact hmessages _ hkey

namespace Run

/-- With an environment given, the limit in force is found without it. -/
theorem templateSetting_given (limit? : Option Int) (h : Host) :
    ∃ (limit : Except Failure Int) (h' : Host), ∀ env,
      templateSetting (some env) limit? h = (limit.map fun limit => ⟨env, limit⟩, h') := by
  unfold templateSetting
  cases limit?.filter (· ≠ 0) with
  | some limit => exact ⟨.ok limit, h, fun env => rfl⟩
  | none =>
    refine ⟨(settings h).1.map Settings.maxPasses, (settings h).2, fun env => ?_⟩
    change ((fun s => s.maxPasses) <$> settings >>= fun limit =>
      pure (⟨env, limit⟩ : Template.Setting)) h = _
    rw [bind_apply, map_apply]
    cases (settings h).1 <;> rfl

theorem resolveValue_given {env env' : Environment} {limit? : Option Int} {scope : Fields}
    {suppress : Bool} {v : Value} {h : Host}
    (hblind : ∀ limit h', templateSetting (some env) limit? h = (.ok ⟨env, limit⟩, h') →
      ∀ s, Within (.text s) v → Blind env limit scope suppress s) :
    Run.resolveValue (some env') limit? scope suppress v h =
      Run.resolveValue (some env) limit? scope suppress v h := by
  obtain ⟨result, h', hsetting⟩ := templateSetting_given limit? h
  unfold Run.resolveValue
  split
  · rw [bind_apply, bind_apply, hsetting, hsetting]
    cases result with
    | error e => rfl
    | ok limit =>
      dsimp only [Except.map]
      rw [resolveValue_congr v fun s hs => resolve_blind (hblind limit h' (hsetting env) s hs)]
  · rfl

/-- Two environments give the same outcome unless a placeholder that names a variable is looked up
on the way. None is where the texts of the value, the criteria and the messages are secluded. -/
theorem resolveValue_environment (env env' : Environment) (limit? : Option Int) (criteria : Fields)
    (messages : Messages) (suppress : Bool) (v : Value) (h : Host) :
    (Run.resolveValue (some env') limit? (Scope.start criteria messages.toFields) suppress v h =
        Run.resolveValue (some env) limit? (Scope.start criteria messages.toFields) suppress v h ∨
      ∃ limit h' s body, templateSetting (some env) limit? h = (.ok ⟨env, limit⟩, h') ∧
        Within (.text s) v ∧
        LooksUp ⟨meaning env (Scope.start criteria messages.toFields), suppress, some []⟩
          limit.toNat s.toList body ∧
        namesVariable body = true) ∧
    ((∀ s, Within (.text s) v → Secluded s.toList) →
      (∀ s, Within (.text s) (.object criteria) → Secluded s.toList) →
      (∀ entry ∈ messages, Secluded entry.2.toList) →
      Run.resolveValue (some env') limit? (Scope.start criteria messages.toFields) suppress v h =
        Run.resolveValue (some env) limit?
          (Scope.start criteria messages.toFields) suppress v h) := by
  constructor
  · by_cases hblind : ∀ limit h', templateSetting (some env) limit? h = (.ok ⟨env, limit⟩, h') →
        ∀ s, Within (.text s) v →
          Blind env limit (Scope.start criteria messages.toFields) suppress s
    · exact .inl (resolveValue_given hblind)
    · right
      unfold Blind at hblind
      push Not at hblind
      obtain ⟨limit, h', hsetting, s, hin, body, hlooks, hvariable⟩ := hblind
      exact ⟨limit, h', s, body, hsetting, hin, hlooks, by simpa using hvariable⟩
  · intro hv hcriteria hmessages
    refine resolveValue_given fun limit h' _ s hin body hlooks => ?_
    exact looksUp_secluded (fun _ => start_secluded hcriteria hmessages) (hv s hin) hlooks

def report : Value := .text "\x7b\x7bmessages.head\x7d\x7d \x7b\x7bcriteria.note\x7d\x7d"

def namedNote : Fields :=
  [("note", .text "for \x7b\x7b criteria.name \x7d\x7d"), ("name", .text "Ann")]

def writtenNote : Fields := [("note", .text "\x7b\x7benv.SECRET\x7d\x7d")]

/-- The note that refers to a name makes the same report whatever a variable holds. -/
theorem resolveValue_environment_note :
    (∀ s, Within (.text s) report → Secluded s.toList) ∧
      (∀ s, Within (.text s) (.object namedNote) → Secluded s.toList) ∧
      (∀ entry ∈ [("head", "Report")], Secluded (entry : String × String).2.toList) ∧
      Run.resolveValue (some [("SECRET", "beta")]) none
          (Scope.start namedNote (Messages.toFields [("head", "Report")])) false report Host.bare =
        Run.resolveValue (some [("SECRET", "alpha")]) none
          (Scope.start namedNote (Messages.toFields [("head", "Report")]))
            false report Host.bare := by
  have hv : ∀ s, Within (.text s) report → Secluded s.toList := by
    intro s hs
    cases hs
    decide +kernel
  have hcriteria : ∀ s, Within (.text s) (.object namedNote) → Secluded s.toList := by
    intro s hs
    simp only [namedNote, within_object, reduceCtorEq, List.mem_cons, List.not_mem_nil,
      exists_eq_or_imp, false_or, or_false, exists_eq_left] at hs
    rcases hs with hs | hs <;> cases hs <;> decide +kernel
  have hmessages : ∀ entry ∈ [("head", "Report")], Secluded (entry : String × String).2.toList := by
    decide +kernel
  exact ⟨hv, hcriteria, hmessages,
    (resolveValue_environment _ _ none _ _ false _ Host.bare).2 hv hcriteria hmessages⟩

/-- The note that is written as a placeholder brings the variable into a report that does not name
it. -/
theorem report_reveals_variable :
    (∀ body ∈ placeholders "\x7b\x7bmessages.head\x7d\x7d \x7b\x7bcriteria.note\x7d\x7d".toList,
      namesVariable body = false) ∧
    (∀ body ∈ placeholders "Report".toList, namesVariable body = false) ∧
    (Run.resolveValue (some [("SECRET", "alpha")]) none
        (Scope.start writtenNote (Messages.toFields [("head", "Report")])) false report
        Host.bare).1.toOption.bind Value.text? = some "Report alpha" ∧
    (Run.resolveValue (some [("SECRET", "beta")]) none
        (Scope.start writtenNote (Messages.toFields [("head", "Report")])) false report
        Host.bare).1.toOption.bind Value.text? = some "Report beta" := by
  decide +kernel

end Run

end Dossier
