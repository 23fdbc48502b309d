import Dossier.Proofs.Source.Spans

/-!
# Orderly runs

An orderly run asks the data source by fetches alone, so that the log of calls and the spans go
along, and it keeps an invariant of the host. What it may give and how it may fail are told with
that, so that a later part of a sequence can rely on what an earlier one gives.
-/

set_option autoImplicit false

namespace Dossier

open Run

/-- The failure is of a configuration: a file that cannot be taken for what it should be, or a name
or a control that the loaded configuration does not know. -/
def Failure.OfConfiguration : Failure → Prop
  | .malformedFile .. => True
  | .notAnObject .. => True
  | .invalidEntry .. => True
  | .definitionNotFound .. => True
  | .unknownCriterion _ => True
  | .unsupportedControl _ => True
  | .fault .undecodableText => True
  | .fault .tooManyDigits => True
  | .fault .tooDeep => True
  | _ => False

def Unrelated {α : Type} (x : Except Failure α) : Prop := ∀ e, x = .error e → ¬ e.OfConfiguration

section Unrelated

variable {α β : Type}

theorem unrelated_ok (a : α) : Unrelated (.ok a : Except Failure α) := fun _ he => nomatch he

theorem unrelated_error {e : Failure} (he : ¬ e.OfConfiguration) :
    Unrelated (.error e : Except Failure α) := by
  intro e' he'
  cases he'
  exact he

theorem unrelated_map {x : Except Failure α} (f : α → β) (hx : Unrelated x) :
    Unrelated (x.map f) := by
  cases x with
  | ok a => exact unrelated_ok (f a)
  | error e => exact unrelated_error (hx e rfl)

end Unrelated

/-! ## Failures of texts -/

namespace Template

variable (setting : Setting) (scope : Fields)

theorem toFailure_unrelated (limit : Int) (halt : Halt) :
    ¬ (halt.toFailure limit).OfConfiguration := by
  cases halt <;> exact id

theorem resolve_unrelated (suppress : Bool) (s : String) :
    Unrelated (resolve setting scope suppress s) := by
  unfold resolve run
  split
  · exact unrelated_map _ (unrelated_error (toFailure_unrelated _ _))
  · exact unrelated_map _ (unrelated_ok _)

mutual

theorem resolveValue_unrelated (suppress : Bool) :
    ∀ v : Value, Unrelated (resolveValue setting scope suppress v)
  | .text s => unrelated_map _ (resolve_unrelated setting scope suppress s)
  | .list items => unrelated_map _ (resolveItems_unrelated suppress items)
  | .object fields => unrelated_map _ (resolveFields_unrelated suppress fields)
  | .null | .bool _ | .int _ | .float _ | .date _ | .moment _ | .clock _ => unrelated_ok _

theorem resolveItems_unrelated (suppress : Bool) :
    ∀ items : List Value, Unrelated (resolveItems setting scope suppress items)
  | [] => unrelated_ok _
  | v :: rest => by
    have hhead := resolveValue_unrelated suppress v
    rw [resolveItems]
    split
    · next he => exact unrelated_error (hhead _ he)
    · exact unrelated_map _ (resolveItems_unrelated suppress rest)

theorem resolveFields_unrelated (suppress : Bool) :
    ∀ fields : Fields, Unrelated (resolveFields setting scope suppress fields)
  | [] => unrelated_ok _
  | (_, v) :: rest => by
    have hhead := resolveValue_unrelated suppress v
    rw [resolveFields]
    split
    · next he => exact unrelated_error (hhead _ he)
    · exact unrelated_map _ (resolveFields_unrelated suppress rest)

end

theorem resolveEntries_unrelated (fields : Fields) :
    Unrelated (resolveEntries setting scope fields) := by
  induction fields with
  | nil => exact unrelated_ok _
  | cons entry rest ih =>
    unfold resolveEntries
    split
    · next heq =>
      cases heq
    · next heq =>
      cases heq
      split
      · next he => exact unrelated_error (resolve_unrelated setting scope false _ _ he)
      · exact unrelated_map _ ih
    · next heq =>
      cases heq
      exact unrelated_map _ ih

end Template

namespace Run

variable {α β : Type}

/-- From every host that meets an invariant, the run keeps it, gives and fails only as told, and
adds to the calls and the spans by fetches alone. -/
structure Orderly (source : Source) (inv : Host → Prop) (fails : Failure → Prop) (gives : α → Prop)
    (x : Run α) : Prop where
  keeps : ∀ h, inv h → inv (x h).2
  given : ∀ h a, inv h → (x h).1 = .ok a → gives a
  failed : ∀ h e, inv h → (x h).1 = .error e → fails e
  traced : ∀ h, inv h → h.Traced source (x h).2

/-- What runs are allowed that fetch and resolve texts: the invariant shows nothing of that, and
settings that cannot be read, a source that fails and all that has nothing to do with the
configuration are ways to fail. -/
structure Allows (source : Source) (inv : Host → Prop) (fails : Failure → Prop) : Prop where
  aloof : Aloof inv
  settings : ∀ h e, inv h → h.known.1 = .error e → fails e
  source : ∀ past call e, source past call = .error e → fails e
  unrelated : ∀ e, ¬ e.OfConfiguration → fails e

section Sequences

variable {source : Source} {inv : Host → Prop} {fails : Failure → Prop}

theorem fetchTracer_steady : Steady Host.fetchTracer := ⟨fun _ _ _ _ => rfl, fun _ _ => rfl⟩

theorem quiet_orderly (hallows : Allows source inv fails) {gives : α → Prop}
    {x : Run α} (hx : Quiet x) (hgiven : ∀ h a, inv h → (x h).1 = .ok a → gives a)
    (hfailed : ∀ h e, inv h → (x h).1 = .error e → fails e) :
    Orderly source inv fails gives x where
  keeps h hinv := (hx.keeps hallows.aloof.toSteady h).symm ▸ hinv
  given := hgiven
  failed := hfailed
  traced h _ := .aside (hx.keeps calls_steady h)
    (hx.keeps fetchTracer_steady h)

theorem pure_orderly {gives : α → Prop} {a : α} (ha : gives a) :
    Orderly source inv fails gives (pure a) where
  keeps _ hinv := hinv
  given _ b _ hb := by
    cases hb
    exact ha
  failed _ e _ he := by cases he
  traced _ _ := .aside rfl rfl

theorem throw_orderly {gives : α → Prop} {e : Failure} (he : fails e) :
    Orderly source inv fails gives (throw e : Run α) where
  keeps _ hinv := hinv
  given _ b _ hb := by cases hb
  failed _ e' _ he' := by
    cases he'
    exact he
  traced _ _ := .aside rfl rfl

theorem lift_orderly {gives : α → Prop} {x : Except Failure α} (hx : ∀ a, x = .ok a → gives a)
    (hfails : ∀ e, x = .error e → fails e) : Orderly source inv fails gives (lift x) := by
  cases x with
  | ok a => exact pure_orderly (hx a rfl)
  | error e => exact throw_orderly (hfails e rfl)

theorem bind_orderly {middle : α → Prop} {gives : β → Prop} {x : Run α} {f : α → Run β}
    (hx : Orderly source inv fails middle x)
    (hf : ∀ a, middle a → Orderly source inv fails gives (f a)) :
    Orderly source inv fails gives (x >>= f) := by
  -- a run either ends in its first part or goes on from what that part gives
  have ends (h : Host) (hinv : inv h) :
      (∃ e, (x >>= f) h = (.error e, (x h).2) ∧ fails e) ∨
        ∃ a, (x >>= f) h = f a (x h).2 ∧ Orderly source inv fails gives (f a) := by
    cases hfirst : (x h).1 with
    | error e => exact .inl ⟨e, bind_of_error hfirst, hx.failed h e hinv hfirst⟩
    | ok a => exact .inr ⟨a, bind_of_ok hfirst, hf a (hx.given h a hinv hfirst)⟩
  refine ⟨fun h hinv => ?_, fun h b hinv hb => ?_, fun h e hinv he => ?_, fun h hinv => ?_⟩
  · rcases ends h hinv with ⟨e, hrun, -⟩ | ⟨a, hrun, hnext⟩
    · rw [hrun]
      exact hx.keeps h hinv
    · rw [hrun]
      exact hnext.keeps _ (hx.keeps h hinv)
  · rcases ends h hinv with ⟨e, hrun, -⟩ | ⟨a, hrun, hnext⟩
    · rw [hrun] at hb
      cases hb
    · rw [hrun] at hb
      exact hnext.given _ b (hx.keeps h hinv) hb
  · rcases ends h hinv with ⟨e', hrun, hfails⟩ | ⟨a, hrun, hnext⟩
    · rw [hrun] at he
      cases he
      exact hfails
    · rw [hrun] at he
      exact hnext.failed _ e (hx.keeps h hinv) he
  · rcases ends h hinv with ⟨e, hrun, -⟩ | ⟨a, hrun, hnext⟩
    · rw [hrun]
      exact hx.traced h hinv
    · rw [hrun]
      exact (hx.traced h hinv).trans (hnext.traced _ (hx.keeps h hinv))

theorem map_orderly {gives : β → Prop} {middle : α → Prop} {f : α → β} {x : Run α}
    (hx : Orderly source inv fails middle x) (hf : ∀ a, middle a → gives (f a)) :
    Orderly source inv fails gives (f <$> x) := by
  rw [map_eq_pure_bind]
  exact bind_orderly hx fun a ha => pure_orderly (hf a ha)

/-- Looked at from outside, a run gives how it ended. -/
theorem observe_orderly {gives : α → Prop} {never : Failure → Prop} {x : Run α}
    (hx : Orderly source inv fails gives x) :
    Orderly source inv never (fun result => match result with
      | .ok a => gives a
      | .error e => fails e) (observe x) where
  keeps := hx.keeps
  given h result hinv hresult := by
    cases hresult
    cases hend : (x h).1 with
    | ok a => exact hx.given h a hinv hend
    | error e => exact hx.failed h e hinv hend
  failed h e _ he := by cases he
  traced := hx.traced

abbrev Tidy (source : Source) (inv : Host → Prop) (fails : Failure → Prop) (x : Run α) : Prop :=
  Orderly source inv fails (fun _ => True) x

theorem Orderly.tidy {gives : α → Prop} {x : Run α} (hx : Orderly source inv fails gives x) :
    Tidy source inv fails x := ⟨hx.keeps, fun _ _ _ _ => trivial, hx.failed, hx.traced⟩

theorem pure_tidy (a : α) : Tidy source inv fails (pure a) := pure_orderly trivial

theorem bind_tidy {x : Run α} {f : α → Run β} (hx : Tidy source inv fails x)
    (hf : ∀ a, Tidy source inv fails (f a)) : Tidy source inv fails (x >>= f) :=
  bind_orderly hx fun a _ => hf a

theorem zones_tidy : Tidy source inv fails zones where
  keeps _ hinv := hinv
  given _ _ _ _ := trivial
  failed _ e _ he := by cases he
  traced _ _ := .aside rfl rfl

theorem map_tidy (f : α → β) {x : Run α} (hx : Tidy source inv fails x) :
    Tidy source inv fails (f <$> x) := map_orderly hx fun _ _ => trivial

end Sequences

/-! ## Texts -/

section Texts

variable {source : Source} {inv : Host → Prop} {fails : Failure → Prop}
  (hallows : Allows source inv fails)
include hallows

theorem throw_tidy {e : Failure} (he : ¬ e.OfConfiguration) :
    Tidy source inv fails (throw e : Run α) := throw_orderly (hallows.unrelated e he)

theorem lift_tidy {x : Except Failure α} (hx : Unrelated x) : Tidy source inv fails (lift x) :=
  lift_orderly (fun _ _ => trivial) fun e he => hallows.unrelated e (hx e he)

theorem settings_tidy : Tidy source inv fails settings :=
  quiet_orderly hallows settings_quiet (fun _ _ _ _ => trivial) fun h e hinv he =>
    hallows.settings h e hinv ((settings_known h).symm.trans he)

theorem environment_tidy : Tidy source inv fails environment :=
  quiet_orderly hallows environment_quiet (fun _ _ _ _ => trivial) fun h e _ he => by
    rw [environment_known] at he
    cases he

theorem templateSetting_tidy (env? : Option Template.Environment) (limit? : Option Int) :
    Tidy source inv fails (templateSetting env? limit?) := by
  unfold templateSetting
  cases env?
  case' some => refine bind_tidy (pure_tidy _) fun env => ?_
  case' none => refine bind_tidy (environment_tidy hallows) fun env => ?_
  all_goals
    cases limit?.filter (· ≠ 0) with
    | some limit => exact bind_tidy (pure_tidy _) fun _ => pure_tidy _
    | none => exact bind_tidy (map_tidy _ (settings_tidy hallows)) fun _ => pure_tidy _

theorem resolve_tidy (scope : Fields) (s : String) : Tidy source inv fails (resolve scope s) :=
  bind_tidy (templateSetting_tidy hallows none none) fun setting =>
    lift_tidy hallows (Template.resolve_unrelated setting scope false s)

theorem resolveParams_tidy (env? : Option Template.Environment) (scope : Fields)
    (params : Option Fields) : Tidy source inv fails (resolveParams env? scope params) := by
  unfold resolveParams
  split
  · exact pure_tidy _
  · split
    · exact bind_tidy (templateSetting_tidy hallows env? none) fun setting =>
        map_tidy _ (lift_tidy hallows (Template.resolveEntries_unrelated setting scope _))
    · exact pure_tidy _

theorem resolveValue_tidy (env? : Option Template.Environment) (limit? : Option Int)
    (scope : Fields) (suppress : Bool) (v : Value) :
    Tidy source inv fails (resolveValue env? limit? scope suppress v) := by
  unfold resolveValue
  split
  · exact bind_tidy (templateSetting_tidy hallows env? limit?) fun setting =>
      lift_tidy hallows (Template.resolveValue_unrelated setting scope suppress v)
  · exact pure_tidy _

end Texts

/-! ## Fetching -/

section Fetching

variable {source : Source} {inv : Host → Prop} {fails : Failure → Prop}
  (hallows : Allows source inv fails)
include hallows

theorem outcome_allowed {past : List Call} {call : Call} {e : Failure}
    (he : source.outcome past call = .error e) : fails e := by
  unfold Dossier.Source.outcome at he
  split at he
  · next hsource =>
    cases he
    exact hallows.source past call _ hsource
  · split at he
    · cases he
    · cases he
      exact hallows.unrelated _ id

theorem fetch_tidy (call : Call) : Tidy source inv fails (source.fetch call) where
  keeps h hinv := ((fetch_narrow source call).keeps hallows.aloof h).symm ▸ hinv
  given _ _ _ _ := trivial
  failed h _ _ he := outcome_allowed hallows ((fetch_outcome source call h).1.symm.trans he)
  traced h _ := .fetch source call h

theorem fetchPages_tidy (dataSet : String) (params : Option Fields) (limit : Int) (left : Nat)
    (page : Option String) :
    Tidy source inv fails (source.fetchPages dataSet params limit left page) := by
  induction left generalizing page with
  | zero => exact throw_tidy hallows id
  | succ left ih =>
    rw [Source.fetchPages]
    refine bind_tidy (fetch_tidy hallows _) fun batch => ?_
    split
    · split
      · exact bind_tidy (ih _) fun _ => pure_tidy _
      · exact pure_tidy _
    · exact pure_tidy _

theorem fetchAll_tidy (dataSet : String) (params : Option Fields) (maxPages : Option Int) :
    Tidy source inv fails (source.fetchAll dataSet params maxPages) := by
  have pages (limit : Int) := fetchPages_tidy hallows dataSet params limit limit.toNat none
  unfold Source.fetchAll
  cases maxPages.filter (· ≠ 0) with
  | some limit => exact bind_tidy (pure_tidy _) pages
  | none => exact bind_tidy (map_tidy _ (settings_tidy hallows)) pages

/-- Leaving the span of a build, which the invariant does not show. -/
theorem onBuildTracer_tidy (change : Trace.Tracer → Trace.Tracer) :
    Tidy source inv fails (onBuildTracer change) where
  keeps h hinv := (onBuildTracer_keeps hallows.aloof change h).symm ▸ hinv
  given _ _ _ _ := trivial
  failed _ _ _ he := by cases he
  traced _ _ := .aside rfl rfl

end Fetching

end Run

end Dossier
