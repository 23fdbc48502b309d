import Dossier.Proofs.Source.Exchange
import Dossier.Proofs.Host.Limits

/-!
# Confined runs

What a run may call the source with, what it may give and how it may fail are told together:
sequences keep to the same calls and failures, and a later part may rely on what an earlier one
gives. Quiet runs make no calls, and a fetch makes the one it is asked for.
-/

set_option autoImplicit false

namespace Dossier

abbrev Known := Except Failure Settings × Template.Environment

namespace Run

variable {α β : Type}

/-- From every host that goes by `known`, the run leaves that in force, adds only calls of one kind,
and gives and fails only with what is told. -/
structure Confined (known : Known) (calls : Call → Prop) (fails : Failure → Prop) (gives : α → Prop)
    (x : Run α) : Prop where
  keeps : ∀ h, h.known = known → (x h).2.known = known
  made : ∀ h, h.known = known →
    ∃ made, (x h).2.calls = h.calls ++ made ∧ ∀ call ∈ made, calls call
  given : ∀ h a, h.known = known → (x h).1 = .ok a → gives a
  failed : ∀ h e, h.known = known → (x h).1 = .error e → fails e

section Confined

variable {known : Known} {calls : Call → Prop} {fails : Failure → Prop}

theorem quiet_confined {gives : α → Prop} {x : Run α} (hx : Quiet x)
    (hgiven : ∀ h a, h.known = known → (x h).1 = .ok a → gives a)
    (hfailed : ∀ h e, h.known = known → (x h).1 = .error e → fails e) :
    Confined known calls fails gives x where
  keeps h hknown := (hx.keeps known_aloof.toSteady h).trans hknown
  made h _ := ⟨[], by simp [hx.keeps calls_steady h], by simp⟩
  given := hgiven
  failed := hfailed

theorem pure_confined {gives : α → Prop} {a : α} (ha : gives a) :
    Confined known calls fails gives (pure a) := by
  refine quiet_confined (pure_quiet a) (fun h b _ hb => ?_) (fun h e _ he => by cases he)
  cases hb
  exact ha

theorem throw_confined {gives : α → Prop} {e : Failure} (he : fails e) :
    Confined known calls fails gives (throw e : Run α) := by
  refine quiet_confined (throw_quiet e) (fun h b _ hb => by cases hb) (fun h e' _ he' => ?_)
  cases he'
  exact he

theorem lift_confined {gives : α → Prop} {x : Except Failure α} (hx : ∀ a, x = .ok a → gives a)
    (he : ∀ e, x = .error e → fails e) : Confined known calls fails gives (lift x) := by
  refine quiet_confined (lift_quiet x) (fun h a _ ha => hx a ?_) (fun h e _ hfails => he e ?_)
  · rwa [lift_apply] at ha
  · rwa [lift_apply] at hfails

theorem bind_confined {middle : α → Prop} {gives : β → Prop} {x : Run α} {f : α → Run β}
    (hx : Confined known calls fails middle x)
    (hf : ∀ a, middle a → Confined known calls fails gives (f a)) :
    Confined known calls fails gives (x >>= f) := by
  -- a run either ends in its first part or goes on from what that part gives
  have ends (h : Host) (hknown : h.known = known) :
      (∃ e, (x >>= f) h = (.error e, (x h).2) ∧ fails e) ∨
        ∃ a, (x >>= f) h = f a (x h).2 ∧ middle a := by
    cases hfirst : (x h).1 with
    | error e => exact .inl ⟨e, bind_of_error hfirst, hx.failed h e hknown hfirst⟩
    | ok a => exact .inr ⟨a, bind_of_ok hfirst, hx.given h a hknown hfirst⟩
  have next {a : α} (h : Host) (hknown : h.known = known) (ha : middle a) :
      Confined known calls fails gives (f a) ∧ (x h).2.known = known :=
    ⟨hf a ha, hx.keeps h hknown⟩
  refine ⟨fun h hknown => ?_, fun h hknown => ?_, fun h b hknown hb => ?_, fun h e hknown he => ?_⟩
  · rcases ends h hknown with ⟨e, hrun, -⟩ | ⟨a, hrun, ha⟩
    · rw [hrun]
      exact hx.keeps h hknown
    · obtain ⟨hnext, hthere⟩ := next h hknown ha
      rw [hrun]
      exact hnext.keeps _ hthere
  · obtain ⟨first, hcalls, hfirst⟩ := hx.made h hknown
    rcases ends h hknown with ⟨e, hrun, -⟩ | ⟨a, hrun, ha⟩
    · rw [hrun]
      exact ⟨first, hcalls, hfirst⟩
    · obtain ⟨hnext, hthere⟩ := next h hknown ha
      obtain ⟨later, hmore, hlater⟩ := hnext.made _ hthere
      rw [hrun]
      exact ⟨first ++ later, by rw [hmore, hcalls, List.append_assoc],
        List.forall_mem_append.mpr ⟨hfirst, hlater⟩⟩
  · rcases ends h hknown with ⟨e, hrun, -⟩ | ⟨a, hrun, ha⟩
    · rw [hrun] at hb
      cases hb
    · obtain ⟨hnext, hthere⟩ := next h hknown ha
      rw [hrun] at hb
      exact hnext.given _ b hthere hb
  · rcases ends h hknown with ⟨e', hrun, hfails⟩ | ⟨a, hrun, ha⟩
    · rw [hrun] at he
      cases he
      exact hfails
    · obtain ⟨hnext, hthere⟩ := next h hknown ha
      rw [hrun] at he
      exact hnext.failed _ e hthere he

theorem map_confined {gives : α → Prop} (f : α → β) {x : Run α}
    (hx : Confined known calls fails gives x) :
    Confined known calls fails (fun _ => True) (f <$> x) where
  keeps h hknown := by
    rw [map_apply]
    exact hx.keeps h hknown
  made h hknown := by
    rw [map_apply]
    exact hx.made h hknown
  given _ _ _ _ := trivial
  failed h e hknown he := by
    rw [map_apply] at he
    cases hend : (x h).1 with
    | ok a =>
      rw [hend] at he
      cases he
    | error e' =>
      rw [hend] at he
      cases he
      exact hx.failed h _ hknown hend

/-- Looked at from outside, a run gives how it ended. -/
theorem observe_confined {gives : α → Prop} {never : Failure → Prop} {x : Run α}
    (hx : Confined known calls fails gives x) :
    Confined known calls never (fun result => match result with
      | .ok a => gives a
      | .error e => fails e) (observe x) where
  keeps := hx.keeps
  made := hx.made
  given h result hknown hresult := by
    cases hresult
    cases hend : (x h).1 with
    | ok a => exact hx.given h a hknown hend
    | error e => exact hx.failed h e hknown hend
  failed h e _ he := by cases he

structure Source.Fails (source : Source) (fails : Failure → Prop) : Prop where
  source : ∀ past call e, source past call = .error e → fails e
  tokenless : ∀ e, ¬ e.OfToken → fails e

variable {source : Source}

theorem outcome_fails (hfails : Source.Fails source fails) {past : List Call} {call : Call}
    {e : Failure} (he : source.outcome past call = .error e) : fails e := by
  unfold Dossier.Source.outcome at he
  split at he
  · next hsource =>
    cases he
    exact hfails.source past call _ hsource
  · split at he
    · cases he
    · cases he
      exact hfails.tokenless _ (by simp [Failure.ofToken_iff])

theorem fetch_confined (hfails : Source.Fails source fails) {call : Call} (hcall : calls call) :
    Confined known calls fails (fun _ => True) (source.fetch call) where
  keeps h hknown := ((fetch_narrow source call).keeps known_aloof h).trans hknown
  made h _ := ⟨[call], (fetch_outcome source call h).2, by simpa using hcall⟩
  given _ _ _ _ := trivial
  failed h e _ he := outcome_fails hfails ((fetch_outcome source call h).1.symm.trans he)

/-- Fetching page by page makes the same call for one page after the other. -/
theorem fetchPages_confined (hfails : Source.Fails source fails) {dataSet : String}
    {params : Option Fields} (hcall : ∀ page, calls ⟨dataSet, params, page, .null⟩) (limit : Int)
    (left : Nat) (page : Option String) :
    Confined known calls fails (fun _ => True)
      (source.fetchPages dataSet params limit left page) := by
  induction left generalizing page with
  | zero => exact throw_confined (hfails.tokenless _ (by simp [Failure.ofToken_iff]))
  | succ left ih =>
    rw [Source.fetchPages]
    refine bind_confined (fetch_confined hfails (hcall page)) fun batch _ => ?_
    split
    · split
      · exact bind_confined (ih _) fun _ _ => pure_confined trivial
      · exact pure_confined trivial
    · exact pure_confined trivial

theorem settings_confined (hfails : ∀ e, ¬ e.OfToken → fails e) :
    Confined known calls fails (fun _ => True) settings :=
  quiet_confined settings_quiet (fun _ _ _ _ => trivial) fun h e _ he =>
    hfails e (known_tokenless h e ((settings_known h).symm.trans he))

theorem fetchAll_confined (hfails : Source.Fails source fails) {dataSet : String}
    {params : Option Fields} (hcall : ∀ page, calls ⟨dataSet, params, page, .null⟩)
    (maxPages : Option Int) :
    Confined known calls fails (fun _ => True) (source.fetchAll dataSet params maxPages) := by
  have pages (limit : Int) (_ : True) : Confined known calls fails (fun _ => True)
      (source.fetchPages dataSet params limit limit.toNat none) :=
    fetchPages_confined hfails hcall limit limit.toNat none
  unfold Source.fetchAll
  cases maxPages.filter (· ≠ 0) with
  | some limit => exact bind_confined (pure_confined trivial) pages
  | none => exact bind_confined (map_confined _ (settings_confined hfails.tokenless)) pages

end Confined

end Run

end Dossier
