import Dossier.Proofs.Source.Paging
import Mathlib.Data.List.Basic

/-!
# Pages up to a limit

A fetch of all pages follows the cursors, but makes no more calls than its limit. When no call
fails, it ends with the first batch that does not go on. When every batch up to the limit goes on,
it fails at the limit, however the source would have answered after that.
-/

set_option autoImplicit false

namespace Dossier

open Run

def Batch.GoesOn (b : Batch) : Prop := b.status = .complete ∧ b.nextPage.getD "" ≠ ""

instance (b : Batch) : Decidable b.GoesOn := inferInstanceAs (Decidable (_ ∧ _))

theorem Batch.goesOn_of_cursor {b : Batch} {cursor : String} (hcomplete : b.status = .complete)
    (hcursor : b.cursor? = some cursor) : b.GoesOn ∧ b.nextPage = some cursor := by
  obtain ⟨hnext, hfilled⟩ := Option.filter_eq_some_iff.mp hcursor
  refine ⟨⟨hcomplete, ?_⟩, hnext⟩
  simpa [hnext] using hfilled

theorem Batch.stops_of_no_cursor {b : Batch} (hcursor : b.cursor? = none) : ¬ b.GoesOn := by
  rintro ⟨-, hfilled⟩
  unfold Batch.cursor? at hcursor
  cases hnext : b.nextPage with
  | none => simp [hnext] at hfilled
  | some cursor =>
    rw [hnext] at hcursor hfilled
    exact hfilled (by simpa using hcursor)

/-- Calls that give batches one after the other. Each asks for the page that the batch before it
named. -/
def pageExchanges (dataSet : String) (params : Option Fields) :
    Option String → List Batch → List Exchange
  | _, [] => []
  | page, b :: rest =>
    ⟨⟨dataSet, params, page, .null⟩, .ok b⟩ :: pageExchanges dataSet params b.nextPage rest

theorem pageExchanges_length (dataSet : String) (params : Option Fields) (page : Option String)
    (batches : List Batch) :
      (pageExchanges dataSet params page batches).length = batches.length := by
  induction batches generalizing page with
  | nil => rfl
  | cons b rest ih => rw [pageExchanges, List.length_cons, ih, List.length_cons]

/-- How a fetch of at most so many pages ends when these batches came: at the limit, if all of them
go on, or with the first one that does not. -/
def PagesEnd (dataSet : String) (limit : Int) (left : Nat) (batches : List Batch)
    (result : Except Failure (List Batch)) : Prop :=
  (batches.length = left ∧ (∀ b ∈ batches, b.GoesOn) ∧
    result = .error (.pageLimit dataSet limit)) ∨
  (batches.length ≤ left ∧ (∀ b ∈ batches.dropLast, b.GoesOn) ∧
    (∃ last ∈ batches.getLast?, ¬ last.GoesOn) ∧ result = .ok batches)

theorem PagesEnd.cons {dataSet : String} {limit : Int} {left : Nat}
    {b : Batch} {batches : List Batch} {result : Except Failure (List Batch)} (hb : b.GoesOn)
    (hend : PagesEnd dataSet limit left batches result) :
    PagesEnd dataSet limit (left + 1) (b :: batches) (result.map (b :: ·)) := by
  rcases hend with ⟨hlength, hall, rfl⟩ | ⟨hlength, hbefore, ⟨last, hlast, hstops⟩, rfl⟩
  · exact .inl ⟨by rw [List.length_cons, hlength], List.forall_mem_cons.mpr ⟨hb, hall⟩, rfl⟩
  · have hne : batches ≠ [] := by
      rintro rfl
      cases hlast
    refine .inr ⟨Nat.succ_le_succ hlength, ?_, ⟨last, ?_, hstops⟩, rfl⟩
    · rw [List.dropLast_cons_of_ne_nil hne]
      exact List.forall_mem_cons.mpr ⟨hb, hbefore⟩
    · rw [List.getLast?_cons, Option.mem_def.mp hlast]
      rfl

section Limit

variable {source : Source} {dataSet : String} {params : Option Fields} {limit : Int} {left : Nat}
  {page : Option String} {past calls : List Call}

/-- The calls that a fetch of at most so many pages adds to those before, and what it gives. Each
call is answered by the source that knows the calls before it, and none follows a page that does not
go on. -/
def PagesMade (source : Source) (dataSet : String) (params : Option Fields)
    (limit : Int) (left : Nat)
    (page : Option String) (past calls : List Call) (result : Except Failure (List Batch)) : Prop :=
  ∃ xs, calls = past ++ xs.map Exchange.call ∧ Answered source past xs ∧
    ((∀ x ∈ xs, ∃ batch, x.outcome = .ok batch) →
      ∃ batches, xs = pageExchanges dataSet params page batches ∧
        PagesEnd dataSet limit left batches result)

theorem pagesMade_failed {e : Failure} {result : Except Failure (List Batch)}
    (hout : source.outcome past ⟨dataSet, params, page, .null⟩ = .error e) :
    PagesMade source dataSet params limit left page past
      (past ++ [⟨dataSet, params, page, .null⟩]) result := by
  refine ⟨[⟨⟨dataSet, params, page, .null⟩, .error e⟩], rfl, ⟨hout.symm, trivial⟩, fun hfine => ?_⟩
  obtain ⟨batch, hbatch⟩ := hfine _ (List.mem_singleton_self _)
  cases hbatch

theorem pagesMade_last {b : Batch} (hstops : ¬ b.GoesOn)
    (hout : source.outcome past ⟨dataSet, params, page, .null⟩ = .ok b) :
    PagesMade source dataSet params limit (left + 1) page past
      (past ++ [⟨dataSet, params, page, .null⟩]) (.ok [b]) :=
  ⟨[⟨⟨dataSet, params, page, .null⟩, .ok b⟩], rfl, ⟨hout.symm, trivial⟩, fun _ =>
    ⟨[b], rfl, .inr ⟨by simp, by simp, ⟨b, rfl, hstops⟩, rfl⟩⟩⟩

theorem pagesMade_next {b : Batch} {result : Except Failure (List Batch)} (hgoes : b.GoesOn)
    (hout : source.outcome past ⟨dataSet, params, page, .null⟩ = .ok b)
    (hmade : PagesMade source dataSet params limit left b.nextPage
      (past ++ [⟨dataSet, params, page, .null⟩]) calls result) :
    PagesMade source dataSet params limit (left + 1) page past calls (result.map (b :: ·)) := by
  obtain ⟨xs, rfl, hanswered, hpages⟩ := hmade
  refine ⟨⟨⟨dataSet, params, page, .null⟩, .ok b⟩ :: xs, by simp, ⟨hout.symm, hanswered⟩,
    fun hfine => ?_⟩
  obtain ⟨batches, rfl, hend⟩ := hpages fun x hx => hfine x (List.mem_cons_of_mem _ hx)
  exact ⟨b :: batches, rfl, hend.cons hgoes⟩

theorem fetchPages_made (source : Source) (dataSet : String) (params : Option Fields) (limit : Int)
    (left : Nat) (page : Option String) (h : Host) :
    PagesMade source dataSet params limit left page h.calls
      (source.fetchPages dataSet params limit left page h).2.calls
      (source.fetchPages dataSet params limit left page h).1 := by
  induction left generalizing page h with
  | zero =>
    exact ⟨[], (List.append_nil _).symm, trivial, fun _ => ⟨[], rfl, .inl ⟨rfl, by simp, rfl⟩⟩⟩
  | succ left ih =>
    obtain ⟨hout, hlog⟩ := fetch_outcome source ⟨dataSet, params, page, .null⟩ h
    rw [Source.fetchPages]
    cases hresult : (source.fetch ⟨dataSet, params, page, .null⟩ h).1 with
    | error e =>
      rw [bind_of_error hresult, hlog]
      exact pagesMade_failed (hout.symm.trans hresult)
    | ok b =>
      have hbatch := hout.symm.trans hresult
      have hlast (hstops : ¬ b.GoesOn) :
          PagesMade source dataSet params limit (left + 1) page h.calls
          (source.fetch ⟨dataSet, params, page, .null⟩ h).2.calls (.ok [b]) := by
        rw [hlog]
        exact pagesMade_last hstops hbatch
      rw [bind_of_ok hresult]
      by_cases hcomplete : b.status = .complete
      · simp only [if_pos hcomplete]
        cases hcursor : b.cursor? with
        | none => exact hlast (Batch.stops_of_no_cursor hcursor)
        | some cursor =>
          obtain ⟨hgoes, hnext⟩ := Batch.goesOn_of_cursor hcomplete hcursor
          have hmade := ih (some cursor) (source.fetch ⟨dataSet, params, page, .null⟩ h).2
          rw [hlog, ← hnext] at hmade
          simp only [bind_pure_comp, map_apply, ← hnext]
          exact pagesMade_next hgoes hbatch hmade
      · simp only [if_neg hcomplete]
        exact hlast fun hgoes => hcomplete hgoes.1

/-- The calls of a fetch of all pages, each answered by a source that knows the ones before it. When
none of them fails, they are at most as many as the limit, each asks for the page that the batch
before it named, and every batch but the last goes on. The result is the batches that came if the
last one does not go on; the fetch fails exactly when as many batches came as the limit allows and
all of them go on. -/
theorem fetchAll_limit (source : Source) (dataSet : String) (params : Option Fields)
    (hlimit : 1 ≤ limit) (h : Host) :
    ∃ xs, (source.fetchAll dataSet params (some limit) h).2.calls =
        h.calls ++ xs.map Exchange.call ∧
      Answered source h.calls xs ∧
      ((∀ x ∈ xs, ∃ batch, x.outcome = .ok batch) →
        ∃ batches, xs = pageExchanges dataSet params none batches ∧
          (xs.length : Int) ≤ limit ∧ (∀ b ∈ batches.dropLast, b.GoesOn) ∧
          (∀ results, (source.fetchAll dataSet params (some limit) h).1 = .ok results ↔
            results = batches ∧ ∃ last ∈ batches.getLast?, ¬ last.GoesOn) ∧
          (∀ e, (source.fetchAll dataSet params (some limit) h).1 = .error e ↔
            e = .pageLimit dataSet limit ∧ (xs.length : Int) = limit ∧
              ∀ b ∈ batches, b.GoesOn)) := by
  have hpages : source.fetchAll dataSet params (some limit) =
      source.fetchPages dataSet params limit limit.toNat none := by
    have hne : limit ≠ 0 := by omega
    simp [Source.fetchAll, Option.filter, hne]
  rw [hpages]
  obtain ⟨xs, hcalls, hanswered, hfine⟩ :=
    fetchPages_made source dataSet params limit limit.toNat none h
  refine ⟨xs, hcalls, hanswered, fun hall => ?_⟩
  obtain ⟨batches, rfl, hend⟩ := hfine hall
  refine ⟨batches, rfl, ?_⟩
  rw [pageExchanges_length]
  rcases hend with ⟨hlength, hgo, hresult⟩ | ⟨hlength, hbefore, ⟨last, hlast, hstops⟩, hresult⟩
  · have hreached : (batches.length : Int) = limit := by omega
    have hnone : ¬ ∃ last ∈ batches.getLast?, ¬ last.GoesOn := fun ⟨last, hlast, hstops⟩ =>
      hstops (hgo last (List.mem_of_getLast? hlast))
    rw [hresult]
    refine ⟨by omega, fun b hb => hgo b ((List.dropLast_sublist batches).mem hb),
      fun results => ⟨nofun, fun hends => absurd hends.2 hnone⟩, fun e => ⟨?_, ?_⟩⟩
    · rintro ⟨⟩
      exact ⟨rfl, hreached, hgo⟩
    · rintro ⟨rfl, -, -⟩
      rfl
  · have hended : ¬ ∀ b ∈ batches, b.GoesOn := fun hgo =>
      hstops (hgo last (List.mem_of_getLast? hlast))
    rw [hresult]
    refine ⟨by omega, hbefore, fun results => ⟨?_, ?_⟩,
      fun e => ⟨nofun, fun hends => absurd hends.2.2 hended⟩⟩
    · rintro ⟨⟩
      exact ⟨rfl, last, hlast, hstops⟩
    · rintro ⟨rfl, -⟩
      rfl

end Limit

def twoPages : Source := fun past _ =>
  .ok (.object [("status", .text "complete"),
    ("nextPage", .text (if past.isEmpty then "p2" else ""))])

theorem twoPages_fine (past : List Call) (call : Call) :
    ∃ batch, twoPages.outcome past call = .ok batch := by
  have hread : ∀ page ∈ ["p2", ""], (Batch.read (.object [("status", .text "complete"),
      ("nextPage", .text page)])).isOk = true := by
    decide +kernel
  have hpage := hread (if past.isEmpty then "p2" else "") (by cases past <;> simp)
  unfold Source.outcome twoPages
  dsimp only
  split
  · exact ⟨_, rfl⟩
  · next hbad =>
    rw [hbad] at hpage
    cases hpage

theorem answered_fine {source : Source}
    (hsource : ∀ past call, ∃ batch, source.outcome past call = .ok batch) {past : List Call}
    {xs : List Exchange} (hanswered : Answered source past xs) :
    ∀ x ∈ xs, ∃ batch, x.outcome = .ok batch := by
  induction xs generalizing past with
  | nil => simp
  | cons x rest ih =>
    obtain ⟨hx, hrest⟩ := hanswered
    exact List.forall_mem_cons.mpr ⟨hx ▸ hsource past x.call, ih hrest⟩

/-- The last page comes with the last call that the limit allows. -/
theorem fetchAll_limit_reached :
    (1 : Int) ≤ 2 ∧ ∃ first second : Batch,
      first.nextPage = some "p2" ∧ first.GoesOn ∧ ¬ second.GoesOn ∧
      (twoPages.fetchAll "groups" none (some 2) Host.bare).1 = .ok [first, second] := by
  have hruns : (twoPages.fetchAll "groups" none (some 2) Host.bare).1.toOption.isSome = true := by
    decide +kernel
  have hpages : (twoPages.fetchAll "groups" none (some 2) Host.bare).2.calls.map Call.page =
      [none, some "p2"] := by
    decide +kernel
  obtain ⟨results, hresults⟩ := Option.isSome_iff_exists.mp hruns
  have hrun := congrArg Prod.fst (ok_of_toOption hresults)
  obtain ⟨xs, hcalls, hanswered, hfine⟩ :=
    fetchAll_limit twoPages "groups" none (show (1 : Int) ≤ 2 by decide) Host.bare
  obtain ⟨batches, rfl, -, hbefore, hok, -⟩ := hfine (answered_fine twoPages_fine hanswered)
  obtain ⟨rfl, last, hlast, hstops⟩ := (hok results).mp hrun
  have hmade : (pageExchanges "groups" none none results).map (Call.page ∘ Exchange.call) =
      [none, some "p2"] := by
    rw [hcalls] at hpages
    simpa [Host.bare, Host.start] using hpages
  obtain ⟨first, second, rfl⟩ : ∃ first second, results = [first, second] := by
    rw [← List.length_eq_two, ← pageExchanges_length "groups" none none]
    simpa using congrArg List.length hmade
  cases hlast
  exact ⟨by decide, first, second, by simpa [pageExchanges] using hmade, hbefore first (by simp),
    hstops, hrun⟩

end Dossier
