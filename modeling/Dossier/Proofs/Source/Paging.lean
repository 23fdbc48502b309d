import Dossier.Proofs.Source.Exchange

/-!
# Pages along their cursors

A data set is fetched page by page: the first call names no page, and each later one the page that
the batch before it named. The batches of a fetch that succeeds are all that there are along the
cursors, and they are as many calls.
-/

set_option autoImplicit false

namespace Dossier

open Run

/-- All batches of a data set from a page on, each at the cursor of the one before, and the calls
made before and after. The last one is pending or names no further page. -/
inductive Paged (source : Source) (dataSet : String) (params : Option Fields) :
    List Call → Option String → List Batch → List Call → Prop
  | last {past : List Call} {page : Option String} {batch : Batch}
      (outcome : source.outcome past ⟨dataSet, params, page, .null⟩ = .ok batch)
      (ends : batch.status = .complete → batch.cursor? = none) :
      Paged source dataSet params past page [batch] (past ++ [⟨dataSet, params, page, .null⟩])
  | next {past calls : List Call} {page : Option String} {batch : Batch} {cursor : String}
      {rest : List Batch}
      (outcome : source.outcome past ⟨dataSet, params, page, .null⟩ = .ok batch)
      (complete : batch.status = .complete) (names : batch.cursor? = some cursor)
      (later : Paged source dataSet params (past ++ [⟨dataSet, params, page, .null⟩]) (some cursor)
        rest calls) :
      Paged source dataSet params past page (batch :: rest) calls

/-- All batches of a data set take one call at least. -/
theorem Paged.grows {source : Source} {dataSet : String} {params : Option Fields}
    {past calls : List Call} {page : Option String} {batches : List Batch}
    (hpaged : Paged source dataSet params past page batches calls) :
      past.length < calls.length := by
  induction hpaged with
  | last => simp
  | next outcome complete names later ih =>
    rw [List.length_append] at ih
    exact Nat.lt_of_le_of_lt (Nat.le_add_right _ _) ih

section Paging

variable {source : Source} {dataSet : String} {params : Option Fields} {batches : List Batch}
  {h h' : Host}

theorem fetch_paged {page : Option String} {batch : Batch}
    (hrun : source.fetch ⟨dataSet, params, page, .null⟩ h = (.ok batch, h')) :
    source.outcome h.calls ⟨dataSet, params, page, .null⟩ = .ok batch ∧
      h'.calls = h.calls ++ [⟨dataSet, params, page, .null⟩] := by
  obtain ⟨hout, hcalls⟩ := fetch_outcome source ⟨dataSet, params, page, .null⟩ h
  rw [hrun] at hout hcalls
  exact ⟨hout.symm, hcalls⟩

theorem fetchPages_paged {limit : Int} {left : Nat} {page : Option String}
    (hrun : source.fetchPages dataSet params limit left page h = (.ok batches, h')) :
    Paged source dataSet params h.calls page batches h'.calls := by
  induction left generalizing page batches h with
  | zero => cases hrun
  | succ left ih =>
    rw [Source.fetchPages] at hrun
    obtain ⟨batch, h₁, hfetch, hrest⟩ := bind_ok hrun
    obtain ⟨hout, hcalls⟩ := fetch_paged hfetch
    split at hrest
    · next hcomplete =>
      cases hcursor : batch.cursor? with
      | none =>
        rw [hcursor] at hrest
        obtain ⟨rfl, rfl⟩ := pure_ok hrest
        rw [hcalls]
        exact .last hout fun _ => hcursor
      | some cursor =>
        rw [hcursor] at hrest
        obtain ⟨rest, h₂, hlater, hpure⟩ := bind_ok hrest
        obtain ⟨rfl, rfl⟩ := pure_ok hpure
        have hpaged := ih hlater
        rw [hcalls] at hpaged
        exact .next hout hcomplete hcursor hpaged
    · next hpending =>
      obtain ⟨rfl, rfl⟩ := pure_ok hrest
      rw [hcalls]
      exact .last hout fun hcomplete => absurd hcomplete hpending

/-- What is fetched of a data set are its batches from the first page on. -/
theorem fetchAll_paged {maxPages : Option Int}
    (hrun : source.fetchAll dataSet params maxPages h = (.ok batches, h')) :
    Paged source dataSet params h.calls none batches h'.calls := by
  unfold Source.fetchAll at hrun
  cases hlimit : maxPages.filter (· ≠ 0) with
  | some limit =>
    rw [hlimit] at hrun
    exact fetchPages_paged hrun
  | none =>
    rw [hlimit] at hrun
    obtain ⟨limit, h₁, hsettings, hpages⟩ := bind_ok hrun
    rw [← keeps_ok ((map_quiet _ settings_quiet).keeps calls_steady) hsettings]
    exact fetchPages_paged hpages

end Paging

end Dossier
