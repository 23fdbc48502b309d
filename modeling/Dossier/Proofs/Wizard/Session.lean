import Dossier.Proofs.Wizard.Orderly

/-!
# Sessions

A session serves one operation after the other, on engines that may differ, and goes on after one
that fails. What every operation does to the host, from whatever state it finds, the whole session
does.
-/

set_option autoImplicit false

namespace Dossier

open Run Wizard

inductive Operation where
  | form (criteria : Fields) (pages : List Page)
  | schema (criteria : Fields)
  | syncPlan (criteria : Fields)
  | deliver (o : Order) (expected : Option String)
  | options (criteria : Option Fields) (category : Value)
  | definition (proofType : String)
  | categoryInput (values scope : Fields)
  | addInputs (values scope : Fields) (placements : List Placement) (pages : List Page)
  | printedCriteria (values scope : Fields) (placements : List Placement)
  | build (builder : Builder) (d : Definition) (o : Order)
  | fetch (call : Call)
  | fetchAll (dataSet : String) (params : Option Fields) (maxPages : Option Int)

namespace Operation

/-- Do what is asked for; what comes of it matters only as far as it fails. -/
def run (e : Engine) : Operation → Run Unit
  | form criteria pages => (fun _ => ()) <$> e.form criteria pages
  | schema criteria => (fun _ => ()) <$> e.schema criteria
  | syncPlan criteria => (fun _ => ()) <$> e.syncPlan criteria
  | deliver o expected => (fun _ => ()) <$> e.deliver o expected
  | options criteria category => (fun _ => ()) <$> e.catalog.options criteria category
  | definition proofType => (fun _ => ()) <$> e.catalog.definition proofType
  | categoryInput values scope => (fun _ => ()) <$> e.provider.categoryInput e.source values scope
  | addInputs values scope placements pages => do
    let assembled ← e.provider.addInputs e.source values scope placements pages
    match assembled.failure with
    | some e => throw e
    | none => pure ()
  | printedCriteria values scope placements =>
    (fun _ => ()) <$> e.provider.printedCriteria e.source values scope placements
  | build builder d o => (fun _ => ()) <$> { builder with source := e.source }.build d o
  | fetch call => (fun _ => ()) <$> e.source.fetch call
  | fetchAll dataSet params maxPages => (fun _ => ()) <$> e.source.fetchAll dataSet params maxPages

def Covered (fails : Failure → Prop) (e : Engine) : Operation → Prop
  | addInputs _ _ placements _ => e.provider.Covers fails placements
  | printedCriteria _ _ placements => e.provider.Covers fails placements
  | build builder d _ => ∀ p ∈ builder.provider, p.Covers fails d.criteria
  | _ => True

theorem run_tidy {source : Source} {inv : Host → Prop} {fails : Failure → Prop} {e : Engine}
    (hallows : Allows source inv fails) (he : e.Regular source inv fails) {op : Operation}
    (hop : op.Covered fails e) : Tidy source inv fails (op.run e) := by
  have hsource := he.asks
  cases op with
  | form criteria pages => exact map_tidy _ (Engine.form_tidy hallows he criteria pages)
  | schema criteria => exact map_tidy _ (Engine.schema_tidy hallows he criteria)
  | syncPlan criteria => exact map_tidy _ (Engine.syncPlan_tidy hallows he criteria)
  | deliver o expected => exact map_tidy _ (Engine.deliver_tidy hallows he o expected)
  | options criteria category =>
    exact map_tidy _ (Catalog.options_tidy hallows e.catalog criteria category)
  | definition proofType => exact map_tidy _ (he.definition proofType).tidy
  | categoryInput values scope =>
    rw [run, hsource]
    exact map_tidy _ (Provider.categoryInput_tidy hallows he.category values scope)
  | addInputs values scope placements pages =>
    rw [run, hsource]
    refine bind_orderly (Provider.addInputs_orderly hallows hop values scope pages)
      fun assembled hassembled => ?_
    split
    · next hfailure => exact throw_orderly (hassembled _ hfailure)
    · exact pure_tidy ()
  | printedCriteria values scope placements =>
    rw [run, hsource]
    exact map_tidy _ (Provider.printedCriteria_tidy hallows hop values scope)
  | build builder d o => exact map_tidy _ (Builder.build_tidy hallows hsource d o hop)
  | fetch call =>
    rw [run, hsource]
    exact map_tidy _ (fetch_tidy hallows call)
  | fetchAll dataSet params maxPages =>
    rw [run, hsource]
    exact map_tidy _ (fetchAll_tidy hallows dataSet params maxPages)

end Operation

def serve : List (Engine × Operation) → Run Unit
  | [] => pure ()
  | (e, op) :: rest => do
    let _ ← observe (op.run e)
    serve rest

theorem serve_cons (e : Engine) (op : Operation) (rest : List (Engine × Operation)) (h : Host) :
    serve ((e, op) :: rest) h = serve rest (op.run e h).2 := observe_bind _ _ h

/-- What holds between the hosts before and after every operation, and is handed on, holds between
those before and after a session. -/
theorem serve_related {R : Host → Host → Prop} (hrefl : ∀ h, R h h)
    (htrans : ∀ {h h' h''}, R h h' → R h' h'' → R h h'') {session : List (Engine × Operation)}
    (hstep : ∀ entry ∈ session, ∀ h, R h (entry.2.run entry.1 h).2) (h : Host) :
    R h (serve session h).2 := by
  induction session generalizing h with
  | nil => exact hrefl h
  | cons entry rest ih =>
    obtain ⟨hfirst, hrest⟩ := List.forall_mem_cons.mp hstep
    rw [serve_cons]
    exact htrans (hfirst h) (ih hrest _)

end Dossier
