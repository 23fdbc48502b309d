import Dossier.Proofs.Catalog.Definition
import Dossier.Proofs.Catalog.Loading
import Dossier.Proofs.Host.Quiet
import Dossier.Proofs.Template.Rendering

/-!
# Registration

A catalog lists declared types first and handlers behind them. No two of its entries have one key,
so the first handler that would bring a second one ends the registration; and the kind of an entry
decides what the catalog gives for its key.
-/

set_option autoImplicit false

namespace Dossier.Catalog

open Run

def FirstTaken (keys : List String) (handlers : List Handler) (handler : Handler) : Prop :=
  ∃ before after, handlers = before ++ handler :: after ∧
    handler.proofType ∈ keys ++ before.map Handler.proofType ∧
    (keys ++ before.map Handler.proofType).Nodup

section Handlers

variable {keys : List String} {handlers : List Handler} {first handler : Handler}
  {entries all : List (String × Entry)} {e : Failure}

theorem firstTaken_of_mem (hkeys : keys.Nodup) (hmem : first.proofType ∈ keys) :
    FirstTaken keys (first :: handlers) handler ↔ handler = first := by
  constructor
  · rintro ⟨before, after, hsplit, -, hnodup⟩
    cases before with
    | nil => exact (List.cons.inj hsplit).1.symm
    | cons other before =>
      obtain ⟨rfl, -⟩ := List.cons.inj hsplit
      exact absurd rfl ((List.nodup_append.mp hnodup).2.2 _ hmem _ (by simp))
  · rintro rfl
    exact ⟨[], handlers, rfl, by simpa using hmem, by simpa using hkeys⟩

theorem firstTaken_of_not_mem (hmem : first.proofType ∉ keys) :
    FirstTaken keys (first :: handlers) handler ↔
      FirstTaken (keys ++ [first.proofType]) handlers handler := by
  constructor
  · rintro ⟨before, after, hsplit, htaken, hnodup⟩
    cases before with
    | nil =>
      obtain ⟨rfl, -⟩ := List.cons.inj hsplit
      exact absurd (by simpa using htaken) hmem
    | cons other before =>
      obtain ⟨rfl, hrest⟩ := List.cons.inj hsplit
      exact ⟨before, after, hrest, by simpa using htaken, by simpa using hnodup⟩
  · rintro ⟨before, after, rfl, htaken, hnodup⟩
    exact ⟨first :: before, after, rfl, by simpa using htaken, by simpa using hnodup⟩

theorem nodup_concat (hkeys : keys.Nodup) {key : String} (hmem : key ∉ keys) :
    (keys ++ [key]).Nodup :=
  hkeys.append (List.nodup_singleton key) (List.disjoint_singleton.mpr hmem)

/-- When any handler has a type that is taken, there is a first one. -/
theorem firstTaken_exists (hkeys : keys.Nodup) :
    (∃ handler, FirstTaken keys handlers handler) ↔ ∃ before handler after,
      handlers = before ++ handler :: after ∧
        handler.proofType ∈ keys ++ before.map Handler.proofType := by
  constructor
  · rintro ⟨handler, before, after, hsplit, htaken, -⟩
    exact ⟨before, handler, after, hsplit, htaken⟩
  · rintro ⟨before, handler, after, rfl, htaken⟩
    induction before generalizing keys with
    | nil => exact ⟨handler, (firstTaken_of_mem hkeys (by simpa using htaken)).mpr rfl⟩
    | cons first before ih =>
      by_cases hmem : first.proofType ∈ keys
      · exact ⟨first, (firstTaken_of_mem hkeys hmem).mpr rfl⟩
      · obtain ⟨found, hfound⟩ := ih (nodup_concat hkeys hmem) (by simpa using htaken)
        exact ⟨found, (firstTaken_of_not_mem hmem).mpr hfound⟩

theorem lookup_isSome_iff (entries : List (String × Entry)) (key : String) :
    (entries.lookup key).isSome = true ↔ key ∈ entries.map Prod.fst := by
  induction entries with
  | nil => simp
  | cons entry rest ih =>
    obtain ⟨own, e⟩ := entry
    by_cases heq : key = own
    · simp [heq]
    · simp only [List.lookup_cons, beq_false_of_ne heq, ih, List.map_cons,
        List.mem_cons, heq, false_or]

theorem addHandlers_error_iff (hkeys : (entries.map Prod.fst).Nodup) :
    addHandlers entries handlers = .error e ↔ ∃ handler,
      FirstTaken (entries.map Prod.fst) handlers handler ∧
        e = .duplicateProofType handler.proofType := by
  induction handlers generalizing entries with
  | nil => simp [addHandlers, FirstTaken]
  | cons first rest ih =>
    by_cases hmem : first.proofType ∈ entries.map Prod.fst
    · rw [addHandlers, if_pos ((lookup_isSome_iff _ _).mpr hmem)]
      simp [firstTaken_of_mem hkeys hmem, eq_comm]
    · have hnew := nodup_concat hkeys hmem
      rw [addHandlers, if_neg (fun h => hmem ((lookup_isSome_iff _ _).mp h)),
        ih (by simpa using hnew)]
      simp [firstTaken_of_not_mem hmem]

theorem addHandlers_ok (hkeys : (entries.map Prod.fst).Nodup)
    (hall : addHandlers entries handlers = .ok all) :
    all = entries ++ handlers.map (fun handler => (handler.proofType, .handler handler)) ∧
      (all.map Prod.fst).Nodup := by
  induction handlers generalizing entries with
  | nil =>
    cases hall
    exact ⟨by simp, hkeys⟩
  | cons first rest ih =>
    rw [addHandlers] at hall
    split at hall
    · cases hall
    · next hfree =>
      have hmem : first.proofType ∉ entries.map Prod.fst :=
        fun h => hfree ((lookup_isSome_iff _ _).mpr h)
      obtain ⟨rfl, hnodup⟩ := ih (by simpa using nodup_concat hkeys hmem) hall
      exact ⟨by simp, hnodup⟩

end Handlers

/-! ## What a catalog gives for a key -/

def declaredEntries (listings : List (String × Listing)) : List (String × Entry) :=
  listings.map fun (key, l) => (key, .declared l)

def handlerEntries (handlers : List Handler) : List (String × Entry) :=
  handlers.map fun handler => (handler.proofType, .handler handler)

section Entries

variable {catalog : Catalog} {key : String} {l : Listing} {handler : Handler}

theorem lookup_of_mem {entries : List (String × Entry)}
    (hkeys : (entries.map Prod.fst).Nodup) {entry : Entry} (hmem : (key, entry) ∈ entries) :
    entries.lookup key = some entry := by
  obtain ⟨before, after, rfl⟩ := List.append_of_mem hmem
  refine List.lookup_eq_some_iff.mpr ⟨before, after, rfl, fun other hother => ?_⟩
  rw [List.map_append, List.nodup_append] at hkeys
  have hne := hkeys.2.2 other.1 (List.mem_map_of_mem hother) key (by simp)
  exact bne_iff_ne.mpr hne.symm

theorem service_declared (hl : catalog.entries.lookup key = some (.declared l)) (source : Source)
    (provider : Provider) (k : Host) :
    (catalog.service (.text key) source provider k).1 = k.known.1.map fun s =>
      .declared key ⟨source, some provider, catalog.messages,
        (Criterion.filled? catalog.connector).getD s.connectorName, s.integrationType⟩ := by
  unfold service
  dsimp only
  rw [hl]
  dsimp only [Builder.new]
  rw [bind_apply, bind_apply, ← settings_known]
  rcases settings k with ⟨_ | s, k'⟩ <;> rfl

theorem service_handler (hhandler : catalog.entries.lookup key = some (.handler handler))
    (source : Source) (provider : Provider) (k : Host) :
    (catalog.service (.text key) source provider k).1 = .ok (.handler handler) := by
  unfold service
  dsimp only
  rw [hhandler]
  rfl

/-- A type is unknown to a request for its definition exactly when it is not declared. -/
theorem definition_unknown_iff (k : Host) :
    (∃ v, (catalog.definition key k).1 = .error (.unknownProofType v)) ↔
      ∀ l, catalog.entries.lookup key ≠ some (.declared l) := by
  rw [definition_apply]
  rcases catalog.entries.lookup key with _ | l | handler
  · simp
  · simp only [ne_eq, Option.some.injEq, Entry.declared.injEq, forall_eq', iff_false]
    rintro ⟨v, hv⟩
    split at hv
    · cases hv
    · split at hv
      · cases hv
      · next e he =>
        cases hv
        rcases Configuration.definition_family he with hfamily | ⟨cause, hcause⟩
        · cases hfamily
        · cases hcause
  · simp

end Entries

/-! ## New catalogs -/

/-- A catalog of listings and handlers: each is an entry under its key, no key has two, and what
serves a key, or does not, is of the kind of its entry. -/
structure Registers (catalog : Catalog) (listings : List (String × Listing))
    (handlers : List Handler) :
    Prop where
  entries : catalog.entries = declaredEntries listings ++ handlerEntries handlers
  keys : (catalog.entries.map Prod.fst).Nodup
  declared : ∀ key l, (key, l) ∈ listings → ∀ source provider k,
    (catalog.service (.text key) source provider k).1 = k.known.1.map fun s =>
      .declared key ⟨source, some provider, catalog.messages,
        (Criterion.filled? catalog.connector).getD s.connectorName, s.integrationType⟩
  handler : ∀ handler ∈ handlers, ∀ source provider k,
    (catalog.service (.text handler.proofType) source provider k).1 = .ok (.handler handler)
  unknown : ∀ key k, (∃ v, (catalog.definition key k).1 = .error (.unknownProofType v)) ↔
    key ∉ catalog.entries.map Prod.fst ∨ ∃ handler ∈ handlers, handler.proofType = key

section New

variable {catalog : Catalog} {listings : List (String × Listing)} {handlers : List Handler}

theorem registers_of_entries
    (hentries : catalog.entries = declaredEntries listings ++ handlerEntries handlers)
    (hkeys : (catalog.entries.map Prod.fst).Nodup) : catalog.Registers listings handlers where
  entries := hentries
  keys := hkeys
  declared key l hl source provider k :=
    service_declared (lookup_of_mem hkeys (by
      rw [hentries]
      exact List.mem_append_left _
        (List.mem_map_of_mem (f := fun (key, l) => (key, Entry.declared l)) hl)))
      source provider k
  handler handler hhandler source provider k :=
    service_handler (lookup_of_mem hkeys (by
      rw [hentries]
      exact List.mem_append_right _ (List.mem_map_of_mem hhandler))) source provider k
  unknown key k := by
    rw [definition_unknown_iff]
    constructor
    · intro hundeclared
      rcases hlookup : catalog.entries.lookup key with _ | l | handler
      · left
        rw [← lookup_isSome_iff, hlookup]
        simp
      · exact absurd hlookup (hundeclared l)
      · right
        have hmem := Template.mem_of_lookup hlookup
        rw [hentries] at hmem
        exact ⟨handler, by simpa [declaredEntries, handlerEntries] using hmem⟩
    · rintro (hnone | ⟨handler, hhandler, rfl⟩) l hl
      · exact hnone ((lookup_isSome_iff _ _).mp (by rw [hl, Option.isSome_some]))
      · have hmem : (handler.proofType, Entry.handler handler) ∈ catalog.entries := by
          rw [hentries]
          exact List.mem_append_right _ (List.mem_map_of_mem hhandler)
        rw [lookup_of_mem hkeys hmem] at hl
        cases hl

theorem new_value (messages : Fields) (dir : Option Path) (connector : Option String) (h : Host) :
    (Catalog.new listings handlers messages dir connector h).1 = match h.known.1 with
      | .error e => .error e
      | .ok s => (addHandlers (declaredEntries listings) handlers).map fun entries =>
        ⟨entries, messages, dir.getD s.configDir, (Criterion.filled? connector).getD
          s.connectorName⟩ := by
  unfold declaredEntries
  rw [Catalog.new, bind_apply, ← settings_known]
  rcases settings h with ⟨e | s, k⟩
  · rfl
  · dsimp only
    rw [bind_apply, lift_apply]
    generalize addHandlers _ handlers = all
    cases all <;> rfl

end New

/-- A new catalog fails when the settings cannot be read, and otherwise exactly when some handler
has the type of a listing or of an earlier handler, with the type of the first such one. A catalog
that is made registers all listings and all handlers. -/
theorem new_registers (listings : List (String × Listing)) (hkeys : (listings.map Prod.fst).Nodup)
    (handlers : List Handler) (messages : Fields) (dir : Option Path)
      (connector : Option String) (h : Host) :
    (∀ e, (Catalog.new listings handlers messages dir connector h).1 = .error e ↔
      h.known.1 = .error e ∨ (∃ s, h.known.1 = .ok s) ∧
        ∃ handler, FirstTaken (listings.map Prod.fst) handlers handler ∧
          e = .duplicateProofType handler.proofType) ∧
    ((∃ handler, FirstTaken (listings.map Prod.fst) handlers handler) ↔ ∃ before handler after,
      handlers = before ++ handler :: after ∧
        handler.proofType ∈ listings.map Prod.fst ++ before.map Handler.proofType) ∧
    ∀ catalog, (Catalog.new listings handlers messages dir connector h).1 = .ok catalog →
      catalog.Registers listings handlers := by
  have hdeclared : (declaredEntries listings).map Prod.fst = listings.map Prod.fst := by
    simp [declaredEntries]
  rw [new_value]
  refine ⟨fun e => ?_, firstTaken_exists hkeys, fun catalog hcatalog => ?_⟩
  · cases h.known.1 with
    | error e' => simp
    | ok s =>
      have herror : addHandlers (declaredEntries listings) handlers = .error e ↔ _ :=
        addHandlers_error_iff (hdeclared ▸ hkeys)
      rw [hdeclared] at herror
      rw [← herror]
      cases addHandlers (declaredEntries listings) handlers <;> simp [Except.map]
  · cases hknown : h.known.1 with
    | error e =>
      rw [hknown] at hcatalog
      cases hcatalog
    | ok s =>
      rw [hknown] at hcatalog
      obtain ⟨entries, hentries, rfl⟩ := except_map_ok hcatalog
      obtain ⟨hall, hnodup⟩ := addHandlers_ok (hdeclared ▸ hkeys) hentries
      exact registers_of_entries hall hnodup

def idleHandler (proofType : String) : Handler where
  proofType := proofType
  label := ""
  category := none
  offers _ := true
  form _ _ := throw (.fault .noSuchData)
  schema _ := throw (.fault .noSuchData)
  deliver _ := throw (.fault .noSuchData)

/-- Next to a declared type one handler of another is registered; of three handlers, two of which
have types that are taken, the earlier of the two is reported. -/
theorem new_registers_memo :
    (∃ catalog, (Catalog.new [("memo", ⟨"Memo", none, none, none⟩)]
      [idleHandler "audit"] [] none none
        Host.bare).1 = .ok catalog ∧
      catalog.Registers [("memo", ⟨"Memo", none, none, none⟩)] [idleHandler "audit"]) ∧
    (Catalog.new [("memo", ⟨"Memo", none, none, none⟩)]
        [idleHandler "audit", idleHandler "memo", idleHandler "audit"] [] none none Host.bare).1 =
      .error (.duplicateProofType "memo") := by
  obtain ⟨-, -, hregisters⟩ := new_registers [("memo", ⟨"Memo", none, none, none⟩)] (by decide)
    [idleHandler "audit"] [] none none Host.bare
  obtain ⟨hfails, -, -⟩ := new_registers [("memo", ⟨"Memo", none, none, none⟩)] (by decide)
    [idleHandler "audit", idleHandler "memo", idleHandler "audit"] [] none none Host.bare
  have hfirst : FirstTaken ["memo"] [idleHandler "audit", idleHandler "memo", idleHandler "audit"]
      (idleHandler "memo") :=
    ⟨[idleHandler "audit"], [idleHandler "audit"], rfl, by decide, by decide⟩
  exact ⟨⟨_, rfl, hregisters _ rfl⟩, (hfails _).mpr (.inr ⟨⟨_, rfl⟩, _, hfirst, rfl⟩)⟩

end Dossier.Catalog
