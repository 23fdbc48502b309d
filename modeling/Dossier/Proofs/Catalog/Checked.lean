import Dossier.Proofs.Template.Rendering
import Dossier.Proofs.Wizard.Session
import Dossier.Proofs.Wizard.Form
import Dossier.Check

/-!
# Checked configurations

A check and a connector come to the configuration by different ways: the check lists all types and
reads the definition of each one, the connector reads a definition when it is first asked for and
looks up criteria when it puts them on pages or prints them. As long as files, settings and
environment stay as they are, what a check has passed is never missing or malformed when it is
served.
-/

set_option autoImplicit false

namespace Dossier

open Run Wizard

/-! ## Hosts that go by the same configuration -/

/-- A host with the files, the settings and the environment of another, which remembers no
definition of a folder but those that its files hold. -/
structure Host.Settled (h : Host) (dir : Path) (k : Host) : Prop where
  root : k.root = h.root
  files : k.files = h.files
  known : k.known = h.known
  read : ∀ entry ∈ k.definitions, Configuration.definition h dir entry.1 = .ok entry.2

section Settled

variable {h k k' : Host} {dir : Path}

theorem settled_eq (hshelf : shelf k = shelf k') (hknown : k.known = k'.known) :
    h.Settled dir k = h.Settled dir k' := by
  simp only [shelf, Prod.mk.injEq] at hshelf
  obtain ⟨hroot, hfiles, hdefinitions⟩ := hshelf
  refine propext ⟨fun hk => ?_, fun hk => ?_⟩
  · exact ⟨hroot ▸ hk.root, hfiles ▸ hk.files, hknown ▸ hk.known, hdefinitions ▸ hk.read⟩
  · exact ⟨hroot ▸ hk.root, hfiles ▸ hk.files, hknown ▸ hk.known, hdefinitions ▸ hk.read⟩

theorem settled_aloof : Aloof (h.Settled dir) where
  settings k s hs hread :=
    settled_eq (shelf_aloof.settings k s hs hread) (known_aloof.settings k s hs hread)
  environment k he := settled_eq (shelf_aloof.environment k he) (known_aloof.environment k he)
  calls k cs := settled_eq (shelf_aloof.calls k cs) (known_aloof.calls k cs)
  fetchTracer k t := settled_eq (shelf_aloof.fetchTracer k t) (known_aloof.fetchTracer k t)
  buildTracer k t := settled_eq (shelf_aloof.buildTracer k t) (known_aloof.buildTracer k t)

end Settled

/-! ## Definitions -/

def Catalog.written (h : Host) (catalog : Catalog) (key : String) : Except Failure Definition :=
  match catalog.entries.lookup key with
  | some (.declared l) =>
    match l.definition with
    | some d => .ok d
    | none => Configuration.definition h catalog.dir key
  | _ => .error (.unknownProofType (.text key))

section Definitions

variable {h k : Host} {catalog : Catalog}

/-- A settled host is given what is written, and stays settled. -/
theorem definition_settled (hk : h.Settled catalog.dir k) (key : String) :
    (catalog.definition key k).1 = catalog.written h key ∧
      h.Settled catalog.dir (catalog.definition key k).2 := by
  have hread := Configuration.definition_sees hk.root hk.files catalog.dir key
  constructor
  · rw [definition_value, Catalog.written, hread]
    rcases catalog.entries.lookup key with _ | ⟨label, category, criteria, _ | d⟩ | handler
    · rfl
    · -- what was read before was read from the same file
      cases hlookup : k.definitions.lookup key with
      | none => rfl
      | some d => exact (hk.read _ (Template.mem_of_lookup hlookup)).symm
    · rfl
    · rfl
  · obtain ⟨definitions, hhost, hdefinitions⟩ := catalog.definition_host key k
    rw [hhost]
    refine ⟨hk.root, hk.files, hk.known, fun entry hentry => ?_⟩
    rcases hdefinitions entry hentry with hbefore | ⟨rfl, hnew⟩
    · exact hk.read entry hbefore
    · rwa [hread] at hnew

end Definitions

/-! ## What a check has seen -/

namespace Check

variable {h k k' : Host} {catalog : Catalog} {criteria : Criteria}

theorem criteriaLines_known {placements : List Placement}
    (hfine : (criteriaLines criteria placements).failure = none) :
    ∀ p ∈ placements, (criteria.lookup p.name).isSome = true := by
  induction placements with
  | nil => simp
  | cons p rest ih =>
    unfold criteriaLines at hfine
    split at hfine
    · next hp => exact List.forall_mem_cons.mpr ⟨hp, ih hfine⟩
    · cases hfine

def Sees (h : Host) (catalog : Catalog) (criteria : Criteria) (key : String) : Prop :=
  ∃ d, catalog.written h key = .ok d ∧ ∀ p ∈ d.criteria, (criteria.lookup p.name).isSome = true

theorem typeLines_sees {key : String} {own : Listing} (hk : h.Settled catalog.dir k)
    (hrun : typeLines catalog criteria key k = (.ok own, k')) (hfine : own.failure = none) :
    h.Settled catalog.dir k' ∧ Sees h catalog criteria key := by
  obtain ⟨result, k₁, hobserve, hrest⟩ := bind_ok hrun
  obtain ⟨hwritten, hk₁⟩ := definition_settled hk key
  rw [observe_ok hobserve] at hwritten hk₁
  cases result with
  | error e =>
    obtain ⟨rfl, -⟩ := pure_ok hrest
    cases hfine
  | ok d =>
    dsimp only at hrest
    cases hplaced : (criteriaLines criteria d.criteria).failure with
    | some e =>
      rw [hplaced] at hrest
      obtain ⟨rfl, -⟩ := pure_ok hrest
      cases hfine
    | none =>
      rw [hplaced] at hrest
      obtain ⟨-, rfl⟩ := pure_ok hrest
      exact ⟨hk₁, d, hwritten.symm, criteriaLines_known hplaced⟩

theorem allLines_sees {choices : List Choice} {all : Listing} (hk : h.Settled catalog.dir k)
    (hrun : allLines catalog criteria choices k = (.ok all, k')) (hfine : all.failure = none) :
    ∀ choice ∈ choices, Sees h catalog criteria ((choice.value.text?).getD "") := by
  induction choices generalizing all k k' with
  | nil => simp
  | cons choice rest ih =>
    obtain ⟨own, k₁, hown, hrest⟩ := bind_ok hrun
    cases hfailure : own.failure with
    | some e =>
      rw [hfailure] at hrest
      obtain ⟨rfl, -⟩ := pure_ok hrest
      cases hfine
    | none =>
      obtain ⟨hk₁, hsees⟩ := typeLines_sees hk hown hfailure
      rw [hfailure] at hrest
      obtain ⟨more, k₂, hmore, hlast⟩ := bind_ok hrest
      obtain ⟨rfl, -⟩ := pure_ok hlast
      exact List.forall_mem_cons.mpr ⟨hsees, ih hk₁ hmore hfine⟩

end Check

/-! ## Opening a catalog -/

def declaredCatalog (listings : List (String × Listing)) (messages : Fields) (dir : Path)
    (connector : String) : Catalog :=
  ⟨listings.map fun (key, l) => (key, .declared l), messages, dir, connector⟩

section Opening

variable {h h' k : Host} {dir : Path} {connector : Option String} {messages : Fields}
  {listings : List (String × Listing)} {s : Settings}

theorem ofFolder_apply (hlistings : Configuration.listings h dir = .ok listings)
    (hmessages : Configuration.messages h dir = .ok messages) (hsettings : h.known.1 = .ok s) :
    Catalog.ofFolder (some dir) [] connector h =
      (.ok (declaredCatalog listings messages dir
        ((Criterion.filled? connector).getD s.connectorName)),
        { (settings h).2 with definitions := [] }) := by
  have hs : settings h = (.ok s, (settings h).2) :=
    Prod.ext ((settings_known h).trans hsettings) rfl
  change (lift (Configuration.listings h dir) >>= fun listings =>
    lift (Configuration.messages h dir) >>= fun messages =>
      Catalog.new listings [] messages (some dir) connector) h = _
  rw [bind_apply, lift_apply, hlistings]
  dsimp only
  rw [bind_apply, lift_apply, hmessages]
  dsimp only
  rw [Catalog.new, bind_apply, hs]
  rfl

theorem ofFolder_ok {catalog : Catalog}
    (hrun : Catalog.ofFolder (some dir) [] connector h = (.ok catalog, h')) :
    ∃ listings messages s, Configuration.listings h dir = .ok listings ∧
      Configuration.messages h dir = .ok messages ∧ h.known.1 = .ok s := by
  obtain ⟨_, h₁, hdir, hrest⟩ := bind_ok hrun
  obtain ⟨rfl, rfl⟩ := pure_ok hdir
  obtain ⟨_, _, hget, hload⟩ := bind_ok hrest
  cases hget
  obtain ⟨listings, _, hlistings, hload⟩ := bind_ok hload
  obtain ⟨hlistings, rfl⟩ := lift_ok hlistings
  obtain ⟨messages, _, hmessages, hnew⟩ := bind_ok hload
  obtain ⟨hmessages, rfl⟩ := lift_ok hmessages
  obtain ⟨s, _, hsettings, -⟩ := bind_ok hnew
  refine ⟨listings, messages, s, hlistings, hmessages, ?_⟩
  rw [← settings_known, hsettings]

/-- A catalog that was just opened has read no definition yet. -/
theorem opened_settled (hroot : k.root = h.root) (hfiles : k.files = h.files)
    (hknown : k.known = h.known) : h.Settled dir { (settings k).2 with definitions := [] } := by
  have hshelf := settings_quiet.keeps shelf_aloof.toSteady k
  have hkept := settings_quiet.keeps known_aloof.toSteady k
  simp only [shelf, Prod.mk.injEq] at hshelf
  exact ⟨hshelf.1.trans hroot, hshelf.2.1.trans hfiles, hkept.trans hknown, by simp⟩

end Opening

/-! ## A check that finds nothing wrong -/

namespace Check

structure Passed (h : Host) (dir : Path) (criteria : Criteria)
    (listings : List (String × Dossier.Listing)) (messages : Fields) (s : Settings) : Prop where
  readsCriteria : Configuration.criteria h dir = .ok criteria
  readsListings : Configuration.listings h dir = .ok listings
  readsMessages : Configuration.messages h dir = .ok messages
  readsSettings : h.known.1 = .ok s
  labels : ∀ entry ∈ (declaredCatalog listings messages dir "").entries,
    ∃ label, (entry.2.label messages h).1 = .ok label
  sees : ∀ entry ∈ (declaredCatalog listings messages dir "").entries,
    Sees h (declaredCatalog listings messages dir "") criteria entry.1

/-- Without criteria and a category every entry is offered. -/
theorem isOffered_none (e : Entry) : e.isOffered none .null = true := by
  cases e <;> simp [Entry.isOffered, inCategory, Value.isNull]

theorem options_entries {catalog : Catalog} {choices : List Choice} {k k' : Host}
    (hrun : catalog.options none .null k = (.ok choices, k')) :
    (∀ entry ∈ catalog.entries, ∃ label, (entry.2.label catalog.messages k).1 = .ok label) ∧
      ∀ entry ∈ catalog.entries, ∃ choice ∈ choices, choice.value = .text entry.1 := by
  obtain ⟨labelled, k₁, hlabelled, hlast⟩ := bind_ok hrun
  obtain ⟨rfl, -⟩ := pure_ok hlast
  generalize hoffered : List.filter _ catalog.entries = offered at hlabelled
  have hall : offered = catalog.entries := by
    rw [← hoffered]
    exact List.filter_eq_self.mpr fun entry _ => isOffered_none entry.2
  rw [hall] at hlabelled
  refine ⟨labelAll_ok_iff.mp ⟨labelled, by rw [hlabelled]⟩, fun entry hentry => ?_⟩
  have hvalue : Value.text entry.1 ∈ labelled.map Choice.value := by
    rw [Catalog.shown_values (labelAll_shown rfl hlabelled)]
    exact List.mem_map_of_mem hentry
  obtain ⟨choice, hchoice, hkey⟩ := List.mem_map.mp hvalue
  exact ⟨choice, (List.mergeSort_perm labelled _).mem_iff.mpr hchoice, hkey⟩

theorem folder_passed {dir : Path} {h h' : Host} {listing : Listing} {count : Nat}
    (hrun : folder dir h = (.ok (listing, count), h')) (hfine : listing.failure = none) :
    ∃ criteria listings messages s, Passed h dir criteria listings messages s := by
  obtain ⟨_, _, hget, hrest⟩ := bind_ok hrun
  cases hget
  -- each part of the check either ends it with a failure or gives what the next part needs
  cases hcriteria : Configuration.criteria h dir with
  | error e =>
    rw [hcriteria] at hrest
    cases (pure_ok hrest).1
    cases hfine
  | ok criteria =>
    rw [hcriteria] at hrest
    obtain ⟨opened, h₁, hopened, hrest⟩ := bind_ok hrest
    have hopen := observe_ok hopened
    cases opened with
    | error e =>
      cases (pure_ok hrest).1
      cases hfine
    | ok catalog =>
      obtain ⟨listings, messages, s, hlistings, hmessages, hsettings⟩ := ofFolder_ok hopen
      rw [ofFolder_apply hlistings hmessages hsettings] at hopen
      cases hopen
      have hk : h.Settled dir { (settings h).2 with definitions := [] } :=
        opened_settled rfl rfl rfl
      obtain ⟨offered, h₂, hoffered, hrest⟩ := bind_ok hrest
      have hoptions := observe_ok hoffered
      cases offered with
      | error e =>
        cases (pure_ok hrest).1
        cases hfine
      | ok choices =>
        obtain ⟨all, h₃, hall, hlast⟩ := bind_ok hrest
        cases (pure_ok hlast).1
        obtain ⟨hlabels, hchoices⟩ := options_entries hoptions
        have hk₂ : h.Settled dir h₂ := by
          have hkept : Keeps (h.Settled dir) ((declaredCatalog listings messages dir
              ((Criterion.filled? none).getD s.connectorName)).options none .null) :=
            options_keeps settled_aloof.toSteady _ _ _
          rw [← keeps_ok hkept hoptions] at hk
          exact hk
        refine ⟨criteria, listings, messages, s, hcriteria, hlistings, hmessages, hsettings,
          fun entry hentry => ?_, fun entry hentry => ?_⟩
        · obtain ⟨label, hlabel⟩ := hlabels entry hentry
          exact ⟨label, ((label_quiet entry.2 messages).sees hk.known).symm.trans hlabel⟩
        · obtain ⟨choice, hchoice, hkey⟩ := hchoices entry hentry
          have hsees := allLines_sees hk₂ hall hfine choice hchoice
          rw [hkey] at hsees
          exact hsees

end Check

/-! ## Serving a checked configuration -/

def Source.Raises (source : Source) (e : Failure) : Prop := ∃ past call, source past call = .error e

namespace Check.Passed

variable {h k : Host} {dir : Path} {criteria : Criteria}
  {listings : List (String × Dossier.Listing)}
  {messages : Fields} {s : Settings} {connector : String}
  (hp : Passed h dir criteria listings messages s)
include hp

theorem options_ok (hk : h.Settled dir k) (values : Option Fields) (category : Value) :
    ∃ choices, ((declaredCatalog listings messages dir connector).options values category k).1 =
      .ok choices := by
  unfold Catalog.options
  generalize hoffered : List.filter _
    (declaredCatalog listings messages dir connector).entries = offered
  have hlabelled : ∃ choices, (Catalog.labelAll messages offered k).1 = .ok choices := by
    apply labelAll_ok_iff.mpr
    intro entry hentry
    rw [← hoffered] at hentry
    obtain ⟨label, hlabel⟩ := hp.labels entry (List.mem_filter.mp hentry).1
    exact ⟨label, ((label_quiet entry.2 messages).sees hk.known).trans hlabel⟩
  obtain ⟨choices, hchoices⟩ := hlabelled
  exact ⟨Choice.sortByLabel choices, congrArg Prod.fst (bind_of_ok hchoices)⟩

theorem definition_ok (hk : h.Settled dir k) {key : String}
    (hkey : ((declaredCatalog listings messages dir connector).entries.lookup key).isSome = true) :
    ∃ d, ((declaredCatalog listings messages dir connector).definition key k).1 = .ok d ∧
      ∀ p ∈ d.criteria, (criteria.lookup p.name).isSome = true := by
  obtain ⟨entry, hentry⟩ := Option.isSome_iff_exists.mp hkey
  obtain ⟨d, hwritten, hplaced⟩ := hp.sees (key, entry) (Template.mem_of_lookup hentry)
  exact ⟨d, (definition_settled hk key).1.trans hwritten, hplaced⟩

/-- A definition is only ever given with placements of known criteria. -/
theorem definition_known (hk : h.Settled dir k) {key : String} {d : Definition}
    (hd : ((declaredCatalog listings messages dir connector).definition key k).1 = .ok d) :
    ∀ p ∈ d.criteria, (criteria.lookup p.name).isSome = true := by
  cases hlookup : (declaredCatalog listings messages dir connector).entries.lookup key with
  | none =>
    rw [definition_value, hlookup] at hd
    cases hd
  | some entry =>
    obtain ⟨d', hd', hplaced⟩ := hp.definition_ok hk (Option.isSome_of_eq_some hlookup)
    rw [hd'] at hd
    cases hd
    exact hplaced

variable (source : Source)

theorem allows :
    Allows source (h.Settled dir) fun e => e.OfConfiguration → source.Raises e where
  aloof := settled_aloof
  settings k e hk he := by
    rw [hk.known, hp.readsSettings] at he
    cases he
  source past call _ he _ := ⟨past, call, he⟩
  unrelated _ hunrelated hconfiguration := absurd hconfiguration hunrelated

/-- The engine that serves a checked folder. -/
theorem regular : Engine.Regular source (h.Settled dir)
    (fun e => e.OfConfiguration → source.Raises e)
    ⟨declaredCatalog listings messages dir connector, source, .declared criteria⟩ where
  asks := rfl
  category := by simp [Provider.Covers]
  definition key := by
    have settled (k : Host) (hk : h.Settled dir k) :
        h.Settled dir ((declaredCatalog listings messages dir connector).definition key k).2 := by
      have hdir : h.Settled (declaredCatalog listings messages dir connector).dir k := hk
      exact (definition_settled hdir key).2
    refine ⟨settled, fun k d hk hd p hplaced hnone => ?_,
      fun k e hk he hconfiguration => ?_, fun k _ => Catalog.definition_traced source _ key k⟩
    · have hknown := hp.definition_known hk hd p hplaced
      simp [hnone] at hknown
    · -- a type that is registered has its definition, and of another one nothing is known
      cases hlookup : (declaredCatalog listings messages dir connector).entries.lookup key with
      | none =>
        rw [definition_value, hlookup] at he
        cases he
        cases hconfiguration
      | some entry =>
        obtain ⟨d, hd, -⟩ := hp.definition_ok hk (Option.isSome_of_eq_some hlookup)
        rw [hd] at he
        cases he
  handler key handler hlookup := by
    have hmem := Template.mem_of_lookup hlookup
    simp [declaredCatalog] at hmem

end Check.Passed

def Catalog.Places (k : Host) (catalog : Catalog) (p : Placement) : Prop :=
  ∃ key d, (catalog.definition key k).1 = .ok d ∧ p ∈ d.criteria

/-- The operation asks for the criteria of registered types only, and builds with the provider of
the engine if it prints criteria at all. -/
def Operation.Registered (k : Host) (e : Engine) : Operation → Prop
  | addInputs _ _ placements _ => ∀ p ∈ placements, e.catalog.Places k p
  | printedCriteria _ _ placements => ∀ p ∈ placements, e.catalog.Places k p
  | build builder d _ =>
    (∀ p ∈ builder.provider, p = e.provider) ∧ ∀ p ∈ d.criteria, e.catalog.Places k p
  | _ => True

namespace Check.Passed

variable {h k : Host} {dir : Path} {criteria : Criteria}
  {listings : List (String × Dossier.Listing)}
  {messages : Fields} {s : Settings} {connector : String}
  (hp : Passed h dir criteria listings messages s)
include hp

theorem covered (hk : h.Settled dir k) (source : Source) (fails : Failure → Prop) {op : Operation}
    (hop : op.Registered k
      ⟨declaredCatalog listings messages dir connector, source, .declared criteria⟩) :
    op.Covered fails
      ⟨declaredCatalog listings messages dir connector, source, .declared criteria⟩ := by
  have known (p : Placement)
      (hplaces : (declaredCatalog listings messages dir connector).Places k p) :
      criteria.lookup p.name = none → fails (.unknownCriterion p.name) := by
    obtain ⟨key, d, hd, hmem⟩ := hplaces
    intro hnone
    have hknown := hp.definition_known hk hd p hmem
    simp [hnone] at hknown
  cases op with
  | addInputs values scope placements pages => exact fun p hmem => known p (hop p hmem)
  | printedCriteria values scope placements => exact fun p hmem => known p (hop p hmem)
  | build builder d o =>
    obtain ⟨hprovider, hplaces⟩ := hop
    intro provider hmem
    obtain rfl := hprovider provider hmem
    exact fun p hplaced => known p (hplaces p hplaced)
  | _ => trivial

/-- Whatever is served of a checked folder fails for the sake of the configuration only when the
source says so, and leaves the host settled. -/
theorem run_tidy {k₁ : Host} (hk₁ : h.Settled dir k₁) (source : Source) {op : Operation}
    (hop : op.Registered k₁
      ⟨declaredCatalog listings messages dir connector, source, .declared criteria⟩) :
    Tidy source (h.Settled dir) (fun e => e.OfConfiguration → source.Raises e)
      (op.run ⟨declaredCatalog listings messages dir connector, source, .declared criteria⟩) :=
  Operation.run_tidy (hp.allows source) (hp.regular source) (hp.covered hk₁ source _ hop)

end Check.Passed

/-- When a folder passes its check, then on every host with the same files, settings and environment
its criteria load and its catalog opens, and after any session on them: all options are labelled,
every registered type has its definition with placements of known criteria, and whatever is asked
for next fails for the sake of the configuration only when the source itself raises that failure. -/
theorem checked_serves {dir : Path} (connector : Option String) {h h' k : Host}
    {listing : Check.Listing} {count : Nat}
    (hrun : Check.folder dir h = (.ok (listing, count), h')) (hfine : listing.failure = none)
    (hroot : k.root = h.root) (hfiles : k.files = h.files) (hknown : k.known = h.known) :
    ∃ criteria catalog k₁, Configuration.criteria k dir = .ok criteria ∧
      Catalog.ofFolder (some dir) [] connector k = (.ok catalog, k₁) ∧
      ∀ session : List (Engine × Operation),
        (∀ entry ∈ session, entry.1.catalog = catalog ∧ entry.1.provider = .declared criteria ∧
          entry.2.Registered k₁ entry.1) →
        (∀ values category, ∃ choices,
          (catalog.options values category (serve session k₁).2).1 = .ok choices) ∧
        (∀ key, (catalog.entries.lookup key).isSome = true → ∃ d,
          (catalog.definition key (serve session k₁).2).1 = .ok d ∧
            ∀ p ∈ d.criteria, (criteria.lookup p.name).isSome = true) ∧
        ∀ (source : Source) (op : Operation) (e : Failure),
          op.Registered k₁ ⟨catalog, source, .declared criteria⟩ →
          (op.run ⟨catalog, source, .declared criteria⟩ (serve session k₁).2).1 = .error e →
          e.OfConfiguration → source.Raises e := by
  obtain ⟨criteria, listings, messages, s, hp⟩ := Check.folder_passed hrun hfine
  have hk₁ : h.Settled dir { (settings k).2 with definitions := [] } :=
    opened_settled hroot hfiles hknown
  have hload (file : Path) : k.content? file = h.content? file := content?_congr hroot hfiles file
  have hcriteria : Configuration.criteria k dir = .ok criteria := by
    rw [← hp.readsCriteria]
    simp only [Configuration.criteria, Configuration.load, Configuration.entries, hload]
  have hlistings : Configuration.listings k dir = .ok listings := by
    rw [← hp.readsListings]
    simp only [Configuration.listings, Configuration.load, Configuration.entries, hload]
  have hmessages : Configuration.messages k dir = .ok messages := by
    rw [← hp.readsMessages]
    simp only [Configuration.messages, Configuration.entries, hload]
  have hsettings : k.known.1 = .ok s := by rw [hknown, hp.readsSettings]
  refine ⟨criteria, _, _, hcriteria, ofFolder_apply hlistings hmessages hsettings, ?_⟩
  intro session hsession
  have hnow : h.Settled dir (serve session { (settings k).2 with definitions := [] }).2 := by
    apply serve_related (R := fun k k' => h.Settled dir k → h.Settled dir k') _ _ _ _ hk₁
    · exact fun _ hk => hk
    · exact fun hfirst hsecond hk => hsecond (hfirst hk)
    · intro entry hentry k hk
      obtain ⟨⟨catalog, source, provider⟩, op⟩ := entry
      obtain ⟨rfl, rfl, hop⟩ := hsession _ hentry
      exact (hp.run_tidy hk₁ source hop).keeps k hk
  refine ⟨hp.options_ok hnow, fun key hkey => hp.definition_ok hnow hkey, ?_⟩
  intro source op e hop he
  exact (hp.run_tidy hk₁ source hop).failed _ e hnow he

def memoFolder : Folder :=
  ((Folder.empty.write [Path.root, "json", "criteriaFields.json"]
      "\x7b\"note\": \x7b\"type\": \"text\", \"property\": \"note\"\x7d\x7d".toUTF8).write
    [Path.root, "json", "proofTypes.json"]
      "\x7b\"memo\": \x7b\"label\": \"Memo\"\x7d\x7d".toUTF8).write
    [Path.root, "json", "proofs", "memo.json"]
      ("\x7b\"criteria\": [\x7b\"name\": \"note\"\x7d], " ++
        "\"proofSpec\": \x7b\"dataSet\": \"notes\"\x7d\x7d").toUTF8

/-- The folder passes its check, and its only type is served after it was asked for by a form. -/
theorem checked_serves_memo :
    (∃ listing count h', Check.folder ["json"] (Host.start [Path.root] [] [] memoFolder .utc) =
      (.ok (listing, count), h') ∧ listing.failure = none) ∧
    ∃ criteria catalog k₁,
      Catalog.ofFolder (some ["json"]) [] none (Host.start [Path.root] [] [] memoFolder .utc) =
        (.ok catalog, k₁) ∧
      ∃ d, (catalog.definition "memo"
        (serve [(⟨catalog, .none, .declared criteria⟩, .form [("proofType", .text "memo")] [])]
          k₁).2).1 = .ok d ∧ ∀ p ∈ d.criteria, (criteria.lookup p.name).isSome = true := by
  have hchecks :
      (Check.folder ["json"] (Host.start [Path.root] [] [] memoFolder .utc)).1.toOption.map
      (fun result => result.1.failure.isNone) = some true := by
    decide +kernel
  obtain ⟨⟨listing, count⟩, hresult, hnone⟩ := Option.map_eq_some_iff.mp hchecks
  have hrun := ok_of_toOption hresult
  have hfine : listing.failure = none := Option.isNone_iff_eq_none.mp hnone
  have hlists : (Catalog.ofFolder (some ["json"]) [] none
      (Host.start [Path.root] [] [] memoFolder .utc)).1.toOption.map
        (fun catalog => (catalog.entries.lookup "memo").isSome) = some true := by
    decide +kernel
  obtain ⟨criteria, catalog, k₁, -, hopen, hserves⟩ :=
    checked_serves none hrun hfine rfl rfl rfl
  rw [hopen] at hlists
  have hlisted : (catalog.entries.lookup "memo").isSome = true := Option.some.inj hlists
  obtain ⟨-, hdefinitions, -⟩ := hserves
    [(⟨catalog, .none, .declared criteria⟩, .form [("proofType", .text "memo")] [])] (by
      simp [Operation.Registered])
  exact ⟨⟨listing, count, _, hrun, hfine⟩, criteria, catalog, k₁, hopen,
    hdefinitions "memo" hlisted⟩

end Dossier
