import Dossier.Proofs.Json.Limits
import Dossier.Catalog.Configuration

/-!
# Loading the documents of a configuration folder

A document that does not load is named by its failure: its file or, when it has none, the type it is
the definition of. This ends where bytes are no text, and where the reader of JSON meets one of its
limits; both are faults from below, and no failure of the configuration.
-/

set_option autoImplicit false

namespace Dossier.Configuration

def Legible (bytes : ByteArray) : Prop :=
  ∃ s, String.fromUTF8? bytes = some s ∧ ∀ e, Json.read s = .error e → e = .malformed

def escapes : List Fault := [.undecodableText, .tooManyDigits, .tooDeep]

structure Tells (name : String) (e : Failure) : Prop where
  configuration : e.isConfiguration = true
  message : name.toList <:+: e.message.toList

theorem Tells.of_parts {name : String} {e : Failure} (before after : String)
    (hconfiguration : e.isConfiguration = true) (hmessage : e.message = before ++ name ++ after) :
    Tells name e := by
  refine ⟨hconfiguration, ?_⟩
  rw [hmessage, String.toList_append, String.toList_append]
  exact ⟨before.toList, after.toList, rfl⟩

section Reading

variable {α β : Type} {h : Host} {p : Path} {content : Option ByteArray}
  {bytes : ByteArray} {e : Failure}

theorem malformedFile_tells : Tells p.fileName (.malformedFile p.fileName p.text) :=
  .of_parts "Malformed JSON in " "" rfl String.append_empty.symm

theorem notAnObject_tells : Tells p.fileName (.notAnObject p.fileName p.text) :=
  .of_parts "" " must contain a JSON object" rfl (by rw [String.empty_append]; rfl)

theorem invalidEntry_tells {name : String} {issues : List Schema.Issue} :
    Tells p.fileName (.invalidEntry name p.fileName p.text issues) :=
  .of_parts ("Invalid entry '" ++ name ++ "' in ") "" rfl String.append_empty.symm

theorem readJson_tells (hbytes : Legible bytes) (hread : Folder.readJson bytes p = .error e) :
    Tells p.fileName e := by
  obtain ⟨s, hs, hmalformed⟩ := hbytes
  rw [Folder.readJson, hs] at hread
  dsimp only at hread
  cases hvalue : Json.read s with
  | ok v =>
    rw [hvalue] at hread
    cases hread
  | error trouble =>
    obtain rfl := hmalformed trouble hvalue
    rw [hvalue] at hread
    cases hread
    exact malformedFile_tells

theorem readJson_escapes (hbytes : ¬ Legible bytes) :
    ∃ cause ∈ escapes, Folder.readJson bytes p = .error (.fault cause) := by
  unfold Folder.readJson
  cases hs : String.fromUTF8? bytes with
  | none => exact ⟨.undecodableText, by simp [escapes], rfl⟩
  | some s =>
    dsimp only
    cases hvalue : Json.read s with
    | ok v => exact absurd ⟨s, hs, by simp [hvalue]⟩ hbytes
    | error trouble =>
      cases trouble with
      | malformed => exact absurd ⟨s, hs, by simp [hvalue]⟩ hbytes
      | tooManyDigits => exact ⟨.tooManyDigits, by simp [escapes], rfl⟩
      | tooDeep => exact ⟨.tooDeep, by simp [escapes], rfl⟩

theorem entry_tells {read : Schema.Reader α} {name : String} {v : Value}
    (hentry : entry read name v p = .error e) : Tells p.fileName e := by
  unfold entry at hentry
  split at hentry
  · cases hentry
  · cases hentry
    exact invalidEntry_tells

theorem readAll_tells {read : Schema.Reader α} {fields : Fields}
    (hall : readAll read p fields = .error e) :
    Tells p.fileName e := by
  induction fields with
  | nil => cases hall
  | cons field rest ih =>
    obtain ⟨name, v⟩ := field
    rw [readAll] at hall
    cases hentry : entry read name v p with
    | error e' =>
      rw [hentry] at hall
      cases hall
      exact entry_tells hentry
    | ok a =>
      rw [hentry] at hall
      cases hrest : readAll read p rest with
      | error e' =>
        rw [hrest] at hall
        cases hall
        exact ih hrest
      | ok more =>
        rw [hrest] at hall
        cases hall

/-- What loading comes to by what the file holds: without a file a default, from legible bytes a
result or a failure that tells the name of the file, and from any others a fault. -/
structure Loads (p : Path) (content : Option ByteArray) (default result : Except Failure α) :
    Prop where
  absent : content = none → result = default
  tells : ∀ bytes, content = some bytes → Legible bytes →
    ∀ e, result = .error e → Tells p.fileName e
  escapes : ∀ bytes, content = some bytes → ¬ Legible bytes →
    ∃ cause ∈ escapes, result = .error (.fault cause)

theorem Loads.of_absent {default : Except Failure α} : Loads p none default default :=
  ⟨fun _ => rfl, fun _ h => (nomatch h), fun _ h => (nomatch h)⟩

theorem readJson_loads (default : Except Failure Value) (bytes : ByteArray) :
    Loads p (some bytes) default (Folder.readJson bytes p) where
  absent hnone := nomatch hnone
  tells _ hbytes hlegible _ hread := readJson_tells (Option.some.inj hbytes ▸ hlegible) hread
  escapes _ hbytes hillegible := readJson_escapes (Option.some.inj hbytes ▸ hillegible)

/-- A later step hands failures on, and its own tell the name of the file. -/
theorem Loads.next {default x : Except Failure α} {default' y : Except Failure β}
    (hx : Loads p content default x) (habsent : content = none → y = default')
    (herror : ∀ e, x = .error e → y = .error e)
    (hok : ∀ a e, x = .ok a → y = .error e → Tells p.fileName e) : Loads p content default' y where
  absent := habsent
  tells bytes hbytes hlegible e hresult := by
    cases hvalue : x with
    | error e' =>
      have htells := hx.tells bytes hbytes hlegible e' hvalue
      rw [herror e' hvalue] at hresult
      cases hresult
      exact htells
    | ok a => exact hok a e hvalue hresult
  escapes bytes hbytes hillegible := by
    obtain ⟨cause, hcause, hfault⟩ := hx.escapes bytes hbytes hillegible
    exact ⟨cause, hcause, herror _ hfault⟩

theorem entries_loads (hc : h.content? p = .ok content) :
    Loads p content (.ok []) (entries h p) := by
  unfold entries
  rw [hc]
  cases content with
  | none => exact .of_absent
  | some bytes =>
    refine (readJson_loads (.ok .null) bytes).next (fun h => nomatch h)
      (fun e he => ?_) fun v e hv he => ?_
    · dsimp only
      rw [he]
    · dsimp only at he
      rw [hv] at he
      cases v <;> cases he <;> exact notAnObject_tells

theorem load_loads {read : Schema.Reader α} (hc : h.content? p = .ok content) :
    Loads p content (.ok []) (load read h p) := by
  have hentries := entries_loads hc
  unfold load
  refine hentries.next (fun hnone => ?_) (fun e he => ?_) fun fields e hfields he => ?_
  · rw [hentries.absent hnone]
    rfl
  · rw [he]
  · rw [hfields] at he
    exact readAll_tells he

theorem messages_loads {dir : Path} (hc : h.content? (dir ++ [messagesFile]) = .ok content) :
    Loads (dir ++ [messagesFile]) content (.ok []) (messages h dir) := by
  have hentries := entries_loads hc
  unfold messages
  refine hentries.next (fun hnone => ?_) (fun e he => ?_) fun fields e hfields he => ?_
  · rw [hentries.absent hnone]
    rfl
  · rw [he]
    rfl
  · rw [hfields] at he
    cases he

theorem definition_loads {dir : Path} {proofType : String}
    (hc : h.content? (definitionPath dir proofType) = .ok content) :
    Loads (definitionPath dir proofType) content
      (.error (.definitionNotFound proofType (some (definitionPath dir proofType).text)))
      (definition h dir proofType) := by
  unfold definition
  dsimp only
  rw [hc]
  cases content with
  | none => exact .of_absent
  | some bytes =>
    refine (readJson_loads (.ok .null) bytes).next (fun h => nomatch h)
      (fun e he => ?_) fun v e hv he => ?_
    · dsimp only
      rw [he]
    · dsimp only at he
      rw [hv] at he
      cases v <;> exact entry_tells he

theorem content?_fault (hc : h.content? p = .error e) : ∃ cause, e = .fault cause := by
  unfold Host.content? at hc
  split at hc <;> cases hc
  · exact ⟨_, rfl⟩
  · exact ⟨_, rfl⟩

/-- A definition that is not loaded is a failure of the configuration, or a fault. -/
theorem definition_family {dir : Path} {proofType : String}
    (he : definition h dir proofType = .error e) :
    e.isConfiguration = true ∨ ∃ cause, e = .fault cause := by
  cases hc : h.content? (definitionPath dir proofType) with
  | error e' =>
    unfold definition at he
    dsimp only at he
    rw [hc] at he
    cases he
    exact .inr (content?_fault hc)
  | ok content =>
    have hloads := definition_loads hc
    cases content with
    | none =>
      rw [hloads.absent rfl] at he
      cases he
      exact .inl rfl
    | some bytes =>
      by_cases hlegible : Legible bytes
      · exact .inl (hloads.tells bytes rfl hlegible e he).configuration
      · obtain ⟨cause, -, hfault⟩ := hloads.escapes bytes rfl hlegible
        exact .inr ⟨cause, Except.error.inj (he.symm.trans hfault)⟩

end Reading

/-! ## Documents -/

inductive Document where
  | criteria
  | listings
  | messages
  | definition (proofType : String)

namespace Document

def path (dir : Path) : Document → Path
  | .criteria => dir ++ [criteriaFile]
  | .listings => dir ++ [listingsFile]
  | .messages => dir ++ [messagesFile]
  | .definition proofType => definitionPath dir proofType

def Content : Document → Type
  | .criteria => Criteria
  | .listings => List (String × Listing)
  | .messages => Fields
  | .definition _ => Definition

def load (h : Host) (dir : Path) : (d : Document) → Except Failure d.Content
  | .criteria => Configuration.criteria h dir
  | .listings => Configuration.listings h dir
  | .messages => Configuration.messages h dir
  | .definition proofType => Configuration.definition h dir proofType

def absent (dir : Path) : (d : Document) → Except Failure d.Content
  | .criteria => .ok []
  | .listings => .ok []
  | .messages => .ok []
  | .definition proofType =>
    .error (.definitionNotFound proofType (some (definitionPath dir proofType).text))

/-- A failure of the configuration that tells the name of a document's file or, of a definition that
is not there, its type. -/
def Named (dir : Path) (d : Document) (e : Failure) : Prop :=
  Tells (d.path dir).fileName e ∨
    ∃ proofType path, d = .definition proofType ∧ e = .definitionNotFound proofType path ∧
      Tells proofType e

variable {h : Host} {dir : Path} {d : Document} {content : Option ByteArray} {e : Failure}

theorem loads (hc : h.content? (d.path dir) = .ok content) :
    Loads (d.path dir) content (d.absent dir) (d.load h dir) := by
  cases d with
  | criteria => exact load_loads hc
  | listings => exact load_loads hc
  | messages => exact messages_loads hc
  | definition proofType => exact definition_loads hc

theorem absent_named (he : d.absent dir = .error e) : d.Named dir e := by
  cases d with
  | criteria => cases he
  | listings => cases he
  | messages => cases he
  | definition proofType =>
    cases he
    exact .inr ⟨proofType, _, rfl, rfl,
      .of_parts "No definition found for proof type: " "" rfl String.append_empty.symm⟩

theorem fault_unnamed (cause : Fault) : ¬ d.Named dir (.fault cause) := by
  rintro (htells | ⟨_, _, -, hnotFound, -⟩)
  · exact Bool.false_ne_true htells.configuration
  · cases hnotFound

/-- Whatever the file of a document holds, every failure to load it is one of the configuration that
names the document, exactly when the bytes of the file, if there is one, are legible; moderate texts
are, and with any others loading ends in a fault. A document that is not there is empty or, if it is
a definition, not found. -/
theorem load_named_iff (hc : h.content? (d.path dir) = .ok content) :
    ((∀ e, d.load h dir = .error e → d.Named dir e) ↔
      ∀ bytes, content = some bytes → Legible bytes) ∧
    (∀ bytes s, content = some bytes → String.fromUTF8? bytes = some s →
      Json.Moderate s → Legible bytes) ∧
    (∀ bytes, content = some bytes → ¬ Legible bytes →
      ∃ cause ∈ escapes, d.load h dir = .error (.fault cause)) ∧
    (content = none → d.load h dir = d.absent dir) := by
  have hloads := loads hc
  refine ⟨⟨fun hnamed bytes hbytes => ?_, fun hlegible e he => ?_⟩, ?_,
    hloads.escapes, hloads.absent⟩
  · by_contra hillegible
    obtain ⟨cause, -, hfault⟩ := hloads.escapes bytes hbytes hillegible
    exact fault_unnamed cause (hnamed _ hfault)
  · cases content with
    | none => exact absent_named (hloads.absent rfl ▸ he)
    | some bytes => exact .inl (hloads.tells bytes rfl (hlegible bytes rfl) e he)
  · exact fun bytes s _ hs hmoderate => ⟨s, hs, fun _ => hmoderate.read⟩

def messagesHolding (bytes : ByteArray) : Host :=
  Host.start [Path.root] [] [] (Folder.empty.write [Path.root, "json", "messages.json"] bytes) .utc

/-- The failure on a bracket that is not closed names the file of the messages. -/
theorem load_named_open_bracket :
    (messagesHolding "[".toUTF8).content? ["json", "messages.json"] = .ok (some "[".toUTF8) ∧
    ∃ e, load (messagesHolding "[".toUTF8) ["json"] .messages = .error e ∧
      Named ["json"] .messages e := by
  have hc :
      (messagesHolding "[".toUTF8).content? (path ["json"] .messages) = .ok (some "[".toUTF8) := by
    rfl
  have hload : load (messagesHolding "[".toUTF8) ["json"] .messages =
      .error (.malformedFile "messages.json" "json/messages.json") := by
    rfl
  have hmoderate : Json.Moderate "[" := by
    refine ⟨fun row hrow _ => hrow.length_le.trans ?_, ?_⟩ <;> decide
  obtain ⟨hnamed, hlegible, -, -⟩ := load_named_iff hc
  refine ⟨hc, _, hload, hnamed.mpr (fun bytes hbytes => ?_) _ hload⟩
  exact hlegible bytes "[" hbytes (Option.some.inj hbytes ▸ rfl) hmoderate

/-- A byte that occurs in no text is met with a fault. -/
theorem load_unnamed_stray_byte :
    (messagesHolding ⟨#[0xff]⟩).content? ["json", "messages.json"] = .ok (some ⟨#[0xff]⟩) ∧
    ∃ e, load (messagesHolding ⟨#[0xff]⟩) ["json"] .messages = .error e ∧
      ¬ Named ["json"] .messages e :=
  ⟨rfl, .fault .undecodableText, rfl, fault_unnamed _⟩

end Document

end Dossier.Configuration
