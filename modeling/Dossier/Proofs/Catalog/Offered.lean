import Dossier.Catalog.Basic
import Dossier.Proofs.Criterion.Sorted
import Dossier.Proofs.Host.Narrow
import Dossier.Proofs.Value.Entries
import Mathlib.Data.List.Forall2

/-!
# What a catalog offers

The entries that match the criteria and the category are labelled one after the other and sorted by
label, so that each of them is offered once. A label depends on nothing of the host but its settings
and its environment. A criterion that no entry asks about makes no difference to what is offered.
-/

set_option autoImplicit false

namespace Dossier

open Run

/-! ## Labels -/

section Labels

variable {messages : Fields} {entries : List (String × Entry)} {h h' : Host}

theorem label_quiet (e : Entry) (messages : Fields) : Quiet (e.label messages) := by
  cases e with
  | declared l => exact resolve_quiet _ _
  | handler handler => exact pure_quiet _

theorem labelAll_quiet (messages : Fields) (entries : List (String × Entry)) :
    Quiet (Catalog.labelAll messages entries) := by
  induction entries with
  | nil => exact pure_quiet _
  | cons entry rest ih =>
    exact bind_quiet (label_quiet entry.2 messages) fun _ => bind_quiet ih fun _ => pure_quiet _

theorem options_quiet (catalog : Catalog) (criteria : Option Fields) (category : Value) :
    Quiet (catalog.options criteria category) :=
  bind_quiet (labelAll_quiet _ _) fun _ => pure_quiet _

/-- Entries are labelled exactly when each one is. -/
theorem labelAll_ok_iff :
    (∃ choices, (Catalog.labelAll messages entries h).1 = .ok choices) ↔
      ∀ entry ∈ entries, ∃ label, (entry.2.label messages h).1 = .ok label := by
  induction entries with
  | nil => exact iff_of_true ⟨[], rfl⟩ (by simp)
  | cons entry rest ih =>
    rw [List.forall_mem_cons, ← ih]
    have hafter : (Catalog.labelAll messages rest (entry.2.label messages h).2).1 =
        (Catalog.labelAll messages rest h).1 :=
      (labelAll_quiet messages rest).sees (quiet_alike (label_quiet entry.2 messages) h).known
    have hrun : Catalog.labelAll messages (entry :: rest) = (do
        let label ← entry.2.label messages
        let rest ← Catalog.labelAll messages rest
        pure (⟨.text entry.1, some label⟩ :: rest)) := rfl
    rw [hrun]
    cases hlabel : (entry.2.label messages h).1 with
    | error e =>
      rw [bind_of_error hlabel]
      simp
    | ok label =>
      rw [bind_of_ok hlabel]
      cases hrest : (Catalog.labelAll messages rest h).1 with
      | error e =>
        rw [bind_of_error (hafter.trans hrest)]
        simp
      | ok choices =>
        rw [bind_of_ok (hafter.trans hrest)]
        exact iff_of_true ⟨_, rfl⟩ ⟨⟨label, rfl⟩, choices, rfl⟩

structure Entry.IsShown (messages : Fields) (h : Host) (entry : String × Entry) (choice : Choice) :
    Prop where
  value : choice.value = .text entry.1
  label : ∃ label, (entry.2.label messages h).1 = .ok label ∧ choice.label = some label

theorem labelAll_shown {k : Host} {choices : List Choice} (hknown : h.known = k.known)
    (hrun : Catalog.labelAll messages entries h = (.ok choices, h')) :
    List.Forall₂ (Entry.IsShown messages k) entries choices := by
  induction entries generalizing h h' choices with
  | nil =>
    rw [(pure_ok hrun).1]
    exact .nil
  | cons entry rest ih =>
    obtain ⟨label, h₁, hlabel, hrest⟩ := bind_ok hrun
    obtain ⟨later, h₂, hlater, hlast⟩ := bind_ok hrest
    have hknown₁ := keeps_ok ((label_quiet entry.2 messages).keeps known_aloof.toSteady) hlabel
    have hsees := (label_quiet entry.2 messages).sees hknown
    rw [hlabel] at hsees
    rw [(pure_ok hlast).1]
    exact .cons ⟨rfl, label, hsees.symm, rfl⟩ (ih (hknown₁.trans hknown) hlater)

end Labels

/-! ## Options -/

namespace Catalog

/-- The choices that a catalog offers for criteria and a category: one for each entry that matches,
in the order of labels, with those of one label in the order of the entries. -/
structure Offers (c : Catalog) (h : Host) (criteria : Fields) (category : Value)
    (choices : List Choice) :
    Prop where
  sorted : ∃ listed, Choice.Sorts listed choices ∧ List.Forall₂ (Entry.IsShown c.messages h)
    (c.entries.filter fun entry => entry.2.isOffered (some criteria) category) listed

section Options

variable {c : Catalog} {criteria : Fields} {category : Value}
  {choices : List Choice} {h h' k : Host}

theorem options_offers (hknown : h.known = k.known)
    (hrun : c.options (some criteria) category h = (.ok choices, h')) :
    c.Offers k criteria category choices := by
  obtain ⟨listed, h₁, hlisted, hlast⟩ := bind_ok hrun
  rw [(pure_ok hlast).1]
  exact ⟨listed, Choice.sortByLabel_sorts listed, labelAll_shown hknown hlisted⟩

theorem shown_values {entries : List (String × Entry)} {messages : Fields}
    (hshown : List.Forall₂ (Entry.IsShown messages h) entries choices) :
    choices.map Choice.value = entries.map fun entry => .text entry.1 := by
  induction hshown with
  | nil => rfl
  | cons first rest ih => rw [List.map_cons, List.map_cons, first.value, ih]

theorem Offers.values (ho : c.Offers h criteria category choices) :
    (choices.map Choice.value).Perm
      ((c.entries.filter fun entry => entry.2.isOffered (some criteria) category).map
        fun entry => Value.text entry.1) := by
  obtain ⟨listed, hsorts, hshown⟩ := ho.sorted
  rw [← shown_values hshown]
  exact hsorts.perm.map _

/-- A catalog that has each key once offers each choice once. -/
theorem Offers.nodup (ho : c.Offers h criteria category choices)
    (hkeys : (c.entries.map Prod.fst).Nodup) : (choices.map Choice.value).Nodup := by
  rw [ho.values.nodup_iff]
  have hoffered : ((c.entries.filter fun entry =>
      entry.2.isOffered (some criteria) category).map Prod.fst).Nodup :=
    (List.filter_sublist.map Prod.fst).nodup hkeys
  have htexts := hoffered.map (f := Value.text) fun _ _ => Value.text.inj
  rwa [List.map_map] at htexts

end Options

/-! ## Criteria that no entry asks about -/

structure Heedless (c : Catalog) (criteria : Fields) (property : String) : Prop where
  declared : ∀ key l, (key, Entry.declared l) ∈ c.entries → ∀ pattern ∈ l.criteria,
    property ∉ pattern.keys
  handler : ∀ key handler, (key, Entry.handler handler) ∈ c.entries →
    handler.offers (criteria.erase property) = handler.offers criteria

theorem matchesAll_erase {criteria pattern : Fields} {property : String}
    (hpattern : property ∉ pattern.keys) :
    (criteria.erase property).matchesAll pattern = criteria.matchesAll pattern := by
  unfold Fields.matchesAll
  rw [Bool.eq_iff_iff, List.all_eq_true, List.all_eq_true]
  refine forall₂_congr fun entry hentry => ?_
  have hne : entry.1 ≠ property := fun heq => hpattern (heq ▸ List.mem_map_of_mem hentry)
  change (Fields.get (criteria.erase property) entry.1).same entry.2 = true ↔ _
  rw [Fields.get_erase_of_ne hne]

theorem Heedless.isOffered {c : Catalog} {criteria : Fields} {property : String}
    (hc : c.Heedless criteria property) {entry : String × Entry} (hentry : entry ∈ c.entries)
    (category : Value) : entry.2.isOffered (some (criteria.erase property)) category =
      entry.2.isOffered (some criteria) category := by
  obtain ⟨key, e⟩ := entry
  cases e with
  | declared l =>
    have hpattern : property ∉ (l.criteria.getD []).keys := by
      cases hl : l.criteria with
      | none => exact List.not_mem_nil
      | some pattern => exact hc.declared key l hentry pattern hl
    simp only [Entry.isOffered, Option.all_some, matchesAll_erase hpattern]
  | handler handler => simp only [Entry.isOffered, Option.all_some, hc.handler key handler hentry]

theorem Heedless.options {c : Catalog} {criteria : Fields} {property : String}
    (hc : c.Heedless criteria property) (category : Value) :
    c.options (some (criteria.erase property)) category = c.options (some criteria) category := by
  have hoffered : (c.entries.filter fun entry =>
      entry.2.isOffered (some (criteria.erase property)) category) = c.entries.filter fun entry =>
        entry.2.isOffered (some criteria) category :=
    List.filter_congr fun entry hentry => hc.isOffered hentry category
  unfold Catalog.options
  exact congrArg (fun offered => do
    let choices ← labelAll c.messages offered
    pure (Choice.sortByLabel choices)) hoffered

end Catalog

end Dossier
