import Dossier.Proofs.Value.Entries
import Dossier.Blueprint.Compose

/-!
# Reading a blueprint entry by entry

A blueprint is read all at once, but what a declared key comes to depends on the value under that
key alone, and entries that no key declares are kept as they are. A blueprint that is written out
and read again is the same one.
-/

set_option autoImplicit false

namespace Dossier

namespace Schema

variable {α β : Type}

/-! ## Readings that succeed -/

theorem seq_ok_iff {f : Checked (α → β)} {x : Checked α} {b : β} :
    f <*> x = .ok b ↔ ∃ g a, f = .ok g ∧ x = .ok a ∧ g a = b := by
  change f.seq x = .ok b ↔ _
  cases f <;> cases x <;> simp [Checked.seq]

theorem map_ok_iff {f : α → β} {x : Checked α} {b : β} :
    f <$> x = .ok b ↔ ∃ a, x = .ok a ∧ f a = b := by
  change x.map f = .ok b ↔ _
  cases x <;> simp [Checked.map]

theorem pure_ok_iff {a b : α} : (pure a : Checked α) = .ok b ↔ a = b := by
  change Checked.ok a = .ok b ↔ _
  simp

theorem under_ok_iff {x : Checked α} {step : Step} {a : α} : x.under step = .ok a ↔ x = .ok a := by
  cases x <;> simp [Checked.under]

/-- An entry that is there is read from its value, whatever else there is. -/
theorem defaulted_ok_iff {fields : Fields} {key : Key} {default a : α} {read : Reader α} {v : Value}
    (hv : fields.get? key.name = some v) :
    defaulted fields key default read = .ok a ↔ read v = .ok a := by
  simp [defaulted, Key.find?, hv, under_ok_iff]

theorem required_ok_iff {fields : Fields} {key : Key} {a : α} {read : Reader α} {v : Value}
    (hv : fields.get? key.name = some v) :
    required fields key read = .ok a ↔ read v = .ok a := by
  simp [required, Key.find?, hv, under_ok_iff]

/-! ## Reading what was written -/

theorem among_ok {options : List (String × α)} {s : String} {a : α}
    (ha : options.lookup s = some a) : among options (.text s) = .ok a := by
  simp [among, ha]

theorem list_map_ok {item : Reader α} {write : α → Value} (hitem : ∀ a, item (write a) = .ok a)
    (as : List α) : list item (.list (as.map write)) = .ok as := by
  have from_index (k : Nat) : readItems item k (as.map write) = .ok as := by
    induction as generalizing k with
    | nil => rfl
    | cons a rest ih => simp [readItems, hitem, ih, Checked.under, Checked.map, Checked.seq]
  exact from_index 0

theorem optional_orNull_ok {read : Reader α} (write : α → Value)
    (hread : ∀ a, read (write a) = .ok a) (hnull : ∀ a, write a ≠ .null) (o : Option α) :
    optional read (Blueprint.orNull (o.map write)) = .ok o := by
  cases o with
  | none => rfl
  | some a =>
    have ha := hnull a
    change optional read (write a) = .ok (some a)
    unfold optional
    split
    · next hw => exact absurd hw ha
    · rw [hread]
      rfl

end Schema

open Schema

theorem Lookup.read_entries (l : Lookup) : Lookup.read (Blueprint.lookupEntries l) = .ok l := by
  obtain ⟨name, dataSet, params⟩ := l
  cases params <;> rfl

theorem Column.read_entries (c : Column) : Column.read (Blueprint.columnEntries c) = .ok c := by
  obtain ⟨property, label, width, type, format⟩ := c
  rcases type with _ | ⟨_ | _ | _ | _⟩ <;> rcases format with _ | ⟨_⟩ <;> cases width <;> rfl

namespace Blueprint

def names : List String := keys.map Key.name

def declared (b : Blueprint) : Fields :=
  [("period", .text b.period.name),
    ("useVersioning", .bool b.useVersioning),
    ("suggestedName", .text b.suggestedName),
    ("format", .text b.shape.name),
    ("orientation", orNull (b.orientation.map fun o => .text o.name)),
    ("title", .text b.title),
    ("subtitle", .text b.subtitle),
    ("dataSet", .text b.dataSet),
    ("dataSetParams", orNull (b.dataSetParams.map .object)),
    ("noResultsMessage", orNull (b.noResultsMessage.map .text)),
    ("lookups", .list (b.lookups.map lookupEntries)),
    ("fields", .list (b.columns.map columnEntries)),
    ("webPageUrl", orNull (b.webPageUrl.map .text)),
    ("autoLayout", .bool b.autoLayout)]

theorem entries_eq (b : Blueprint) : b.entries = Fields.merge b.declared b.extras := rfl

theorem names_nodup : names.Nodup := by decide

theorem entries_nodup (b : Blueprint) : b.entries.keys.Nodup := by
  have hdeclared : b.declared.keys.Nodup := names_nodup
  exact Fields.merge_nodup hdeclared b.extras

theorem names_subset_entries (b : Blueprint) {key : String} (hkey : key ∈ names) :
    key ∈ b.entries.keys := by
  have hdeclared : key ∈ b.declared.keys := hkey
  rw [Fields.mem_keys_iff] at hdeclared ⊢
  rw [entries_eq, Fields.get?_merge]
  simp [hdeclared]

/-! ## The parts of a reading -/

structure ReadFrom (e : Fields) (b : Blueprint) : Prop where
  period : defaulted e (.word "period") .monthly (among Period.options) = .ok b.period
  useVersioning : defaulted e ⟨"useVersioning", "use_versioning"⟩ false flag = .ok b.useVersioning
  suggestedName : defaulted e ⟨"suggestedName", "suggested_name"⟩ "" text = .ok b.suggestedName
  shape : defaulted e (.word "format") .tabular (among Shape.options) = .ok b.shape
  orientation : maybe e (.word "orientation") (among Orientation.options) = .ok b.orientation
  title : defaulted e (.word "title") "" text = .ok b.title
  subtitle : defaulted e (.word "subtitle") "" text = .ok b.subtitle
  dataSet : required e ⟨"dataSet", "data_set"⟩ text = .ok b.dataSet
  dataSetParams : maybe e ⟨"dataSetParams", "data_set_params"⟩ object = .ok b.dataSetParams
  noResultsMessage :
    maybe e ⟨"noResultsMessage", "no_results_message"⟩ text = .ok b.noResultsMessage
  lookups : defaulted e (.word "lookups") [] (list Lookup.read) = .ok b.lookups
  columns : defaulted e (.word "fields") [] (list Column.read) = .ok b.columns
  webPageUrl : maybe e ⟨"webPageUrl", "web_page_url"⟩ text = .ok b.webPageUrl
  autoLayout : defaulted e ⟨"autoLayout", "auto_layout"⟩ false flag = .ok b.autoLayout
  extras : leftovers keys e = b.extras

theorem read_iff {e : Fields} {b : Blueprint} : read (.object e) = .ok b ↔ ReadFrom e b := by
  constructor
  · intro h
    simp only [read, record, seq_ok_iff, map_ok_iff, pure_ok_iff] at h
    obtain ⟨_, _, ⟨_, _, ⟨_, _,
      ⟨_, _, ⟨_, _, ⟨_, _, ⟨_, _, ⟨_, _, ⟨_, _, ⟨_, _, ⟨_, _, ⟨_, _, ⟨_, _,
      ⟨_, _, ⟨_, h₁, rfl⟩, h₂, rfl⟩, h₃, rfl⟩, h₄, rfl⟩, h₅, rfl⟩, h₆, rfl⟩, h₇, rfl⟩, h₈, rfl⟩,
      h₉, rfl⟩, h₁₀, rfl⟩, h₁₁, rfl⟩, h₁₂, rfl⟩, h₁₃, rfl⟩, h₁₄, rfl⟩, h₁₅, rfl⟩ := h
    exact ⟨h₁, h₂, h₃, h₄, h₅, h₆, h₇, h₈, h₉, h₁₀, h₁₁, h₁₂, h₁₃, h₁₄, h₁₅⟩
  · rintro ⟨h₁, h₂, h₃, h₄, h₅, h₆, h₇, h₈, h₉, h₁₀, h₁₁, h₁₂, h₁₃, h₁₄, h₁₅⟩
    simp only [read, record]
    rw [h₁, h₂, h₃, h₄, h₅, h₆, h₇, h₈, h₉, h₁₀, h₁₁, h₁₂, h₁₃, h₁₄, h₁₅]
    rfl

theorem leftovers_eq {e : Fields} (hall : ∀ key ∈ names, key ∈ e.keys) :
    leftovers keys e = e.filter fun entry => !names.contains entry.1 := by
  have taken : keys.filterMap (fun key => (key.find? e).map Prod.fst) = names := by
    have found (key : Key) (hkey : key ∈ keys) : (key.find? e).map Prod.fst = some key.name := by
      have hthere := Fields.mem_keys_iff.mp (hall key.name (List.mem_map_of_mem hkey))
      obtain ⟨v, hv⟩ := Option.isSome_iff_exists.mp hthere
      simp [Key.find?, hv]
    rw [List.filterMap_congr found, List.filterMap_eq_map']
    rfl
  simp only [leftovers, taken]

structure Proper (b : Blueprint) : Prop where
  distinct : b.extras.keys.Nodup
  undeclared : ∀ key ∈ b.extras.keys, key ∉ names

/-- A declared key that is there under its own name is taken under that name. -/
theorem read_undeclared {e : Fields} {b : Blueprint} (hread : read (.object e) = .ok b) :
    ∀ key ∈ b.extras.keys, key ∉ names := by
  intro name hname hdeclared
  rw [← (read_iff.mp hread).extras] at hname
  obtain ⟨entry, hentry, rfl⟩ := List.mem_map.mp hname
  obtain ⟨hmem, hfree⟩ := List.mem_filter.mp hentry
  obtain ⟨key, hkey, hnamed⟩ := List.mem_map.mp hdeclared
  have hthere := Fields.mem_keys_iff.mp (List.mem_map_of_mem hmem)
  obtain ⟨v, hv⟩ := Option.isSome_iff_exists.mp hthere
  have htaken : entry.1 ∈ keys.filterMap fun key => (key.find? e).map Prod.fst := by
    refine List.mem_filterMap.mpr ⟨key, hkey, ?_⟩
    simp [Key.find?, hnamed, hv]
  simp [htaken] at hfree

theorem read_proper {e : Fields} {b : Blueprint} (hn : e.keys.Nodup)
    (hread : read (.object e) = .ok b) : b.Proper :=
  ⟨(read_iff.mp hread).extras ▸ Fields.filter_nodup hn _, read_undeclared hread⟩

section Entries

variable {b : Blueprint} {key : String}

theorem get?_declared (hfree : ∀ key ∈ b.extras.keys, key ∉ names) (hkey : key ∈ names) :
    b.entries.get? key = b.declared.get? key := by
  rw [entries_eq, Fields.get?_merge, Fields.last?_eq_none fun hmem => hfree key hmem hkey,
    Option.none_or]

theorem get?_undeclared (hb : b.Proper) (hkey : key ∉ names) :
    b.entries.get? key = b.extras.get? key := by
  have hnone : b.declared.get? key = none := Fields.get?_eq_none hkey
  rw [entries_eq, Fields.get?_merge, Fields.last?_eq_get? hb.distinct, hnone, Option.or_none]

end Entries

/-! ## What an entry comes to -/

def rewritten {α : Type} (read : Reader α) (write : α → Value) : Reader Value :=
  fun v => (read v).map write

def readings : List (String × Reader Value) :=
  [("period", rewritten (among Period.options) fun p => .text p.name),
    ("useVersioning", rewritten flag .bool),
    ("suggestedName", rewritten text .text),
    ("format", rewritten (among Shape.options) fun s => .text s.name),
    ("orientation", rewritten (optional (among Orientation.options))
      fun o => orNull (o.map fun o => .text o.name)),
    ("title", rewritten text .text),
    ("subtitle", rewritten text .text),
    ("dataSet", rewritten text .text),
    ("dataSetParams", rewritten (optional object) fun params => orNull (params.map .object)),
    ("noResultsMessage", rewritten (optional text) fun s => orNull (s.map .text)),
    ("lookups", rewritten (list Lookup.read) fun ls => .list (ls.map lookupEntries)),
    ("fields", rewritten (list Column.read) fun cs => .list (cs.map columnEntries)),
    ("webPageUrl", rewritten (optional text) fun s => orNull (s.map .text)),
    ("autoLayout", rewritten flag .bool)]

/-- What a value comes to under a key. Under a key that is not declared it stays as it is. -/
def settle (key : String) : Reader Value := (readings.lookup key).getD any

def Settled (key : String) : Option Value → Option Value → Prop
  | none, final => final = none
  | some v, final => ∃ w, settle key v = .ok w ∧ final = some w

section Settling

variable {e : Fields} {b : Blueprint}

theorem settled_defaulted {α : Type} {key : Key} {default a : α} {read : Reader α}
    (write : α → Value) (htable : readings.lookup key.name = some (rewritten read write))
    (hthere : key.name ∈ e.keys) (ha : defaulted e key default read = .ok a) :
    Settled key.name (e.get? key.name) (some (write a)) := by
  obtain ⟨v, hv⟩ := Option.isSome_iff_exists.mp (Fields.mem_keys_iff.mp hthere)
  rw [hv]
  refine ⟨write a, ?_, rfl⟩
  simp [settle, htable, rewritten, (defaulted_ok_iff hv).mp ha, Checked.map]

theorem settled_required {α : Type} {key : Key} {a : α} {read : Reader α} (write : α → Value)
    (htable : readings.lookup key.name = some (rewritten read write))
    (hthere : key.name ∈ e.keys) (ha : required e key read = .ok a) :
    Settled key.name (e.get? key.name) (some (write a)) := by
  obtain ⟨v, hv⟩ := Option.isSome_iff_exists.mp (Fields.mem_keys_iff.mp hthere)
  have ha' : defaulted e key a read = .ok a :=
    (defaulted_ok_iff hv).mpr ((required_ok_iff hv).mp ha)
  exact settled_defaulted write htable hthere ha'

theorem declared_settled (hall : ∀ key ∈ names, key ∈ e.keys) (hread : ReadFrom e b) :
    ∀ entry ∈ b.declared, Settled entry.1 (e.get? entry.1) (some entry.2) := by
  simp only [declared, List.forall_mem_cons]
  exact ⟨settled_defaulted (fun p : Period => .text p.name) rfl (hall _ (by decide)) hread.period,
    settled_defaulted .bool rfl (hall _ (by decide)) hread.useVersioning,
    settled_defaulted .text rfl (hall _ (by decide)) hread.suggestedName,
    settled_defaulted (fun s : Shape => .text s.name) rfl (hall _ (by decide)) hread.shape,
    settled_defaulted (fun o : Option Orientation =>
      orNull (o.map fun o : Orientation => .text o.name)) rfl
      (hall _ (by decide)) hread.orientation,
    settled_defaulted .text rfl (hall _ (by decide)) hread.title,
    settled_defaulted .text rfl (hall _ (by decide)) hread.subtitle,
    settled_required .text rfl (hall _ (by decide)) hread.dataSet,
    settled_defaulted (fun params : Option Fields => orNull (params.map .object)) rfl
      (hall _ (by decide)) hread.dataSetParams,
    settled_defaulted (fun s : Option String => orNull (s.map .text)) rfl
      (hall _ (by decide)) hread.noResultsMessage,
    settled_defaulted (fun ls : List Lookup => .list (ls.map lookupEntries)) rfl
      (hall _ (by decide)) hread.lookups,
    settled_defaulted (fun cs : List Column => .list (cs.map columnEntries)) rfl
      (hall _ (by decide)) hread.columns,
    settled_defaulted (fun s : Option String => orNull (s.map .text)) rfl
      (hall _ (by decide)) hread.webPageUrl,
    settled_defaulted .bool rfl (hall _ (by decide)) hread.autoLayout, by simp⟩

theorem settle_undeclared {key : String} (hkey : key ∉ names) (v : Value) :
    settle key v = .ok v := by
  have hnone : readings.lookup key = none := by
    rw [List.lookup_eq_none_iff]
    intro entry hentry
    have hname : entry.1 ∈ names := List.mem_map_of_mem (f := Prod.fst) hentry
    simpa using fun heq : key = entry.1 => hkey (heq ▸ hname)
  simp [settle, hnone, any]

/-- Each entry of a blueprint is what the value read under its key comes to. -/
theorem entries_settled (hn : e.keys.Nodup) (hall : ∀ key ∈ names, key ∈ e.keys)
    (hread : read (.object e) = .ok b) (key : String) :
    Settled key (e.get? key) (b.entries.get? key) := by
  have hproper := read_proper hn hread
  have hfrom := read_iff.mp hread
  by_cases hkey : key ∈ names
  · obtain ⟨v, hv⟩ := Option.isSome_iff_exists.mp
      (Fields.mem_keys_iff.mp (show key ∈ b.declared.keys from hkey))
    obtain ⟨before, after, hsplit, -⟩ := List.lookup_eq_some_iff.mp hv
    rw [get?_declared hproper.undeclared hkey, hv]
    exact declared_settled hall hfrom (key, v) (by simp [hsplit])
  · have hget : b.extras.get? key = e.get? key := by
      rw [← hfrom.extras, leftovers_eq hall, Fields.get?_filter fun name => !names.contains name]
      simp [hkey]
    rw [get?_undeclared hproper hkey, hget]
    cases hv : e.get? key with
    | none => rfl
    | some v => exact ⟨v, settle_undeclared hkey v, rfl⟩

end Settling

theorem defaulted_entry {b : Blueprint} (hb : b.Proper) {α : Type} {key : Key} {default a : α}
    {read : Reader α} (v : Value) (hkey : key.name ∈ names)
    (hv : b.declared.get? key.name = some v) (ha : read v = .ok a) :
    defaulted b.entries key default read = .ok a :=
  (defaulted_ok_iff ((get?_declared hb.undeclared hkey).trans hv)).mpr ha

/-- Reading a blueprint that was written out gives it back. -/
theorem read_entries {b : Blueprint} (hb : b.Proper) : read (.object b.entries) = .ok b := by
  refine read_iff.mpr ⟨?_, ?_, ?_, ?_, ?_, ?_, ?_, ?_, ?_, ?_, ?_, ?_, ?_, ?_, ?_⟩
  · exact defaulted_entry hb _ (by decide) rfl (among_ok (by cases b.period <;> rfl))
  · exact defaulted_entry hb _ (by decide) rfl rfl
  · exact defaulted_entry hb _ (by decide) rfl rfl
  · exact defaulted_entry hb _ (by decide) rfl (among_ok (by cases b.shape <;> rfl))
  · exact defaulted_entry hb _ (by decide) rfl
      (optional_orNull_ok (fun o : Orientation => .text o.name)
        (fun o => among_ok (by cases o <;> rfl)) nofun b.orientation)
  · exact defaulted_entry hb _ (by decide) rfl rfl
  · exact defaulted_entry hb _ (by decide) rfl rfl
  · exact (required_ok_iff ((get?_declared hb.undeclared (by decide)).trans rfl)).mpr rfl
  · exact defaulted_entry hb _ (by decide) rfl
      (optional_orNull_ok .object (fun _ => rfl) nofun b.dataSetParams)
  · exact defaulted_entry hb _ (by decide) rfl
      (optional_orNull_ok .text (fun _ => rfl) nofun b.noResultsMessage)
  · exact defaulted_entry hb _ (by decide) rfl (list_map_ok Lookup.read_entries b.lookups)
  · exact defaulted_entry hb _ (by decide) rfl (list_map_ok Column.read_entries b.columns)
  · exact defaulted_entry hb _ (by decide) rfl
      (optional_orNull_ok .text (fun _ => rfl) nofun b.webPageUrl)
  · exact defaulted_entry hb _ (by decide) rfl rfl
  · have hdeclared : b.declared.filter (fun entry => !names.contains entry.1) = [] :=
      List.filter_eq_nil_iff.mpr fun entry hentry => by
        have hname : entry.1 ∈ names := List.mem_map_of_mem (f := Prod.fst) hentry
        simpa using hname
    have hextras : b.extras.filter (fun entry => !names.contains entry.1) = b.extras :=
      List.filter_eq_self.mpr fun entry hentry => by
        simpa using hb.undeclared entry.1 (List.mem_map_of_mem hentry)
    have happend : b.entries = b.declared ++ b.extras :=
      Fields.merge_new hb.distinct hb.undeclared
    rw [leftovers_eq fun key => names_subset_entries b, happend, List.filter_append, hdeclared,
      hextras, List.nil_append]

end Blueprint

end Dossier
