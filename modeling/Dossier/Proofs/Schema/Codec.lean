import Dossier.Proofs.Blueprint.Reading
import Dossier.Proofs.Value.Json

/-!
# Records that are written and read again

A record is read entry by entry and written entry by entry. What was read from JSON and written is
read as the same record again, since each entry is found under the key it was written under, and
gives back what it was written from. Entries that no key declares come back as well, as long as none
of them is null or stands under another spelling of a declared key.
-/

set_option autoImplicit false

namespace Dossier.Schema

open Value

variable {α β γ ρ : Type}

/-! ## Readings side by side -/

@[simp]
theorem record_ok_iff {name : String} {f : Fields → Checked α} {v : Value} {a : α} :
    record name f v = .ok a ↔ ∃ fields, v = .object fields ∧ f fields = .ok a := by
  cases v <;> simp [record, Checked.fail]

/-- The last reading of a row of readings is split off; what is done with it goes to the others. -/
@[simp]
theorem seq_split_iff {f : Checked (α → β)} {x : Checked α} {b : β} :
    f <*> x = .ok b ↔ ∃ a, x = .ok a ∧ f.map (fun g => g a) = .ok b := by
  change f.seq x = .ok b ↔ _
  cases f <;> cases x <;> simp [Checked.seq, Checked.map]

@[simp]
theorem map_seq_split_iff {f : Checked (α → β)} {x : Checked α} {k : β → γ} {c : γ} :
    (f <*> x).map k = .ok c ↔ ∃ a, x = .ok a ∧ f.map (fun g => k (g a)) = .ok c := by
  change (f.seq x).map k = .ok c ↔ _
  cases f <;> cases x <;> simp [Checked.seq, Checked.map]

@[simp]
theorem map_map_split_iff {f : α → β} {x : Checked α} {k : β → γ} {c : γ} :
    (f <$> x).map k = .ok c ↔ ∃ a, x = .ok a ∧ k (f a) = c := by
  change (x.map f).map k = .ok c ↔ _
  cases x <;> simp [Checked.map]

/-! ## Entries that are found -/

section Finding

variable {fields : Fields} {key : Key} {read : Reader α} {a default : α}

theorem get?_mem {name : String} {v : Value} (hv : fields.get? name = some v) :
    (name, v) ∈ fields := by
  obtain ⟨before, after, rfl, -⟩ := List.lookup_eq_some_iff.mp hv
  simp

theorem find?_isJson (hfields : isJsonFields fields = true) {name : String} {v : Value}
    (hfound : key.find? fields = some (name, v)) : v.isJson = true := by
  rw [isJsonFields_iff] at hfields
  unfold Key.find? at hfound
  split at hfound
  · next w hw =>
    cases hfound
    exact hfields _ (get?_mem hw)
  · obtain ⟨w, hw, hpair⟩ := Option.map_eq_some_iff.mp hfound
    cases hpair
    exact hfields _ (get?_mem hw)

theorem defaulted_found {name : String} {v : Value} (hfound : key.find? fields = some (name, v)) :
    defaulted fields key default read = .ok a ↔ read v = .ok a := by
  simp [defaulted, hfound, under_ok_iff]

theorem defaulted_missing (hfound : key.find? fields = none) :
    defaulted fields key default read = .ok a ↔ default = a := by
  simp [defaulted, hfound]

theorem required_found {name : String} {v : Value} (hfound : key.find? fields = some (name, v)) :
    required fields key read = .ok a ↔ read v = .ok a := by
  simp [required, hfound, under_ok_iff]

theorem required_exists (hread : required fields key read = .ok a) :
    ∃ name v, key.find? fields = some (name, v) ∧ read v = .ok a := by
  cases hfound : key.find? fields with
  | none => simp [required, hfound] at hread
  | some entry => exact ⟨entry.1, entry.2, rfl, (required_found hfound).mp hread⟩

end Finding

/-! ## Values -/

structure Kept where
  keys : List Key
  entries : Fields

def Kept.Proper (kept : Kept) : Prop :=
  ∀ entry ∈ kept.entries, entry.2.isNull = false ∧ ∀ key ∈ kept.keys, entry.1 ≠ key.underscored

def KeptProper (places : List (α → List Kept)) (a : α) : Prop :=
  ∀ place ∈ places, ∀ kept ∈ place a, kept.Proper

/-- A way to read values and to write them. What was read from JSON is restored when it is written
and read again, provided that the entries kept inside are proper. -/
structure Codec (α : Type) where
  read : Reader α
  write : α → Value
  /-- The places inside a value where entries are kept. -/
  places : List (α → List Kept)
  notNull : ∀ a, (write a).isNull = false
  restores : ∀ {v : Value} {a : α}, v.isJson = true → read v = .ok a → KeptProper places a →
    read (write a) = .ok a

namespace Codec

def plain (read : Reader α) (write : α → Value) (hnull : ∀ a, (write a).isNull = false)
    (hread : ∀ a, read (write a) = .ok a) : Codec α :=
  ⟨read, write, [], hnull, fun _ _ _ => hread _⟩

def text : Codec String := plain Schema.text .text (fun _ => rfl) fun _ => rfl

def flag : Codec Bool := plain Schema.flag .bool (fun _ => rfl) fun _ => rfl

def whole : Codec Int := plain Schema.whole .int (fun _ => rfl) fun _ => rfl

def number : Codec Number.Binary := plain Schema.number .float (fun _ => rfl) fun _ => rfl

def natural : Codec Nat :=
  plain (fun v => (wholeFrom 0 v).map Int.toNat) (fun n => .int n) (fun _ => rfl) fun n => by
    have hleast : ¬ (n : Int) < 0 := by omega
    simp [wholeFrom, Schema.whole, Checked.bind, hleast, Checked.map]

def word (options : List (String × α)) (name : α → String)
    (hnames : ∀ a, options.lookup (name a) = some a) : Codec α :=
  plain (among options) (fun a => .text (name a)) (fun _ => rfl) fun a => among_ok (hnames a)

def object : Codec Fields where
  read := Schema.object
  write := freeObject
  places := []
  notNull _ := rfl
  restores := by
    intro v fields hv hread _
    cases v with
    | object entries =>
      cases hread
      change Schema.object (.object (toWireFields fields)) = .ok fields
      rw [toWireFields_of_isJson hv]
      rfl
    | _ => cases hread

theorem readItems_ok {item : Reader α} {k : Nat} {items : List Value} {as : List α}
    (hread : readItems item k items = .ok as) : ∀ a ∈ as, ∃ v ∈ items, item v = .ok a := by
  induction items generalizing k as with
  | nil =>
    cases hread
    exact fun _ ha => nomatch ha
  | cons v rest ih =>
    obtain ⟨cons, others, hfirst, hothers, rfl⟩ := seq_ok_iff.mp hread
    obtain ⟨a, ha, rfl⟩ := map_ok_iff.mp hfirst
    refine List.forall_mem_cons.mpr ⟨⟨v, by simp, under_ok_iff.mp ha⟩, fun b hb => ?_⟩
    obtain ⟨w, hw, hitem⟩ := ih hothers b hb
    exact ⟨w, List.mem_cons_of_mem _ hw, hitem⟩

/-- Lists are restored when all items are. -/
theorem readItems_restores {item : Reader α} {write : α → Value} {as : List α}
    (hall : ∀ a ∈ as, item (write a) = .ok a) (k : Nat) :
    readItems item k (as.map write) = .ok as := by
  induction as generalizing k with
  | nil => rfl
  | cons a rest ih =>
    obtain ⟨ha, hrest⟩ := List.forall_mem_cons.mp hall
    simp [readItems, ha, ih hrest, Checked.under, Checked.map, Checked.seq]

def list (c : Codec α) : Codec (List α) where
  read := Schema.list c.read
  write as := .list (as.map c.write)
  places := c.places.map fun place as => as.flatMap place
  notNull _ := rfl
  restores := by
    intro v as hv hread hkept
    cases v with
    | list items =>
      refine readItems_restores (fun a ha => ?_) 0
      obtain ⟨w, hw, hitem⟩ := readItems_ok hread a ha
      exact c.restores (isJsonItems_iff.mp hv w hw) hitem fun place hplace kept hmem =>
        hkept _ (List.mem_map_of_mem hplace) kept (List.mem_flatMap.mpr ⟨a, ha, hmem⟩)
    | _ => cases hread

end Codec

/-! ## Entries -/

/-- One declared entry of a record: how it is read from the entries of an object, and what is
written under its key. When exactly that is found under the key, it is read as before. -/
structure Part (ρ : Type) where
  key : Key
  Reads : Fields → ρ → Prop
  entry : ρ → Option Value
  places : List (ρ → List Kept)
  restores : ∀ {fields written : Fields} {m : ρ}, isJsonFields fields = true → Reads fields m →
    KeptProper places m → key.find? written = (entry m).map (fun v => (key.name, v)) →
    Reads written m

namespace Part

def required (c : Codec α) (key : Key) (get : ρ → α) : Part ρ where
  key := key
  Reads fields m := Schema.required fields key c.read = .ok (get m)
  entry m := some (c.write (get m))
  places := c.places.map fun place m => place (get m)
  restores := by
    intro fields written m hfields hread hkept hfound
    obtain ⟨name, v, hthere, hv⟩ := required_exists hread
    refine (required_found hfound).mpr (c.restores (find?_isJson hfields hthere) hv ?_)
    exact fun place hplace => hkept _ (List.mem_map_of_mem hplace)

def defaulted (c : Codec α) (key : Key) (default : α) (get : ρ → α)
    (hdefault : c.read (c.write default) = .ok default) : Part ρ where
  key := key
  Reads fields m := Schema.defaulted fields key default c.read = .ok (get m)
  entry m := some (c.write (get m))
  places := c.places.map fun place m => place (get m)
  restores := by
    intro fields written m hfields hread hkept hfound
    refine (defaulted_found hfound).mpr ?_
    cases hthere : key.find? fields with
    | none =>
      rw [← (defaulted_missing hthere).mp hread]
      exact hdefault
    | some entry =>
      have hv := (defaulted_found hthere).mp hread
      exact c.restores (find?_isJson hfields hthere) hv fun place hplace =>
        hkept _ (List.mem_map_of_mem hplace)

theorem optional_notNull {read : Reader α} {v : Value} (hv : v.isNull = false) :
    optional read v = (read v).map some := by
  cases v with
  | null => cases hv
  | _ => rfl

theorem optional_ok {read : Reader α} {v : Value} {a : α} (hread : optional read v = .ok (some a)) :
    read v = .ok a := by
  cases hv : v.isNull with
  | true =>
    cases v with
    | null => cases hread
    | _ => cases hv
  | false =>
    rw [optional_notNull hv] at hread
    obtain ⟨b, hb, hsame⟩ := map_ok_iff.mp hread
    cases hsame
    exact hb

def maybe (c : Codec α) (key : Key) (get : ρ → Option α) : Part ρ where
  key := key
  Reads fields m := Schema.maybe fields key c.read = .ok (get m)
  entry m := (get m).map c.write
  places := c.places.map fun place m => (get m).toList.flatMap place
  restores := by
    intro fields written m hfields hread hkept hfound
    cases ha : get m with
    | none =>
      rw [ha] at hfound
      exact (defaulted_missing hfound).mpr rfl
    | some a =>
      rw [ha] at hread hfound
      have hrestored : c.read (c.write a) = .ok a := by
        cases hthere : key.find? fields with
        | none => cases (defaulted_missing hthere).mp hread
        | some entry =>
          have hv := optional_ok ((defaulted_found hthere).mp hread)
          refine c.restores (find?_isJson hfields hthere) hv fun place hplace kept hmem => ?_
          exact hkept _ (List.mem_map_of_mem hplace) kept (by simpa [ha] using hmem)
      refine (defaulted_found hfound).mpr ?_
      rw [optional_notNull (c.notNull a), hrestored]
      rfl

def free (key : Key) (read : Reader Value) (get : ρ → Value) (entry : ρ → Option Value)
    (hread : ∀ {v w : Value}, read v = .ok w → w = v)
    (hentry : ∀ m, (get m).isJson = true →
      entry m = if (get m).isNull then none else some (get m)) : Part ρ where
  key := key
  Reads fields m := Schema.defaulted fields key .null read = .ok (get m)
  entry := entry
  places := []
  restores := by
    intro fields written m hfields hreads _ hfound
    have hnull (v : Value) (hv : v.isNull = true) : v = .null := by
      cases v with
      | null => rfl
      | _ => cases hv
    cases hthere : key.find? fields with
    | none =>
      have hm := (defaulted_missing hthere).mp hreads
      rw [hentry m (by rw [← hm]; rfl), ← hm] at hfound
      exact (defaulted_missing hfound).mpr hm
    | some found =>
      obtain ⟨name, v⟩ := found
      have hv := (defaulted_found hthere).mp hreads
      have hm := hread hv
      rw [hentry m (by rw [hm]; exact find?_isJson hfields hthere)] at hfound
      cases hempty : (get m).isNull with
      | true =>
        rw [hempty] at hfound
        exact (defaulted_missing hfound).mpr (hnull _ hempty).symm
      | false =>
        rw [hempty] at hfound
        refine (defaulted_found hfound).mpr ?_
        rwa [hm] at hv ⊢

end Part

/-! ## Records -/

def Key.Apart (keys : List Key) : Prop :=
  (keys.map Key.name).Nodup ∧
    ∀ key ∈ keys, ∀ other ∈ keys, other.name = key.underscored → other.name = key.name

instance (keys : List Key) : Decidable (Key.Apart keys) := inferInstanceAs (Decidable (_ ∧ _))

/-- A record that is read and written entry by entry. Some records keep the entries that no key
declares. -/
structure Entrywise (ρ : Type) where
  read : Reader ρ
  write : ρ → Value
  parts : List (Part ρ)
  extras : Option (ρ → Fields)
  apart : Key.Apart (parts.map Part.key)
  reads : ∀ {v : Value} {m : ρ}, read v = .ok m ↔ ∃ fields, v = .object fields ∧
    (∀ p ∈ parts, p.Reads fields m) ∧
    ∀ get ∈ extras, leftovers (parts.map Part.key) fields = get m
  writes : ∀ m, write m = .ofEntries (parts.map (fun p => (p.key.name, p.entry m)) ++
    ((extras.map fun get => get m).getD []).map fun entry => (entry.1, entry.2.free))

namespace Entrywise

def filled (entries : List (String × Option Value)) : Fields :=
  entries.filterMap fun (key, v) => v.map fun v => (key, v)

theorem get?_filled_cons (key : String) (v : Option Value) (rest : List (String × Option Value))
    (name : String) :
    (filled ((key, v) :: rest)).get? name =
      (if name = key then v else none).or ((filled rest).get? name) := by
  cases v with
  | none => simp [filled]
  | some v =>
    change Fields.get? ((key, v) :: filled rest) name = _
    rw [Fields.get?_cons]
    split <;> simp

theorem get?_filled_absent {entries : List (String × Option Value)} {name : String}
    (habsent : ∀ entry ∈ entries, entry.1 ≠ name) : (filled entries).get? name = none := by
  induction entries with
  | nil => rfl
  | cons entry rest ih =>
    obtain ⟨hentry, hrest⟩ := List.forall_mem_cons.mp habsent
    rw [get?_filled_cons, if_neg (Ne.symm hentry), ih hrest]
    rfl

theorem filled_append (xs ys : List (String × Option Value)) :
    filled (xs ++ ys) = filled xs ++ filled ys := List.filterMap_append

/-- Under the name of a part stands what the part writes. -/
theorem get?_filled_part {parts : List (Part ρ)}
    (hnames : ((parts.map Part.key).map Key.name).Nodup) (m : ρ) {p : Part ρ} (hp : p ∈ parts) :
    (filled (parts.map fun p => (p.key.name, p.entry m))).get? p.key.name = p.entry m := by
  induction parts with
  | nil => cases hp
  | cons q rest ih =>
    obtain ⟨hfresh, hrest⟩ := List.nodup_cons.mp hnames
    have others {r : Part ρ} (hr : r ∈ rest) : r.key.name ≠ q.key.name := fun heq =>
      hfresh (List.mem_map.mpr ⟨r.key, List.mem_map_of_mem hr, heq⟩)
    rw [List.map_cons, get?_filled_cons]
    rcases List.mem_cons.mp hp with rfl | hp
    · have hnone : (filled (rest.map fun p => (p.key.name, p.entry m))).get? p.key.name = none := by
        refine get?_filled_absent fun entry hentry => ?_
        obtain ⟨r, hr, rfl⟩ := List.mem_map.mp hentry
        exact others hr
      simp [hnone]
    · simp [others hp, ih hrest hp]

/-- An entry that no key has taken stands under no declared name. -/
theorem leftovers_undeclared {keys : List Key} {fields : Fields} {entry : String × Value}
    (hentry : entry ∈ leftovers keys fields) : entry.1 ∉ keys.map Key.name := by
  intro hdeclared
  obtain ⟨key, hkey, hname⟩ := List.mem_map.mp hdeclared
  obtain ⟨hmem, hfree⟩ := List.mem_filter.mp hentry
  -- a declared name that is there is taken under that name
  obtain ⟨v, hv⟩ := Option.isSome_iff_exists.mp
    (Fields.mem_keys_iff.mp (List.mem_map_of_mem (f := Prod.fst) hmem))
  have htaken : entry.1 ∈ keys.filterMap fun key => (key.find? fields).map Prod.fst := by
    refine List.mem_filterMap.mpr ⟨key, hkey, ?_⟩
    simp [Key.find?, hname, hv]
  simp [htaken] at hfree

/-- Entries without null are written as they are. -/
theorem filled_free {extras : Fields} (hjson : isJsonFields extras = true)
    (hnull : ∀ entry ∈ extras, entry.2.isNull = false) :
    filled (extras.map fun entry => (entry.1, entry.2.free)) = extras := by
  induction extras with
  | nil => rfl
  | cons entry rest ih =>
    obtain ⟨hentry, hrest⟩ := List.forall_mem_cons.mp (isJsonFields_iff.mp hjson)
    obtain ⟨hfirst, hothers⟩ := List.forall_mem_cons.mp hnull
    have hfree : entry.2.free = some entry.2 := by rw [free_of_isJson hentry, hfirst]; rfl
    have htail := ih (isJsonFields_iff.mpr hrest) hothers
    simp only [filled, List.map_cons, List.filterMap_cons, hfree, Option.map_some] at htail ⊢
    rw [htail]

variable (r : Entrywise ρ)

def keys : List Key := r.parts.map Part.key

def extra (m : ρ) : Fields := (r.extras.map fun get => get m).getD []

def places : List (ρ → List Kept) :=
  r.parts.flatMap Part.places ++ r.extras.toList.map fun get m => [⟨r.keys, get m⟩]

variable {r} {m : ρ} {extras : Fields}

/-- Each part finds under its key what it has written. -/
theorem find?_written (hundeclared : ∀ entry ∈ extras, entry.1 ∉ r.keys.map Key.name)
    (hproper : Kept.Proper ⟨r.keys, extras⟩) {p : Part ρ} (hp : p ∈ r.parts) :
    p.key.find? (filled (r.parts.map fun p => (p.key.name, p.entry m)) ++ extras) =
      (p.entry m).map fun v => (p.key.name, v) := by
  have hkey : p.key ∈ r.keys := List.mem_map_of_mem hp
  have noExtra {name : String} (hname : ∀ entry ∈ extras, entry.1 ≠ name) :
      Fields.get? extras name = none := by
    refine Fields.get?_eq_none fun hmem => ?_
    obtain ⟨entry, hentry, rfl⟩ := List.mem_map.mp hmem
    exact hname entry hentry rfl
  have hname := noExtra fun entry hentry heq =>
    hundeclared entry hentry (heq ▸ List.mem_map_of_mem hkey)
  have hspelling := noExtra fun entry hentry => (hproper entry hentry).2 p.key hkey
  have hown : Fields.get? (filled (r.parts.map fun p => (p.key.name, p.entry m)) ++ extras)
      p.key.name = p.entry m := by
    rw [Fields.get?, List.lookup_append]
    change ((filled _).get? p.key.name).or (Fields.get? extras p.key.name) = _
    rw [get?_filled_part r.apart.1 m hp, hname, Option.or_none]
  unfold Key.find?
  rw [hown]
  cases hentry : p.entry m with
  | some v => rfl
  | none =>
    -- nothing was written under the name, so the other spelling must not be there either
    have hother : Fields.get? (filled (r.parts.map fun p => (p.key.name, p.entry m)) ++ extras)
        p.key.underscored = none := by
      by_cases hsame : p.key.underscored = p.key.name
      · rw [hsame, hown, hentry]
      · rw [Fields.get?, List.lookup_append]
        change ((filled _).get? p.key.underscored).or (Fields.get? extras p.key.underscored) = _
        rw [hspelling, Option.or_none]
        refine get?_filled_absent fun entry hmem => ?_
        obtain ⟨q, hq, rfl⟩ := List.mem_map.mp hmem
        intro heq
        have hthere := r.apart.2 p.key hkey q.key (List.mem_map_of_mem hq) heq
        exact hsame (heq.symm.trans hthere)
    simp [hother]

/-- What no part has written is left over. -/
theorem leftovers_written (hundeclared : ∀ entry ∈ extras, entry.1 ∉ r.keys.map Key.name)
    (hproper : Kept.Proper ⟨r.keys, extras⟩) :
    leftovers r.keys (filled (r.parts.map fun p => (p.key.name, p.entry m)) ++ extras) =
      extras := by
  have found {p : Part ρ} (hp : p ∈ r.parts) := find?_written (m := m) hundeclared hproper hp
  have htaken (name : String) : name ∈ r.keys.filterMap (fun key => (key.find?
      (filled (r.parts.map fun p => (p.key.name, p.entry m)) ++ extras)).map Prod.fst) ↔
      ∃ p ∈ r.parts, (p.entry m).isSome = true ∧ p.key.name = name := by
    simp only [keys, List.mem_filterMap, List.mem_map]
    constructor
    · rintro ⟨_, ⟨p, hp, rfl⟩, hname⟩
      rw [found hp] at hname
      cases hentry : p.entry m with
      | none => simp [hentry] at hname
      | some v => exact ⟨p, hp, by simp [hentry], by simpa [hentry] using hname⟩
    · rintro ⟨p, hp, hsome, rfl⟩
      refine ⟨p.key, ⟨p, hp, rfl⟩, ?_⟩
      obtain ⟨v, hv⟩ := Option.isSome_iff_exists.mp hsome
      rw [found hp, hv]
      rfl
  unfold leftovers
  rw [List.filter_append]
  have hdeclared : (filled (r.parts.map fun p => (p.key.name, p.entry m))).filter (fun entry =>
      !(r.keys.filterMap (fun key => (key.find? (filled (r.parts.map fun p =>
        (p.key.name, p.entry m)) ++ extras)).map Prod.fst)).contains entry.1) = [] := by
    refine List.filter_eq_nil_iff.mpr fun entry hentry => ?_
    obtain ⟨⟨name, v⟩, hv, hfilled⟩ := List.mem_filterMap.mp hentry
    obtain ⟨p, hp, hpair⟩ := List.mem_map.mp hv
    cases hpair
    obtain ⟨w, hw, rfl⟩ := Option.map_eq_some_iff.mp hfilled
    have hmem := (htaken p.key.name).mpr ⟨p, hp, by simp [hw], rfl⟩
    simpa using hmem
  have hextras : extras.filter (fun entry =>
      !(r.keys.filterMap (fun key => (key.find? (filled (r.parts.map fun p =>
        (p.key.name, p.entry m)) ++ extras)).map Prod.fst)).contains entry.1) = extras := by
    refine List.filter_eq_self.mpr fun entry hentry => ?_
    have hnot : entry.1 ∉ r.keys.filterMap (fun key => (key.find? (filled (r.parts.map fun p =>
        (p.key.name, p.entry m)) ++ extras)).map Prod.fst) := by
      rw [htaken]
      rintro ⟨p, hp, -, heq⟩
      exact hundeclared entry hentry (heq ▸ List.mem_map_of_mem (List.mem_map_of_mem hp))
    simpa using hnot
  rw [hdeclared, hextras, List.nil_append]

theorem write_eq (hjson : isJsonFields (r.extra m) = true)
    (hproper : Kept.Proper ⟨r.keys, r.extra m⟩) :
    r.write m =
      .object (filled (r.parts.map fun p => (p.key.name, p.entry m)) ++ r.extra m) := by
  have hfree := filled_free hjson fun entry hentry => (hproper entry hentry).1
  have hwritten : r.write m = .object (filled (r.parts.map (fun p => (p.key.name, p.entry m)) ++
      (r.extra m).map fun entry => (entry.1, entry.2.free))) := r.writes m
  rw [hwritten, filled_append, hfree]

/-- A record that was read from JSON and written is read as the same record again. -/
theorem read_write {v : Value} (hv : v.isJson = true) (hread : r.read v = .ok m)
    (hkept : KeptProper r.places m) : r.read (r.write m) = .ok m := by
  obtain ⟨fields, rfl, hparts, hextras⟩ := r.reads.mp hread
  have hleft : r.extra m = [] ∨ r.extra m = leftovers r.keys fields := by
    cases hget : r.extras with
    | none => exact .inl (by simp [extra, hget])
    | some get =>
      refine .inr ?_
      rw [extra, hget]
      exact (hextras get hget).symm
  have hmem : ∀ entry ∈ r.extra m, entry ∈ leftovers r.keys fields := by
    rcases hleft with hnil | heq
    · simp [hnil]
    · simp [heq]
  have hundeclared : ∀ entry ∈ r.extra m, entry.1 ∉ r.keys.map Key.name := fun entry hentry =>
    leftovers_undeclared (hmem entry hentry)
  have hjson : isJsonFields (r.extra m) = true := isJsonFields_iff.mpr fun entry hentry =>
    isJsonFields_iff.mp hv entry (List.mem_of_mem_filter (hmem entry hentry))
  have hproper : Kept.Proper ⟨r.keys, r.extra m⟩ := by
    cases hget : r.extras with
    | none => simp [extra, hget, Kept.Proper]
    | some get =>
      exact hkept (fun m => [⟨r.keys, get m⟩]) (by simp [places, hget]) _ (by simp [extra, hget])
  rw [write_eq hjson hproper]
  refine r.reads.mpr ⟨_, rfl, fun p hp => ?_, fun get hget => ?_⟩
  · refine p.restores hv (hparts p hp) (fun place hplace => hkept place ?_)
      (find?_written hundeclared hproper hp)
    exact List.mem_append_left _ (List.mem_flatMap.mpr ⟨p, hp, hplace⟩)
  · have hextra : r.extra m = get m := by
      rw [extra, Option.mem_def.mp hget]
      rfl
    rw [← hextra]
    exact leftovers_written hundeclared hproper

def codec (r : Entrywise ρ) : Codec ρ where
  read := r.read
  write := r.write
  places := r.places
  notNull m := by
    rw [r.writes]
    rfl
  restores := r.read_write

end Entrywise

end Dossier.Schema
