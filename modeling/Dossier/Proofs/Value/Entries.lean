import Dossier.Value.Basic
import Mathlib.Data.List.Nodup

/-!
# Entries laid over entries

When entries are put one after the other, the last one under a key is the one that counts, whatever
it is put over. Keys that were distinct stay distinct.
-/

set_option autoImplicit false

namespace Dossier.Fields

def last? (fields : Fields) (key : String) : Option Value := fields.reverse.lookup key

theorem get_eq (fields : Fields) (key : String) : fields.get key = (fields.get? key).getD .null :=
  rfl

theorem get_of_get? {fields : Fields} {key : String} {v : Value} (hv : fields.get? key = some v) :
    fields.get key = v := by
  rw [get_eq, hv, Option.getD_some]

theorem exists_get? {fields : Fields} {key : String} (hvalue : (fields.get key).isNull = false) :
    ∃ v, fields.get? key = some v ∧ v.isNull = false := by
  rw [get_eq] at hvalue
  cases hget : fields.get? key with
  | none =>
    rw [hget] at hvalue
    cases hvalue
  | some v =>
    rw [hget] at hvalue
    exact ⟨v, rfl, hvalue⟩

theorem get?_put (fields : Fields) (key other : String) (value : Value) :
    (fields.put key value).get? other = if other = key then some value else fields.get? other := by
  by_cases h : other = key
  · rw [if_pos h, h, get?_put_self]
  · rw [if_neg h, get?_put_of_ne fields value h]

theorem put_put (fields : Fields) (key : String) (v w : Value) :
    (fields.put key v).put key w = fields.put key w := by
  induction fields with
  | nil => simp [put]
  | cons entry rest ih =>
    obtain ⟨k, u⟩ := entry
    by_cases h : k = key <;> simp [put, h, ih]

theorem get?_cons (k : String) (v : Value) (rest : Fields) (key : String) :
    get? ((k, v) :: rest) key = if key = k then some v else get? rest key := by
  by_cases h : key = k
  · simp [get?, h]
  · have h' : (key == k) = false := by simpa using h
    simp [get?, List.lookup_cons, h, h']

theorem last?_cons (k : String) (v : Value) (rest : Fields) (key : String) :
    last? ((k, v) :: rest) key = (last? rest key).or (if key = k then some v else none) := by
  rw [last?, List.reverse_cons, List.lookup_append]
  congr 1
  exact get?_cons k v [] key

theorem get?_merge (base patch : Fields) (key : String) :
    (merge base patch).get? key = (patch.last? key).or (base.get? key) := by
  induction patch generalizing base with
  | nil => rfl
  | cons entry rest ih =>
    obtain ⟨k, v⟩ := entry
    change (merge (base.put k v) rest).get? key = _
    rw [ih, get?_put, last?_cons, Option.or_assoc]
    by_cases h : key = k <;> simp [h]

theorem ofEntries_concat (entries : Fields) (key : String) (v : Value) :
    ofEntries (entries ++ [(key, v)]) = (ofEntries entries).put key v := by
  simp [ofEntries, merge]

/-! ## Distinct keys -/

theorem mem_keys_iff {fields : Fields} {key : String} :
    key ∈ fields.keys ↔ (fields.get? key).isSome = true := by
  induction fields with
  | nil => simp [keys, get?]
  | cons entry rest ih =>
    obtain ⟨k, v⟩ := entry
    rw [get?_cons]
    by_cases h : key = k
    · simp [keys, h]
    · simpa [keys, h] using ih

theorem get?_eq_none {fields : Fields} {key : String} (hkey : key ∉ fields.keys) :
    fields.get? key = none := by
  rwa [mem_keys_iff, Option.not_isSome_iff_eq_none] at hkey

theorem keys_put (fields : Fields) (key : String) (value : Value) :
    (fields.put key value).keys = if key ∈ fields.keys then fields.keys
      else fields.keys ++ [key] := by
  induction fields with
  | nil => simp [put, keys]
  | cons entry rest ih =>
    obtain ⟨k, v⟩ := entry
    by_cases h : k = key
    · simp [put, keys, h]
    · simp only [put, h, if_false, keys, List.map_cons, List.mem_cons, Ne.symm h, false_or] at ih ⊢
      rw [ih]
      by_cases hm : key ∈ List.map Prod.fst rest <;> simp [hm]

theorem put_nodup {fields : Fields} (hn : fields.keys.Nodup) (key : String) (value : Value) :
    (fields.put key value).keys.Nodup := by
  rw [keys_put]
  split
  · exact hn
  · rename_i h
    exact List.concat_eq_append ▸ hn.concat h

theorem merge_nodup {base : Fields} (hn : base.keys.Nodup) (patch : Fields) :
    (merge base patch).keys.Nodup := by
  induction patch generalizing base with
  | nil => exact hn
  | cons entry rest ih => exact ih (put_nodup hn entry.1 entry.2)

theorem put_new {fields : Fields} {key : String} (hnew : key ∉ fields.keys) (value : Value) :
    fields.put key value = fields ++ [(key, value)] := by
  induction fields with
  | nil => rfl
  | cons entry rest ih =>
    obtain ⟨k, v⟩ := entry
    obtain ⟨hk, hrest⟩ := not_or.mp (fun h => hnew (List.mem_cons.mpr h))
    simp [put, Ne.symm hk, ih hrest]

/-- Entries under new keys are appended. -/
theorem merge_new {base patch : Fields} (hn : patch.keys.Nodup)
    (hnew : ∀ key ∈ patch.keys, key ∉ base.keys) : merge base patch = base ++ patch := by
  induction patch generalizing base with
  | nil => simp [merge]
  | cons entry rest ih =>
    obtain ⟨k, v⟩ := entry
    obtain ⟨hk, hrest⟩ := List.nodup_cons.mp hn
    change merge (base.put k v) rest = _
    rw [put_new (hnew k (by simp [keys])), ih hrest]
    · simp
    · intro key hkey
      have hne : key ≠ k := fun e => hk (e ▸ hkey)
      have hbase := hnew key (List.mem_cons_of_mem _ hkey)
      simpa [keys, hne] using hbase

theorem last?_eq_get? {fields : Fields} (hn : fields.keys.Nodup) (key : String) :
    fields.last? key = fields.get? key := by
  induction fields with
  | nil => rfl
  | cons entry rest ih =>
    obtain ⟨k, v⟩ := entry
    obtain ⟨hk, hrest⟩ := List.nodup_cons.mp hn
    rw [last?_cons, get?_cons, ih hrest]
    by_cases h : key = k
    · subst h
      simp [get?_eq_none hk]
    · simp [h]

theorem last?_eq_none {fields : Fields} {key : String} (hkey : key ∉ fields.keys) :
    fields.last? key = none := by
  change get? fields.reverse key = none
  exact get?_eq_none (by simpa [keys] using hkey)

theorem get?_filter (p : String → Bool) (fields : Fields) (key : String) :
    get? (fields.filter fun entry => p entry.1) key =
      if p key = true then fields.get? key else none := by
  induction fields with
  | nil => simp [get?]
  | cons entry rest ih =>
    obtain ⟨k, v⟩ := entry
    by_cases hk : p k = true <;> by_cases h : key = k
    · simp [hk, h, get?_cons]
    · simpa [hk, h, get?_cons] using ih
    · have hkey : p key = false := by simpa [h] using hk
      simpa [hk, hkey] using ih
    · simpa [hk, h, get?_cons] using ih

theorem get?_erase (fields : Fields) (key other : String) :
    (fields.erase key).get? other = if other = key then none else fields.get? other := by
  rw [erase, get?_filter fun k => decide (k ≠ key)]
  by_cases hkey : other = key <;> simp [hkey]

theorem get_erase_of_ne {fields : Fields} {key other : String} (hne : other ≠ key) :
    (fields.erase key).get other = fields.get other := by
  rw [get_eq, get_eq, get?_erase, if_neg hne]

theorem get_erase_self (fields : Fields) (key : String) : (fields.erase key).get key = .null := by
  rw [get_eq, get?_erase, if_pos rfl, Option.getD_none]

theorem filter_nodup {fields : Fields} (hn : fields.keys.Nodup) (p : String × Value → Bool) :
    (keys (fields.filter p)).Nodup :=
  (List.filter_sublist.map Prod.fst).nodup hn

/-- The order of the entries makes no difference to what stands under a key. -/
theorem get?_perm {fields fields' : Fields} (hn : fields.keys.Nodup) (h : fields.Perm fields')
    (key : String) : fields.get? key = fields'.get? key := by
  induction h with
  | nil => rfl
  | cons entry h ih => rw [get?_cons, get?_cons, ih (List.nodup_cons.mp hn).2]
  | swap e e' rest =>
    have hne : e'.1 ≠ e.1 := fun h => (List.nodup_cons.mp hn).1 (by simp [h])
    rw [get?_cons, get?_cons, get?_cons, get?_cons]
    by_cases h : key = e.1
    · simp [h, hne.symm]
    · simp [h]
  | trans h _ ih ih' => exact (ih hn).trans (ih' ((h.map Prod.fst).nodup_iff.mp hn))

end Dossier.Fields
