import Dossier.Proofs.Host.Frame
import Dossier.Catalog.Basic

/-!
# Asking a catalog for a definition

The definition of a declared type is the listed one, the one read before, or the one in its file.
Only the last is new to the catalog, which remembers it.
-/

set_option autoImplicit false

namespace Dossier

open Run

section Files

variable {h k : Host}

theorem content?_congr (hroot : k.root = h.root) (hfiles : k.files = h.files) (p : Path) :
    k.content? p = h.content? p := by
  simp only [Host.content?, Host.look, Host.place, hroot, hfiles]

theorem Configuration.definition_sees (hroot : k.root = h.root)
    (hfiles : k.files = h.files) (dir : Path) (key : String) :
    Configuration.definition k dir key = Configuration.definition h dir key := by
  simp only [Configuration.definition, content?_congr hroot hfiles]

end Files

theorem Catalog.definition_apply (catalog : Catalog) (key : String) (h : Host) :
    catalog.definition key h = match catalog.entries.lookup key with
      | some (.declared l) => match l.definition.or (h.definitions.lookup key) with
        | some d => (.ok d, h)
        | none => match Configuration.definition h catalog.dir key with
          | .ok d => (.ok d, { h with definitions := h.definitions ++ [(key, d)] })
          | .error e => (.error e, h)
      | _ => (.error (.unknownProofType (.text key)), h) := by
  unfold Catalog.definition
  rcases catalog.entries.lookup key with _ | ⟨label, category, criteria, _ | d⟩ | handler
  · rfl
  · have hget : (get : Run Host) h = (.ok h, h) := rfl
    dsimp only
    rw [bind_apply, hget]
    dsimp only [Option.none_or]
    rcases h.definitions.lookup key with _ | d
    · dsimp only
      rw [bind_apply, lift_apply]
      rcases Configuration.definition h catalog.dir key with e | d <;> rfl
    · rfl
  · rfl
  · rfl

/-- Asked for a definition, a catalog at most remembers one more: the one in the file of its type.
-/
theorem Catalog.definition_host (catalog : Catalog) (key : String) (h : Host) :
    ∃ definitions, (catalog.definition key h).2 = { h with definitions := definitions } ∧
      ∀ entry ∈ definitions, entry ∈ h.definitions ∨
        entry.1 = key ∧ Configuration.definition h catalog.dir key = .ok entry.2 := by
  have same : ∃ definitions, h = { h with definitions := definitions } ∧
      ∀ entry ∈ definitions, entry ∈ h.definitions ∨
        entry.1 = key ∧ Configuration.definition h catalog.dir key = .ok entry.2 :=
    ⟨h.definitions, rfl, fun _ => .inl⟩
  rw [definition_apply]
  split
  · split
    · exact same
    · split
      · next d hread =>
        refine ⟨h.definitions ++ [(key, d)], rfl, fun entry hentry => ?_⟩
        rcases List.mem_append.mp hentry with hbefore | hnew
        · exact .inl hbefore
        · obtain rfl := List.mem_singleton.mp hnew
          exact .inr ⟨rfl, hread⟩
      · exact same
  · exact same

end Dossier
