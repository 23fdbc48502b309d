import Dossier.Proofs.Template.Suppression

/-!
# Resolving a value text by text

Resolving a value resolves the texts inside it, one after the other, and changes nothing else. If
all of them resolve, the result has no placeholder left at any depth, so that resolving it again
changes nothing, whatever the scope. Otherwise the failure is that of the first text that does not.
-/

set_option autoImplicit false

namespace Dossier.Template

/-! ## The texts of a value -/

mutual

def texts : Value → List String
  | .text s => [s]
  | .list items => itemTexts items
  | .object fields => fieldTexts fields
  | _ => []

def itemTexts : List Value → List String
  | [] => []
  | v :: rest => texts v ++ itemTexts rest

def fieldTexts : Fields → List String
  | [] => []
  | (_, v) :: rest => texts v ++ fieldTexts rest

end

def isLeaf : Value → Bool
  | .text _ | .list _ | .object _ => false
  | _ => true

inductive Leafwise (writes : String → String → Prop) : Value → Value → Prop
  | leaf {v : Value} (hv : isLeaf v = true) : Leafwise writes v v
  | text {s t : String} (write : writes s t) : Leafwise writes (.text s) (.text t)
  | noItem : Leafwise writes (.list []) (.list [])
  | item {v w : Value} {items items' : List Value} (first : Leafwise writes v w)
      (rest : Leafwise writes (.list items) (.list items')) :
      Leafwise writes (.list (v :: items)) (.list (w :: items'))
  | noField : Leafwise writes (.object []) (.object [])
  | field {key : String} {v w : Value} {fields fields' : Fields} (first : Leafwise writes v w)
      (rest : Leafwise writes (.object fields) (.object fields')) :
      Leafwise writes (.object ((key, v) :: fields)) (.object ((key, w) :: fields'))

theorem texts_item (v : Value) (items : List Value) :
    texts (.list (v :: items)) = texts v ++ texts (.list items) := rfl

theorem texts_field (key : String) (v : Value) (fields : Fields) :
    texts (.object ((key, v) :: fields)) = texts v ++ texts (.object fields) := rfl

theorem texts_leaf {v : Value} (hv : isLeaf v = true) : texts v = [] := by
  cases v with
  | text s => cases hv
  | list items => cases hv
  | object fields => cases hv
  | _ => rfl

section Leafwise

variable {writes writes' : String → String → Prop} {v w : Value}

theorem Leafwise.imp (hvw : Leafwise writes v w)
    (himp : ∀ s ∈ texts v, ∀ t, writes s t → writes' s t) : Leafwise writes' v w := by
  induction hvw with
  | leaf hv => exact .leaf hv
  | text write => exact .text (himp _ (by simp [texts]) _ write)
  | noItem => exact .noItem
  | item first rest ihfirst ihrest =>
    obtain ⟨hfirst, hrest⟩ := List.forall_mem_append.mp himp
    exact .item (ihfirst hfirst) (ihrest hrest)
  | noField => exact .noField
  | field first rest ihfirst ihrest =>
    obtain ⟨hfirst, hrest⟩ := List.forall_mem_append.mp himp
    exact .field (ihfirst hfirst) (ihrest hrest)

/-- Texts that may only be replaced by themselves leave the value as it is. -/
theorem Leafwise.eq (hvw : Leafwise (· = ·) v w) : v = w := by
  induction hvw with
  | leaf hv => rfl
  | text write => rw [write]
  | noItem => rfl
  | item first rest ihfirst ihrest => rw [ihfirst, Value.list.inj ihrest]
  | noField => rfl
  | field first rest ihfirst ihrest => rw [ihfirst, Value.object.inj ihrest]

/-- The texts of the two values go together, one for one. -/
theorem Leafwise.forall₂ (hvw : Leafwise writes v w) : List.Forall₂ writes (texts v) (texts w) := by
  induction hvw with
  | leaf hv => rw [texts_leaf hv]; exact .nil
  | text write => exact .cons write .nil
  | noItem => exact .nil
  | item first rest ihfirst ihrest => exact List.rel_append ihfirst ihrest
  | noField => exact .nil
  | field first rest ihfirst ihrest => exact List.rel_append ihfirst ihrest

theorem exists_of_forall₂ {ss ts : List String} (hall : List.Forall₂ writes ss ts) :
    ∀ s ∈ ss, ∃ t ∈ ts, writes s t := by
  induction hall with
  | nil => simp
  | cons write rest ih =>
    refine List.forall_mem_cons.mpr ⟨⟨_, List.mem_cons_self, write⟩, fun s hs => ?_⟩
    obtain ⟨t, ht, hst⟩ := ih s hs
    exact ⟨t, List.mem_cons_of_mem _ ht, hst⟩

end Leafwise

/-! ## One setting -/

def FirstFails (attempt : String → Except Failure Value) (texts : List String) (e : Failure) :
    Prop :=
  ∃ before s after, texts = before ++ s :: after ∧ (∀ t ∈ before, ∃ w, attempt t = .ok w) ∧
    attempt s = .error e

def ByTexts (attempt : String → Except Failure Value) (v : Value) : Except Failure Value → Prop
  | .ok w => Leafwise (fun s t => attempt s = .ok (.text t)) v w
  | .error e => FirstFails attempt (texts v) e

section Attempt

variable {attempt : String → Except Failure Value} {ss ts : List String} {e : Failure}

theorem FirstFails.left (hfails : FirstFails attempt ss e) (ts : List String) :
    FirstFails attempt (ss ++ ts) e := by
  obtain ⟨before, s, after, rfl, hbefore, hs⟩ := hfails
  exact ⟨before, s, after ++ ts, by simp, hbefore, hs⟩

theorem FirstFails.right (hss : ∀ s ∈ ss, ∃ w, attempt s = .ok w)
    (hfails : FirstFails attempt ts e) :
    FirstFails attempt (ss ++ ts) e := by
  obtain ⟨before, s, after, rfl, hbefore, hs⟩ := hfails
  exact ⟨ss ++ before, s, after, by simp, List.forall_mem_append.mpr ⟨hss, hbefore⟩, hs⟩

theorem Leafwise.succeed {v w : Value}
    (hvw : Leafwise (fun s t => attempt s = .ok (.text t)) v w) :
    ∀ s ∈ texts v, ∃ w, attempt s = .ok w := by
  intro s hs
  obtain ⟨t, -, hst⟩ := exists_of_forall₂ hvw.forall₂ s hs
  exact ⟨.text t, hst⟩

end Attempt

section Resolving

variable (setting : Setting) (scope : Fields) (suppress : Bool)

mutual

theorem resolveValue_byTexts (v : Value) :
    ByTexts (fun s => resolveValue setting scope suppress (.text s)) v
      (resolveValue setting scope suppress v) := by
  cases v with
  | text s =>
    cases hs : resolve setting scope suppress s with
    | error e =>
      have hv : resolveValue setting scope suppress (.text s) = .error e := by
        rw [resolveValue, hs]; rfl
      rw [hv]
      exact ⟨[], s, [], rfl, by simp, hv⟩
    | ok t =>
      have hv : resolveValue setting scope suppress (.text s) = .ok (.text t) := by
        rw [resolveValue, hs]
        rfl
      rw [hv]
      exact .text hv
  | list items =>
    rw [resolveValue]
    exact resolveItems_byTexts items
  | object fields =>
    rw [resolveValue]
    exact resolveFields_byTexts fields
  | _ => exact .leaf rfl

theorem resolveItems_byTexts (items : List Value) :
    ByTexts (fun s => resolveValue setting scope suppress (.text s)) (.list items)
      ((resolveItems setting scope suppress items).map .list) := by
  cases items with
  | nil => exact .noItem
  | cons v rest =>
    have hfirst := resolveValue_byTexts v
    have hrest := resolveItems_byTexts rest
    rw [resolveItems]
    cases hv : resolveValue setting scope suppress v with
    | error e =>
      rw [hv] at hfirst
      exact hfirst.left _
    | ok w =>
      rw [hv] at hfirst
      cases hitems : resolveItems setting scope suppress rest with
      | error e =>
        rw [hitems] at hrest
        exact hrest.right hfirst.succeed
      | ok items' =>
        rw [hitems] at hrest
        exact .item hfirst hrest

theorem resolveFields_byTexts (fields : Fields) :
    ByTexts (fun s => resolveValue setting scope suppress (.text s)) (.object fields)
      ((resolveFields setting scope suppress fields).map .object) := by
  cases fields with
  | nil => exact .noField
  | cons entry rest =>
    obtain ⟨key, v⟩ := entry
    have hfirst := resolveValue_byTexts v
    have hrest := resolveFields_byTexts rest
    rw [resolveFields]
    cases hv : resolveValue setting scope suppress v with
    | error e =>
      rw [hv] at hfirst
      exact hfirst.left _
    | ok w =>
      rw [hv] at hfirst
      cases hfields : resolveFields setting scope suppress rest with
      | error e =>
        rw [hfields] at hrest
        exact hrest.right hfirst.succeed
      | ok fields' =>
        rw [hfields] at hrest
        exact .field hfirst hrest

end

variable {setting scope suppress} {v w : Value}

/-- A value without placeholders resolves to itself. -/
theorem resolveValue_done (hv : ∀ s ∈ texts v, contains s = false) :
    resolveValue setting scope suppress v = .ok v := by
  have hself : ∀ s ∈ texts v, resolveValue setting scope suppress (.text s) = .ok (.text s) :=
    fun s hs => by rw [resolveValue, resolve_done (hv s hs)]; rfl
  have hbyTexts := resolveValue_byTexts setting scope suppress v
  cases hrun : resolveValue setting scope suppress v with
  | error e =>
    rw [hrun] at hbyTexts
    obtain ⟨before, s, after, htexts, -, hs⟩ := hbyTexts
    cases (hself s (by simp [htexts])).symm.trans hs
  | ok w =>
    rw [hrun] at hbyTexts
    have hsame : Leafwise (· = ·) v w := Leafwise.imp hbyTexts fun s hs t ht =>
      Value.text.inj (Except.ok.inj ((hself s hs).symm.trans ht))
    rw [hsame.eq]

end Resolving

/-! ## Any host -/

mutual

theorem hasText_eq_false_iff (v : Value) : hasText v = false ↔ texts v = [] := by
  cases v with
  | text s => simp [hasText, texts]
  | list items => exact hasTextItems_eq_false_iff items
  | object fields => exact hasTextFields_eq_false_iff fields
  | _ => simp [hasText, texts]

theorem hasTextItems_eq_false_iff (items : List Value) :
    hasTextItems items = false ↔ texts (.list items) = [] := by
  cases items with
  | nil => simp [hasTextItems, texts, itemTexts]
  | cons v rest =>
    rw [hasTextItems, Bool.or_eq_false_iff, hasText_eq_false_iff v, hasTextItems_eq_false_iff rest,
      texts_item, List.append_eq_nil_iff]

theorem hasTextFields_eq_false_iff (fields : Fields) :
    hasTextFields fields = false ↔ texts (.object fields) = [] := by
  cases fields with
  | nil => simp [hasTextFields, texts, fieldTexts]
  | cons entry rest =>
    obtain ⟨key, v⟩ := entry
    rw [hasTextFields, Bool.or_eq_false_iff, hasText_eq_false_iff v,
      hasTextFields_eq_false_iff rest, texts_field, List.append_eq_nil_iff]

end

section Host

variable {env? : Option Environment} {limit? : Option Int} {scope : Fields} {suppress : Bool}
  {v : Value} {h : Host}

theorem resolveValue_textless (hv : hasText v = false) :
    Run.resolveValue env? limit? scope suppress v h = (.ok v, h) := by
  unfold Run.resolveValue
  rw [hv]
  rfl

/-- With the setting known, a value is resolved in it. -/
theorem resolveValue_set {setting : Setting}
    (hsetting : (Run.templateSetting env? limit? h).1 = .ok setting) :
    (Run.resolveValue env? limit? scope suppress v h).1 =
      resolveValue setting scope suppress v := by
  cases hv : hasText v with
  | false =>
    have hnone := (hasText_eq_false_iff v).mp hv
    rw [resolveValue_textless hv, resolveValue_done (by simp [hnone])]
  | true =>
    unfold Run.resolveValue
    rw [if_pos hv, Run.bind_of_ok hsetting, Run.lift_apply]

theorem resolveValue_text_done {s t : String}
    (hs : (Run.resolveValue env? limit? scope false (.text s) h).1 = .ok (.text t)) :
    contains t = false := by
  obtain ⟨h', ⟨u, hdone, hplain, -⟩ | ⟨e, -, hplain, -⟩ | ⟨body, u, -, -, hplain, -⟩⟩ :=
    resolveValue_endings env? limit? scope s h
  · rw [hplain] at hs
    cases hs
    exact hdone
  · rw [hplain] at hs
    cases hs
  · rw [hplain] at hs
    cases hs

theorem resolveValue_byHost (v : Value) :
    ByTexts (fun s => (Run.resolveValue env? limit? scope suppress (.text s) h).1) v
      (Run.resolveValue env? limit? scope suppress v h).1 := by
  rcases hsetting : Run.templateSetting env? limit? h with ⟨e | setting, h'⟩
  · cases hv : hasText v with
    | false =>
      -- nothing fails for want of a setting where there is no text
      have hnone := (hasText_eq_false_iff v).mp hv
      have hbyTexts := resolveValue_byTexts ⟨[], 0⟩ scope suppress v
      rw [resolveValue_done (by simp [hnone])] at hbyTexts
      rw [resolveValue_textless hv]
      exact Leafwise.imp hbyTexts (by simp [hnone])
    | true =>
      obtain ⟨s, after, htexts⟩ : ∃ s after, texts v = s :: after :=
        List.exists_cons_of_ne_nil fun hnone => by simp [(hasText_eq_false_iff v).mpr hnone] at hv
      rw [resolveValue_unset hv hsetting]
      exact ⟨[], s, after, htexts, by
        simp, congrArg Prod.fst (resolveValue_unset rfl hsetting suppress)⟩
  · have hset (v : Value) : (Run.resolveValue env? limit? scope suppress v h).1 =
        resolveValue setting scope suppress v := resolveValue_set (congrArg Prod.fst hsetting)
    simp only [hset]
    exact resolveValue_byTexts setting scope suppress v

/-- Resolving a value resolves the texts inside it, in their order, and keeps everything else. A
result has no placeholder at any depth and resolves to itself in every scope; a failure is that of
the first text that fails. -/
theorem resolveValue_leaves (env? : Option Environment) (limit? : Option Int) (scope : Fields)
    (v : Value) (h : Host) :
    (∀ w h', Run.resolveValue env? limit? scope false v h = (.ok w, h') →
      Leafwise (fun s t => (Run.resolveValue env? limit? scope false (.text s) h).1 =
        .ok (.text t)) v w ∧
      (∀ t ∈ texts w, contains t = false) ∧
      ∀ env'? limit'? scope' suppress' k setting',
        (Run.templateSetting env'? limit'? k).1 = .ok setting' →
        (Run.resolveValue env'? limit'? scope' suppress' w k).1 = .ok w) ∧
    ∀ e h', Run.resolveValue env? limit? scope false v h = (.error e, h') →
      FirstFails (fun s => (Run.resolveValue env? limit? scope false (.text s) h).1)
        (texts v) e := by
  have hbyHost : ByTexts (fun s => (Run.resolveValue env? limit? scope false (.text s) h).1) v
      (Run.resolveValue env? limit? scope false v h).1 := resolveValue_byHost v
  constructor
  · intro w h' hrun
    rw [hrun] at hbyHost
    have hleaves : Leafwise (fun s t =>
      (Run.resolveValue env? limit? scope false (.text s) h).1 = .ok (.text t)) v w := hbyHost
    have hdone : ∀ t ∈ texts w, contains t = false := by
      intro t ht
      obtain ⟨s, -, hs⟩ := exists_of_forall₂ (List.Forall₂.flip (R := flip _) hleaves.forall₂) t ht
      exact resolveValue_text_done hs
    refine ⟨hleaves, hdone, fun env'? limit'? scope' suppress' k setting' hsetting => ?_⟩
    rw [resolveValue_set hsetting, resolveValue_done hdone]
  · intro e h' hrun
    rwa [hrun] at hbyHost

end Host

def invitation : Value :=
  .object [("to", .text "\x7b\x7bcriteria.name\x7d\x7d"), ("seats", .int 2),
    ("notes", .list [.null, .text "\x7b\x7bmessages.hello\x7d\x7d!"])]

def invitationOfAnn : Value :=
  .object [("to", .text "Ann"), ("seats", .int 2), ("notes", .list [.null, .text "Hello Ann!"])]

/-- The invitation resolves text by text, and once resolved is the same in an empty scope. -/
theorem resolveValue_leaves_invitation :
    (Run.resolveValue (some []) (some 2) greetings false invitation Host.bare).1 =
        .ok invitationOfAnn ∧
      (∀ t ∈ texts invitationOfAnn, contains t = false) ∧
      (Run.resolveValue (some []) (some 1) [] true invitationOfAnn Host.bare).1 =
        .ok invitationOfAnn := by
  have hname : passes ⟨meaning [] greetings, false, some []⟩ (Int.toNat 2)
      "\x7b\x7bcriteria.name\x7d\x7d".toList = .ok (some "Ann".toList) := by decide +kernel
  have hhello : passes ⟨meaning [] greetings, false, some []⟩ (Int.toNat 2)
      "\x7b\x7bmessages.hello\x7d\x7d!".toList = .ok (some "Hello Ann!".toList) := by decide +kernel
  have hrun : (Run.resolveValue (some []) (some 2) greetings false invitation Host.bare).1 =
      .ok invitationOfAnn := by
    have hsetting : (Run.templateSetting (some []) (some 2) Host.bare).1 = .ok ⟨[], 2⟩ := rfl
    rw [resolveValue_set hsetting]
    simp only [invitation, resolveValue, resolveFields, resolveItems, resolve, run, hname,
      hhello]
    rfl
  obtain ⟨-, hdone, hagain⟩ := (resolveValue_leaves (some []) (some 2) greetings invitation
    Host.bare).1 _ _ (Prod.ext hrun rfl)
  exact ⟨hrun, hdone, hagain (some []) (some 1) [] true Host.bare ⟨[], 1⟩ rfl⟩

end Dossier.Template
