import PeerCheck.Proofs.Abreast
import PeerCheck.Proofs.Config.Outcome

/-!
# Passwords stay secret

Two configurations that differ in the text of their passwords only, be it in the file or in the
environment, are loaded with the same records and to the same outcome, but for the passwords
themselves (`abreast_load`): what is looked at is at most whether a password is empty.
-/

namespace PeerCheck.Config

open PeerCheck.Json PeerCheck.Log PeerCheck.Text

/-! ## What may differ -/

def IsSecret (key : String) : Prop := key = "keystore_password" ∨ key = "truststore_password"

instance (key : String) : Decidable (IsSecret key) := inferInstanceAs (Decidable (_ ∨ _))

def IsSecretVariable (name : String) : Prop :=
  name = "TLSGUARD_KEYSTORE_PASSWORD" ∨ name = "TLSGUARD_TRUSTSTORE_PASSWORD"

instance (name : String) : Decidable (IsSecretVariable name) :=
  inferInstanceAs (Decidable (_ ∨ _))

/-- Two texts, both empty or neither. -/
def TextsAlike (t t' : Spelling) : Prop := t = .sound "" ↔ t' = .sound ""

instance (t t' : Spelling) : Decidable (TextsAlike t t') := inferInstanceAs (Decidable (_ ↔ _))

/-- The same values, or two texts of which both are empty or neither. -/
def ValuesAlike (v v' : Value) : Prop :=
  v = v' ∨ ∃ t t', v = .ofText t ∧ v' = .ofText t' ∧ TextsAlike t t'

/-- The same fields in the same order, but for the texts of passwords. -/
def FieldsAlike : Fields → Fields → Prop :=
  List.Forall₂ fun p q => p.1 = q.1 ∧ (p.2 = q.2 ∨ IsSecret p.1 ∧ ValuesAlike p.2 q.2)

/-- The same, or two objects that differ in the texts of passwords only. -/
def FilesAlike (v v' : Value) : Prop :=
  v = v' ∨ ∃ raw raw', v = .obj raw ∧ v' = .obj raw' ∧ FieldsAlike raw raw'

def EnvironmentsAlike (env env' : Environment) : Prop :=
  ∀ name, env.lookup name = env'.lookup name ∨ IsSecretVariable name ∧
    ∃ t t', env.lookup name = some t ∧ env'.lookup name = some t' ∧ TextsAlike t t'

/-- The same settings, but for the texts of passwords. -/
structure SettingsAlike (s s' : Settings) : Prop where
  shown : s' = { s with
    raw := s'.raw
    keystorePassword := s'.keystorePassword
    truststorePassword := s'.truststorePassword }
  raw : FieldsAlike s.raw s'.raw
  keystore : ValuesAlike s.keystorePassword s'.keystorePassword
  truststore : ValuesAlike s.truststorePassword s'.truststorePassword

/-! ## What is looked at -/

namespace ValuesAlike

variable {v v' : Value}

protected theorem refl (v : Value) : ValuesAlike v v := .inl rfl

theorem isSet_eq (h : ValuesAlike v v') : v.isSet = v'.isSet := by
  obtain rfl | ⟨t, t', rfl, rfl, ht⟩ := h
  · rfl
  · rw [Bool.eq_iff_iff, Value.isSet_ofText_iff, Value.isSet_ofText_iff]
    exact not_congr ht

theorem holds_eq (h : ValuesAlike v v') (shape : Shape) : shape.holds v = shape.holds v' := by
  obtain rfl | ⟨t, t', rfl, rfl, -⟩ := h
  · rfl
  · cases t <;> cases t' <;> cases shape <;> rfl

end ValuesAlike

namespace FieldsAlike

variable {raw raw' : Fields} {key : String} {v v' : Value}

protected theorem refl (raw : Fields) : FieldsAlike raw raw :=
  List.forall₂_same.mpr fun _ _ => ⟨rfl, .inl rfl⟩

theorem get?_cases (h : FieldsAlike raw raw') (key : String) :
    raw.get? key = raw'.get? key ∨ IsSecret key ∧
      ∃ v v', raw.get? key = some v ∧ raw'.get? key = some v' ∧ ValuesAlike v v' := by
  induction h with
  | nil => exact .inl rfl
  | @cons p q raw raw' hp h ih =>
    obtain ⟨hkey, hvalue⟩ := hp
    rw [Fields.get?_cons, Fields.get?_cons, ← hkey]
    split
    · next hname =>
      subst hname
      obtain heq | ⟨hsecret, hvalues⟩ := hvalue
      · exact .inl (congrArg some heq)
      · exact .inr ⟨hsecret, p.2, q.2, rfl, rfl, hvalues⟩
    · exact ih

theorem get?_eq (h : FieldsAlike raw raw') (hkey : ¬ IsSecret key) :
    raw.get? key = raw'.get? key :=
  (h.get?_cases key).resolve_right fun hs => hkey hs.1

theorem getD_eq (h : FieldsAlike raw raw') (hkey : ¬ IsSecret key) (d : Value) :
    raw.getD key d = raw'.getD key d := by
  rw [Fields.getD, Fields.getD, h.get?_eq hkey]

theorem getD (h : FieldsAlike raw raw') (key : String) (d : Value) :
    ValuesAlike (raw.getD key d) (raw'.getD key d) := by
  unfold Fields.getD
  obtain heq | ⟨-, v, v', hv, hv', hvalues⟩ := h.get?_cases key
  · rw [heq]
    exact .refl _
  · rw [hv, hv']
    exact hvalues

theorem fieldOf_eq (h : FieldsAlike raw raw') (hkey : ¬ IsSecret key) :
    fieldOf raw key = fieldOf raw' key := h.getD_eq hkey _

theorem fieldOf (h : FieldsAlike raw raw') (key : String) :
    ValuesAlike (fieldOf raw key) (fieldOf raw' key) := h.getD key _

theorem put (h : FieldsAlike raw raw') (hv : v = v' ∨ IsSecret key ∧ ValuesAlike v v') :
    FieldsAlike (raw.put key v) (raw'.put key v') := by
  induction h with
  | nil => exact .cons ⟨rfl, hv⟩ .nil
  | @cons p q raw raw' hp h ih =>
    unfold Fields.put
    rw [← hp.1]
    split
    · next hkey =>
      subst hkey
      exact .cons ⟨rfl, hv⟩ h
    · exact .cons ⟨rfl, hp.2⟩ ih

theorem fill (h : FieldsAlike raw raw') (version : Value) :
    FieldsAlike (fill raw version) (fill raw' version) := by
  refine .cons ⟨rfl, .inl rfl⟩ ?_
  rw [List.forall₂_map_left_iff, List.forall₂_map_right_iff, List.forall₂_same]
  rintro ⟨key, d⟩ -
  refine ⟨rfl, ?_⟩
  by_cases hkey : IsSecret key
  · exact .inr ⟨hkey, h.fieldOf key⟩
  · exact .inl (h.fieldOf_eq hkey)

end FieldsAlike

/-! ## The schema -/

variable {raw raw' merged merged' : Fields} {v v' : Value} {env env' : Environment}

theorem checkKeys_eq (h : FieldsAlike raw raw') : checkKeys raw = checkKeys raw' := by
  unfold checkKeys
  induction h with
  | nil => rfl
  | @cons p q raw raw' hp h ih =>
    obtain ⟨key, v⟩ := p
    obtain ⟨key', v'⟩ := q
    obtain rfl : key = key' := hp.1
    rw [List.find?_cons, List.find?_cons]
    dsimp only
    cases !isKnown key with
    | true => rfl
    | false => exact ih

theorem checkShapes_eq (h : FieldsAlike raw raw') : checkShapes raw = checkShapes raw' := by
  have hholds : (fun p : String × Shape => !p.2.holds (raw.getD p.1 .null)) =
      fun p => !p.2.holds (raw'.getD p.1 .null) :=
    funext fun p => congrArg not ((h.getD p.1 .null).holds_eq p.2)
  unfold checkShapes
  exact hholds ▸ rfl

theorem agree_validateFields (h : FieldsAlike raw raw') :
    Agree FieldsAlike (validateFields raw) (validateFields raw') := by
  unfold validateFields
  rw [h.get?_eq (by decide)]
  cases raw'.get? versionField with
  | none => exact .error _
  | some version =>
    have hfill := h.fill version
    dsimp only
    split
    · exact .error _
    · rw [hfill.getD_eq (by decide), checkShapes_eq hfill, hfill.getD_eq (by decide),
        checkKeys_eq h]
      split
      · exact .bind_of_eq rfl fun _ => .bind_of_eq rfl fun _ => .bind_of_eq rfl fun _ => .ok hfill
      · exact .bind_of_eq rfl fun _ => .bind_of_eq rfl fun _ => .ok hfill

theorem agree_validate (h : FilesAlike v v') : Agree FieldsAlike (validate v) (validate v') := by
  obtain rfl | ⟨raw, raw', rfl, rfl, hraw⟩ := h
  · cases hv : validate v with
    | ok fields => exact .ok (.refl fields)
    | error e => exact .error e
  · exact agree_validateFields hraw

/-! ## The environment -/

theorem abreast_apply (henv : EnvironmentsAlike env env') (hraw : FieldsAlike raw raw')
    (hmerged : FieldsAlike merged merged') {o : Override} (ho : o ∈ overrides) :
    Abreast FieldsAlike (o.apply env raw merged) (o.apply env' raw' merged') := by
  have hsecrets : ∀ o ∈ overrides, (o.isSecret = true → o.isNumber = false ∧ IsSecret o.field) ∧
      (o.isSecret = false → ¬ IsSecretVariable o.name ∧ ¬ IsSecret o.field) := by decide
  obtain ⟨hsecret, hshown⟩ := hsecrets o ho
  unfold Override.apply
  cases hs : o.isSecret with
  | false =>
    obtain ⟨hname, hfield⟩ := hshown hs
    rw [(henv o.name).resolve_right fun h => hname h.1, hraw.getD_eq hfield]
    cases env'.lookup o.name with
    | none => exact .pure hmerged
    | some text =>
      refine (Abreast.ofExcept (.of_eq rfl)).bind fun v _ hv => hv ▸ ?_
      exact (Abreast.emit _).bind fun _ _ _ => .pure (hmerged.put (.inl rfl))
  | true =>
    obtain ⟨hnumber, hfield⟩ := hsecret hs
    have hvalue : ∀ text, o.value text = .ok (.ofText text) := fun text => by
      rw [Override.value, hnumber]
      rfl
    have hboth : (env.lookup o.name = none ∧ env'.lookup o.name = none) ∨
        ∃ text text', env.lookup o.name = some text ∧ env'.lookup o.name = some text' ∧
          TextsAlike text text' := by
      obtain heq | ⟨-, htexts⟩ := henv o.name
      · rw [heq]
        cases env'.lookup o.name with
        | none => exact .inl ⟨rfl, rfl⟩
        | some text => exact .inr ⟨text, text, rfl, rfl, .rfl⟩
      · exact .inr htexts
    obtain ⟨hnone, hnone'⟩ | ⟨text, text', htext, htext', halike⟩ := hboth
    · rw [hnone, hnone']
      exact .pure hmerged
    · rw [htext, htext']
      -- the record of a secret shows neither value
      have hrecord : o.record (raw.getD o.field .null) (.ofText text) =
          o.record (raw'.getD o.field .null) (.ofText text') := by
        simp only [Override.record, hs, if_true]
      have hvalues : Agree (fun v v' => v = .ofText text ∧ v' = .ofText text') (o.value text)
          (o.value text') := by
        rw [hvalue, hvalue]
        exact .ok ⟨rfl, rfl⟩
      refine (Abreast.ofExcept hvalues).bind ?_
      rintro _ _ ⟨rfl, rfl⟩
      rw [hrecord]
      exact (Abreast.emit _).bind fun _ _ _ =>
        .pure (hmerged.put (.inr ⟨hfield, .inr ⟨text, text', rfl, rfl, halike⟩⟩))

theorem abreast_applyEnvironment (henv : EnvironmentsAlike env env')
    (h : FieldsAlike raw raw') :
    Abreast FieldsAlike (applyEnvironment env raw) (applyEnvironment env' raw') := by
  unfold applyEnvironment
  refine Abreast.foldlM ?_ h
  exact fun o ho merged merged' hmerged => abreast_apply henv h hmerged ho

/-! ## Settings -/

theorem checkCoherence_eq {s s' : Settings} (h : SettingsAlike s s') :
    s.checkCoherence = s'.checkCoherence := by
  rw [Settings.checkCoherence, h.keystore.isSet_eq, h.truststore.isSet_eq, h.shown]
  rfl

theorem settingsAlike_made (h : FieldsAlike raw raw') (a : Algorithm) (x : Number.Binary64) :
    SettingsAlike (Settings.made raw a x) (Settings.made raw' a x) where
  shown := by
    simp (disch := decide) only [Settings.made, h.fieldOf_eq, h.getD_eq]
  raw := h
  keystore := h.fieldOf _
  truststore := h.fieldOf _

theorem agree_ofFields (h : FieldsAlike raw raw') :
    Agree SettingsAlike (Settings.ofFields raw) (Settings.ofFields raw') := by
  rw [Settings.ofFields_eq, Settings.ofFields_eq]
  simp (disch := decide) only [h.fieldOf_eq]
  refine .bind_of_eq rfl fun a => .bind_of_eq rfl fun x => .bind_of_eq rfl fun _ => ?_
  have hmade := settingsAlike_made h a x
  exact .bind_of_eq (checkCoherence_eq hmade) fun _ => .ok hmade

/-! ## Loading -/

theorem loadedRecord_eq {s s' : Settings} (h : SettingsAlike s s') (path : Spelling) :
    loadedRecord path s = loadedRecord path s' := by
  rw [h.shown]
  rfl

/-- Loading such configurations leaves the same records, and comes to the same fault or to settings
that differ in the texts of passwords only. -/
theorem abreast_load {files files' : Files} {path : Spelling}
    (hfile : Agree FilesAlike (readFile files env.room (Path.tidy path))
      (readFile files' env'.room (Path.tidy path)))
    (henv : EnvironmentsAlike env env') (useEnvironment : Bool) :
    Abreast SettingsAlike (load files env path useEnvironment)
      (load files' env' path useEnvironment) := by
  have hmade : ∀ fields fields', FieldsAlike fields fields' →
      Abreast SettingsAlike
        (do
          let settings ← ofExcept (Settings.ofFields fields)
          Recorded.emit (loadedRecord (Path.tidy path) settings)
          pure settings)
        (do
          let settings ← ofExcept (Settings.ofFields fields')
          Recorded.emit (loadedRecord (Path.tidy path) settings)
          pure settings) := by
    intro fields fields' hfields
    refine (Abreast.ofExcept (agree_ofFields hfields)).bind fun s s' hs => ?_
    rw [loadedRecord_eq hs]
    exact (Abreast.emit _).bind fun _ _ _ => .pure hs
  refine (Abreast.ofExcept hfile).bind fun v v' hv => ?_
  refine (Abreast.ofExcept ((agree_validate hv).mapError _)).bind fun fields fields' hfields => ?_
  cases useEnvironment with
  | true => exact (abreast_applyEnvironment henv hfields).bind hmade
  | false => exact hmade fields fields' hfields

end PeerCheck.Config
