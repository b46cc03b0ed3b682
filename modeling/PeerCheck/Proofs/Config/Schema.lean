import PeerCheck.Config.Schema
import PeerCheck.Proofs.Json.Fields
import PeerCheck.Proofs.Run

/-!
# What the schema passes

An object passes where its version is one, its fields have their shapes and its algorithm a name
that is supported, and none of its names is unknown unless it allows that. What passes is brought to
one shape, in which every field says what it said before (`validateFields_eq_ok_iff`).
-/

namespace PeerCheck.Config

open PeerCheck.Json

theorem Algorithm.ofName?_eq_some_iff {s : String} {a : Algorithm} :
    Algorithm.ofName? s = some a ↔ s = a.name := by
  constructor
  · intro h
    unfold Algorithm.ofName? at h
    have hname := List.find?_some h
    exact (beq_iff_eq.mp hname).symm
  · rintro rfl
    cases a <;> decide

variable {raw raw' fields : Fields} {version : Value} {key : String}

/-! ## Fields and defaults -/

def HasDefault (key : String) : Prop := (defaults.get? key).isSome

instance (key : String) : Decidable (HasDefault key) :=
  inferInstanceAs (Decidable ((defaults.get? key).isSome = true))

theorem not_hasDefault_versionField : ¬ HasDefault versionField := by decide

theorem isKnown_iff : isKnown key = true ↔ key = versionField ∨ HasDefault key := by
  simp only [isKnown, HasDefault, Fields.isSome_get?_iff, Bool.or_eq_true, decide_eq_true_eq,
    List.any_eq_true, beq_iff_eq]

theorem fieldOf_eq_of_get?_eq (h : raw'.get? key = raw.get? key) :
    fieldOf raw' key = fieldOf raw key := by
  rw [fieldOf, Fields.getD, h]
  rfl

theorem fieldOf_of_get? {v : Value} (h : raw.get? key = some v) : fieldOf raw key = v := by
  rw [fieldOf, Fields.getD, h]
  rfl

theorem fieldOf_put (raw : Fields) (key : String) (v : Value) (name : String) :
    fieldOf (raw.put key v) name = if name = key then v else fieldOf raw name := by
  rw [fieldOf, Fields.getD, Fields.get?_put]
  split <;> rfl

/-- What holds of a field's default holds of what is given just where it holds of what the field
says. -/
theorem forall_get?_iff {P : Value → Prop} (h : P (defaults.getD key .null)) :
    (∀ v, raw.get? key = some v → P v) ↔ P (fieldOf raw key) := by
  rw [fieldOf, Fields.getD]
  cases raw.get? key with
  | none => exact ⟨fun _ => h, fun _ => nofun⟩
  | some v =>
    refine ⟨fun hv => hv v rfl, ?_⟩
    rintro hv _ ⟨⟩
    exact hv

/-! ## Filling in -/

theorem fill_eq (raw : Fields) (version : Value) :
    fill raw version = (versionField, version) :: Fields.tabulate defaults (fieldOf raw) := rfl

theorem get?_fill_version (raw : Fields) (version : Value) :
    (fill raw version).get? versionField = some version := by
  rw [fill_eq, Fields.get?_cons, if_pos rfl]

theorem get?_fill (hkey : HasDefault key) (raw : Fields) (version : Value) :
    (fill raw version).get? key = some (fieldOf raw key) := by
  have hne : key ≠ versionField := fun h => not_hasDefault_versionField (h ▸ hkey)
  rw [fill_eq, Fields.get?_cons, if_neg hne, Fields.get?_tabulate]
  exact if_pos hkey

theorem getD_fill (hkey : HasDefault key) (raw : Fields) (version default : Value) :
    (fill raw version).getD key default = fieldOf raw key := by
  rw [Fields.getD, get?_fill hkey]
  rfl

@[simp] theorem fieldOf_fill (hkey : HasDefault key) (raw : Fields) (version : Value) :
    fieldOf (fill raw version) key = fieldOf raw key := getD_fill hkey raw version _

/-- A field may be set before the defaults are filled in or after it. -/
theorem fill_put (hkey : HasDefault key) (raw : Fields) (version v : Value) :
    fill (raw.put key v) version = (fill raw version).put key v := by
  have hne : versionField ≠ key := fun h => not_hasDefault_versionField (h ▸ hkey)
  have hnodup : (defaults.map Prod.fst).Nodup := by decide
  rw [fill_eq, fill_eq, Fields.put, if_neg hne, Fields.put_tabulate hnodup hkey]
  exact congrArg _ (Fields.tabulate_congr fun name _ => fieldOf_put raw key v name)

/-- Only what the names say counts. -/
theorem fill_congr (h : ∀ name, raw'.get? name = raw.get? name) (version : Value) :
    fill raw' version = fill raw version :=
  congrArg _ (Fields.tabulate_congr fun name _ => fieldOf_eq_of_get?_eq (h name))

/-! ## What passes -/

def WellShaped (raw : Fields) : Prop := ∀ p ∈ shapes, p.2.holds (fieldOf raw p.1) = true

/-- All fields that must have a shape have a default. -/
theorem hasDefault_of_mem_shapes : ∀ p ∈ shapes, HasDefault p.1 := by decide

/-- Every default has the shape of its field. -/
theorem holds_default : ∀ p ∈ shapes, p.2.holds (defaults.getD p.1 .null) = true := by decide

/-- It is enough that the fields that are given have their shapes. -/
theorem wellShaped_iff :
    WellShaped raw ↔ ∀ p ∈ shapes, ∀ v, raw.get? p.1 = some v → p.2.holds v = true :=
  forall₂_congr fun p hp =>
    (forall_get?_iff (P := fun v => p.2.holds v = true) (holds_default p hp)).symm

theorem WellShaped.holds (h : WellShaped raw) {shape : Shape} (hp : (key, shape) ∈ shapes) :
    shape.holds (fieldOf raw key) = true := h (key, shape) hp

instance (raw : Fields) : Decidable (WellShaped raw) :=
  inferInstanceAs (Decidable (∀ p ∈ shapes, p.2.holds (fieldOf raw p.1) = true))

theorem WellShaped.isNumber_connect (h : WellShaped raw) :
    (fieldOf raw "connect_timeout").isNumber = true :=
  h.holds (by decide : (_, Shape.number) ∈ shapes)

theorem wellShaped_fill_iff (raw : Fields) (version : Value) :
    WellShaped (fill raw version) ↔ WellShaped raw := by
  refine forall₂_congr fun p hp => ?_
  rw [fieldOf_fill (hasDefault_of_mem_shapes p hp)]

def NamesAlgorithm (v : Value) : Prop := ∃ a : Algorithm, v = .str a.name

/-- An object with that version passes the schema. -/
structure Passes (raw : Fields) (version : Value) : Prop where
  given : raw.get? versionField = some version
  isVersion : isVersion version = true
  known : (fieldOf raw "allow_unknown_keys").isSet ∨ ∀ key, (raw.get? key).isSome → isKnown key
  shaped : WellShaped raw
  algorithm : NamesAlgorithm (fieldOf raw "algorithm")

theorem forall_isKnown_iff :
    (∀ key, (raw.get? key).isSome → isKnown key) ↔ ∀ p ∈ raw, isKnown p.1 := by
  constructor
  · exact fun h p hp => h p.1 (Fields.isSome_get?_iff.mpr ⟨p, hp, rfl⟩)
  · intro h key hkey
    obtain ⟨p, hp, rfl⟩ := Fields.isSome_get?_iff.mp hkey
    exact h p hp

theorem checkKeys_eq_ok_iff :
    checkKeys raw = .ok () ↔ ∀ key, (raw.get? key).isSome → isKnown key := by
  rw [forall_isKnown_iff, checkKeys]
  split
  · next key v hfind =>
    have hunknown : isKnown key = false := by simpa using List.find?_some hfind
    constructor
    · rintro ⟨⟩
    · intro hall
      rw [hall (key, v) (List.mem_of_find?_eq_some hfind)] at hunknown
      cases hunknown
  · next hfind =>
    refine ⟨fun _ p hp => ?_, fun _ => rfl⟩
    simpa using List.find?_eq_none.mp hfind p hp

theorem checkShapes_fill_eq_ok_iff :
    checkShapes (fill raw version) = .ok () ↔ WellShaped raw := by
  have hfilled : ∀ p ∈ shapes, (fill raw version).getD p.1 .null = fieldOf raw p.1 :=
    fun p hp => getD_fill (hasDefault_of_mem_shapes p hp) raw version _
  unfold checkShapes
  split
  · next key shape hfind =>
    have hmem := List.mem_of_find?_eq_some hfind
    have hbad : shape.holds (fieldOf raw key) = false := by
      rw [← hfilled (key, shape) hmem]
      simpa using List.find?_some hfind
    constructor
    · rintro ⟨⟩
    · intro hall
      rw [WellShaped.holds hall hmem] at hbad
      cases hbad
  · next hfind =>
    refine ⟨fun _ p hp => ?_, fun _ => rfl⟩
    have hp' := List.find?_eq_none.mp hfind p hp
    rw [← hfilled p hp]
    simpa using hp'

theorem checkAlgorithm_eq_ok_iff {v : Value} : checkAlgorithm v = .ok () ↔ NamesAlgorithm v := by
  unfold checkAlgorithm
  split
  · next s =>
    simp only [NamesAlgorithm, Value.str.injEq, ← Algorithm.ofName?_eq_some_iff,
      ← Option.isSome_iff_exists]
    split
    · next h => exact ⟨fun _ => h, fun _ => rfl⟩
    · next h => exact ⟨nofun, fun h' => absurd h' h⟩
  · next hne =>
    refine ⟨nofun, ?_⟩
    rintro ⟨a, rfl⟩
    exact absurd rfl (hne a.name)

theorem validateFields_of_get? (h : raw.get? versionField = some version) :
    validateFields raw =
      if isVersion version then do
        (if (fieldOf raw "allow_unknown_keys").isSet then .ok () else checkKeys raw)
        checkShapes (fill raw version)
        checkAlgorithm (fieldOf raw "algorithm")
        .ok (fill raw version)
      else .error .badVersion := by
  have hallow : (fill raw version).getD "allow_unknown_keys" .null =
      fieldOf raw "allow_unknown_keys" := getD_fill (by decide) raw version .null
  have halgorithm : (fill raw version).getD "algorithm" .null = fieldOf raw "algorithm" :=
    getD_fill (by decide) raw version .null
  simp only [validateFields, h, hallow, halgorithm]
  cases isVersion version <;> cases (fieldOf raw "allow_unknown_keys").isSet <;> rfl

/-- The schema passes exactly these objects, with their defaults filled in. -/
theorem validateFields_eq_ok_iff :
    validateFields raw = .ok fields ↔
      ∃ version, Passes raw version ∧ fields = fill raw version := by
  cases hgiven : raw.get? versionField with
  | none =>
    have hmissing : validateFields raw = .error (.missingField versionField) := by
      simp only [validateFields, hgiven]
    rw [hmissing]
    refine ⟨nofun, ?_⟩
    rintro ⟨version, hp, -⟩
    cases hgiven.symm.trans hp.given
  | some version =>
    rw [validateFields_of_get? hgiven]
    split
    · next hversion =>
      have hknown : (if (fieldOf raw "allow_unknown_keys").isSet then .ok () else checkKeys raw) =
          Except.ok () ↔ (fieldOf raw "allow_unknown_keys").isSet ∨
            ∀ key, (raw.get? key).isSome → isKnown key := by
        split
        · next hallow => simp [hallow]
        · next hallow => simp [hallow, checkKeys_eq_ok_iff]
      simp only [check_bind_eq_ok_iff, checkShapes_fill_eq_ok_iff, checkAlgorithm_eq_ok_iff, hknown,
        Except.ok.injEq]
      constructor
      · rintro ⟨hk, hs, ha, rfl⟩
        exact ⟨version, ⟨hgiven, hversion, hk, hs, ha⟩, rfl⟩
      · rintro ⟨version', hp, rfl⟩
        obtain rfl := Option.some.inj (hgiven.symm.trans hp.given)
        exact ⟨hp.known, hp.shaped, hp.algorithm, rfl⟩
    · next hversion =>
      refine ⟨nofun, ?_⟩
      rintro ⟨version', hp, -⟩
      obtain rfl := Option.some.inj (hgiven.symm.trans hp.given)
      exact absurd hp.isVersion hversion

end PeerCheck.Config
