import PeerCheck.Proofs.Config.Settings

/-!
# The canonical form of a configuration

What the schema makes of an object is a canonical form: made again it stays as it is, and neither
the order of the fields nor, where they are allowed, unknown ones matter to it. It stands for the
object, since the same settings come of both, or the same fault (`canonical_form`). For that the
values that settings fall back on have to be those that the schema fills in.
-/

namespace PeerCheck.Config

open PeerCheck.Json PeerCheck.Number

variable {raw raw' canonical : Fields} {version : Value}

/-! ## Known fields -/

theorem isKnown_versionField : isKnown versionField = true := isKnown_iff.mpr (.inl rfl)

theorem isKnown_of_hasDefault {key : String} (h : HasDefault key) : isKnown key = true :=
  isKnown_iff.mpr (.inr h)

/-- Filling in looks at known fields only. -/
theorem fill_congr_of_known (h : ∀ key, isKnown key → raw'.get? key = raw.get? key)
    (version : Value) : fill raw' version = fill raw version :=
  congrArg _ (Fields.tabulate_congr fun _ hkey =>
    fieldOf_eq_of_get?_eq (h _ (isKnown_of_hasDefault hkey)))

/-- So does the schema, but for the check that there are no others. -/
theorem Passes.congr (h : Passes raw version)
    (hsame : ∀ key, isKnown key → raw'.get? key = raw.get? key)
    (hknown : (fieldOf raw "allow_unknown_keys").isSet ∨
      ∀ key, (raw'.get? key).isSome → isKnown key) : Passes raw' version := by
  have hfield : ∀ key, HasDefault key → fieldOf raw' key = fieldOf raw key :=
    fun key hkey => fieldOf_eq_of_get?_eq (hsame key (isKnown_of_hasDefault hkey))
  constructor
  · rw [hsame _ isKnown_versionField]
    exact h.given
  · exact h.isVersion
  · rw [hfield _ (by decide)]
    exact hknown
  · intro p hp
    rw [hfield p.1 (hasDefault_of_mem_shapes p hp)]
    exact h.shaped p hp
  · rw [hfield _ (by decide)]
    exact h.algorithm

theorem validateFields_congr (h : validateFields raw = .ok canonical)
    (hsame : ∀ key, isKnown key → raw'.get? key = raw.get? key)
    (hknown : (fieldOf raw "allow_unknown_keys").isSet ∨
      ∀ key, (raw'.get? key).isSome → isKnown key) : validateFields raw' = .ok canonical := by
  obtain ⟨version, hp, rfl⟩ := validateFields_eq_ok_iff.mp h
  exact validateFields_eq_ok_iff.mpr
    ⟨version, hp.congr hsame hknown, (fill_congr_of_known hsame version).symm⟩

/-! ## The form itself -/

theorem isKnown_of_get?_fill {key : String} (h : ((fill raw version).get? key).isSome) :
    isKnown key = true := by
  rw [fill_eq, Fields.get?_cons, Fields.get?_tabulate] at h
  split at h
  · next hkey => exact hkey ▸ isKnown_versionField
  · split at h
    · next hkey => exact isKnown_of_hasDefault hkey
    · cases h

theorem fill_fill (raw : Fields) (version version' : Value) :
    fill (fill raw version) version' = fill raw version' := by
  rw [fill_eq, fill_eq raw version']
  exact congrArg _ (Fields.tabulate_congr fun _ hkey => fieldOf_fill hkey raw version)

theorem Passes.fill (h : Passes raw version) : Passes (fill raw version) version where
  given := get?_fill_version raw version
  isVersion := h.isVersion
  known := .inr fun _ => isKnown_of_get?_fill
  shaped := (wellShaped_fill_iff raw version).mpr h.shaped
  algorithm := by
    rw [fieldOf_fill (by decide)]
    exact h.algorithm

theorem validateFields_idem (h : validateFields raw = .ok canonical) :
    validateFields canonical = .ok canonical := by
  obtain ⟨version, hp, rfl⟩ := validateFields_eq_ok_iff.mp h
  exact validateFields_eq_ok_iff.mpr ⟨version, hp.fill, (fill_fill raw version version).symm⟩

/-! ## Settings of the form -/

theorem map_bind_eq {ε α β γ : Type} (r : Except ε α) (q : α → Except ε β) (f : β → γ) :
    (r >>= q).map f = r >>= fun a => (q a).map f := by
  cases r <;> rfl

/-- The settings of filled-in fields are those of the fields themselves, or fail for the same
reason. -/
theorem Settings.ofFields_fill (h : raw.get? versionField = some version) :
    ofFields (fill raw version) =
      (ofFields raw).map fun s => { s with raw := fill raw version } := by
  have hfilled : ∀ key, HasDefault key → fieldOf (fill raw version) key = fieldOf raw key :=
    fun key hkey => fieldOf_fill hkey raw version
  rw [ofFields_eq, ofFields_eq]
  simp (disch := decide) only [hfilled, made_fill h, map_bind_eq]
  -- the checks do not look at the fields that settings keep along
  rfl

/-- The canonical form of an object that the schema passes is its own canonical form. It is that of
the same fields in any order, and where unknown fields are allowed that of every object with the
same known fields. The settings of the form are those of the object, but for the fields that are
kept along, or both fail for the same reason. -/
theorem canonical_form (h : validate (.obj raw) = .ok canonical) :
    validate (.obj canonical) = .ok canonical ∧
      (∀ raw' : Fields, (raw.map Prod.fst).Nodup → raw'.Perm raw →
        validate (.obj raw') = .ok canonical) ∧
      (raw.get? "allow_unknown_keys" = some (.bool true) →
        ∀ raw' : Fields, (∀ key, isKnown key → raw'.get? key = raw.get? key) →
          validate (.obj raw') = .ok canonical) ∧
      Settings.ofFields canonical =
        (Settings.ofFields raw).map fun s => { s with raw := canonical } := by
  obtain ⟨version, hp, hfill⟩ := validateFields_eq_ok_iff.mp h
  refine ⟨validateFields_idem h, fun raw' hn hperm => ?_, fun hallow raw' hsame => ?_, ?_⟩
  · have hsame := Fields.get?_perm hperm hn
    refine validateFields_congr h (fun key _ => hsame key) ?_
    simpa only [hsame] using hp.known
  · refine validateFields_congr h hsame (.inl ?_)
    rw [fieldOf_of_get? hallow]
    rfl
  · rw [hfill]
    exact Settings.ofFields_fill hp.given

/-- An object with a note, which is no known field. -/
def notedFields : Fields := [
  ("note", .str "staging"), ("connect_timeout", .float .zero), ("allow_unknown_keys", .bool true),
  (versionField, .int 2), ("keystore_path", .str "client.p12")]

theorem canonical_form_noted :
    ∃ canonical, validate (.obj notedFields) = .ok canonical ∧
      validate (.obj canonical) = .ok canonical ∧
      validate (.obj notedFields.reverse) = .ok canonical ∧
      validate (.obj notedFields.tail) = .ok canonical ∧
      ∃ s, Settings.ofFields notedFields = .ok s ∧
        Settings.ofFields canonical = .ok { s with raw := canonical } := by
  have hpasses : Passes notedFields (.int 2) := ⟨rfl, rfl, .inl rfl, by decide, ⟨.tls, rfl⟩⟩
  have hvalid : validate (.obj notedFields) = .ok (fill notedFields (.int 2)) :=
    validateFields_eq_ok_iff.mpr ⟨.int 2, hpasses, rfl⟩
  have hmade : Settings.ofFields notedFields = .ok _ := rfl
  obtain ⟨hidem, horder, hunknown, hsettings⟩ := canonical_form hvalid
  rw [hmade] at hsettings
  refine ⟨_, hvalid, hidem, horder _ (by decide) (List.reverse_perm _), ?_, _, hmade, hsettings⟩
  refine hunknown rfl _ fun key hkey => ?_
  have hne : key ≠ "note" := by
    rintro rfl
    exact absurd hkey (by decide)
  exact ((Fields.get?_cons _ _ key).trans (if_neg hne)).symm

end PeerCheck.Config
