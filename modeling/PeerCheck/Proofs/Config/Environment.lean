import Mathlib.Data.List.Nodup
import PeerCheck.Config.Environment
import PeerCheck.Proofs.Config.Settings

/-!
# Overrides as edits

The variables that are set replace fields, and what comes of that is the fields edited by hand
(`Edits`): the order does not matter, and the defaults may be filled in before or after.
-/

namespace PeerCheck.Config

open PeerCheck.Json PeerCheck.Number PeerCheck.Text

variable {os : List Override} {o : Override} {env : Environment}
  {raw raw' raw'' merged : Fields} {version v : Value} {text : Spelling} {key : String} {e : Fault}

/-! ## What the overrides come to -/

/-- One override, without its record. -/
def Override.overlay (env : Environment) (merged : Fields) (o : Override) : Except Fault Fields :=
  match env.lookup o.name with
  | none => .ok merged
  | some text => o.value text >>= fun v => .ok (merged.put o.field v)

def overlay (env : Environment) (os : List Override) (raw : Fields) : Except Fault Fields :=
  os.foldlM (Override.overlay env) raw

theorem overlay_cons (env : Environment) (o : Override) (os : List Override) (raw : Fields) :
    overlay env (o :: os) raw = o.overlay env raw >>= overlay env os := List.foldlM_cons

theorem gives_apply (env : Environment) (raw merged : Fields) (o : Override) :
    Gives (o.apply env raw merged) (o.overlay env merged) := by
  unfold Override.apply Override.overlay
  cases env.lookup o.name with
  | none => exact .pure merged
  | some text => exact (Gives.ofExcept _).bind fun v => .modify_bind _ (.pure _)

theorem gives_applyEnvironment (env : Environment) (raw : Fields) :
    Gives (applyEnvironment env raw) (overlay env overrides raw) :=
  Gives.foldlM (fun merged o => gives_apply env raw merged o) raw overrides

/-- Only a text that is no number is refused, and it is told which. -/
theorem isConfig_value (o : Override) (text : Spelling) : Fails Fault.IsConfig (o.value text) := by
  unfold Override.value
  split
  · split
    · exact .ok _
    · exact .error (Fault.isConfig_config _)
  · exact .ok _

theorem isConfig_overlay (env : Environment) (os : List Override) (raw : Fields) :
    Fails Fault.IsConfig (overlay env os raw) := by
  induction os generalizing raw with
  | nil => exact .ok raw
  | cons o os ih =>
    rw [overlay_cons]
    refine Fails.bind ?_ ih
    unfold Override.overlay
    cases env.lookup o.name with
    | none => exact .ok raw
    | some text => exact (isConfig_value o text).bind fun v => .ok _

/-! ## Edited fields -/

/-- The second object is the first one, with the field of each variable that is set replaced: by the
number that its text writes, or by the text itself where the field is none for a number. -/
structure Edits (os : List Override) (env : Environment) (raw raw' : Fields) : Prop where
  replaced : ∀ o ∈ os, ∀ text, env.lookup o.name = some text →
    if o.isNumber then ∃ x, floatIn? text = some x ∧ raw'.get? o.field = some (.float x)
    else raw'.get? o.field = some (.ofText text)
  kept : ∀ key, (∀ o ∈ os, o.field = key → env.lookup o.name = none) →
    raw'.get? key = raw.get? key

theorem value_eq_ok_iff (o : Override) : o.value text = .ok v ↔
    if o.isNumber then ∃ x, floatIn? text = some x ∧ v = .float x else v = .ofText text := by
  unfold Override.value
  split
  · cases floatIn? text with
    | none => simp
    | some x => simp [eq_comm]
  · exact Except.ok.injEq _ v ▸ eq_comm

/-- What replaces a field is the value of its variable. -/
theorem replaced_iff (o : Override) (text : Spelling) (raw : Fields) :
    (if o.isNumber then ∃ x, floatIn? text = some x ∧ raw.get? o.field = some (.float x)
      else raw.get? o.field = some (.ofText text)) ↔
      ∃ v, o.value text = .ok v ∧ raw.get? o.field = some v := by
  simp only [value_eq_ok_iff]
  split
  · constructor
    · rintro ⟨x, hx, hget⟩
      exact ⟨_, ⟨x, hx, rfl⟩, hget⟩
    · rintro ⟨_, ⟨x, hx, rfl⟩, hget⟩
      exact ⟨x, hx, hget⟩
  · simp

theorem Edits.exists_value (h : Edits os env raw raw') (ho : o ∈ os)
    (hset : env.lookup o.name = some text) :
    ∃ v, o.value text = .ok v ∧ raw'.get? o.field = some v :=
  (replaced_iff o text raw').mp (h.replaced o ho text hset)

/-- What one override leaves. -/
theorem overlay_one (h : o.overlay env raw = .ok raw') :
    (env.lookup o.name = none ∧ raw' = raw) ∨ ∃ text v,
      env.lookup o.name = some text ∧ o.value text = .ok v ∧ raw' = raw.put o.field v := by
  unfold Override.overlay at h
  cases hset : env.lookup o.name with
  | none =>
    rw [hset] at h
    exact .inl ⟨rfl, (Except.ok.inj h).symm⟩
  | some text =>
    rw [hset] at h
    obtain ⟨v, hv, h⟩ := exists_of_bind_eq_ok h
    exact .inr ⟨text, v, rfl, hv, (Except.ok.inj h).symm⟩

theorem edits_of_overlay (hos : (os.map Override.field).Nodup) (h : overlay env os raw = .ok raw') :
    Edits os env raw raw' := by
  induction os generalizing raw with
  | nil =>
    obtain rfl := Except.ok.inj h
    exact ⟨nofun, fun _ _ => rfl⟩
  | cons o os ih =>
    rw [List.map_cons, List.nodup_cons] at hos
    rw [overlay_cons] at h
    obtain ⟨next, hone, hrest⟩ := exists_of_bind_eq_ok h
    have hedits := ih hos.2 hrest
    -- the later overrides are about other fields
    have hfield : raw'.get? o.field = next.get? o.field :=
      hedits.kept o.field fun o' ho' heq => absurd (List.mem_map.mpr ⟨o', ho', heq⟩) hos.1
    rcases overlay_one hone with ⟨hunset, rfl⟩ | ⟨text, v, hset, hv, rfl⟩
    · refine ⟨?_, fun key hkey =>
        hedits.kept key fun o' ho' => hkey o' (List.mem_cons_of_mem o ho')⟩
      rintro o' ho' text hset
      rcases List.mem_cons.mp ho' with rfl | ho'
      · cases hunset.symm.trans hset
      · exact hedits.replaced o' ho' text hset
    · constructor
      · rintro o' ho' text' hset'
        rcases List.mem_cons.mp ho' with rfl | ho'
        · obtain rfl := Option.some.inj (hset.symm.trans hset')
          exact (replaced_iff _ _ _).mpr ⟨v, hv, hfield.trans (Fields.get?_put_self raw _ v)⟩
        · exact hedits.replaced o' ho' text' hset'
      · intro key hkey
        have hne : key ≠ o.field := by
          rintro rfl
          cases hset.symm.trans (hkey o List.mem_cons_self rfl)
        rw [hedits.kept key fun o' ho' => hkey o' (List.mem_cons_of_mem o ho'),
          Fields.get?_put_of_ne hne]

/-- There is one way to edit. -/
theorem Edits.unique (h : Edits os env raw raw') (h' : Edits os env raw raw'') (key : String) :
    raw'.get? key = raw''.get? key := by
  by_cases hkey : ∀ o ∈ os, o.field = key → env.lookup o.name = none
  · rw [h.kept key hkey, h'.kept key hkey]
  · push Not at hkey
    obtain ⟨o, ho, rfl, hset⟩ := hkey
    obtain ⟨text, hset⟩ := Option.ne_none_iff_exists'.mp hset
    obtain ⟨v, hv, hget⟩ := h.exists_value ho hset
    obtain ⟨v', hv', hget'⟩ := h'.exists_value ho hset
    obtain rfl := Except.ok.inj (hv.symm.trans hv')
    rw [hget, hget']

/-- Fields can be edited where every variable that is set has a value to give. -/
theorem exists_overlay (h : ∀ o ∈ os, ∀ text, env.lookup o.name = some text →
    ∃ v, o.value text = .ok v) (raw : Fields) : ∃ raw', overlay env os raw = .ok raw' := by
  induction os generalizing raw with
  | nil => exact ⟨raw, rfl⟩
  | cons o os ih =>
    have hone : ∃ next, o.overlay env raw = .ok next := by
      unfold Override.overlay
      cases hset : env.lookup o.name with
      | none => exact ⟨raw, rfl⟩
      | some text =>
        obtain ⟨v, hv⟩ := h o List.mem_cons_self text hset
        exact ⟨raw.put o.field v, by simp only [hv]; rfl⟩
    obtain ⟨next, hnext⟩ := hone
    obtain ⟨raw', hraw'⟩ := ih (fun o' ho' => h o' (List.mem_cons_of_mem o ho')) next
    exact ⟨raw', by rw [overlay_cons, hnext]; exact hraw'⟩

/-- Fields may be edited before the defaults are filled in or after it. -/
theorem overlay_fill (hos : ∀ o ∈ os, HasDefault o.field) (env : Environment) (raw : Fields)
    (version : Value) :
    overlay env os (fill raw version) = (overlay env os raw).map fun raw' => fill raw' version := by
  induction os generalizing raw with
  | nil => rfl
  | cons o os ih =>
    have hone : o.overlay env (fill raw version) =
        (o.overlay env raw).map fun raw' => fill raw' version := by
      unfold Override.overlay
      cases env.lookup o.name with
      | none => rfl
      | some text =>
        cases hv : o.value text with
        | error e => simp only [hv]; rfl
        | ok v =>
          simp only [hv]
          exact congrArg Except.ok (fill_put (hos o List.mem_cons_self) raw version v).symm
    rw [overlay_cons, overlay_cons, hone]
    cases o.overlay env raw with
    | error e => rfl
    | ok next => exact ih (fun o' ho' => hos o' (List.mem_cons_of_mem o ho')) next

/-- A field without a variable stays as it was. -/
theorem Edits.kept_of_forall_ne (h : Edits os env raw raw') (hkey : ∀ o ∈ os, o.field ≠ key) :
    raw'.get? key = raw.get? key :=
  h.kept key fun o ho heq => absurd heq (hkey o ho)

/-- A field stays as it was where its variable is not set. -/
theorem Edits.kept_of_unset (h : Edits os env raw raw') (hos : (os.map Override.field).Nodup)
    (ho : o ∈ os) (hunset : env.lookup o.name = none) : raw'.get? o.field = raw.get? o.field :=
  h.kept o.field fun o' ho' heq => by rwa [List.inj_on_of_nodup_map hos ho' ho heq]

/-! ## The variables there are -/

theorem nodup_overrides : (overrides.map Override.field).Nodup := by decide

theorem hasDefault_of_mem_overrides : ∀ o ∈ overrides, HasDefault o.field := by decide

/-- The value of a variable has the shape of its field. -/
theorem holds_value (ho : o ∈ overrides) {p : String × Shape} (hp : p ∈ shapes)
    (hfield : p.1 = o.field) (hv : o.value text = .ok v) : p.2.holds v = true := by
  have hshape : ∀ o ∈ overrides, ∀ p ∈ shapes, p.1 = o.field →
      p.2 = if o.isNumber then .number else .text := by decide
  rw [hshape o ho p hp hfield]
  rw [value_eq_ok_iff] at hv
  split at hv
  · next hnumber =>
    obtain ⟨x, -, rfl⟩ := hv
    rw [if_pos hnumber]
    rfl
  · next hnumber =>
    rw [if_neg hnumber, hv]
    cases text <;> rfl

theorem Edits.wellShaped (h : Edits overrides env raw raw') (hshape : WellShaped raw) :
    WellShaped raw' := by
  intro p hp
  by_cases hkey : ∀ o ∈ overrides, o.field = p.1 → env.lookup o.name = none
  · rw [fieldOf_eq_of_get?_eq (h.kept p.1 hkey)]
    exact hshape p hp
  · push Not at hkey
    obtain ⟨o, ho, hfield, hset⟩ := hkey
    obtain ⟨text, hset⟩ := Option.ne_none_iff_exists'.mp hset
    obtain ⟨v, hv, hget⟩ := h.exists_value ho hset
    rw [fieldOf_of_get? (hfield ▸ hget)]
    exact holds_value ho hp hfield.symm hv

/-- Edited fields pass the schema as the fields did, if they name a supported algorithm. -/
theorem Edits.passes (h : Edits overrides env raw raw') (hp : Passes raw version)
    (halgorithm : NamesAlgorithm (fieldOf raw' "algorithm")) : Passes raw' version where
  given := (h.kept_of_forall_ne (by decide)).trans hp.given
  isVersion := hp.isVersion
  known := by
    rw [fieldOf_eq_of_get?_eq (h.kept_of_forall_ne (by decide))]
    refine hp.known.imp_right fun hknown key hkey => ?_
    by_cases hvariable : ∃ o ∈ overrides, o.field = key
    · obtain ⟨o, ho, rfl⟩ := hvariable
      exact isKnown_iff.mpr (.inr (hasDefault_of_mem_overrides o ho))
    · push Not at hvariable
      rw [h.kept_of_forall_ne hvariable] at hkey
      exact hknown key hkey
  shaped := h.wellShaped hp.shaped
  algorithm := halgorithm

def algorithmVariable : String := "TLSGUARD_ALGORITHM"

def timeoutVariable : String := "TLSGUARD_CONNECT_TIMEOUT"

theorem algorithm_mem_overrides :
    { name := algorithmVariable, field := "algorithm" : Override } ∈ overrides := by decide

theorem timeout_mem_overrides :
    { name := timeoutVariable, field := "connect_timeout", isNumber := true : Override } ∈
      overrides := by decide

/-- Only the connect timeout has to be a number. -/
theorem values_iff :
    (∀ o ∈ overrides, ∀ text, env.lookup o.name = some text → ∃ v, o.value text = .ok v) ↔
      ∀ text, env.lookup timeoutVariable = some text → (floatIn? text).isSome := by
  simp only [value_eq_ok_iff]
  constructor
  · intro h text hset
    obtain ⟨v, x, hx, -⟩ := h _ timeout_mem_overrides text hset
    rw [hx]
    rfl
  · intro h o ho text hset
    have honly : ∀ o ∈ overrides, o.isNumber = true → o.name = timeoutVariable := by decide
    split
    · next hnumber =>
      obtain ⟨x, hx⟩ := Option.isSome_iff_exists.mp (h text (honly o ho hnumber ▸ hset))
      exact ⟨.float x, x, hx, rfl⟩
    · exact ⟨.ofText text, rfl⟩

/-- Edited fields have a timeout that is too large just where it was and is not overridden. -/
theorem Edits.tooLarge_iff (h : Edits overrides env raw raw') :
    TooLarge (fieldOf raw' "connect_timeout") ↔
      env.lookup timeoutVariable = none ∧ TooLarge (fieldOf raw "connect_timeout") := by
  cases hset : env.lookup timeoutVariable with
  | none =>
    have hkept := h.kept_of_unset nodup_overrides timeout_mem_overrides hset
    rw [fieldOf_eq_of_get?_eq hkept]
    simp
  | some text =>
    obtain ⟨x, -, hget⟩ := h.replaced _ timeout_mem_overrides text hset
    rw [fieldOf_of_get? hget]
    simp [TooLarge]

/-- Edited fields name a supported algorithm where its variable does, or else where they did. -/
theorem Edits.namesAlgorithm_iff (h : Edits overrides env raw raw') :
    NamesAlgorithm (fieldOf raw' "algorithm") ↔
      match env.lookup algorithmVariable with
      | none => NamesAlgorithm (fieldOf raw "algorithm")
      | some name => ∃ a : Algorithm, name = .sound a.name := by
  cases hset : env.lookup algorithmVariable with
  | none =>
    have hkept := h.kept_of_unset nodup_overrides algorithm_mem_overrides hset
    rw [fieldOf_eq_of_get?_eq hkept]
  | some name =>
    have hget : raw'.get? "algorithm" = some (.ofText name) :=
      h.replaced _ algorithm_mem_overrides name hset
    rw [fieldOf_of_get? hget]
    cases name <;> simp [NamesAlgorithm, Value.ofText]

end PeerCheck.Config
