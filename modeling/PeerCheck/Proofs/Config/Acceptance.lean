import PeerCheck.Proofs.Config.Outcome

/-!
# Which files are accepted

A file makes a configuration, without the environment, just where it holds an acceptable object: one
that gives its version, whose fields have the types and the ranges they must have, and whose
settings go together (`Acceptable`). The schema and the settings check different parts of that, in
an order of their own; `acceptable_iff` puts the parts together, and `load_accepts_iff` says it of
loading.
-/

namespace PeerCheck.Config

open PeerCheck.Json PeerCheck.Number PeerCheck.Log PeerCheck.Text

variable {raw : Fields} {v : Value} {key : String} {s : Settings}

/-! ## Acceptable objects -/

def textFields : List String :=
  ["algorithm", "keystore_path", "keyfile_path", "keystore_password", "truststore_path",
    "truststore_password", "local_address", "log_path"]

def truthFields : List String := ["debug_console", "allow_unknown_keys"]

def HoldsTexts (raw : Fields) : Prop :=
  ∀ key ∈ textFields, ∀ v, raw.get? key = some v → ∃ text, v = .ofText text

def HoldsTruths (raw : Fields) : Prop :=
  ∀ key ∈ truthFields, ∀ v, raw.get? key = some v → ∃ b, v = .bool b

def Given (raw : Fields) (key : String) : Prop :=
  ∃ text, raw.get? key = some (.ofText text) ∧ text ≠ .sound ""

/-- A number, no truth value, that does not compare below zero. -/
def IsDuration (v : Value) : Prop := v.isNumber = true ∧ isNegative v = .ok false

/-- What an object must be to make a configuration. -/
structure Acceptable (raw : Fields) : Prop where
  version : ∃ n : Int, raw.get? "schema_version" = some (.int n) ∧ 1 ≤ n
  texts : HoldsTexts raw
  truths : HoldsTruths raw
  algorithm : ∀ v, raw.get? "algorithm" = some v → ∃ a : Algorithm, v = .str a.name
  keys : raw.get? "allow_unknown_keys" = some (.bool true) ∨
    ∀ key, (raw.get? key).isSome → isKnown key
  connect : ∀ v, raw.get? "connect_timeout" = some v → IsDuration v
  socket : ∀ v, raw.get? "socket_timeout" = some v → v = .null ∨ IsDuration v
  port : ∀ v, raw.get? "local_port" = some v →
    ∃ n : Int, v = .int n ∧ 0 ≤ n ∧ n ≤ 65535 ∧ (n ≠ 0 → Given raw "local_address")
  keyfile : Given raw "keyfile_path" → Given raw "keystore_path"
  keystore : Given raw "keystore_password" → Given raw "keystore_path"
  truststore : Given raw "truststore_password" → Given raw "truststore_path"

/-! ## Shapes -/

theorem holds_text_iff : Shape.text.holds v = true ↔ ∃ text, v = .ofText text := by
  constructor
  · intro h
    cases v with
    | str s => exact ⟨.sound s, rfl⟩
    | broken b => exact ⟨.broken b, rfl⟩
    | _ => cases h
  · rintro ⟨text, rfl⟩
    cases text <;> rfl

theorem holds_truth_iff : Shape.truth.holds v = true ↔ ∃ b, v = .bool b := by
  cases v <;> simp [Shape.holds]

theorem holds_whole_iff : Shape.whole.holds v = true ↔ ∃ n, v = .int n := by
  cases v <;> simp [Shape.holds]

theorem isNull_iff : v.isNull = true ↔ v = .null := by
  cases v <;> simp [Value.isNull]

theorem holds_numberOrNull_iff :
    Shape.numberOrNull.holds v = true ↔ v = .null ∨ v.isNumber = true := by
  rw [← isNull_iff, Shape.holds, Bool.or_eq_true]

/-- A text is set where one that is not empty is given. -/
theorem HoldsTexts.isSet_iff (h : HoldsTexts raw) (hkey : key ∈ textFields)
    (hdefault : defaults.getD key .null = .str "") :
    (fieldOf raw key).isSet = true ↔ Given raw key := by
  rw [fieldOf, Fields.getD, hdefault, Given]
  cases hget : raw.get? key with
  | none => simp [Value.isSet]
  | some v =>
    obtain ⟨text, rfl⟩ := h key hkey v hget
    simp [Value.isSet_ofText_iff, Value.ofText_inj]

/-- A truth value is set where it is given as true. -/
theorem HoldsTruths.isSet_iff (h : HoldsTruths raw) (hkey : key ∈ truthFields)
    (hdefault : defaults.getD key .null = .bool false) :
    (fieldOf raw key).isSet = true ↔ raw.get? key = some (.bool true) := by
  rw [fieldOf, Fields.getD, hdefault]
  cases hget : raw.get? key with
  | none => simp [Value.isSet]
  | some v =>
    obtain ⟨b, rfl⟩ := h key hkey v hget
    simp [Value.isSet]

/-! ## Putting the parts together -/

namespace Acceptable

theorem wellShaped (h : Acceptable raw) : WellShaped raw := by
  have htext : ∀ p ∈ shapes, p.2 = .text → p.1 ∈ textFields := by decide
  have htruth : ∀ p ∈ shapes, p.2 = .truth → p.1 ∈ truthFields := by decide
  have hnumber : ∀ p ∈ shapes, p.2 = .number → p.1 = "connect_timeout" := by decide
  have hnull : ∀ p ∈ shapes, p.2 = .numberOrNull → p.1 = "socket_timeout" := by decide
  have hwhole : ∀ p ∈ shapes, p.2 = .whole → p.1 = "local_port" := by decide
  refine wellShaped_iff.mpr ?_
  rintro ⟨key, shape⟩ hp v hv
  cases shape with
  | text => exact holds_text_iff.mpr (h.texts key (htext _ hp rfl) v hv)
  | truth => exact holds_truth_iff.mpr (h.truths key (htruth _ hp rfl) v hv)
  | number => exact (h.connect v (hnumber _ hp rfl ▸ hv)).1
  | numberOrNull =>
    have hs := h.socket v (hnull _ hp rfl ▸ hv)
    exact holds_numberOrNull_iff.mpr (hs.imp_right And.left)
  | whole =>
    obtain ⟨n, rfl, -⟩ := h.port v (hwhole _ hp rfl ▸ hv)
    rfl

theorem passes (h : Acceptable raw) : ∃ version, Passes raw version := by
  obtain ⟨n, hn, hone⟩ := h.version
  refine ⟨.int n, hn, decide_eq_true hone, ?_, h.wellShaped, ?_⟩
  · exact h.keys.imp_left (h.truths.isSet_iff (by decide) rfl).mpr
  · exact (forall_get?_iff (P := NamesAlgorithm) ⟨.tls, rfl⟩).mp h.algorithm

theorem coherent (h : Acceptable raw) : Settings.Coherent raw := by
  have htexts : HoldsTexts raw := h.texts
  have hport := (forall_get?_iff (P := fun v => ∃ n : Int, v = .int n ∧ 0 ≤ n ∧ n ≤ 65535 ∧
    (n ≠ 0 → Given raw "local_address"))
    ⟨0, rfl, by decide, by decide, fun h => absurd rfl h⟩).mp h.port
  obtain ⟨n, hn, hlow, hhigh, haddress⟩ := hport
  constructor
  · have hc := (forall_get?_iff (P := IsDuration) ?_).mp h.connect
    · exact hc.2
    · exact ⟨rfl, by decide +kernel⟩
  · have hs := (forall_get?_iff (P := fun v => v = .null ∨ IsDuration v) (.inl rfl)).mp h.socket
    exact hs.imp isNull_iff.mpr And.right
  · rw [hn]
    exact isPort_int_eq_ok_iff.mpr ⟨hlow, hhigh⟩
  · rw [hn, htexts.isSet_iff (by decide) rfl]
    intro hne
    exact haddress (by simpa [Value.isSet] using hne)
  · rw [htexts.isSet_iff (by decide) rfl, htexts.isSet_iff (by decide) rfl]
    exact h.keyfile
  · rw [htexts.isSet_iff (by decide) rfl, htexts.isSet_iff (by decide) rfl]
    exact h.keystore
  · rw [htexts.isSet_iff (by decide) rfl, htexts.isSet_iff (by decide) rfl]
    exact h.truststore

/-- What the schema and the settings check is all that is asked. -/
theorem of_passes {version : Value} (hp : Passes raw version) (hc : Settings.Coherent raw) :
    Acceptable raw := by
  have hshape := wellShaped_iff.mp hp.shaped
  have htexts : HoldsTexts raw := by
    have hmem : ∀ key ∈ textFields, (key, Shape.text) ∈ shapes := by decide
    exact fun key hkey v hv => holds_text_iff.mp (hshape _ (hmem key hkey) v hv)
  have htruths : HoldsTruths raw := by
    have hmem : ∀ key ∈ truthFields, (key, Shape.truth) ∈ shapes := by decide
    exact fun key hkey v hv => holds_truth_iff.mp (hshape _ (hmem key hkey) v hv)
  constructor
  · obtain ⟨n, rfl⟩ : ∃ n, version = .int n := by
      have hv := hp.isVersion
      unfold isVersion at hv
      split at hv
      · exact ⟨_, rfl⟩
      · cases hv
    exact ⟨n, hp.given, of_decide_eq_true hp.isVersion⟩
  · exact htexts
  · exact htruths
  · intro v hv
    have halgorithm := hp.algorithm
    rw [fieldOf_of_get? hv] at halgorithm
    exact halgorithm
  · exact hp.known.imp_left (htruths.isSet_iff (by decide) rfl).mp
  · intro v hv
    have hconnect := hc.connect
    rw [fieldOf_of_get? hv] at hconnect
    exact ⟨hshape ("connect_timeout", .number) (by decide) v hv, hconnect⟩
  · intro v hv
    have hsocket := hc.socket
    rw [fieldOf_of_get? hv, isNull_iff] at hsocket
    have hnumber :=
      holds_numberOrNull_iff.mp (hshape ("socket_timeout", .numberOrNull) (by decide) v hv)
    rcases hsocket with rfl | hneg
    · exact .inl rfl
    · exact hnumber.imp_right fun hn => ⟨hn, hneg⟩
  · intro v hv
    obtain ⟨n, rfl⟩ := holds_whole_iff.mp (hshape ("local_port", .whole) (by decide) v hv)
    have hport := hc.port
    have haddress := hc.address
    rw [fieldOf_of_get? hv] at hport haddress
    rw [htexts.isSet_iff (by decide) rfl] at haddress
    obtain ⟨hlow, hhigh⟩ := isPort_int_eq_ok_iff.mp hport
    exact ⟨n, rfl, hlow, hhigh, fun hne => haddress (by simpa [Value.isSet] using hne)⟩
  · rw [← htexts.isSet_iff (by decide) rfl, ← htexts.isSet_iff (by decide) rfl]
    exact hc.keyfile
  · rw [← htexts.isSet_iff (by decide) rfl, ← htexts.isSet_iff (by decide) rfl]
    exact hc.keystore
  · rw [← htexts.isSet_iff (by decide) rfl, ← htexts.isSet_iff (by decide) rfl]
    exact hc.truststore

end Acceptable

theorem acceptable_iff :
    Acceptable raw ↔ (∃ version, Passes raw version) ∧ Settings.Coherent raw :=
  ⟨fun h => ⟨h.passes, h.coherent⟩, fun ⟨⟨_, hp⟩, hc⟩ => .of_passes hp hc⟩

/-! ## Loading -/

variable {files : Files} {env : Environment} {path : Spelling} {version : Value}

/-- The connect timeout, where it is given as a whole number, is within the range of the binary
values. -/
def FitsTimeout (raw : Fields) : Prop :=
  ∀ n, raw.get? "connect_timeout" = some (.int n) → (Binary64.ofInt? n).isSome

theorem FitsTimeout.not_tooLarge (h : FitsTimeout raw) :
    ¬ TooLarge (fieldOf raw "connect_timeout") := by
  have hdefault : ¬ TooLarge (defaults.getD "connect_timeout" .null) := by
    rintro ⟨n, hn, -⟩
    cases hn
  refine (forall_get?_iff (P := fun v => ¬ TooLarge v) hdefault).mp ?_
  rintro v hv ⟨n, rfl, hn⟩
  have hsome := h n hv
  rw [Binary64.ofInt?_of_le hn] at hsome
  cases hsome

/-- What the file alone makes of an object that passes the schema. -/
theorem Holds.outcome_eq_ok_iff (h : Holds files env.room path raw version) (hfit : FitsTimeout raw) :
    outcome files env path false = .ok s ↔
      Settings.Coherent raw ∧ fieldOf raw "algorithm" = .str s.algorithm.name ∧
        readNumber (fieldOf raw "connect_timeout") = .ok s.connectTimeout ∧
        s = { Settings.made raw s.algorithm s.connectTimeout with raw := fill raw version } := by
  have hfilled : ∀ key, HasDefault key → fieldOf (fill raw version) key = fieldOf raw key :=
    fun key hkey => fieldOf_fill hkey raw version
  have hnumber : (fieldOf (fill raw version) "connect_timeout").isNumber := by
    rw [hfilled _ (by decide)]
    exact h.passes.shaped.isNumber_connect
  have hn : ¬ TooLarge (fieldOf (fill raw version) "connect_timeout") := by
    rw [hfilled _ (by decide)]
    exact hfit.not_tooLarge
  rw [h.outcome_false, Settings.ofFields_eq_ok_iff hnumber hn, Settings.coherent_fill_iff,
    hfilled _ (by decide), hfilled _ (by decide), Settings.made_fill h.passes.given]

theorem Holds.exists_outcome_iff (h : Holds files env.room path raw version) (hfit : FitsTimeout raw) :
    (∃ s, outcome files env path false = .ok s) ↔ Settings.Coherent raw := by
  simp only [h.outcome_eq_ok_iff hfit]
  constructor
  · rintro ⟨s, hc, -⟩
    exact hc
  · intro hc
    obtain ⟨a, ha⟩ := h.passes.algorithm
    obtain ⟨x, hx, -⟩ := readNumber_of_isNumber h.passes.shaped.isNumber_connect hfit.not_tooLarge
    exact ⟨{ Settings.made raw a x with raw := fill raw version }, hc, ha, hx, rfl⟩

/-- A file that holds the value `v` makes a configuration just where `v` is an acceptable object.
The settings are then what its fields say, or else their defaults, with the connect timeout as a
number; otherwise it is told what is wrong with the configuration. -/
theorem load_accepts_iff {v : Value} (hread : readFile files env.room (Path.tidy path) = .ok v)
    (hfit : ∀ raw, v = .obj raw → FitsTimeout raw) (t : List Record) :
    let r := ((load files env path false).run t).1
    ((∃ s, r = .ok s) ↔ ∃ raw, v = .obj raw ∧ Acceptable raw) ∧
    (∀ s, r = .ok s → ∃ (raw : Fields) (version : Value), v = .obj raw ∧
      raw.get? versionField = some version ∧
      s = { Settings.made raw s.algorithm s.connectTimeout with raw := fill raw version } ∧
      fieldOf raw "algorithm" = .str s.algorithm.name ∧
      readNumber (fieldOf raw "connect_timeout") = .ok s.connectTimeout) ∧
    (∀ e, r = .error e → ∃ c, e = .config c) := by
  intro r
  have hr : r = outcome files env path false := gives_load files env path false t
  have hobject : ∀ raw version, Holds files env.room path raw version → v = .obj raw :=
    fun raw version h => Except.ok.inj (hread.symm.trans h.read)
  have hconfig : Fails Fault.IsConfig (outcome files env path false) := by
    intro e he
    refine (of_outcome_eq_error ?_ he).resolve_right fun hfault => nomatch hread.symm.trans hfault
    rintro ⟨raw, version, h, hn, -⟩
    exact (hfit raw (hobject raw version h)).not_tooLarge hn
  have hok : ∀ s, r = .ok s → ∃ raw version, Holds files env.room path raw version := by
    intro s hs
    rcases fails_or_holds files env path false with ⟨e, he, -⟩ | h
    · cases (hs.symm.trans hr).trans he
    · exact h
  refine ⟨⟨?_, ?_⟩, ?_, ?_⟩
  · rintro ⟨s, hs⟩
    obtain ⟨raw, version, h⟩ := hok s hs
    have hv := hobject raw version h
    have hc := (h.exists_outcome_iff (hfit raw hv)).mp ⟨s, hr.symm.trans hs⟩
    exact ⟨raw, hv, acceptable_iff.mpr ⟨⟨version, h.passes⟩, hc⟩⟩
  · rintro ⟨raw, rfl, hacceptable⟩
    obtain ⟨⟨version, hp⟩, hc⟩ := acceptable_iff.mp hacceptable
    have h : Holds files env.room path raw version := ⟨hread, hp⟩
    obtain ⟨s, hs⟩ := (h.exists_outcome_iff (hfit raw rfl)).mpr hc
    exact ⟨s, hr.trans hs⟩
  · intro s hs
    obtain ⟨raw, version, h⟩ := hok s hs
    have hv := hobject raw version h
    obtain ⟨-, ha, hx, hmade⟩ := (h.outcome_eq_ok_iff (hfit raw hv)).mp (hr.symm.trans hs)
    exact ⟨raw, version, hv, h.passes.given, hmade, ha, hx⟩
  · intro e he
    exact hconfig e (hr.symm.trans he)

/-- An object with a keystore, a local port and a timeout. -/
def keystoreFields : Fields := [
  (versionField, .int 1), ("keystore_path", .str "client.p12"),
  ("keystore_password", .str "secret"), ("local_address", .str "127.0.0.1"),
  ("local_port", .int 4433), ("connect_timeout", .int 5)]

theorem plain_keystoreFields : (Value.obj keystoreFields).Plain :=
  plain_obj (by decide) (by decide +kernel)

theorem acceptable_keystoreFields : Acceptable keystoreFields := by
  refine acceptable_iff.mpr ⟨⟨.int 1, ?_⟩, ?_⟩
  · exact ⟨rfl, rfl, .inr (forall_isKnown_iff.mpr (by decide)), by decide, ⟨.tls, rfl⟩⟩
  · exact ⟨rfl, .inl rfl, rfl, fun _ => rfl, fun _ => rfl, fun _ => rfl, nofun⟩

theorem keystoreFields_accepted :
    ∃ s, ((load (rcFiles (lineBytes (.obj keystoreFields))) {} "rc" false).run []).1 = .ok s := by
  refine (load_accepts_iff (readFile_rcFiles plain_keystoreFields (by decide)) ?_ []).1.mpr
    ⟨keystoreFields, rfl, acceptable_keystoreFields⟩
  rintro _ ⟨⟩ n hn
  obtain rfl : 5 = n := by
    injection hn with hn
    injection hn
  rw [Binary64.ofInt?_of_lt (by decide +kernel)]
  rfl

end PeerCheck.Config
