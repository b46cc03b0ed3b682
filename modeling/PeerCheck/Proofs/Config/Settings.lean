import PeerCheck.Config.Settings
import PeerCheck.Proofs.Config.Schema
import PeerCheck.Proofs.Number.Whole

/-!
# What settings are made of

The settings of fields are what the fields say, with the algorithm that is named and the connect
timeout as a number, where all checks pass (`Settings.ofFields_eq_ok_iff`). Of fields that have
their shapes no settings come only for a reason that is told, or because the connect timeout is a
whole number that is too large to round (`Settings.isConfig_or_tooLarge`).
-/

namespace PeerCheck

/-- A fault that tells what is wrong with a configuration. -/
def Fault.IsConfig (e : Fault) : Prop := ∃ c, e = .config c

theorem Fault.isConfig_config (c : Config.ConfigFault) : Fault.IsConfig (.config c) := ⟨c, rfl⟩

namespace Config

open PeerCheck.Json PeerCheck.Number

variable {raw raw' : Fields} {v connect socket address port : Value} {a : Algorithm} {x : Binary64}
  {s : Settings} {n : Int}

/-! ## Single checks -/

theorem refuseIf_eq_ok_iff {bad : Bool} {c : ConfigFault} {u : Unit} :
    refuseIf bad c = .ok u ↔ bad = false := by
  cases bad with
  | true => exact ⟨nofun, nofun⟩
  | false => exact ⟨fun _ => rfl, fun _ => rfl⟩

theorem isConfig_refuseIf (bad : Bool) (c : ConfigFault) :
    Fails Fault.IsConfig (refuseIf bad c) := by
  cases bad with
  | true => exact .error (Fault.isConfig_config c)
  | false => exact .ok ()

theorem algorithmOf_eq_ok_iff : algorithmOf v = .ok a ↔ v = .str a.name := by
  unfold algorithmOf
  split
  · next s =>
    rw [Value.str.injEq, ← Algorithm.ofName?_eq_some_iff]
    split
    · next b h => rw [h, Except.ok.injEq, Option.some.injEq]
    · next h => exact ⟨nofun, fun h' => nomatch h.symm.trans h'⟩
  · next hne => exact ⟨nofun, fun h => absurd h (hne a.name)⟩

theorem isConfig_algorithmOf (v : Value) : Fails Fault.IsConfig (algorithmOf v) := by
  unfold algorithmOf
  split
  · split
    · exact .ok _
    · exact .error (Fault.isConfig_config _)
  · exact .error (Fault.isConfig_config _)

/-- A whole number past those that round to finite values. -/
def TooLarge (v : Value) : Prop := ∃ n : Int, v = .int n ∧ Binary64.wholeLimit ≤ n.natAbs

theorem readNumber_of_tooLarge (h : TooLarge v) : readNumber v = .error .wholeTooLarge := by
  obtain ⟨n, rfl, hn⟩ := h
  rw [readNumber, Binary64.ofInt?_of_le hn]
  rfl

/-- Any other number is read, and what was read is below zero just where it was. -/
theorem readNumber_of_isNumber (hv : v.isNumber) (h : ¬ TooLarge v) :
    ∃ x, readNumber v = .ok x ∧ isNegative v = .ok (x.lt .zero) := by
  cases v with
  | int n =>
    have hn : n.natAbs < Binary64.wholeLimit := Nat.lt_of_not_le fun hle => h ⟨n, rfl, hle⟩
    have hx := Binary64.ofInt?_of_lt hn
    refine ⟨_, ?_, congrArg Except.ok (Binary64.lt_zero_of_ofInt? hx).symm⟩
    rw [readNumber, hx]
    rfl
  | float x => exact ⟨x, rfl, rfl⟩
  | _ => cases hv

theorem isConfig_isNegative (hv : v.isNumber) : Fails Fault.IsConfig (isNegative v) := by
  cases v with
  | int n => exact .ok _
  | float x => exact .ok _
  | _ => cases hv

theorem isPort_int_eq_ok_iff : isPort (.int n) = .ok true ↔ 0 ≤ n ∧ n ≤ 65535 := by
  rw [isPort, Except.ok.injEq, Bool.and_eq_true, decide_eq_true_eq, decide_eq_true_eq]
  rfl

theorem isConfig_isPort (hv : Shape.whole.holds v) : Fails Fault.IsConfig (isPort v) := by
  cases v with
  | int n => exact .ok _
  | _ => cases hv

namespace Settings

theorem timeouts_eq_ok_iff :
    timeouts connect socket = .ok x ↔
      readNumber connect = .ok x ∧ x.lt .zero = false ∧
        (socket.isNull ∨ isNegative socket = .ok false) := by
  simp only [timeouts, bind_eq_ok_iff, refuseIf_eq_ok_iff]
  cases socket.isNull with
  | true => simp [and_comm]
  | false => simp [bind_eq_ok_iff, refuseIf_eq_ok_iff, and_left_comm, and_comm]

theorem isConfig_timeouts (hc : connect.isNumber) (hn : ¬ TooLarge connect)
    (hs : Shape.numberOrNull.holds socket) : Fails Fault.IsConfig (timeouts connect socket) := by
  obtain ⟨x, hx, -⟩ := readNumber_of_isNumber hc hn
  unfold timeouts
  rw [hx]
  refine Fails.bind (.ok x) fun x => (isConfig_refuseIf _ _).bind fun _ => ?_
  cases hnull : socket.isNull with
  | true => exact .ok x
  | false =>
    have hnumber : socket.isNumber := by simpa [Shape.holds, hnull] using hs
    exact (isConfig_isNegative hnumber).bind fun b => (isConfig_refuseIf b _).bind fun _ => .ok x

theorem checkBind_eq_ok_iff {u : Unit} :
    checkBind address port = .ok u ↔
      isPort port = .ok true ∧ (port.isSet → address.isSet) := by
  simp [checkBind, bind_eq_ok_iff, refuseIf_eq_ok_iff]

theorem isConfig_checkBind (hp : Shape.whole.holds port) :
    Fails Fault.IsConfig (checkBind address port) :=
  (isConfig_isPort hp).bind fun _ => (isConfig_refuseIf _ _).bind fun _ => isConfig_refuseIf _ _

theorem checkCoherence_eq_ok_iff {u : Unit} :
    s.checkCoherence = .ok u ↔
      (s.keyfilePath.isSet → s.keystorePath.isSet) ∧
      (s.keystorePassword.isSet → s.keystorePath.isSet) ∧
      (s.truststorePassword.isSet → s.truststorePath.isSet) := by
  simp [checkCoherence, bind_eq_ok_iff, refuseIf_eq_ok_iff]

theorem isConfig_checkCoherence (s : Settings) : Fails Fault.IsConfig s.checkCoherence :=
  (isConfig_refuseIf _ _).bind fun _ => (isConfig_refuseIf _ _).bind fun _ => isConfig_refuseIf _ _

/-! ## Settings of fields -/

/-- What fields say, with the algorithm that is named and the connect timeout as a number. -/
def made (raw : Fields) (algorithm : Algorithm) (connectTimeout : Binary64) : Settings where
  raw := raw
  schemaVersion := raw.getD versionField (.int 1)
  algorithm := algorithm
  keystorePath := fieldOf raw "keystore_path"
  keyfilePath := fieldOf raw "keyfile_path"
  keystorePassword := fieldOf raw "keystore_password"
  truststorePath := fieldOf raw "truststore_path"
  truststorePassword := fieldOf raw "truststore_password"
  connectTimeout := connectTimeout
  socketTimeout := fieldOf raw "socket_timeout"
  localAddress := fieldOf raw "local_address"
  localPort := fieldOf raw "local_port"
  logPath := fieldOf raw "log_path"
  debugConsole := fieldOf raw "debug_console"

/-- What settings fall back on is what the schema fills in. -/
theorem ofFields_eq (raw : Fields) :
    ofFields raw = (do
      let a ← algorithmOf (fieldOf raw "algorithm")
      let x ← timeouts (fieldOf raw "connect_timeout") (fieldOf raw "socket_timeout")
      checkBind (fieldOf raw "local_address") (fieldOf raw "local_port")
      (made raw a x).checkCoherence
      .ok (made raw a x)) := rfl

/-- Settings are what the fields say, but for the algorithm and the connect timeout. -/
theorem eq_made_of_ofFields (h : ofFields raw = .ok s) :
    s = made raw s.algorithm s.connectTimeout := by
  simp only [ofFields_eq, bind_eq_ok_iff, Except.ok.injEq] at h
  obtain ⟨a, -, x, -, -, -, -, -, rfl⟩ := h
  rfl

/-- What is checked of fields that have their shapes. -/
structure Coherent (raw : Fields) : Prop where
  connect : isNegative (fieldOf raw "connect_timeout") = .ok false
  socket : (fieldOf raw "socket_timeout").isNull ∨
    isNegative (fieldOf raw "socket_timeout") = .ok false
  port : isPort (fieldOf raw "local_port") = .ok true
  address : (fieldOf raw "local_port").isSet → (fieldOf raw "local_address").isSet
  keyfile : (fieldOf raw "keyfile_path").isSet → (fieldOf raw "keystore_path").isSet
  keystore : (fieldOf raw "keystore_password").isSet → (fieldOf raw "keystore_path").isSet
  truststore : (fieldOf raw "truststore_password").isSet → (fieldOf raw "truststore_path").isSet

/-- Settings are what the fields say. -/
theorem ofFields_eq_ok_iff (hc : (fieldOf raw "connect_timeout").isNumber)
    (hn : ¬ TooLarge (fieldOf raw "connect_timeout")) :
    ofFields raw = .ok s ↔
      Coherent raw ∧ fieldOf raw "algorithm" = .str s.algorithm.name ∧
        readNumber (fieldOf raw "connect_timeout") = .ok s.connectTimeout ∧
        s = made raw s.algorithm s.connectTimeout := by
  obtain ⟨x, hx, hneg⟩ := readNumber_of_isNumber hc hn
  have hsign : isNegative (fieldOf raw "connect_timeout") = .ok false ↔ x.lt .zero = false := by
    rw [hneg, Except.ok.injEq]
  simp only [ofFields_eq, bind_eq_ok_iff, algorithmOf_eq_ok_iff, timeouts_eq_ok_iff,
    checkBind_eq_ok_iff, checkCoherence_eq_ok_iff, exists_const, Except.ok.injEq]
  constructor
  · rintro ⟨a, ha, y, ⟨hy, hneg', hsocket⟩, ⟨hport, haddress⟩, ⟨hkeyfile, hkeystore, htrust⟩, rfl⟩
    obtain rfl := Except.ok.inj (hx.symm.trans hy)
    exact ⟨⟨hsign.mpr hneg', hsocket, hport, haddress, hkeyfile, hkeystore, htrust⟩, ha, hx, rfl⟩
  · rintro ⟨h, ha, hy, hs⟩
    obtain rfl := Except.ok.inj (hx.symm.trans hy)
    exact ⟨s.algorithm, ha, s.connectTimeout, ⟨hx, hsign.mp h.connect, h.socket⟩,
      ⟨h.port, h.address⟩, ⟨h.keyfile, h.keystore, h.truststore⟩, hs.symm⟩

/-- The defaults pass their own checks. -/
theorem ofFields_default : ofFields defaultFields = .ok default := by
  have hpositive : (Binary64.ofNat 10).lt .zero = false := by decide +kernel
  have htimeouts : timeouts (fieldOf defaultFields "connect_timeout")
      (fieldOf defaultFields "socket_timeout") = .ok (.ofNat 10) :=
    timeouts_eq_ok_iff.mpr ⟨rfl, hpositive, .inl rfl⟩
  rw [ofFields_eq, htimeouts]
  rfl

/-! ## Why there are none -/

theorem ofFields_of_not_namesAlgorithm (h : ¬ NamesAlgorithm (fieldOf raw "algorithm")) :
    ∃ c, ofFields raw = .error (.config c) := by
  rw [ofFields_eq]
  cases ha : algorithmOf (fieldOf raw "algorithm") with
  | ok a => exact absurd ⟨a, algorithmOf_eq_ok_iff.mp ha⟩ h
  | error e =>
    obtain ⟨c, rfl⟩ := isConfig_algorithmOf _ e ha
    exact ⟨c, rfl⟩

theorem ofFields_of_tooLarge (halgorithm : NamesAlgorithm (fieldOf raw "algorithm"))
    (h : TooLarge (fieldOf raw "connect_timeout")) : ofFields raw = .error .wholeTooLarge := by
  obtain ⟨a, ha⟩ := halgorithm
  rw [ofFields_eq, algorithmOf_eq_ok_iff.mpr ha, timeouts, readNumber_of_tooLarge h]
  rfl

theorem isConfig_ofFields (hshape : WellShaped raw)
    (hn : ¬ TooLarge (fieldOf raw "connect_timeout")) : Fails Fault.IsConfig (ofFields raw) := by
  rw [ofFields_eq]
  refine (isConfig_algorithmOf _).bind fun a => ?_
  refine (isConfig_timeouts hshape.isNumber_connect hn (hshape.holds (by decide))).bind fun x => ?_
  refine (isConfig_checkBind (hshape.holds (by decide))).bind fun _ => ?_
  exact (isConfig_checkCoherence _).bind fun _ => .ok _

/-- Of fields that have their shapes come settings, or a fault that tells why not, or else a timeout
that is too large is the first thing wrong with them. -/
theorem isConfig_or_tooLarge (hshape : WellShaped raw) :
    Fails Fault.IsConfig (ofFields raw) ∨
      NamesAlgorithm (fieldOf raw "algorithm") ∧ TooLarge (fieldOf raw "connect_timeout") := by
  by_cases halgorithm : NamesAlgorithm (fieldOf raw "algorithm")
  · by_cases hn : TooLarge (fieldOf raw "connect_timeout")
    · exact .inr ⟨halgorithm, hn⟩
    · exact .inl (isConfig_ofFields hshape hn)
  · obtain ⟨c, hc⟩ := ofFields_of_not_namesAlgorithm halgorithm
    rw [hc]
    exact .inl (.error (Fault.isConfig_config c))

/-! ## Defaults filled in -/

/-- Only fields with a default are looked at. -/
theorem Coherent.congr (h : Coherent raw)
    (hsame : ∀ key, HasDefault key → fieldOf raw' key = fieldOf raw key) : Coherent raw' where
  connect := by rw [hsame _ (by decide)]; exact h.connect
  socket := by rw [hsame _ (by decide)]; exact h.socket
  port := by rw [hsame _ (by decide)]; exact h.port
  address := by simpa (disch := decide) only [hsame] using h.address
  keyfile := by simpa (disch := decide) only [hsame] using h.keyfile
  keystore := by simpa (disch := decide) only [hsame] using h.keystore
  truststore := by simpa (disch := decide) only [hsame] using h.truststore

theorem coherent_fill_iff (raw : Fields) (version : Value) :
    Coherent (fill raw version) ↔ Coherent raw :=
  ⟨fun h => h.congr fun _ hkey => (fieldOf_fill hkey raw version).symm,
    fun h => h.congr fun _ hkey => fieldOf_fill hkey raw version⟩

/-- Filling in defaults changes no setting but the fields that are kept along. -/
theorem made_fill {version : Value} (h : raw.get? versionField = some version) (a : Algorithm)
    (x : Binary64) :
    made (fill raw version) a x = { made raw a x with raw := fill raw version } := by
  have hfilled : ∀ key, HasDefault key → fieldOf (fill raw version) key = fieldOf raw key :=
    fun key hkey => fieldOf_fill hkey raw version
  have hversion :
      (fill raw version).getD versionField (.int 1) = raw.getD versionField (.int 1) := by
    rw [Fields.getD, Fields.getD, get?_fill_version, h]
  simp (disch := decide) only [made, hfilled, hversion]

end Settings

end Config

end PeerCheck
