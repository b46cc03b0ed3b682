import PeerCheck.Proofs.Config.Acceptance

/-!
# Loaded timeouts

A timeout that is below zero is refused. NaN is not below zero, though it is not at least zero
either, so it passes. Here is exactly what that leaves: every timeout that is loaded is at least
zero, or else it is NaN because the file or the variable it is taken from says NaN
(`load_timeouts_or_nan`).
-/

namespace PeerCheck

/-! ## Numbers that are not below zero -/

namespace Number.Binary64

variable {x : Binary64} {n : Int}

theorem lt_zero_eq_false_iff : x.lt .zero = false ↔ x = .nan ∨ Binary64.zero.le x = true := by
  cases x with
  | nan => exact ⟨fun _ => .inl rfl, fun _ => rfl⟩
  | infinite negative => cases negative <;> simp [lt, le, eq, zero]
  | finite negative units =>
    have hzero : signed false 0 = 0 := rfl
    simp only [lt, le, eq, zero, hzero, reduceCtorEq, false_or, decide_eq_false_iff_not,
      Bool.or_eq_true, decide_eq_true_eq, beq_iff_eq]
    omega

/-- What a whole number rounds to is a number. -/
theorem ofInt?_ne_nan (n : Int) : ofInt? n ≠ some nan := by
  rcases Nat.lt_or_ge n.natAbs wholeLimit with hn | hn
  · rw [ofInt?_of_lt hn]
    nofun
  · rw [ofInt?_of_le hn]
    nofun

end Number.Binary64

namespace Config

open PeerCheck.Json PeerCheck.Number PeerCheck.Log PeerCheck.Text

variable {files : Files} {env : Environment} {path : Spelling} {key : String}
  {useEnvironment : Bool} {raw raw' : Fields} {version v : Value} {s : Settings} {x : Binary64}

/-- A number, no truth value, that is at least zero. -/
def AtLeastZero : Value → Prop
  | .int n => 0 ≤ n
  | .float x => Binary64.zero.le x = true
  | _ => False

theorem IsDuration.atLeastZero (h : IsDuration v) : v = .float .nan ∨ AtLeastZero v := by
  obtain ⟨hv, h⟩ := h
  cases v with
  | int n =>
    have hn : ¬ n < 0 := of_decide_eq_false (Except.ok.inj h)
    exact .inr (Int.not_lt.mp hn)
  | float x =>
    rcases Binary64.lt_zero_eq_false_iff.mp (Except.ok.inj h) with rfl | hx
    · exact .inl rfl
    · exact .inr hx
  | _ => cases hv

/-- Among the numbers only NaN is read as NaN. -/
theorem readNumber_eq_nan_iff (hv : v.isNumber) :
    readNumber v = .ok .nan ↔ v = .float .nan := by
  cases v with
  | int n =>
    have hnan := Binary64.ofInt?_ne_nan n
    rw [readNumber]
    constructor
    · intro h
      cases hx : Binary64.ofInt? n with
      | none =>
        rw [hx] at h
        cases h
      | some x =>
        rw [hx] at h
        obtain rfl : x = .nan := Except.ok.inj h
        exact absurd hx hnan
    · intro h
      cases h
  | float x => rw [readNumber, Except.ok.injEq, Value.float.injEq]
  | _ => cases hv

/-! ## Timeouts of settings -/

theorem Settings.timeouts_of_ofFields (h : ofFields raw = .ok s) :
    readNumber (fieldOf raw "connect_timeout") = .ok s.connectTimeout ∧
      s.connectTimeout.lt .zero = false ∧ s.socketTimeout = fieldOf raw "socket_timeout" ∧
      ((fieldOf raw "socket_timeout").isNull ∨
        isNegative (fieldOf raw "socket_timeout") = .ok false) := by
  simp only [ofFields_eq, bind_eq_ok_iff, timeouts_eq_ok_iff, Except.ok.injEq] at h
  obtain ⟨a, -, x, ⟨hx, hneg, hsocket⟩, -, -, -, -, rfl⟩ := h
  exact ⟨hx, hneg, rfl, hsocket⟩

/-- The timeouts that come of well-shaped fields: at least zero, or NaN where the field says so. -/
theorem Settings.timeouts_of_wellShaped (hshape : WellShaped raw) (h : ofFields raw = .ok s) :
    (s.connectTimeout = .nan ↔ fieldOf raw "connect_timeout" = .float .nan) ∧
      (s.connectTimeout ≠ .nan → Binary64.zero.le s.connectTimeout = true) ∧
      s.socketTimeout = fieldOf raw "socket_timeout" ∧
      (s.socketTimeout ≠ .float .nan → s.socketTimeout = .null ∨ AtLeastZero s.socketTimeout) := by
  obtain ⟨hconnect, hneg, hsocket, hsign⟩ := timeouts_of_ofFields h
  refine ⟨?_, fun hnan => ?_, hsocket, fun hnan => ?_⟩
  · rw [← readNumber_eq_nan_iff hshape.isNumber_connect, hconnect, Except.ok.injEq]
  · exact (Binary64.lt_zero_eq_false_iff.mp hneg).resolve_left hnan
  · rw [hsocket] at hnan ⊢
    have hmem : ("socket_timeout", Shape.numberOrNull) ∈ shapes := by decide
    have hnumber := holds_numberOrNull_iff.mp (hshape.holds hmem)
    rw [isNull_iff] at hsign
    rcases hsign with hnull | hsign
    · exact .inl hnull
    · refine hnumber.imp_right fun hnumber => ?_
      exact (IsDuration.atLeastZero ⟨hnumber, hsign⟩).resolve_left hnan

/-! ## Loaded timeouts -/

/-- The connect timeout is taken from a source that says NaN: from its variable, where the
environment is asked for and sets that, and else from the file. -/
def ConnectNaN (env : Environment) (useEnvironment : Bool) (raw : Fields) : Prop :=
  match if useEnvironment then env.lookup timeoutVariable else none with
  | some text => floatIn? text = some .nan
  | none => raw.get? "connect_timeout" = some (.float .nan)

def SocketNaN (raw : Fields) : Prop := raw.get? "socket_timeout" = some (.float .nan)

/-- A field says what is not its default just where that is given. -/
theorem fieldOf_eq_iff (h : defaults.getD key .null ≠ v) :
    fieldOf raw key = v ↔ raw.get? key = some v := by
  rw [fieldOf, Fields.getD]
  cases raw.get? key with
  | none => exact ⟨fun hv => absurd hv h, fun hv => absurd hv (Option.some_ne_none v).symm⟩
  | some w => exact Option.some_inj.symm

theorem fieldOf_connect_eq_nan_iff :
    fieldOf raw "connect_timeout" = .float .nan ↔ raw.get? "connect_timeout" = some (.float .nan) :=
  fieldOf_eq_iff fun h => absurd (Value.float.inj h) (by decide +kernel)

theorem fieldOf_socket_eq_nan_iff : fieldOf raw "socket_timeout" = .float .nan ↔ SocketNaN raw :=
  fieldOf_eq_iff nofun

theorem Edits.connectNaN_iff (h : Edits overrides env raw raw') :
    fieldOf raw' "connect_timeout" = .float .nan ↔ ConnectNaN env true raw := by
  rw [ConnectNaN, if_pos rfl]
  cases hset : env.lookup timeoutVariable with
  | none =>
    have hkept := h.kept_of_unset nodup_overrides timeout_mem_overrides hset
    rw [fieldOf_eq_of_get?_eq hkept]
    exact fieldOf_connect_eq_nan_iff
  | some text =>
    obtain ⟨x, hx, hget⟩ := h.replaced _ timeout_mem_overrides text hset
    dsimp only
    rw [fieldOf_of_get? hget, hx, Value.float.injEq, Option.some.injEq]

/-- What the settings that are loaded are made of: fields of which the timeouts come from the file,
or from the variable of the connect timeout. -/
theorem Holds.exists_made (h : Holds files env.room path raw version)
    (hs : outcome files env path useEnvironment = .ok s) :
    ∃ raw', WellShaped raw' ∧ Settings.ofFields (fill raw' version) = .ok s ∧
      (fieldOf raw' "connect_timeout" = .float .nan ↔ ConnectNaN env useEnvironment raw) ∧
      fieldOf raw' "socket_timeout" = fieldOf raw "socket_timeout" := by
  cases useEnvironment with
  | false =>
    rw [h.outcome_false] at hs
    exact ⟨raw, h.passes.shaped, hs, fieldOf_connect_eq_nan_iff, rfl⟩
  | true =>
    rw [h.outcome_true] at hs
    obtain ⟨raw', hraw', hs⟩ := exists_of_bind_eq_ok hs
    have hedits := edits_of_overlay nodup_overrides hraw'
    have hkept : raw'.get? "socket_timeout" = raw.get? "socket_timeout" :=
      hedits.kept_of_forall_ne (by decide)
    exact ⟨raw', hedits.wellShaped h.passes.shaped, hs, hedits.connectNaN_iff,
      fieldOf_eq_of_get?_eq hkept⟩

/-- Settings that are loaded, from whatever file and environment, have timeouts that are at least
zero, the socket timeout being null where there is none. The exception is NaN, which a timeout is
just where it is taken from a source that says NaN. -/
theorem load_timeouts_or_nan {t : List Record}
    (h : ((load files env path useEnvironment).run t).1 = .ok s) :
    ∃ raw version, Holds files env.room path raw version ∧
      (ConnectNaN env useEnvironment raw → s.connectTimeout = .nan) ∧
      (¬ ConnectNaN env useEnvironment raw → Binary64.zero.le s.connectTimeout = true) ∧
      (SocketNaN raw → s.socketTimeout = .float .nan) ∧
      (¬ SocketNaN raw → s.socketTimeout = .null ∨ AtLeastZero s.socketTimeout) := by
  have hs : outcome files env path useEnvironment = .ok s :=
    (gives_load files env path useEnvironment t).symm.trans h
  rcases fails_or_holds files env path useEnvironment with ⟨e, he, -⟩ | ⟨raw, version, hholds⟩
  · cases hs.symm.trans he
  · obtain ⟨raw', hshape, hmade, hconnect, hsocket⟩ := hholds.exists_made hs
    have hshape' := (wellShaped_fill_iff raw' version).mpr hshape
    obtain ⟨hnan, hzero, hfield, hsockets⟩ := Settings.timeouts_of_wellShaped hshape' hmade
    rw [fieldOf_fill (by decide), hconnect] at hnan
    rw [fieldOf_fill (by decide), hsocket] at hfield
    rw [hfield] at hsockets ⊢
    refine ⟨raw, version, hholds, hnan.mpr, fun hno => ?_, fieldOf_socket_eq_nan_iff.mpr,
      fun hno => ?_⟩
    · exact hzero fun hx => hno (hnan.mp hx)
    · exact hsockets fun hx => hno (fieldOf_socket_eq_nan_iff.mp hx)

/-- A valid object that gives nothing but its version. -/
def versionFields : Fields := [(versionField, .int 1)]

def nanEnvironment : Environment where
  bindings := [(timeoutVariable, "NaN")]

theorem nanEnvironment_loaded :
    ∃ s, ((load (rcFiles (lineBytes (.obj versionFields))) nanEnvironment "rc" true).run []).1 =
      .ok s ∧ s.connectTimeout = .nan := by
  have hpasses : Passes versionFields (.int 1) :=
    ⟨rfl, rfl, .inr (forall_isKnown_iff.mpr (by decide)), by decide, ⟨.tls, rfl⟩⟩
  have hholds : Holds (rcFiles (lineBytes (.obj versionFields))) nanEnvironment.room "rc"
      versionFields (.int 1) :=
    ⟨readFile_rcFiles (plain_obj (by decide) (by decide +kernel)) (by decide), hpasses⟩
  have hmade : outcome (rcFiles (lineBytes (.obj versionFields))) nanEnvironment "rc" true =
      .ok _ := hholds.outcome_true.trans rfl
  have hload := (gives_load _ _ _ _ []).trans hmade
  obtain ⟨raw, version, -, hnan, -⟩ := load_timeouts_or_nan hload
  exact ⟨_, hload, hnan (by decide +kernel : floatIn? (.sound "NaN") = some .nan)⟩

end Config

end PeerCheck
