import PeerCheck.Proofs.Config.Environment
import PeerCheck.Proofs.Config.Written
import PeerCheck.Proofs.Files.Refusal
import PeerCheck.Proofs.Json.Nesting

/-!
# What comes of loading a configuration

Loading comes to an outcome that depends on the file, and on the environment where that is asked
for, but not on what was recorded before (`gives_load`). It fails with a fault that tells what is
wrong with the configuration, but for three kinds of runs (`load_fails_as_told`): the file is an
object that passes the schema and gives a connect timeout too large to round, where nothing before
that stands in the way; the path of the file is refused; the text in it is nested too deep, as that
of a plain value is just where the value is deeper than the room (`nestsTooDeep_line_iff`).
-/

namespace PeerCheck.Config

open PeerCheck.Json PeerCheck.Number PeerCheck.Log PeerCheck.Text

variable {files : Files} {env : Environment} {room : Nat} {path : Spelling}
  {useEnvironment : Bool} {raw raw' : Fields} {version : Value} {e : Fault} {nest : Nest}

/-- The fields that settings are made of: those of the file, overridden if that is asked for. -/
def merge (env : Environment) (useEnvironment : Bool) (fields : Fields) : Except Fault Fields :=
  if useEnvironment then overlay env overrides fields else .ok fields

/-- What loading comes to, apart from the records. -/
def outcome (files : Files) (env : Environment) (path : Spelling) (useEnvironment : Bool) :
    Except Fault Settings := do
  let v ← readFile files env.room (Path.tidy path)
  let fields ← (validate v).mapError fun e => Fault.config (.badSchema e)
  let fields ← merge env useEnvironment fields
  Settings.ofFields fields

theorem gives_load (files : Files) (env : Environment) (path : Spelling) (useEnvironment : Bool) :
    Gives (load files env path useEnvironment) (outcome files env path useEnvironment) := by
  have hmade : ∀ fields : Fields, Gives (do
      let settings ← ofExcept (Settings.ofFields fields)
      Recorded.emit (loadedRecord (Path.tidy path) settings)
      pure settings) (Settings.ofFields fields) := fun fields =>
    (Gives.ofExcept _).keep fun s => .modify_bind _ (.pure s)
  refine (Gives.ofExcept _).bind fun v => (Gives.ofExcept _).bind fun fields => ?_
  cases useEnvironment with
  | true => exact (gives_applyEnvironment env fields).bind hmade
  | false => exact hmade fields

/-! ## The file -/

/-- The text in the file at a path is nested too deep to be read. -/
def NestsTooDeep (files : Files) (room : Nat) (path : Spelling) (nest : Nest) : Prop :=
  ∃ bytes cs, files.read path = .ok bytes ∧ Utf8.decode bytes = .ok cs ∧
    parseWithin room (uniformLines cs) = .error (.tooDeep nest)

/-- A file with the text of a plain value is nested too deep just where the value is. -/
theorem nestsTooDeep_line_iff {v : Value} (hv : v.Plain)
    (hread : files.read path = .ok (lineBytes v)) :
    (∃ nest, NestsTooDeep files room path nest) ↔ room < v.depth := by
  obtain ⟨hdecode, huniform⟩ := decode_lineBytes hv
  rw [← tooDeep_write_iff hv .oneLine room]
  constructor
  · rintro ⟨nest, bytes, cs, hread', hdecode', hdeep⟩
    cases hread.symm.trans hread'
    cases hdecode.symm.trans hdecode'
    rw [huniform] at hdeep
    exact ⟨nest, hdeep⟩
  · rintro ⟨nest, hdeep⟩
    exact ⟨nest, _, _, hread, hdecode, by rwa [huniform]⟩

theorem valueOfBytes_of_tooDeep {bytes : List UInt8} {cs : List Char}
    (hdecode : Utf8.decode bytes = .ok cs)
    (hparse : parseWithin room (uniformLines cs) = .error (.tooDeep nest)) :
    valueOfBytes room path bytes = .error (.tooDeep nest) := by
  simp only [valueOfBytes, hdecode, hparse]
  rfl

/-- Bytes that hold no value are told to be unreadable, unless they are nested too deep. -/
theorem of_valueOfBytes_eq_error {bytes : List UInt8} (h : valueOfBytes room path bytes = .error e) :
    e.IsConfig ∨ ∃ nest cs, e = .tooDeep nest ∧ Utf8.decode bytes = .ok cs ∧
      parseWithin room (uniformLines cs) = .error (.tooDeep nest) := by
  unfold valueOfBytes at h
  split at h
  · cases h
    exact .inl (Fault.isConfig_config _)
  · next cs hdecode =>
    cases hparse : parseWithin room (uniformLines cs) with
    | ok v => simp only [hparse] at h; cases h
    | error f =>
      simp only [hparse] at h
      cases f with
      | tooDeep nest =>
        cases h
        exact .inr ⟨nest, cs, rfl, hdecode, hparse⟩
      | _ =>
        cases h
        exact .inl (Fault.isConfig_config _)

/-- Why a file holds no value: it is told, or its path is refused, or it is nested too deep. -/
theorem of_readFile_eq_error (h : readFile files room path = .error e) :
    e.IsConfig ∨ files.isFile path = .error e ∨
      ∃ nest, e = .tooDeep nest ∧ NestsTooDeep files room path nest := by
  unfold readFile at h
  rcases of_bind_eq_error h with hfile | ⟨found, hfile, h⟩
  · exact .inr (.inl hfile)
  · cases found with
    | false =>
      cases h
      exact .inl (Fault.isConfig_config _)
    | true =>
      cases hread : files.read path with
      | error e' =>
        simp only [hread] at h
        cases h
        exact .inl (Fault.isConfig_config _)
      | ok bytes =>
        simp only [hread] at h
        rcases of_valueOfBytes_eq_error h with hconfig | ⟨nest, cs, rfl, hdecode, hparse⟩
        · exact .inl hconfig
        · exact .inr (.inr ⟨nest, rfl, bytes, cs, hread, hdecode, hparse⟩)

theorem readFile_of_isFile_eq_error (h : files.isFile path = .error e) :
    readFile files room path = .error e := by
  unfold readFile
  rw [h]
  rfl

theorem NestsTooDeep.readFile_eq (h : NestsTooDeep files room path nest) :
    readFile files room path = .error (.tooDeep nest) := by
  obtain ⟨bytes, cs, hread, hdecode, hparse⟩ := h
  rw [readFile_of_isFile (Files.isFile_of_read hread) hread, valueOfBytes_of_tooDeep hdecode hparse]

/-- The file at a path holds an object that passes the schema. -/
structure Holds (files : Files) (room : Nat) (path : Spelling) (raw : Fields) (version : Value) :
    Prop where
  read : readFile files room (Path.tidy path) = .ok (.obj raw)
  passes : Passes raw version

/-- What comes after the schema. -/
theorem Holds.outcome_eq (h : Holds files env.room path raw version) (useEnvironment : Bool) :
    outcome files env path useEnvironment =
      merge env useEnvironment (fill raw version) >>= Settings.ofFields := by
  have hvalid : validate (.obj raw) = .ok (fill raw version) :=
    validateFields_eq_ok_iff.mpr ⟨version, h.passes, rfl⟩
  unfold outcome
  rw [h.read]
  show ((validate (.obj raw)).mapError _ >>= _) = _
  rw [hvalid]
  rfl

theorem outcome_of_readFile_eq_error (h : readFile files env.room (Path.tidy path) = .error e) :
    outcome files env path useEnvironment = .error e := by
  unfold outcome
  rw [h]
  rfl

/-- Without such an object it is told what is wrong, unless the file cannot be read as a value. -/
theorem fails_or_holds (files : Files) (env : Environment) (path : Spelling)
    (useEnvironment : Bool) :
    (∃ e, outcome files env path useEnvironment = .error e ∧
      (e.IsConfig ∨ readFile files env.room (Path.tidy path) = .error e)) ∨
      ∃ raw version, Holds files env.room path raw version := by
  cases hread : readFile files env.room (Path.tidy path) with
  | error e => exact .inl ⟨e, outcome_of_readFile_eq_error hread, .inr rfl⟩
  | ok v =>
    cases hvalid : validate v with
    | error e =>
      refine .inl ⟨_, ?_, .inl (Fault.isConfig_config (.badSchema e))⟩
      unfold outcome
      rw [hread]
      show ((validate v).mapError _ >>= _) = _
      rw [hvalid]
      rfl
    | ok fields =>
      obtain ⟨raw, rfl⟩ : ∃ raw, v = .obj raw := by
        unfold validate at hvalid
        split at hvalid
        · exact ⟨_, rfl⟩
        · cases hvalid
      obtain ⟨version, hp, -⟩ := validateFields_eq_ok_iff.mp hvalid
      exact .inr ⟨raw, version, hread, hp⟩

/-- The outcome with the environment is that of the edited object. -/
theorem Holds.outcome_true (h : Holds files env.room path raw version) :
    outcome files env path true =
      overlay env overrides raw >>= fun raw' => Settings.ofFields (fill raw' version) := by
  rw [h.outcome_eq, merge, if_pos rfl, overlay_fill hasDefault_of_mem_overrides]
  cases overlay env overrides raw <;> rfl

theorem Holds.outcome_false (h : Holds files env.room path raw version) :
    outcome files env path false = Settings.ofFields (fill raw version) := by
  rw [h.outcome_eq]
  rfl

/-! ## Timeouts that are too large -/

/-- The file holds an object that passes the schema and gives a connect timeout too large to round;
the environment, where it is asked for, neither overrides that nor names an algorithm that is not
supported. -/
def Overflows (files : Files) (env : Environment) (path : Spelling) (useEnvironment : Bool) : Prop :=
  ∃ raw version, Holds files env.room path raw version ∧
    TooLarge (fieldOf raw "connect_timeout") ∧
    (useEnvironment = true → env.lookup timeoutVariable = none ∧
      ∀ name, env.lookup algorithmVariable = some name → ∃ a : Algorithm, name = .sound a.name)

theorem Holds.overflows_of_edits (h : Holds files env.room path raw version)
    (hedits : Edits overrides env raw raw') (halgorithm : NamesAlgorithm (fieldOf raw' "algorithm"))
    (hn : TooLarge (fieldOf raw' "connect_timeout")) : Overflows files env path true := by
  obtain ⟨hunset, hn⟩ := hedits.tooLarge_iff.mp hn
  refine ⟨raw, version, h, hn, fun _ => ⟨hunset, fun name hset => ?_⟩⟩
  rw [hedits.namesAlgorithm_iff, hset] at halgorithm
  exact halgorithm

theorem outcome_of_overflows (h : Overflows files env path useEnvironment) :
    outcome files env path useEnvironment = .error .wholeTooLarge := by
  obtain ⟨raw, version, hholds, hn, henv⟩ := h
  have hoverflow : ∀ raw', NamesAlgorithm (fieldOf raw' "algorithm") →
      TooLarge (fieldOf raw' "connect_timeout") →
      Settings.ofFields (fill raw' version) = .error .wholeTooLarge := by
    intro raw' halgorithm hn
    refine Settings.ofFields_of_tooLarge ?_ ?_
    · rwa [fieldOf_fill (by decide)]
    · rwa [fieldOf_fill (by decide)]
  cases useEnvironment with
  | false => exact hholds.outcome_false.trans (hoverflow raw hholds.passes.algorithm hn)
  | true =>
    obtain ⟨hunset, hnames⟩ := henv rfl
    have hvalues := values_iff.mpr fun text hset => nomatch hunset.symm.trans hset
    obtain ⟨raw', hraw'⟩ := exists_overlay hvalues raw
    have hedits := edits_of_overlay nodup_overrides hraw'
    have halgorithm : NamesAlgorithm (fieldOf raw' "algorithm") := by
      rw [hedits.namesAlgorithm_iff]
      cases hset : env.lookup algorithmVariable with
      | none => exact hholds.passes.algorithm
      | some name => exact hnames name hset
    rw [hholds.outcome_true, hraw']
    exact hoverflow raw' halgorithm (hedits.tooLarge_iff.mpr ⟨hunset, hn⟩)

/-- Every other fault tells what is wrong, or is that of reading the file. -/
theorem of_outcome_eq_error (h : ¬ Overflows files env path useEnvironment)
    (herror : outcome files env path useEnvironment = .error e) :
    e.IsConfig ∨ readFile files env.room (Path.tidy path) = .error e := by
  rcases fails_or_holds files env path useEnvironment with ⟨e', he', htold⟩ | ⟨raw, version, hholds⟩
  · cases he'.symm.trans herror
    exact htold
  · have hmade : ∀ raw', WellShaped raw' →
        (NamesAlgorithm (fieldOf raw' "algorithm") → ¬ TooLarge (fieldOf raw' "connect_timeout")) →
        Fails Fault.IsConfig (Settings.ofFields (fill raw' version)) := by
      intro raw' hshape hno
      rcases Settings.isConfig_or_tooLarge ((wellShaped_fill_iff raw' version).mpr hshape) with
        hconfig | ⟨halgorithm, hn⟩
      · exact hconfig
      · rw [fieldOf_fill (by decide)] at halgorithm hn
        exact absurd hn (hno halgorithm)
    refine .inl ?_
    cases useEnvironment with
    | false =>
      rw [hholds.outcome_false] at herror
      exact hmade raw hholds.passes.shaped (fun _ hn => h ⟨raw, version, hholds, hn, nofun⟩) e herror
    | true =>
      rw [hholds.outcome_true] at herror
      rcases of_bind_eq_error herror with hraw' | ⟨raw', hraw', herror⟩
      · exact isConfig_overlay env overrides raw e hraw'
      · have hedits := edits_of_overlay nodup_overrides hraw'
        refine hmade raw' (hedits.wellShaped hholds.passes.shaped) (fun halgorithm hn => ?_) e herror
        exact h (hholds.overflows_of_edits hedits halgorithm hn)

/-! ## Failing otherwise -/

/-- Loading fails with a fault that does not tell what is wrong with the configuration. -/
inductive FailsOtherwise (files : Files) (env : Environment) (path : Spelling)
    (useEnvironment : Bool) : Fault → Prop
  | tooLarge (h : Overflows files env path useEnvironment) :
    FailsOtherwise files env path useEnvironment .wholeTooLarge
  | refused {cause : FileCause} (hfits : Files.Fits (Path.tidy path))
    (h : files.Refuses (Path.tidy path) cause) :
    FailsOtherwise files env path useEnvironment (.file ⟨cause, Path.tidy path⟩)
  | tooDeep {nest : Nest} (h : NestsTooDeep files env.room (Path.tidy path) nest) :
    FailsOtherwise files env path useEnvironment (.tooDeep nest)

theorem FailsOtherwise.outcome_eq (h : FailsOtherwise files env path useEnvironment e) :
    outcome files env path useEnvironment = .error e := by
  cases h with
  | tooLarge h => exact outcome_of_overflows h
  | refused hfits h =>
    refine outcome_of_readFile_eq_error (readFile_of_isFile_eq_error ?_)
    exact Files.isFile_eq_error_iff.mpr ⟨hfits, _, h, rfl⟩
  | tooDeep h => exact outcome_of_readFile_eq_error h.readFile_eq

theorem isConfig_or_failsOtherwise (h : outcome files env path useEnvironment = .error e) :
    e.IsConfig ∨ FailsOtherwise files env path useEnvironment e := by
  by_cases ho : Overflows files env path useEnvironment
  · cases (outcome_of_overflows ho).symm.trans h
    exact .inr (.tooLarge ho)
  · rcases of_outcome_eq_error ho h with hconfig | hread
    · exact .inl hconfig
    · rcases of_readFile_eq_error hread with hconfig | hfile | ⟨nest, rfl, hnest⟩
      · exact .inl hconfig
      · obtain ⟨hfits, cause, hcause, rfl⟩ := Files.isFile_eq_error_iff.mp hfile
        exact .inr (.refused hfits hcause)
      · exact .inr (.tooDeep hnest)

/-- An object that is valid but for its connect timeout, a one with 309 zeros. -/
def oversized : Fields := [(versionField, .int 1), ("connect_timeout", .int (tenTo 309))]

theorem plain_oversized : (Value.obj oversized).Plain := plain_obj (by decide) (by decide +kernel)

theorem passes_oversized : Passes oversized (.int 1) where
  given := rfl
  isVersion := rfl
  known := .inr (forall_isKnown_iff.mpr (by decide))
  shaped := by decide
  algorithm := ⟨.tls, rfl⟩

end PeerCheck.Config
