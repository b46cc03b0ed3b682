import PeerCheck.Proofs.Config.Outcome

/-!
# Overriding is editing

Loading a valid file with the environment comes to what loading the edited file without it comes to
(`load_overridden`): the same settings, or a failure of the same kind. So what the environment puts
in is checked as strictly as what the file says, though it is checked elsewhere.
-/

namespace PeerCheck.Config

open PeerCheck.Json PeerCheck.Number PeerCheck.Log PeerCheck.Text

variable {files files' : Files} {env env' : Environment} {path path' : Spelling}
  {raw raw' fields : Fields} {version v : Value} {s : Settings}

/-- Both come to the same settings, or both fail in the same way: because of the configuration, or
of a number that is too large. -/
inductive SameOutcome : Except Fault Settings → Except Fault Settings → Prop
  | made (s : Settings) : SameOutcome (.ok s) (.ok s)
  | refused (c c' : ConfigFault) : SameOutcome (.error (.config c)) (.error (.config c'))
  | tooLarge : SameOutcome (.error .wholeTooLarge) (.error .wholeTooLarge)

/-- Fields that have their shapes fail in one of the two ways, if they do. -/
theorem SameOutcome.of_wellShaped (h : WellShaped fields) :
    SameOutcome (Settings.ofFields fields) (Settings.ofFields fields) := by
  rcases Settings.isConfig_or_tooLarge h with hconfig | ⟨halgorithm, hn⟩
  · cases hs : Settings.ofFields fields with
    | ok s => exact .made s
    | error e =>
      obtain ⟨c, rfl⟩ := hconfig e hs
      exact .refused c c
  · rw [Settings.ofFields_of_tooLarge halgorithm hn]
    exact .tooLarge

/-- What loading with the environment makes of the object is what the settings make of the edited
one. -/
theorem Holds.outcome_of_edits (h : Holds files env.room path raw version)
    (hedits : Edits overrides env raw raw') :
    outcome files env path true = Settings.ofFields (fill raw' version) := by
  have hvalues : ∀ o ∈ overrides, ∀ text, env.lookup o.name = some text →
      ∃ v, o.value text = .ok v := by
    intro o ho text hset
    obtain ⟨v, hv, -⟩ := hedits.exists_value ho hset
    exact ⟨v, hv⟩
  obtain ⟨raw'', hraw''⟩ := exists_overlay hvalues raw
  have hsame := (edits_of_overlay nodup_overrides hraw'').unique hedits
  rw [h.outcome_true, hraw'']
  exact congrArg Settings.ofFields (fill_congr hsame version)

/-- The edited object in a file of its own comes to the same. -/
theorem Holds.sameOutcome (h : Holds files env.room path raw version)
    (hedits : Edits overrides env raw raw')
    (hread : readFile files' env'.room (Path.tidy path') = .ok (.obj raw')) :
    SameOutcome (outcome files env path true) (outcome files' env' path' false) := by
  rw [h.outcome_of_edits hedits]
  by_cases halgorithm : NamesAlgorithm (fieldOf raw' "algorithm")
  · have h' : Holds files' env'.room path' raw' version := ⟨hread, hedits.passes h.passes halgorithm⟩
    rw [h'.outcome_false]
    exact .of_wellShaped ((wellShaped_fill_iff raw' version).mpr h'.passes.shaped)
  · -- the schema refuses the edited file, and the settings refuse the override
    have hoverride : ¬ NamesAlgorithm (fieldOf (fill raw' version) "algorithm") := by
      rwa [fieldOf_fill (by decide)]
    obtain ⟨c, hc⟩ := Settings.ofFields_of_not_namesAlgorithm hoverride
    rcases fails_or_holds files' env' path' false with ⟨e, he, hfault⟩ | ⟨raw'', version', h'⟩
    · obtain ⟨c', rfl⟩ := hfault.resolve_right fun hfault => nomatch hread.symm.trans hfault
      rw [hc, he]
      exact .refused c c'
    · cases hread.symm.trans h'.read
      exact absurd h'.passes.algorithm halgorithm

/-- A timeout that is no number is refused. -/
theorem Holds.outcome_of_badTimeout (h : Holds files env.room path raw version) {text : Spelling}
    (hset : env.lookup timeoutVariable = some text) (hbad : floatIn? text = none) :
    ∃ c, outcome files env path true = .error (.config c) := by
  rw [h.outcome_true]
  cases hraw' : overlay env overrides raw with
  | error e =>
    obtain ⟨c, rfl⟩ := isConfig_overlay env overrides raw e hraw'
    exact ⟨c, rfl⟩
  | ok raw' =>
    have hvalues := values_iff.mp fun o ho text' hset' =>
      let ⟨v, hv, _⟩ := (edits_of_overlay nodup_overrides hraw').exists_value ho hset'
      ⟨v, hv⟩
    have hsome := hvalues text hset
    rw [hbad] at hsome
    cases hsome

/-! ## Variables and fields that do not matter -/

/-- Only the variables with an override are looked up. -/
theorem applyEnvironment_congr (h : ∀ o ∈ overrides, env'.lookup o.name = env.lookup o.name)
    (raw : Fields) : applyEnvironment env' raw = applyEnvironment env raw := by
  have hfold : ∀ os ⊆ overrides, ∀ merged,
      os.foldlM (fun merged o => o.apply env' raw merged) merged =
        os.foldlM (fun merged o => o.apply env raw merged) merged := by
    intro os
    induction os with
    | nil => exact fun _ _ => rfl
    | cons o os ih =>
      intro hos merged
      obtain ⟨ho, hos⟩ := List.cons_subset.mp hos
      have happly : o.apply env' raw merged = o.apply env raw merged := by
        unfold Override.apply
        rw [h o ho]
      rw [List.foldlM_cons, List.foldlM_cons, happly]
      exact congrArg _ (funext (ih hos))
  exact hfold overrides (List.Subset.refl overrides) raw

theorem load_congr (h : ∀ o ∈ overrides, env'.lookup o.name = env.lookup o.name)
    (hroom : env'.room = env.room) (files : Files) (path : Spelling) (useEnvironment : Bool) :
    load files env' path useEnvironment = load files env path useEnvironment := by
  simp only [load, applyEnvironment_congr h, hroom]

/-- Settings whose fields have no variable are what the file says. -/
theorem Holds.settings_kept (h : Holds files env.room path raw version)
    (hs : outcome files env path true = .ok s) :
    s = { Settings.made raw s.algorithm s.connectTimeout with
      raw := s.raw
      keystorePassword := s.keystorePassword
      truststorePassword := s.truststorePassword } := by
  rw [h.outcome_true] at hs
  obtain ⟨raw', hraw', hs⟩ := exists_of_bind_eq_ok hs
  have hedits := edits_of_overlay nodup_overrides hraw'
  have hkept : ∀ key, (∀ o ∈ overrides, o.field ≠ key) → fieldOf raw' key = fieldOf raw key :=
    fun key hkey => fieldOf_eq_of_get?_eq (hedits.kept_of_forall_ne hkey)
  have hversion : raw'.get? versionField = raw.get? versionField :=
    hedits.kept_of_forall_ne (by decide)
  have hmade := Settings.eq_made_of_ofFields hs
  rw [Settings.made_fill (hversion.trans h.passes.given)] at hmade
  rw [hmade]
  simp (disch := decide) only [Settings.made, hkept, Fields.getD, hversion]

/-! ## Loading -/

/-- Loading a valid file with the environment. A timeout that is no number is refused; otherwise the
outcome is that of loading the edited file without it, wherever that lies. Variables without an
override do not matter, and fields without one are what the file says. -/
theorem load_overridden (hread : readFile files env.room (Path.tidy path) = .ok (.obj raw))
    (hvalid : validateFields raw = .ok fields) (t : List Record) :
    let r := ((load files env path true).run t).1
    (∀ text, env.lookup timeoutVariable = some text → floatIn? text = none →
      ∃ c, r = .error (.config c)) ∧
    ((∀ text, env.lookup timeoutVariable = some text → (floatIn? text).isSome) →
      (∃ raw', Edits overrides env raw raw') ∧
      ∀ raw', Edits overrides env raw raw' → ∀ files' env' path' t',
        readFile files' env'.room (Path.tidy path') = .ok (.obj raw') →
        SameOutcome r ((load files' env' path' false).run t').1) ∧
    (∀ env', (∀ o ∈ overrides, env'.lookup o.name = env.lookup o.name) → env'.room = env.room →
      load files env' path true = load files env path true) ∧
    (∀ s, r = .ok s →
      s = { Settings.made raw s.algorithm s.connectTimeout with
        raw := s.raw
        keystorePassword := s.keystorePassword
        truststorePassword := s.truststorePassword }) := by
  intro r
  have hr : r = outcome files env path true := gives_load files env path true t
  obtain ⟨version, hp, -⟩ := validateFields_eq_ok_iff.mp hvalid
  have h : Holds files env.room path raw version := ⟨hread, hp⟩
  refine ⟨fun text hset hbad => ?_, fun hfloat => ⟨?_, ?_⟩, ?_, fun s hs => ?_⟩
  · rw [hr]
    exact h.outcome_of_badTimeout hset hbad
  · obtain ⟨raw', hraw'⟩ := exists_overlay (values_iff.mpr hfloat) raw
    exact ⟨raw', edits_of_overlay nodup_overrides hraw'⟩
  · intro raw' hedits files' env' path' t' hread'
    rw [hr, gives_load files' env' path' false t']
    exact h.sameOutcome hedits hread'
  · exact fun env' henv hroom => load_congr henv hroom files path true
  · exact h.settings_kept (hr.symm.trans hs)

def truststoreFields : Fields := [(versionField, .int 1), ("truststore_path", .str "ca.p12")]

def truststoreEnvironment : Environment where
  bindings := [(algorithmVariable, "TLSv1.3"), ("TLSGUARD_TRUSTSTORE_PASSWORD", "secret")]

def editedFields : Fields :=
  truststoreFields ++ [("algorithm", .str "TLSv1.3"), ("truststore_password", .str "secret")]

theorem truststore_overridden :
    let files := rcFiles (lineBytes (.obj truststoreFields))
    let files' := rcFiles (lineBytes (.obj editedFields))
    SameOutcome ((load files truststoreEnvironment "rc" true).run []).1
      ((load files' {} "rc" false).run []).1 := by
  have hpasses : Passes truststoreFields (.int 1) :=
    ⟨rfl, rfl, .inr (forall_isKnown_iff.mpr (by decide)), by decide, ⟨.tls, rfl⟩⟩
  have hvalid : validateFields truststoreFields = .ok _ :=
    validateFields_eq_ok_iff.mpr ⟨.int 1, hpasses, rfl⟩
  have hedits : Edits overrides truststoreEnvironment truststoreFields editedFields :=
    edits_of_overlay nodup_overrides rfl
  have hplain : (Value.obj truststoreFields).Plain := plain_obj (by decide) (by decide +kernel)
  have hplain' : (Value.obj editedFields).Plain := plain_obj (by decide) (by decide +kernel)
  exact ((load_overridden (readFile_rcFiles hplain (by decide)) hvalid []).2.1 (by decide)).2
    editedFields hedits _ _ _ _ (readFile_rcFiles hplain' (by decide))

end PeerCheck.Config
