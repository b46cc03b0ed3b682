import PeerCheck.Proofs.Config.Secrecy
import PeerCheck.Proofs.Tls.StoreFault

/-!
# Passwords of stores stay secret

Where the files and the TLS library answer alike, settings that differ in the texts of their
passwords only come to the same context, or to the same fault, with the same records. With what
loading a configuration comes to, no message and no record tells passwords apart
(`passwords_stay_secret`), but for one: where a password has surrogates and is to open a bundle, the
message says where it is broken (`Tells`).
-/

namespace PeerCheck.Tls

open PeerCheck.Config PeerCheck.Json PeerCheck.Log PeerCheck.Number PeerCheck.Text

/-- Two bundles of the same content. -/
structure BundlesAlike (b b' : Bundle) : Prop where
  key : b.key = b'.key
  certificate : b.certificate = b'.certificate
  further : b.further = b'.further

/-- What is opened under either password is of the same content, or the same fault. -/
def OpensAlike (l l' : Library) (password password' : Value) : Prop :=
  ∀ bytes secret secret', bundlePassword password = .ok secret →
    bundlePassword password' = .ok secret' →
    Agree BundlesAlike (l.opened bytes secret) (l'.opened bytes secret')

/-- The files, and the TLS library under the passwords of two settings, answer alike. -/
structure StoresAlike (w w' : World) (s s' : Settings) : Prop where
  read : ∀ path, w.out.files.read path = w'.out.files.read path
  isFolder : ∀ path, w.out.files.isFolder path = w'.out.files.isFolder path
  faults : ∀ m, w.library.faults.lookup m = w'.library.faults.lookup m
  exportFault : w.library.exportFault = w'.library.exportFault
  temporaryFault : w.library.temporaryFault = w'.library.temporaryFault
  keystore : OpensAlike w.library w'.library s.keystorePassword s'.keystorePassword
  truststore : OpensAlike w.library w'.library s.truststorePassword s'.truststorePassword

/-- A password that cannot be encoded is to open the bundle at a path, which can be read. -/
inductive Tells (w : World) (s : Settings) : Spelling → EncodeFault → Prop
  | trust {path : Spelling} {bytes : List UInt8} {b : Broken}
    (hpath : s.truststorePath = .ofText path) (hfolder : w.out.files.isFolder path = false)
    (hend : EndsAsBundle path) (hread : w.out.files.read (Path.tidy path) = .ok bytes)
    (hpassword : s.truststorePassword = .broken b) : Tells w s path b.fault
  | key {path : Spelling} {bytes : List UInt8} {b : Broken} (hbundle : TakesBundle w s path)
    (hread : w.out.files.read (Path.tidy path) = .ok bytes)
    (hpassword : s.keystorePassword = .broken b) : Tells w s path b.fault

variable {w w' : World} {s s' : Settings} {path : Spelling} {v v' : Value} {b b' : Bundle}
  {f : EncodeFault}

/-! ## The loaders -/

theorem BundlesAlike.certificates_eq (h : BundlesAlike b b') :
    b.certificates = b'.certificates := by
  rw [Bundle.certificates, Bundle.certificates, h.certificate, h.further]

def Encodes (v : Value) : Prop := ∀ b, v ≠ .broken b

theorem agree_bundlePassword (h : ValuesAlike v v') (hv : Encodes v) (hv' : Encodes v') :
    Agree (fun secret secret' => bundlePassword v = .ok secret ∧ bundlePassword v' = .ok secret')
      (bundlePassword v) (bundlePassword v') := by
  obtain rfl | ⟨t, t', rfl, rfl, ht⟩ := h
  · cases hp : bundlePassword v with
    | ok secret => exact .ok ⟨rfl, rfl⟩
    | error e => exact .error e
  · have hok : ∀ t, Encodes (.ofText t) → ∃ secret, bundlePassword (.ofText t) = .ok secret := by
      intro t h
      cases t with
      | sound t =>
        show ∃ secret, bundlePassword (.str t) = .ok secret
        unfold bundlePassword
        split <;> exact ⟨_, rfl⟩
      | broken b => exact absurd rfl (h b)
    obtain ⟨secret, hsecret⟩ := hok t hv
    obtain ⟨secret', hsecret'⟩ := hok t' hv'
    rw [hsecret, hsecret']
    exact .ok ⟨rfl, rfl⟩

/-- What is opened is of the same content, and opened under passwords that can be encoded. -/
theorem agree_bundleAt (h : StoresAlike w w' s s') (halike : ValuesAlike v v')
    (hopens : OpensAlike w.library w'.library v v')
    (hencodes : ∀ bytes, w.out.files.read (Path.tidy path) = .ok bytes → Encodes v ∧ Encodes v') :
    Agree (fun b b' => BundlesAlike b b' ∧ Encodes v ∧ Encodes v') (w.bundleAt path v)
      (w'.bundleAt path v') := by
  unfold World.bundleAt reworded
  refine Agree.mapError _ ?_
  rw [← h.read]
  cases hread : w.out.files.read (Path.tidy path) with
  | error e => exact .error e
  | ok bytes =>
    obtain ⟨hv, hv'⟩ := hencodes bytes hread
    show Agree _ (bundlePassword v >>= _) (bundlePassword v' >>= _)
    refine (agree_bundlePassword halike hv hv').bind ?_
    rintro secret secret' ⟨hsecret, hsecret'⟩
    exact (hopens bytes secret secret' hsecret hsecret').imp fun _ _ hb => ⟨hb, hv, hv'⟩

theorem isFolderPath_congr {fs fs' : Files} (h : ∀ path, fs.isFolder path = fs'.isFolder path)
    (v : Value) : isFolderPath fs v = isFolderPath fs' v := by
  cases v with
  | str path => exact congrArg Except.ok (h path)
  | broken b => exact congrArg Except.ok (h (.broken b))
  | _ => rfl

theorem rootsAt_eq (h : StoresAlike w w' s s') (hs : SettingsAlike s s')
    (hw : ∀ path f, ¬ Tells w s path f) (hw' : ∀ path f, ¬ Tells w' s' path f) :
    w.rootsAt s.truststorePath s.truststorePassword =
      w'.rootsAt s'.truststorePath s'.truststorePassword := by
  have hpath : s'.truststorePath = s.truststorePath := by rw [hs.shown]
  have hfolders := isFolderPath_congr h.isFolder s.truststorePath
  rw [hpath]
  refine Agree.eq ?_
  unfold World.rootsAt
  cases hfolder : isFolderPath w.out.files s.truststorePath with
  | error e =>
    rw [← hfolders, hfolder]
    exact .error e
  | ok folder =>
    rw [← hfolders, hfolder]
    cases folder with
    | true => exact .of_eq rfl
    | false =>
      cases htext : textPath s.truststorePath with
      | error e => exact .error e
      | ok text =>
        have htrust := textPath_eq_ok_iff.mp htext
        rw [htrust, isFolderPath_ofText] at hfolder
        have hfolder := Except.ok.inj hfolder
        show Agree Eq (if isBundlePath text then _ else _) (if isBundlePath text then _ else _)
        split
        · next hbundle =>
          have hend := (isBundlePath_iff text).mp hbundle
          refine (agree_bundleAt h hs.truststore h.truststore fun bytes hread => ?_).bind ?_
          · refine ⟨fun b hb => hw _ _ (.trust htrust hfolder hend hread hb), fun b hb => ?_⟩
            exact hw' _ _ (.trust (hpath.trans htrust) ((h.isFolder text).symm.trans hfolder) hend
              ((h.read _).symm.trans hread) hb)
          · rintro b b' ⟨hb, -⟩
            rw [hb.certificates_eq]
            exact .of_eq rfl
        · exact .of_eq rfl

theorem roots_eq (h : StoresAlike w w' s s') (hs : SettingsAlike s s')
    (hw : ∀ path f, ¬ Tells w s path f) (hw' : ∀ path f, ¬ Tells w' s' path f) :
    w.roots s = w'.roots s' := by
  have hpath : s.truststorePath = s'.truststorePath := by rw [hs.shown]
  have hanswer : ∀ c, w.library.answer c = w'.library.answer c := fun c => by
    rw [Library.answer, Library.answer, h.faults]
  unfold World.roots
  rw [rootsAt_eq h hs hw hw', hpath]
  simp only [hanswer]

theorem agree_chainOf (h : StoresAlike w w' s s') (halike : ValuesAlike v v')
    (hb : BundlesAlike b b') (hv : Encodes v) (hv' : Encodes v') (path : Spelling) :
    Agree (fun _ _ => True) (w.chainOf path v b) (w'.chainOf path v' b') := by
  unfold World.chainOf
  rw [hb.key, hb.certificate, h.exportFault]
  split
  · exact (agree_bundlePassword halike hv hv').bind fun _ _ _ =>
      .bind_of_eq rfl fun _ => .ok trivial
  · exact .error _

theorem chain_eq (h : StoresAlike w w' s s') (hs : SettingsAlike s s')
    (hw : ∀ path f, ¬ Tells w s path f) (hw' : ∀ path f, ¬ Tells w' s' path f)
    (hroots : w.roots s = .ok ()) (hroots' : w'.roots s' = .ok ()) : w.chain s = w'.chain s' := by
  have hpath : s'.keystorePath = s.keystorePath := by rw [hs.shown]
  have hkeyfile : s'.keyfilePath = s.keyfilePath := by rw [hs.shown]
  -- how a context answers depends on the kind of the call only
  have hanswer : ∀ source source' password password',
      w.library.answer (.loadChain source password) =
        w'.library.answer (.loadChain source' password') := fun source source' p p' => by
    rw [Library.answer, Library.answer, h.faults]
    rfl
  unfold World.chain
  rw [hpath, hkeyfile]
  split
  · cases htext : textPath s.keystorePath with
    | error e => rfl
    | ok path =>
      have hkey := textPath_eq_ok_iff.mp htext
      refine Agree.eq ?_
      show Agree Eq (if isBundlePath path then _ else _) (if isBundlePath path then _ else _)
      split
      · next hbundle =>
        have hend := (isBundlePath_iff path).mp hbundle
        have hchain : Agree (fun _ _ => True) (w.chainAt path s.keystorePassword)
            (w'.chainAt path s'.keystorePassword) := by
          refine (agree_bundleAt h hs.keystore h.keystore fun bytes hread => ?_).bind ?_
          · refine ⟨fun b hb => hw _ _ (.key ⟨hroots, hkey, hend⟩ hread hb), fun b hb => ?_⟩
            exact hw' _ _ (.key ⟨hroots', hpath.trans hkey, hend⟩ ((h.read _).symm.trans hread) hb)
          · rintro b b' ⟨hb, hv, hv'⟩
            exact agree_chainOf h hs.keystore hb hv hv' path
        refine hchain.bind fun content content' _ => .of_eq ?_
        unfold World.temporaryAnswer
        rw [h.temporaryFault, hanswer _ (.temporary content') _ (orNull s'.keystorePassword)]
      · refine .of_eq ?_
        rw [hanswer _ (.file s.keystorePath (orNull s.keyfilePath)) _ (orNull s'.keystorePassword)]
  · rfl

theorem stores_eq (h : StoresAlike w w' s s') (hs : SettingsAlike s s')
    (hw : ∀ path f, ¬ Tells w s path f) (hw' : ∀ path f, ¬ Tells w' s' path f) :
    w.stores s = w'.stores s' := by
  have hsame := roots_eq h hs hw hw'
  unfold World.stores
  cases hroots : w.roots s with
  | error e =>
    rw [← hsame, hroots]
    rfl
  | ok u =>
    rw [← hsame, hroots]
    exact chain_eq h hs hw hw' hroots (hsame.symm.trans hroots)

theorem unopened_of_broken {bytes : List UInt8} {b : Broken}
    (hread : w.out.files.read (Path.tidy path) = .ok bytes) :
    Unopened w path (.broken b) (.unencodable b.fault) := .inr ⟨bytes, hread, .inl rfl⟩

/-- The bundle is reported with what is wrong with its password. -/
theorem createContext_of_tells (h : Tells w s path f) :
    ((createContext (some s)).run w).1 = .error (.context (.bundle path.shown f.message)) := by
  cases h with
  | trust hpath hfolder hend hread hpassword =>
    have hbreaks : Breaks w s .trust .opening path _ :=
      .trustOpening hpath hfolder hend (hpassword ▸ unopened_of_broken hread)
    exact createContext_of_stores_error (stores_of_breaks hbreaks)
  | key hbundle hread hpassword =>
    have hbreaks : Breaks w s .key .opening path _ :=
      .keyOpening hbundle (hpassword ▸ unopened_of_broken hread)
    exact createContext_of_stores_error (stores_of_breaks hbreaks)

/-! ## Contexts -/

def RunsAlike {α : Type} (w w' : World) (m m' : Act α) : Prop :=
  (m.run w).1 = (m'.run w').1 ∧
    ∃ es es', (m.run w).2.trail = w.trail ++ es ∧ (m'.run w').2.trail = w'.trail ++ es' ∧
      es.filterMap Event.record? = es'.filterMap Event.record?

theorem contextRecord_eq (hs : SettingsAlike s s') (algorithm : Option String) :
    contextRecord algorithm s = contextRecord algorithm s' := by
  rw [hs.shown]
  rfl

theorem filterMap_record?_calls (cs : List Call) :
    (cs.map Event.call).filterMap Event.record? = [] := by
  rw [List.filterMap_map, List.filterMap_eq_nil_iff]
  exact fun _ _ => rfl

theorem runsAlike_createContext (h : StoresAlike w w' s s') (hs : SettingsAlike s s')
    (hw : ∀ path f, ¬ Tells w s path f) (hw' : ∀ path f, ¬ Tells w' s' path f) :
    RunsAlike w w' (createContext (some s)) (createContext (some s')) := by
  obtain ⟨cs, -, hrun⟩ := run_createContext w s
  obtain ⟨cs', -, hrun'⟩ := run_createContext w' s'
  have halgorithm : s.algorithm = s'.algorithm := by rw [hs.shown]
  rw [stores_eq h hs hw hw', contextRecord_eq hs, halgorithm] at hrun
  cases hstores : w'.stores s' with
  | error e =>
    rw [hstores] at hrun hrun'
    rw [RunsAlike, hrun, hrun']
    refine ⟨rfl, cs.map .call, cs'.map .call, rfl, rfl, ?_⟩
    rw [filterMap_record?_calls, filterMap_record?_calls]
  | ok u =>
    let r := contextRecord (some s'.algorithm.name) s'
    rw [hstores] at hrun hrun'
    rw [RunsAlike, hrun, hrun']
    refine ⟨rfl, cs.map .call ++ [.record r], cs'.map .call ++ [.record r], ?_, ?_, ?_⟩
    · exact List.append_assoc w.trail (cs.map .call) [.record r]
    · exact List.append_assoc w'.trail (cs'.map .call) [.record r]
    · rw [List.filterMap_append, List.filterMap_append, filterMap_record?_calls,
        filterMap_record?_calls]

/-! ## Loading, and then making a context -/

/-- Configurations that differ in the texts of passwords only, in the file or in the environment,
are loaded with the same records, and to the same fault or to settings that differ in those texts
only. The fault is one of the configuration, except just where loading fails otherwise. Making the
context for the settings then comes to the same, and leaves the same records, if the files and the
TLS library answer alike and neither run is one that tells of a password; what such a run tells is
where the password cannot be encoded. -/
theorem passwords_stay_secret {files files' : Files} {env env' : Environment} {path : Spelling}
    (hfile : Agree FilesAlike (readFile files env.room (Path.tidy path))
      (readFile files' env'.room (Path.tidy path)))
    (henv : EnvironmentsAlike env env') (useEnvironment : Bool) (t t' : List Record) :
    let first := (load files env path useEnvironment).run t
    let second := (load files' env' path useEnvironment).run t'
    (∃ records, first.2 = t ++ records ∧ second.2 = t' ++ records) ∧
      (∀ e, FailsOtherwise files env path useEnvironment e →
        first.1 = .error e ∧ second.1 = .error e) ∧
      ((∀ e, ¬ FailsOtherwise files env path useEnvironment e) →
        (∃ c, first.1 = .error (.config c) ∧ second.1 = .error (.config c)) ∨
        ∃ s s', first.1 = .ok s ∧ second.1 = .ok s' ∧ SettingsAlike s s' ∧
          ∀ w w', StoresAlike w w' s s' → (∀ path f, ¬ Tells w s path f) →
            (∀ path f, ¬ Tells w' s' path f) →
            RunsAlike w w' (createContext (some s)) (createContext (some s'))) ∧
      ∀ w s path f, Tells w s path f → ((createContext (some s)).run w).1 =
        .error (.context (.bundle path.shown f.message)) := by
  intro first second
  obtain ⟨records, ht, ht', hagree⟩ := abreast_load hfile henv useEnvironment t t'
  have houtcome : first.1 = outcome files env path useEnvironment :=
    gives_load files env path useEnvironment t
  refine ⟨⟨records, ht, ht'⟩, fun e h => ?_, fun h => ?_, fun _ _ _ _ => createContext_of_tells⟩
  · have hfirst := houtcome.trans h.outcome_eq
    exact ⟨hfirst, hagree.error_right hfirst⟩
  · cases hfirst : first.1 with
    | error e =>
      obtain ⟨c, rfl⟩ :=
        (isConfig_or_failsOtherwise (houtcome.symm.trans hfirst)).resolve_right (h e)
      exact .inl ⟨c, rfl, hagree.error_right hfirst⟩
    | ok s =>
      obtain ⟨s', hsecond, hsettings⟩ := hagree.ok_right hfirst
      exact .inr ⟨s, s', rfl, hsecond, hsettings, fun w w' h hw hw' =>
        runsAlike_createContext h hsettings hw hw'⟩

/-- A file with a trust store under a password, and a connect timeout that is too large. -/
def protectedFields (password : String) : Fields :=
  oversized ++ [("truststore_path", .str "ca.p12"), ("truststore_password", .str password)]

def protectedFiles (password : String) : Files :=
  rcFiles (lineBytes (.obj (protectedFields password)))

theorem fieldsAlike_protected {p p' : String} (h : TextsAlike p p') :
    FieldsAlike (protectedFields p) (protectedFields p') :=
  .cons ⟨rfl, .inl rfl⟩ (.cons ⟨rfl, .inl rfl⟩ (.cons ⟨rfl, .inl rfl⟩
    (.cons ⟨rfl, .inr ⟨.inr rfl, .inr ⟨.sound p, .sound p', rfl, rfl, h⟩⟩⟩ .nil)))

theorem readFile_protected (password : String) : readFile (protectedFiles password) 900
    (Path.tidy "rc") = .ok (.obj (protectedFields password)) := by
  have hover : ∀ f ∈ oversized, isScalar f.2 = true := by decide +kernel
  have hnames : (["schema_version", "connect_timeout", "truststore_path", "truststore_password"] :
    List String).Nodup := by decide
  have hroom : (Value.obj (protectedFields password)).depth ≤ 900 := Nat.le_add_left 1 899
  refine readFile_rcFiles (plain_obj hnames fun f hf => ?_) hroom
  rcases List.mem_append.mp hf with hf | hf
  · exact hover f hf
  · obtain rfl | rfl := List.mem_pair.mp hf <;> rfl

theorem overflows_protected : Overflows (protectedFiles "first") {} "rc" false := by
  have hpasses : Passes (protectedFields "first") (.int 1) :=
    ⟨rfl, rfl, .inr (forall_isKnown_iff.mpr (by decide)), by decide, ⟨.tls, rfl⟩⟩
  exact ⟨_, _, ⟨readFile_protected _, hpasses⟩,
    ⟨tenTo 309, rfl, by decide +kernel⟩, nofun⟩

theorem passwords_stay_secret_oversized :
    Agree FilesAlike (readFile (protectedFiles "first") 900 (Path.tidy "rc"))
        (readFile (protectedFiles "second") 900 (Path.tidy "rc")) ∧
      ((load (protectedFiles "first") {} "rc" false).run []).1 = .error .wholeTooLarge ∧
      ∃ records, ((load (protectedFiles "first") {} "rc" false).run []).2 = [] ++ records ∧
        ((load (protectedFiles "second") {} "rc" false).run []).2 = [] ++ records := by
  have hfile : Agree FilesAlike (readFile (protectedFiles "first") 900 (Path.tidy "rc"))
      (readFile (protectedFiles "second") 900 (Path.tidy "rc")) := by
    rw [readFile_protected, readFile_protected]
    exact .ok (.inr ⟨_, _, rfl, rfl, fieldsAlike_protected (by decide)⟩)
  have henv : EnvironmentsAlike {} {} := fun _ => .inl rfl
  obtain ⟨hrecords, hotherwise, -⟩ := passwords_stay_secret hfile henv false [] []
  exact ⟨hfile, (hotherwise _ (.tooLarge overflows_protected)).1, hrecords⟩

end PeerCheck.Tls
