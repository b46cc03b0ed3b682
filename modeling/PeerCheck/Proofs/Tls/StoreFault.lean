import PeerCheck.Proofs.Tls.Enforcement

/-!
# Stores that cannot be loaded

A store can fail while it is opened as a bundle, while its key is encoded for the temporary file,
and while it is handed to the context. It depends on the stage which faults are reported with the
path of the store: of those of the system and those of values, opening reports all, a handover
those of the system only, and encoding none (`store_faults_reported`).
-/

namespace PeerCheck.Tls

open PeerCheck.Config PeerCheck.Json PeerCheck.Session PeerCheck.Text

inductive Store
  | trust
  | key
  deriving DecidableEq, Repr

inductive Stage
  | opening
  | encoding
  | handover
  deriving DecidableEq, Repr

/-- The faults that are reported with the path of the store; others are passed on as they came. -/
def Stage.reports : Stage → Fault → Bool
  | opening => isStoreFault
  | encoding => fun _ => false
  | handover => Fault.isOs

namespace Store

def title : Store → Stage → String
  | _, .opening => "PKCS#12 store"
  | key, _ => "keystore"
  | trust, _ => "truststore"

def report : Store → Stage → Spelling → Fault → ContextFault
  | _, .opening, path, e => .bundle path.shown e.message
  | key, _, path, e => .keystore path.shown e.message
  | trust, _, path, e => .truststore path.shown e.message

theorem report_message (store : Store) (stage : Stage) (path : Spelling) (e : Fault) :
    (store.report stage path e).message =
      s!"Unable to load {store.title stage} '{path.shown}': {e.message}" := by
  cases store <;> cases stage <;> rfl

def met (store : Store) (stage : Stage) (path : Spelling) (e : Fault) : Fault :=
  if stage.reports e then .context (store.report stage path e) else e

end Store

/-! ## What breaks a store -/

/-- A bundle cannot be read from its file, or its password be encoded, or it cannot be opened under
that. -/
def Unopened (w : World) (path : Spelling) (password : Value) (e : Fault) : Prop :=
  w.out.files.read (Path.tidy path) = .error e ∨
    ∃ bytes, w.out.files.read (Path.tidy path) = .ok bytes ∧
      (bundlePassword password = .error e ∨
        ∃ secret, bundlePassword password = .ok secret ∧ w.library.opened bytes secret = .error e)

/-- A bundle opens under a password, and holds a key and its certificate. -/
def HoldsKey (w : World) (path : Spelling) (password : Value) : Prop :=
  ∃ b key certificate, Opens w path password b ∧ b.key = some key ∧
    b.certificate = some certificate

/-- The roots are loaded, and the key store at a path is a bundle. -/
structure TakesBundle (w : World) (s : Settings) (path : Spelling) : Prop where
  roots : w.roots s = .ok ()
  path_eq : s.keystorePath = .ofText path
  endsAsBundle : EndsAsBundle path

/-- A store fails at a stage, with a fault. The key store is loaded once the roots are. -/
inductive Breaks (w : World) (s : Settings) : Store → Stage → Spelling → Fault → Prop
  | trustOpening {path : Spelling} {e : Fault} (hpath : s.truststorePath = .ofText path)
      (hfolder : w.out.files.isFolder path = false) (hend : EndsAsBundle path)
      (hopen : Unopened w path s.truststorePassword e) : Breaks w s .trust .opening path e
  | trustHandover {path : Spelling} {e : Fault} {source : TrustSource}
      (hpath : s.truststorePath = .ofText path) (hset : path ≠ .sound "") (hsource : Denotes w s source)
      (hfault : w.library.faults.lookup .loadTrust = some e) : Breaks w s .trust .handover path e
  | keyOpening {path : Spelling} {e : Fault} (hbundle : TakesBundle w s path)
      (hopen : Unopened w path s.keystorePassword e) : Breaks w s .key .opening path e
  | keyEncoding {path : Spelling} {e : Fault} (hbundle : TakesBundle w s path)
      (hkey : HoldsKey w path s.keystorePassword) (hfault : w.library.exportFault = some e) :
      Breaks w s .key .encoding path e
  | temporaryFile {path : Spelling} {e : Fault} (hbundle : TakesBundle w s path)
      (hkey : HoldsKey w path s.keystorePassword) (hencoded : w.library.exportFault = none)
      (hfault : w.library.temporaryFault = some e) : Breaks w s .key .handover path e
  | keyHandover {path : Spelling} {e : Fault} (hbundle : TakesBundle w s path)
      (hkey : HoldsKey w path s.keystorePassword) (hencoded : w.library.exportFault = none)
      (hwritten : w.library.temporaryFault = none)
      (hfault : w.library.faults.lookup .loadChain = some e) : Breaks w s .key .handover path e
  | fileHandover {path : Spelling} {e : Fault} (hroots : w.roots s = .ok ())
      (hpath : s.keystorePath = .ofText path) (hset : path ≠ .sound "") (hend : ¬ EndsAsBundle path)
      (hfault : w.library.faults.lookup .loadChain = some e) : Breaks w s .key .handover path e

variable {w : World} {s : Settings} {path : Spelling} {password : Value} {e : Fault}
  {store : Store} {stage : Stage}

/-! ## Stores that break -/

theorem answer_eq_error_iff {c : ContextCall} :
    w.library.answer c = .error e ↔ w.library.faults.lookup c.method = some e :=
  refusal_eq_error_iff

theorem bundleAt_of_unopened (h : Unopened w path password e) (store : Store) :
    w.bundleAt path password = .error (store.met .opening path e) := by
  have hread : (do
      let bytes ← w.out.files.read (Path.tidy path)
      let secret ← bundlePassword password
      w.library.opened bytes secret) = .error e := by
    obtain hread | ⟨bytes, hread, hpassword | ⟨secret, hsecret, hopen⟩⟩ := h
    · rw [hread]
      rfl
    · rw [hread]
      show (bundlePassword password >>= _) = _
      rw [hpassword]
      rfl
    · rw [hread]
      show (bundlePassword password >>= _) = _
      rw [hsecret]
      exact hopen
  rw [World.bundleAt, hread]
  rfl

/-- What was met with a bundle that cannot be opened is no fault of the system any more. -/
theorem isOs_met_opening (store : Store) : (store.met .opening path e).isOs = false := by
  unfold Store.met Stage.reports
  split
  · rfl
  · next h => exact (Bool.or_eq_false_iff.mp (Bool.eq_false_of_not_eq_true h)).1

theorem isBundlePath_eq_false_iff : isBundlePath path = false ↔ ¬ EndsAsBundle path := by
  rw [← isBundlePath_iff, Bool.not_eq_true]

theorem rootsAt_of_denotes {source : TrustSource} (h : Denotes w s source) :
    w.rootsAt s.truststorePath s.truststorePassword = .ok source := by
  cases h with
  | folder hpath hfolder =>
    rw [hpath, World.rootsAt, isFolderPath_ofText, hfolder]
    rfl
  | bundle hpath hfolder hend hopen hsome =>
    rw [hpath, rootsAt_of_endsAsBundle hfolder hend, bundleAt_eq_ok_iff.mpr hopen]
    exact if_neg fun h => hsome (List.isEmpty_iff.mp h)
  | @file path hpath hfolder hend =>
    rw [hpath, World.rootsAt, isFolderPath_ofText, hfolder, textPath_ofText]
    show (if isBundlePath path then _ else _) = _
    rw [isBundlePath_eq_false_iff.mpr hend]
    rfl

theorem plain_ofText (path : Spelling) : (Value.ofText path).plain = path.shown := by
  cases path <;> rfl

theorem roots_of_breaks (h : Breaks w s .trust stage path e) :
    w.roots s = .error (Store.trust.met stage path e) := by
  cases h with
  | trustOpening hpath hfolder hend hopen =>
    rw [World.roots, hpath, if_pos (isSet_of_endsAsBundle hend),
      rootsAt_of_endsAsBundle hfolder hend, bundleAt_of_unopened hopen .trust]
    show Except.error (if (Store.trust.met .opening path e).isOs then _ else _) = _
    rw [isOs_met_opening]
    rfl
  | @trustHandover _ _ source hpath hset hsource hfault =>
    have hisSet : s.truststorePath.isSet = true := by
      rw [hpath]
      exact (Value.isSet_ofText_iff path).mpr hset
    have hanswer : w.library.answer (.loadTrust source) = .error e :=
      answer_eq_error_iff.mpr hfault
    rw [World.roots, if_pos hisSet, rootsAt_of_denotes hsource, hpath, plain_ofText]
    show reworded _ _ (w.library.answer _) = _
    rw [hanswer]
    rfl

theorem TakesBundle.chain (h : TakesBundle w s path) :
    w.chain s = w.chainAt path s.keystorePassword >>=
      w.temporaryAnswer path (orNull s.keystorePassword) :=
  chain_of_endsAsBundle h.path_eq h.endsAsBundle

theorem chain_file (hpath : s.keystorePath = .ofText path) (hset : path ≠ .sound "")
    (hend : ¬ EndsAsBundle path) :
    w.chain s = keyAnswer path (w.library.answer
      (.loadChain (.file (.ofText path) (orNull s.keyfilePath)) (orNull s.keystorePassword))) := by
  rw [World.chain, hpath, if_pos ((Value.isSet_ofText_iff path).mpr hset), textPath_ofText]
  show (if isBundlePath path then _ else _) = _
  rw [isBundlePath_eq_false_iff.mpr hend]
  rfl

theorem chainOf_of_complete {b : Bundle} {key certificate : String} (hkey : b.key = some key)
    (hcertificate : b.certificate = some certificate) :
    w.chainOf path password b = bundlePassword password >>= fun secret =>
      refusal w.library.exportFault >>= fun _ =>
        .ok (chainContent key certificate b.further secret) := by
  rw [World.chainOf, hkey, hcertificate]

/-- A key of which the bundle opens only has to be encoded. -/
theorem HoldsKey.chainAt (h : HoldsKey w path password) :
    ∃ content, w.chainAt path password = refusal w.library.exportFault >>= fun _ =>
      .ok content := by
  obtain ⟨b, key, certificate, hopen, hkey, hcertificate⟩ := h
  have hbundle : w.bundleAt path password = .ok b := bundleAt_eq_ok_iff.mpr hopen
  obtain ⟨_, secret, -, hsecret, -⟩ := hopen
  refine ⟨chainContent key certificate b.further secret, ?_⟩
  rw [World.chainAt, hbundle]
  show w.chainOf path password b = _
  rw [chainOf_of_complete hkey hcertificate, hsecret]
  rfl

theorem chain_of_breaks (h : Breaks w s .key stage path e) :
    w.roots s = .ok () ∧ w.chain s = .error (Store.key.met stage path e) := by
  cases h with
  | keyOpening hbundle hopen =>
    refine ⟨hbundle.roots, ?_⟩
    rw [hbundle.chain, World.chainAt, bundleAt_of_unopened hopen .key]
    rfl
  | keyEncoding hbundle hkey hfault =>
    obtain ⟨content, hcontent⟩ := hkey.chainAt
    refine ⟨hbundle.roots, ?_⟩
    rw [hbundle.chain, hcontent, hfault]
    rfl
  | temporaryFile hbundle hkey hencoded hfault =>
    obtain ⟨content, hcontent⟩ := hkey.chainAt
    refine ⟨hbundle.roots, ?_⟩
    rw [hbundle.chain, hcontent, hencoded]
    show w.temporaryAnswer path _ content = _
    rw [World.temporaryAnswer, hfault]
    rfl
  | keyHandover hbundle hkey hencoded hwritten hfault =>
    obtain ⟨content, hcontent⟩ := hkey.chainAt
    have hanswer : w.library.answer (.loadChain (.temporary content) (orNull s.keystorePassword)) =
      .error e := answer_eq_error_iff.mpr hfault
    refine ⟨hbundle.roots, ?_⟩
    rw [hbundle.chain, hcontent, hencoded]
    show w.temporaryAnswer path _ content = _
    rw [World.temporaryAnswer, hwritten, hanswer]
    rfl
  | fileHandover hroots hpath hset hend hfault =>
    have hanswer : w.library.answer (.loadChain (.file (.ofText path) (orNull s.keyfilePath))
        (orNull s.keystorePassword)) = .error e := answer_eq_error_iff.mpr hfault
    refine ⟨hroots, ?_⟩
    rw [chain_file hpath hset hend, hanswer]
    rfl

theorem stores_of_breaks (h : Breaks w s store stage path e) :
    w.stores s = .error (store.met stage path e) := by
  unfold World.stores
  cases store with
  | trust =>
    rw [roots_of_breaks h]
    rfl
  | key =>
    obtain ⟨hroots, hchain⟩ := chain_of_breaks h
    rw [hroots]
    exact hchain

/-! ## What passes unreported -/

theorem isApart_iff : e.IsApart ↔ isStoreFault e = false := Bool.or_eq_false_iff.symm

/-- A fault of the system or of a value that comes out of a rewording came as it is. -/
theorem of_reworded_eq_error {α : Type} {kind : Fault → Bool} {wrap : Fault → ContextFault}
    {r : Except Fault α} (h : reworded kind (fun e => .context (wrap e)) r = .error e)
    (he : ¬ e.IsApart) : r = .error e ∧ kind e = false := by
  cases r with
  | ok a => cases h
  | error e' =>
    have hmet : (if kind e' then .context (wrap e') else e') = e := Except.error.inj h
    split at hmet
    · subst hmet
      exact absurd ⟨rfl, rfl⟩ he
    · next hkind =>
      obtain rfl := hmet
      exact ⟨rfl, Bool.eq_false_of_not_eq_true hkind⟩

theorem fails_textPath (v : Value) : Fails Fault.IsApart (textPath v) := by
  unfold textPath
  split
  · exact .ok _
  · exact .ok _
  · exact .error ⟨rfl, rfl⟩

theorem fails_isFolderPath (files : Files) (v : Value) :
    Fails Fault.IsApart (isFolderPath files v) := by
  unfold isFolderPath
  split
  · exact .ok _
  · exact .ok _
  · split
    · exact .ok _
    · exact .error ⟨rfl, rfl⟩
  · exact .ok _
  · exact .error ⟨rfl, rfl⟩

theorem fails_bundleAt (path : Spelling) (password : Value) :
    Fails Fault.IsApart (w.bundleAt path password) := by
  intro e h
  by_contra he
  exact he (isApart_iff.mpr (of_reworded_eq_error h he).2)

theorem fails_rootsAt (path password : Value) : Fails Fault.IsApart (w.rootsAt path password) := by
  refine (fails_isFolderPath _ path).bind fun folder => ?_
  split
  · exact .ok _
  · refine (fails_textPath path).bind fun text => ?_
    split
    · refine (fails_bundleAt text password).bind fun b => ?_
      split
      · exact .error ⟨rfl, rfl⟩
      · exact .ok _
    · exact .ok _

/-- The chain of a bundle is that of a key and its certificate, or there is none. -/
theorem chainOf_cases (w : World) (path : Spelling) (password : Value) (b : Bundle) :
    (∃ key certificate, b.key = some key ∧ b.certificate = some certificate) ∨
      w.chainOf path password b = .error (.context (.bundleWithoutKey path.shown)) := by
  unfold World.chainOf
  rcases b with ⟨_, _ | key, _ | certificate, further⟩
  case some.some => exact .inl ⟨key, certificate, rfl, rfl⟩
  all_goals exact .inr rfl

theorem chainAt_eq_ok_iff {content : List Armoured} :
    w.chainAt path password = .ok content ↔ ∃ b key certificate secret,
      Opens w path password b ∧ b.key = some key ∧ b.certificate = some certificate ∧
        bundlePassword password = .ok secret ∧ w.library.exportFault = none ∧
        chainContent key certificate b.further secret = content := by
  constructor
  · intro h
    obtain ⟨b, hbundle, h⟩ := exists_of_bind_eq_ok h
    obtain ⟨key, certificate, hkey, hcertificate⟩ | hnone := chainOf_cases w path password b
    · rw [chainOf_of_complete hkey hcertificate] at h
      obtain ⟨secret, hsecret, h⟩ := exists_of_bind_eq_ok h
      obtain ⟨hencoded, h⟩ := check_bind_eq_ok_iff.mp h
      exact ⟨b, key, certificate, secret, bundleAt_eq_ok_iff.mp hbundle, hkey, hcertificate,
        hsecret, refusal_eq_ok_iff.mp hencoded, Except.ok.inj h⟩
    · rw [hnone] at h
      cases h
  · rintro ⟨b, key, certificate, secret, hopen, hkey, hcertificate, hsecret, hencoded, rfl⟩
    rw [World.chainAt, bundleAt_eq_ok_iff.mpr hopen]
    show w.chainOf path password b = _
    rw [chainOf_of_complete hkey hcertificate, hsecret, hencoded]
    rfl

theorem Denotes.exists_path {source : TrustSource} (h : Denotes w s source) :
    ∃ path, s.truststorePath = .ofText path := by
  cases h with
  | folder hpath | bundle hpath | file hpath => exact ⟨_, hpath⟩

/-- A fault of the system or of a value that stops the roots was met when they were handed over. -/
theorem breaks_of_roots (h : w.roots s = .error e) (he : ¬ e.IsApart) :
    (s.truststorePath.isSet = false ∧ w.library.faults.lookup .loadRoots = some e) ∨
      ∃ path, Breaks w s .trust .handover path e ∧ e.isOs = false := by
  unfold World.roots at h
  split at h
  · next hset =>
    obtain ⟨h, hos⟩ := of_reworded_eq_error h he
    obtain hat | ⟨source, hsource, hanswer⟩ := of_bind_eq_error h
    · exact absurd (fails_rootsAt _ _ e hat) he
    · have hdenotes := denotes_of_rootsAt hsource
      obtain ⟨path, hpath⟩ := hdenotes.exists_path
      rw [hpath] at hset
      exact .inr ⟨path, .trustHandover hpath ((Value.isSet_ofText_iff path).mp hset) hdenotes
        (answer_eq_error_iff.mp hanswer), hos⟩
  · next hset =>
    exact .inl ⟨Bool.eq_false_of_not_eq_true hset, answer_eq_error_iff.mp h⟩

theorem breaks_of_chainAt (hbundle : TakesBundle w s path)
    (h : w.chainAt path s.keystorePassword = .error e) (he : ¬ e.IsApart) :
    Breaks w s .key .encoding path e := by
  obtain hat | ⟨b, hb, h⟩ := of_bind_eq_error h
  · exact absurd (fails_bundleAt _ _ e hat) he
  · obtain ⟨key, certificate, hkey, hcertificate⟩ | hnone :=
      chainOf_cases w path s.keystorePassword b
    · rw [chainOf_of_complete hkey hcertificate] at h
      -- the password was encoded before, to open the bundle
      obtain ⟨_, _, -, hsecret, -⟩ := bundleAt_eq_ok_iff.mp hb
      obtain hpassword | ⟨secret, -, h⟩ := of_bind_eq_error h
      · cases hsecret.symm.trans hpassword
      · obtain hencoded | ⟨_, -, h⟩ := of_bind_eq_error h
        · exact .keyEncoding hbundle
            ⟨b, key, certificate, bundleAt_eq_ok_iff.mp hb, hkey, hcertificate⟩
            (refusal_eq_error_iff.mp hencoded)
        · cases h
    · rw [hnone] at h
      cases h
      exact absurd ⟨rfl, rfl⟩ he

theorem breaks_of_temporaryAnswer {content : List Armoured} (hbundle : TakesBundle w s path)
    (hcontent : w.chainAt path s.keystorePassword = .ok content)
    (h : w.temporaryAnswer path (orNull s.keystorePassword) content = .error e)
    (he : ¬ e.IsApart) : Breaks w s .key .handover path e ∧ e.isOs = false := by
  obtain ⟨b, key, certificate, _, hopen, hkey, hcertificate, -, hencoded, -⟩ :=
    chainAt_eq_ok_iff.mp hcontent
  have hholds : HoldsKey w path s.keystorePassword :=
    ⟨b, key, certificate, hopen, hkey, hcertificate⟩
  obtain ⟨h, hos⟩ := of_reworded_eq_error h he
  refine ⟨?_, hos⟩
  obtain hwrite | ⟨_, hwrite, hanswer⟩ := of_bind_eq_error h
  · exact .temporaryFile hbundle hholds hencoded (refusal_eq_error_iff.mp hwrite)
  · exact .keyHandover hbundle hholds hencoded (refusal_eq_ok_iff.mp hwrite)
      (answer_eq_error_iff.mp hanswer)

/-- A fault of the system or of a value that stops the key store was met where it is not
reported. -/
theorem breaks_of_chain (hroots : w.roots s = .ok ()) (h : w.chain s = .error e)
    (he : ¬ e.IsApart) :
    ∃ stage path, Breaks w s .key stage path e ∧ stage.reports e = false := by
  cases hset : s.keystorePath.isSet with
  | false =>
    rw [World.chain, hset] at h
    cases h
  | true =>
    have htext := h
    rw [World.chain, if_pos hset] at htext
    obtain htext | ⟨path, htext, -⟩ := of_bind_eq_error htext
    · exact absurd (fails_textPath _ e htext) he
    have hpath : s.keystorePath = .ofText path := textPath_eq_ok_iff.mp htext
    by_cases hend : EndsAsBundle path
    · have hbundle : TakesBundle w s path := ⟨hroots, hpath, hend⟩
      rw [hbundle.chain] at h
      obtain hcontent | ⟨content, hcontent, h⟩ := of_bind_eq_error h
      · exact ⟨.encoding, path, breaks_of_chainAt hbundle hcontent he, rfl⟩
      · obtain ⟨hbreaks, hos⟩ := breaks_of_temporaryAnswer hbundle hcontent h he
        exact ⟨.handover, path, hbreaks, hos⟩
    · rw [hpath] at hset
      have hne : path ≠ .sound "" := (Value.isSet_ofText_iff path).mp hset
      rw [chain_file hpath hne hend] at h
      obtain ⟨h, hos⟩ := of_reworded_eq_error h he
      exact ⟨.handover, path, .fileHandover hroots hpath hne hend (answer_eq_error_iff.mp h), hos⟩

/-! ## What comes of it -/

theorem fst_run_createContext (w : World) (s : Settings) :
    ((createContext (some s)).run w).1 =
      (w.stores s).map fun _ => (Context.ofAlgorithm s.algorithm).enforce := by
  obtain ⟨cs, -, hrun⟩ := run_createContext w s
  rw [hrun]
  cases w.stores s <;> rfl

/-- Where a store breaks no context is made. A fault that is reported at the stage where it is met
becomes one that names the store; any other comes out as it is. A fault of the system or of a value
that does come out was met in such a way, or with the platform's roots. -/
theorem store_faults_reported (w : World) (s : Settings) :
    (∀ store stage path e, Breaks w s store stage path e →
      (stage.reports e = true →
        ∃ f : ContextFault, ((createContext (some s)).run w).1 = .error (.context f) ∧
          f.message = s!"Unable to load {store.title stage} '{path.shown}': {e.message}") ∧
      (stage.reports e = false → ((createContext (some s)).run w).1 = .error e)) ∧
    ∀ e, ((createContext (some s)).run w).1 = .error e → isStoreFault e = true →
      (s.truststorePath.isSet = false ∧ w.library.faults.lookup .loadRoots = some e) ∨
        ∃ store stage path, Breaks w s store stage path e ∧ stage.reports e = false := by
  constructor
  · intro store stage path e h
    have hrun : ((createContext (some s)).run w).1 = .error (store.met stage path e) :=
      createContext_of_stores_error (stores_of_breaks h)
    constructor
    · intro hreports
      rw [Store.met, if_pos hreports] at hrun
      exact ⟨_, hrun, store.report_message stage path e⟩
    · intro hreports
      rw [Store.met, hreports] at hrun
      exact hrun
  · intro e h he
    have hapart : ¬ e.IsApart := fun h => by
      rw [isApart_iff.mp h] at he
      cases he
    rw [fst_run_createContext] at h
    obtain hroots | ⟨_, hroots, hchain⟩ := of_bind_eq_error (of_map_eq_error h)
    · obtain hplatform | ⟨path, hbreaks, hos⟩ := breaks_of_roots hroots hapart
      · exact .inl hplatform
      · exact .inr ⟨.trust, .handover, path, hbreaks, hos⟩
    · obtain ⟨stage, path, hbreaks, hreports⟩ := breaks_of_chain hroots hchain hapart
      exact .inr ⟨.key, stage, path, hbreaks, hreports⟩

/-- Settings with a key file, in a world in which a context finds a null byte in its path. -/
def keyFileSettings : Settings := { Settings.default with keystorePath := .str "client\x00.pem" }

def keyFileWorld : World :=
  { wraps := { current := .error .targetMissing }
    library := { faults := [(.loadChain, .outside .value "embedded null byte")] } }

theorem key_file_fault_unreported :
    Breaks keyFileWorld keyFileSettings .key .handover (.sound "client\x00.pem")
        (.outside .value "embedded null byte") ∧
      ((createContext (some keyFileSettings)).run keyFileWorld).1 =
        .error (.outside .value "embedded null byte") := by
  have hend : ¬ EndsAsBundle (.sound "client\x00.pem") := fun h =>
    absurd ((isBundlePath_iff _).mpr h) (by decide)
  have hbreaks : Breaks keyFileWorld keyFileSettings .key .handover (.sound "client\x00.pem")
      (.outside .value "embedded null byte") := .fileHandover rfl rfl (by decide) hend rfl
  exact ⟨hbreaks, ((store_faults_reported _ _).1 _ _ _ _ hbreaks).2 rfl⟩

end PeerCheck.Tls
