import PeerCheck.Proofs.Json.Fields
import PeerCheck.Proofs.Text.Ending
import PeerCheck.Proofs.Text.Spelling
import PeerCheck.Proofs.Tls.Answer

/-!
# Every context insists on a valid chain

A context that is made insists on a chain to a root, and its roots are those of the trust store
where there is one, and else the platform's: never both (`createContext_enforces`). The kind of a
store is told from its path.
-/

namespace PeerCheck.Tls

open PeerCheck.Config PeerCheck.Json PeerCheck.Text

/-! ## What a path denotes -/

/-- The path ends in `.p12` or `.pfx`, in whatever case. -/
def EndsAsBundle (path : Spelling) : Prop :=
  ∃ ext : List Char, ext.map Point.char <:+ path.points ∧
    (ext.map Char.toLower = ".p12".toList ∨ ext.map Char.toLower = ".pfx".toList)

theorem isBasic_of_mem_suffix {suffix : String} (h : suffix ∈ bundleSuffixes) :
    ∀ d ∈ suffix.toList, IsBasic d := by
  have hall : (bundleSuffixes.all fun suffix => suffix.toList.all fun d => IsBasic d) = true := by
    decide
  simpa using List.all_eq_true.mp hall suffix h

theorem isBundlePath_iff (path : Spelling) : isBundlePath path = true ↔ EndsAsBundle path := by
  have hends : ∀ suffix ∈ bundleSuffixes,
      (endsWith (lower path.ending) suffix.toList = true ↔ ∃ ext : List Char,
        ext.map Point.char <:+ path.points ∧ ext.map Char.toLower = suffix.toList) := by
    intro suffix hsuffix
    rw [endsWith, List.isSuffixOf_iff_suffix, suffix_lower_iff (isBasic_of_mem_suffix hsuffix)]
    simp only [Spelling.suffix_points_iff]
    constructor
    · rintro ⟨stem, ext, hpath, hext⟩
      exact ⟨ext, ⟨stem, hpath.symm⟩, hext⟩
    · rintro ⟨ext, ⟨stem, hpath⟩, hext⟩
      exact ⟨stem, ext, hpath.symm, hext⟩
  unfold isBundlePath EndsAsBundle
  rw [List.any_eq_true]
  constructor
  · rintro ⟨suffix, hmem, h⟩
    obtain ⟨ext, hpath, hext⟩ := (hends suffix hmem).mp h
    refine ⟨ext, hpath, ?_⟩
    rcases List.mem_pair.mp hmem with rfl | rfl
    · exact .inl hext
    · exact .inr hext
  · rintro ⟨ext, hpath, hext | hext⟩
    · exact ⟨".p12", by decide, (hends _ (by decide)).mpr ⟨ext, hpath, hext⟩⟩
    · exact ⟨".pfx", by decide, (hends _ (by decide)).mpr ⟨ext, hpath, hext⟩⟩

/-- The file at a path can be read, and opened as a bundle under a password. -/
def Opens (w : World) (path : Spelling) (password : Value) (b : Bundle) : Prop :=
  ∃ bytes secret, w.out.files.read (Path.tidy path) = .ok bytes ∧
    bundlePassword password = .ok secret ∧ w.library.opened bytes secret = .ok b

/-- What the trust store of some settings is, by its path: a folder, a bundle of certificates, all
of which are taken in their order, or a file. -/
inductive Denotes (w : World) (s : Settings) : TrustSource → Prop
  | folder {path : Spelling} (hpath : s.truststorePath = .ofText path)
      (hfolder : w.out.files.isFolder path = true) : Denotes w s (.folder (.ofText path))
  | bundle {path : Spelling} {b : Bundle} (hpath : s.truststorePath = .ofText path)
      (hfolder : w.out.files.isFolder path = false) (hend : EndsAsBundle path)
      (hopen : Opens w path s.truststorePassword b) (hsome : b.certificates ≠ []) :
      Denotes w s (.data ((b.certificate.toList ++ b.further).map .certificate))
  | file {path : Spelling} (hpath : s.truststorePath = .ofText path)
      (hfolder : w.out.files.isFolder path = false) (hend : ¬ EndsAsBundle path) :
      Denotes w s (.file (.ofText path))

variable {w : World} {s : Settings}

theorem reworded_eq_ok_iff {α : Type} {kind : Fault → Bool} {wrap : Fault → Fault}
    {r : Except Fault α} {a : α} : reworded kind wrap r = .ok a ↔ r = .ok a := by
  cases r <;> simp [reworded, Except.mapError]

theorem bundleAt_eq_ok_iff {path : Spelling} {password : Value} {b : Bundle} :
    w.bundleAt path password = .ok b ↔ Opens w path password b := by
  unfold World.bundleAt Opens
  rw [reworded_eq_ok_iff, bind_eq_ok_iff]
  simp only [bind_eq_ok_iff]
  constructor
  · rintro ⟨bytes, hread, secret, hsecret, hopen⟩
    exact ⟨bytes, secret, hread, hsecret, hopen⟩
  · rintro ⟨bytes, secret, hread, hsecret, hopen⟩
    exact ⟨bytes, hread, secret, hsecret, hopen⟩

theorem isFolderPath_ofText (files : Files) (path : Spelling) :
    isFolderPath files (.ofText path) = .ok (files.isFolder path) := by
  cases path <;> rfl

theorem textPath_ofText (path : Spelling) : textPath (.ofText path) = .ok path := by
  cases path <;> rfl

/-- Only a text is a path that can be told from its end. -/
theorem textPath_eq_ok_iff {v : Value} {path : Spelling} :
    textPath v = .ok path ↔ v = .ofText path := by
  constructor
  · intro h
    cases v with
    | str s => exact congrArg Value.ofText (Except.ok.inj h)
    | broken b => exact congrArg Value.ofText (Except.ok.inj h)
    | _ => cases h
  · rintro rfl
    exact textPath_ofText path

/-- What is a folder is a path. -/
theorem ofText_of_isFolderPath {files : Files} {v : Value} (h : isFolderPath files v = .ok true) :
    ∃ path, v = .ofText path := by
  cases v with
  | str s => exact ⟨.sound s, rfl⟩
  | broken b => exact ⟨.broken b, rfl⟩
  | int n =>
    rw [isFolderPath] at h
    split at h <;> cases h
  | _ => cases h

theorem denotes_of_rootsAt {source : TrustSource}
    (h : w.rootsAt s.truststorePath s.truststorePassword = .ok source) : Denotes w s source := by
  unfold World.rootsAt at h
  obtain ⟨folder, hfolder, h⟩ := exists_of_bind_eq_ok h
  cases folder with
  | true =>
    obtain ⟨path, hpath⟩ := ofText_of_isFolderPath hfolder
    rw [hpath, isFolderPath_ofText] at hfolder
    cases h
    rw [hpath]
    exact .folder hpath (Except.ok.inj hfolder)
  | false =>
    obtain ⟨path, htext, h⟩ := exists_of_bind_eq_ok h
    have hpath := textPath_eq_ok_iff.mp htext
    rw [hpath, isFolderPath_ofText] at hfolder
    have hfolder := Except.ok.inj hfolder
    split at h
    · next hend =>
      obtain ⟨b, hb, h⟩ := exists_of_bind_eq_ok h
      split at h
      · cases h
      · next hsome =>
        cases h
        exact .bundle hpath hfolder ((isBundlePath_iff path).mp hend) (bundleAt_eq_ok_iff.mp hb)
          (by simpa using hsome)
    · next hend =>
      cases h
      rw [hpath]
      exact .file hpath hfolder fun h => hend ((isBundlePath_iff path).mpr h)

/-! ## What is called -/

/-- The calls among some events, but for those that open a bundle. -/
def loadCalls (es : List (Event Call)) : List Call :=
  es.filterMap fun
    | .call c => c.load?
    | .record _ => none

theorem loadCalls_calls (cs : List Call) : loadCalls (cs.map .call) = cs.filterMap Call.load? := by
  unfold loadCalls
  rw [List.filterMap_map]
  rfl

/-- The roots are those that the trust store denotes, or the platform's. -/
def LoadsRoots (w : World) (s : Settings) (xs : List Call) : Prop :=
  if s.truststorePath.isSet then
    ∃ source, Denotes w s source ∧ xs = [.context (.loadTrust source)]
  else xs = [.context .loadRoots]

/-- The key and the chain are loaded once, or there is no key store. -/
def LoadsChain (s : Settings) (xs : List Call) : Prop :=
  if s.keystorePath.isSet then
    ∃ source password, xs = [.context (.loadChain source password)]
  else xs = []

theorem loadsRoots_of_roots (h : w.roots s = .ok ()) : LoadsRoots w s (w.rootsCalls s) := by
  unfold World.roots at h
  unfold LoadsRoots World.rootsCalls
  split
  · next hset =>
    rw [if_pos hset] at h
    obtain ⟨source, hsource, -⟩ := exists_of_bind_eq_ok (reworded_eq_ok_iff.mp h)
    refine ⟨source, denotes_of_rootsAt hsource, ?_⟩
    rw [hsource]
    rfl
  · rfl

theorem loadsChain_of_chain (h : w.chain s = .ok ()) : LoadsChain s (w.chainCalls s) := by
  unfold World.chain at h
  unfold LoadsChain World.chainCalls
  split
  · next hset =>
    rw [if_pos hset] at h
    obtain ⟨path, hpath, h⟩ := exists_of_bind_eq_ok h
    rw [hpath]
    simp only [following] at h ⊢
    split
    · next hend =>
      rw [if_pos hend] at h
      obtain ⟨content, hcontent, h⟩ := exists_of_bind_eq_ok h
      obtain ⟨_, hfault, -⟩ := exists_of_bind_eq_ok (reworded_eq_ok_iff.mp h)
      refine ⟨.temporary content, orNull s.keystorePassword, ?_⟩
      rw [hcontent]
      simp only [World.temporaryCalls, following, hfault]
    · exact ⟨_, _, rfl⟩
  · rfl

/-! ## Algorithms -/

theorem base?_name (a : Algorithm) : Context.base? (some a.name) = .ok (Context.ofAlgorithm a) := by
  cases a <;> rfl

/-- For a name that is not supported there is no context. -/
theorem base?_of_unsupported {name : String} (hne : name ≠ "")
    (h : Algorithm.ofName? name = none) :
    ∃ f, Context.base? (some name) = .error (.context f) := by
  unfold Context.base?
  dsimp only
  split
  · next heq => cases heq
  · next heq => exact absurd (Option.some.inj heq) hne
  · next n heq =>
    obtain rfl := Option.some.inj heq
    split
    · exact ⟨_, rfl⟩
    · rw [h]
      exact ⟨_, rfl⟩

theorem versions_ofAlgorithm (a : Algorithm) :
    let c := (Context.ofAlgorithm a).enforce
    (c.pinnedTo = some .tls12 ↔ a = .tls12) ∧ (c.pinnedTo = some .tls13 ↔ a = .tls13) ∧
      (c.minimumVersion = .tls13 ↔ a = .tls13) := by
  cases a <;> decide

/-! ## Bundles that lack something -/

theorem isSet_of_endsAsBundle {path : Spelling} (h : EndsAsBundle path) :
    (Value.ofText path).isSet = true := by
  obtain ⟨ext, hpath, hext⟩ := h
  refine (Value.isSet_ofText_iff path).mpr ?_
  rintro rfl
  obtain rfl : ext = [] := List.map_eq_nil_iff.mp (List.suffix_nil.mp hpath)
  exact absurd hext (by decide)

variable {path : Spelling} {b : Bundle}

theorem rootsAt_of_endsAsBundle {v : Value} (hfolder : w.out.files.isFolder path = false)
    (hend : EndsAsBundle path) :
    w.rootsAt (.ofText path) v = w.bundleAt path v >>= fun b =>
      if b.certificates.isEmpty then .error (.context (.bundleWithoutCertificates path.shown))
      else .ok (.data b.certificates) := by
  rw [World.rootsAt, isFolderPath_ofText, hfolder, textPath_ofText]
  show (if isBundlePath path then _ else _) = _
  rw [if_pos ((isBundlePath_iff path).mpr hend)]

theorem roots_of_no_certificates (hpath : s.truststorePath = .ofText path)
    (hfolder : w.out.files.isFolder path = false) (hend : EndsAsBundle path)
    (hopen : Opens w path s.truststorePassword b) (hnone : b.certificates = []) :
    w.roots s = .error (.context (.bundleWithoutCertificates path.shown)) := by
  have hat : w.rootsAt (.ofText path) s.truststorePassword =
      .error (.context (.bundleWithoutCertificates path.shown)) := by
    rw [rootsAt_of_endsAsBundle hfolder hend, bundleAt_eq_ok_iff.mpr hopen]
    show (if b.certificates.isEmpty then _ else _) = _
    rw [hnone]
    rfl
  rw [World.roots, hpath, if_pos (isSet_of_endsAsBundle hend), hat]
  rfl

theorem chainAt_of_incomplete {password : Value} (hopen : Opens w path password b)
    (hnone : b.key = none ∨ b.certificate = none) :
    w.chainAt path password = .error (.context (.bundleWithoutKey path.shown)) := by
  rw [World.chainAt, bundleAt_eq_ok_iff.mpr hopen]
  obtain ⟨_, _ | key, _ | certificate, further⟩ := b
  case some.some => simp at hnone
  all_goals rfl

theorem chain_of_endsAsBundle (hpath : s.keystorePath = .ofText path) (hend : EndsAsBundle path) :
    w.chain s = w.chainAt path s.keystorePassword >>=
      w.temporaryAnswer path (orNull s.keystorePassword) := by
  rw [World.chain, hpath, if_pos (isSet_of_endsAsBundle hend), textPath_ofText]
  show (if isBundlePath path then _ else _) = _
  rw [if_pos ((isBundlePath_iff path).mpr hend)]

theorem chain_of_incomplete (hpath : s.keystorePath = .ofText path) (hend : EndsAsBundle path)
    (hopen : Opens w path s.keystorePassword b) (hnone : b.key = none ∨ b.certificate = none) :
    w.chain s = .error (.context (.bundleWithoutKey path.shown)) := by
  rw [chain_of_endsAsBundle hpath hend, chainAt_of_incomplete hopen hnone]
  rfl

/-! ## What is made -/

theorem run_createContext (w : World) (s : Settings) :
    ∃ cs : List Call, cs.filterMap Call.load? = w.storeCalls s ∧
      (createContext (some s)).run w = match w.stores s with
        | .ok () => (.ok (Context.ofAlgorithm s.algorithm).enforce,
            ((w.withContext (Context.ofAlgorithm s.algorithm).enforce).called cs).after
              [.record (contextRecord (some s.algorithm.name) s)])
        | .error e =>
          (.error e, (w.withContext (Context.ofAlgorithm s.algorithm).enforce).called cs) :=
  run_contextWith (base?_name s.algorithm) s

theorem createContext_of_stores_error {e : Fault} (h : w.stores s = .error e) :
    ((createContext (some s)).run w).1 = .error e := by
  obtain ⟨cs, -, hrun⟩ := run_createContext w s
  rw [hrun, h]

/-- A context that is made is the only one, and its roots and its key and chain are loaded as the
settings say. -/
theorem loads_of_createContext {c : Context} {w' : World}
    (h : (createContext (some s)).run w = (.ok c, w')) :
    c = (Context.ofAlgorithm s.algorithm).enforce ∧ w'.contexts = w.contexts ++ [c] ∧
      ∃ es, w'.trail = w.trail ++ es ∧ ∃ roots chain, loadCalls es = roots ++ chain ∧
        LoadsRoots w s roots ∧ LoadsChain s chain := by
  obtain ⟨cs, hcs, hrun⟩ := run_createContext w s
  rw [hrun] at h
  cases hstores : w.stores s with
  | error e =>
    rw [hstores] at h
    cases h
  | ok u =>
    rw [hstores] at h
    cases h
    obtain ⟨_, hroots, hchain⟩ := exists_of_bind_eq_ok hstores
    let r := contextRecord (some s.algorithm.name) s
    refine ⟨rfl, rfl, cs.map .call ++ [.record r], ?_, w.rootsCalls s, w.chainCalls s, ?_,
      loadsRoots_of_roots hroots, loadsChain_of_chain hchain⟩
    · exact List.append_assoc w.trail (cs.map .call) [.record r]
    · rw [loadCalls, List.filterMap_append, ← loadCalls, loadCalls_calls, hcs,
        World.storeCalls, hroots]
      exact List.append_nil _

/-- A context that is made insists on a valid chain and leaves the host name to the verifier; it is
the only one that was made. It is pinned to a version just where its algorithm is, and else keeps the
version that the library starts at. Its roots are those that the trust store denotes, loaded once,
and the platform's only where there is no trust store; a key and chain are loaded once if there is a
key store. No context is made for an algorithm that is not supported, or where a bundle lacks the
certificates or the key that it is there for. -/
theorem createContext_enforces (w : World) :
    (∀ settings c w', (createContext settings).run w = (.ok c, w') →
      c.requiresChain = true ∧ c.checksHost = some false ∧ w'.contexts = w.contexts ++ [c] ∧
        (c.pinnedTo = none → c.minimumVersion = .tls12) ∧
        ∃ es, w'.trail = w.trail ++ es ∧ match settings with
          | none => c.pinnedTo = none ∧ loadCalls es = [.createContext]
          | some s =>
            (c.pinnedTo = some .tls12 ↔ s.algorithm = .tls12) ∧
              (c.pinnedTo = some .tls13 ↔ s.algorithm = .tls13) ∧
              (c.minimumVersion = .tls13 ↔ s.algorithm = .tls13) ∧
              ∃ roots chain, loadCalls es = roots ++ chain ∧ LoadsRoots w s roots ∧
                LoadsChain s chain) ∧
      (∀ name s, name ≠ "" → Algorithm.ofName? name = none →
        ∃ f, (contextWith (some name) s).run w = (.error (.context f), w)) ∧
      (∀ s path b, s.truststorePath = .ofText path → w.out.files.isFolder path = false →
        EndsAsBundle path → Opens w path s.truststorePassword b → b.certificates = [] →
        ((createContext (some s)).run w).1 =
          .error (.context (.bundleWithoutCertificates path.shown))) ∧
      ∀ s path b, s.keystorePath = .ofText path → EndsAsBundle path →
        Opens w path s.keystorePassword b → (b.key = none ∨ b.certificate = none) →
        ∃ e, ((createContext (some s)).run w).1 = .error e ∧
          (w.roots s = .ok () → e = .context (.bundleWithoutKey path.shown)) := by
  refine ⟨fun settings c w' h => ?_, fun name s hne hname => ?_, ?_, ?_⟩
  · have hminimum : c.pinnedTo = none → c.minimumVersion = .tls12 := fun hnone => by
      rw [Context.minimumVersion, hnone]
      rfl
    cases settings with
    | none =>
      let base : Context := { origin := .platform }
      have hrun : (createContext none).run w =
        (.ok base.enforce, (w.after [.call .createContext]).withContext base.enforce) := rfl
      rw [hrun] at h
      cases h
      exact ⟨rfl, rfl, rfl, hminimum, [.call .createContext], rfl, rfl, rfl⟩
    | some s =>
      obtain ⟨rfl, hcontexts, es, htrail, hloads⟩ := loads_of_createContext h
      obtain ⟨h12, h13, hleast⟩ := versions_ofAlgorithm s.algorithm
      exact ⟨rfl, rfl, hcontexts, hminimum, es, htrail, h12, h13, hleast, hloads⟩
  · obtain ⟨f, hf⟩ := base?_of_unsupported hne hname
    exact ⟨f, run_contextWith_of_error hf s⟩
  · intro s path b hpath hfolder hend hopen hnone
    refine createContext_of_stores_error ?_
    rw [World.stores, roots_of_no_certificates hpath hfolder hend hopen hnone]
    rfl
  · intro s path b hpath hend hopen hnone
    have hchain := chain_of_incomplete hpath hend hopen hnone
    cases hroots : w.roots s with
    | error e =>
      have hstores : w.stores s = .error e := by
        rw [World.stores, hroots]
        rfl
      exact ⟨e, createContext_of_stores_error hstores, nofun⟩
    | ok u =>
      have hstores : w.stores s = .error (.context (.bundleWithoutKey path.shown)) := by
        rw [World.stores, hroots, ← hchain]
        rfl
      exact ⟨_, createContext_of_stores_error hstores, fun _ => rfl⟩

def folderWorld : World :=
  { wraps := { current := .error .targetMissing }
    out := { files := ⟨[([.of "roots.p12"], .folder)]⟩ } }

def folderSettings : Settings :=
  { Settings.default with
    algorithm := .tls13, truststorePath := .str "roots.p12", keystorePath := .str "key.pem" }

theorem createContext_enforces_folder :
    ∃ c w', (createContext (some folderSettings)).run folderWorld = (.ok c, w') ∧
      c.requiresChain = true ∧ c.checksHost = some false ∧
      (c.pinnedTo = some .tls13 ↔ folderSettings.algorithm = .tls13) ∧
      ∃ roots chain, loadCalls w'.trail = roots ++ chain ∧
        LoadsRoots folderWorld folderSettings roots ∧ LoadsChain folderSettings chain := by
  have hstores : folderWorld.stores folderSettings = .ok () := by rfl
  obtain ⟨cs, -, hrun⟩ := run_createContext folderWorld folderSettings
  rw [hstores] at hrun
  obtain ⟨hchain, hhost, -, -, es, htrail, -, h13, -, roots, chain, hload, hroots, hkey⟩ :=
    (createContext_enforces folderWorld).1 (some folderSettings) _ _ hrun
  rw [show folderWorld.trail ++ es = es from rfl] at htrail
  exact ⟨_, _, hrun, hchain, hhost, h13, roots, chain, htrail ▸ hload, hroots, hkey⟩

/-- Where nothing is configured the algorithm is pinned to no version, and yet the context does not
allow what is older than a version it could be pinned to. -/
theorem default_context_starts_at_tls12 :
    ∃ c w', (createContext (some .default)).run folderWorld = (.ok c, w') ∧
      Settings.default.algorithm ≠ .tls12 ∧ c.minimumVersion = .tls12 :=
  ⟨_, _, rfl, by decide, rfl⟩

end PeerCheck.Tls
