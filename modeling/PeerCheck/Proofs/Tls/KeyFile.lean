import PeerCheck.Proofs.Tls.StoreFault

/-!
# The key of a bundle in its temporary file

The key of a bundle reaches a context through a temporary file. First it is encoded, for which no
file is needed; only then is a file made, handed over and removed, whatever comes of it
(`key_file_custody`).
-/

namespace PeerCheck.Tls

open PeerCheck.Config PeerCheck.Json PeerCheck.Session PeerCheck.Text

/-- The temporary file for a bundle and the password that goes with it: the key, its certificate
and all further ones in their order. The key is encrypted under the password of the bundle; it is
plain only where that is empty. -/
inductive WrittenOut (w : World) (path : Spelling) (password : Value) : List Armoured → Value → Prop
  | encrypted {b : Bundle} {key certificate secret : String} (hpassword : password = .str secret)
      (hset : secret ≠ "") (hopen : Opens w path password b) (hkey : b.key = some key)
      (hcertificate : b.certificate = some certificate) :
      WrittenOut w path password
        (.key key (some secret) :: .certificate certificate :: b.further.map .certificate)
        (.str secret)
  | plain {b : Bundle} {key certificate : String} (hset : password.isSet = false)
      (hopen : Opens w path password b) (hkey : b.key = some key)
      (hcertificate : b.certificate = some certificate) :
      WrittenOut w path password
        (.key key none :: .certificate certificate :: b.further.map .certificate) .null

/-- A bundle holds a key, which can be encoded and written to a file. -/
def Writable (w : World) (path : Spelling) (password : Value) : Prop :=
  HoldsKey w path password ∧ w.library.exportFault = none ∧ w.library.temporaryFault = none

variable {w : World} {s : Settings} {path : Spelling} {password : Value} {content : List Armoured}

theorem bundlePassword_cases {v : Value} {secret : Option String}
    (h : bundlePassword v = .ok secret) :
    (v.isSet = false ∧ secret = none) ∨ ∃ p, v = .str p ∧ p ≠ "" ∧ secret = some p := by
  unfold bundlePassword at h
  split at h
  · next hset =>
    cases h
    exact .inl ⟨by simpa using hset, rfl⟩
  · next hset =>
    split at h
    · next p =>
      cases h
      exact .inr ⟨p, rfl, by simpa [Value.isSet] using hset, rfl⟩
    · cases h
    · cases h

theorem writtenOut_of_chainAt (h : w.chainAt path password = .ok content) :
    WrittenOut w path password content (orNull password) := by
  obtain ⟨b, key, certificate, secret, hopen, hkey, hcertificate, hsecret, -, rfl⟩ :=
    chainAt_eq_ok_iff.mp h
  obtain ⟨hset, rfl⟩ | ⟨p, rfl, hne, rfl⟩ := bundlePassword_cases hsecret
  · rw [orNull, hset]
    exact .plain hset hopen hkey hcertificate
  · have hset : (Value.str p).isSet = true := bne_iff_ne.mpr hne
    rw [orNull, hset]
    exact .encrypted rfl hne hopen hkey hcertificate

theorem loadKeystore_bundle (hpath : s.keystorePath = .ofText path) (hend : EndsAsBundle path) :
    loadKeystore s = loadBundledKey path s.keystorePassword := by
  unfold loadKeystore
  rw [hpath, textPath_ofText]
  show (if isBundlePath path then _ else _) = _
  rw [if_pos ((isBundlePath_iff path).mpr hend)]

/-- What is called while the key of a bundle is loaded: once with its temporary file if that can be
written, and else not at all. -/
theorem calls_of_bundle (w : World) (path : Spelling) (password : Value) :
    (Writable w path password → ∃ content handed, WrittenOut w path password content handed ∧
      following (w.chainAt path password) (w.temporaryCalls (orNull password)) =
        [.context (.loadChain (.temporary content) handed)]) ∧
    (¬ Writable w path password →
      following (w.chainAt path password) (w.temporaryCalls (orNull password)) = []) := by
  constructor
  · rintro ⟨hholds, hencoded, hwritten⟩
    obtain ⟨content, hcontent⟩ := hholds.chainAt
    rw [hencoded] at hcontent
    refine ⟨content, orNull password, writtenOut_of_chainAt hcontent, ?_⟩
    rw [hcontent]
    show w.temporaryCalls _ content = _
    rw [World.temporaryCalls, hwritten]
    rfl
  · intro hnot
    cases hcontent : w.chainAt path password with
    | error e => rfl
    | ok content =>
      obtain ⟨b, key, certificate, _, hopen, hkey, hcertificate, -, hencoded, -⟩ :=
        chainAt_eq_ok_iff.mp hcontent
      show w.temporaryCalls _ content = _
      rw [World.temporaryCalls]
      cases hwritten : w.library.temporaryFault with
      | some e => rfl
      | none =>
        exact absurd ⟨⟨b, key, certificate, hopen, hkey, hcertificate⟩, hencoded, hwritten⟩ hnot

/-- Loading the key of a bundle only makes calls, and whatever comes of it, leaves no temporary file
behind. A context is given the key once if it can be written to a file, and else not at all. The
file is to hold the key, encrypted under the password of the bundle where there is one, with its
certificate and all further ones. Where the key or its certificate is missing, loading fails before
there is a file. -/
theorem key_file_custody (w : World) (hpath : s.keystorePath = .ofText path)
    (hend : EndsAsBundle path) :
    let password := s.keystorePassword
    loadKeystore s = (encodedKey path password >>= handOver path password) ∧
      (∃ cs : List Call, ((loadKeystore s).run w).2 = w.called cs ∧
        ((loadKeystore s).run w).2.temporaries = w.temporaries ∧
        (Writable w path password → ∃ content handed, WrittenOut w path password content handed ∧
          cs.filterMap Call.load? = [.context (.loadChain (.temporary content) handed)]) ∧
        (¬ Writable w path password → cs.filterMap Call.load? = [])) ∧
      (∀ content w', (encodedKey path password).run w = (.ok content, w') →
        WrittenOut w path password content (orNull password) ∧ w'.temporaries = w.temporaries) ∧
      ∀ b, Opens w path password b → (b.key = none ∨ b.certificate = none) →
        ∃ cs : List Call, cs.filterMap Call.load? = [] ∧
          (encodedKey path password).run w =
            (.error (.context (.bundleWithoutKey path.shown)), w.called cs) ∧
          (loadKeystore s).run w = (.error (.context (.bundleWithoutKey path.shown)), w.called cs) := by
  intro password
  have hload : loadKeystore s = loadBundledKey path password := loadKeystore_bundle hpath hend
  obtain ⟨cs, hcs, hrun⟩ := comes_encodedKey w path password []
  rw [World.called_nil, List.nil_append] at hrun
  refine ⟨hload, ?_, fun content w' h => ?_, fun b hopen hnone => ⟨cs, hcs, ?_, ?_⟩⟩
  · obtain ⟨cs, hcs, hrun⟩ := comes_loadBundledKey w path password []
    rw [World.called_nil, List.nil_append] at hrun
    rw [hload, hrun]
    refine ⟨cs, rfl, rfl, ?_⟩
    rw [hcs]
    exact calls_of_bundle w path password
  · rw [hrun] at h
    obtain ⟨hcontent, rfl⟩ := Prod.mk.inj h
    exact ⟨writtenOut_of_chainAt hcontent, rfl⟩
  · rw [hrun, chainAt_of_incomplete hopen hnone]
  · rw [chainAt_of_incomplete hopen hnone] at hrun
    rw [hload]
    exact run_bind_of_error hrun

def bundleSettings : Settings :=
  { Settings.default with keystorePath := .str "client.p12", keystorePassword := .str "secret" }

def clientBundle : Bundle :=
  { password := "secret", key := some "client", certificate := some "client", further := ["issuer"] }

def bundleWorld : World :=
  { wraps := { current := .error .targetMissing }
    out := { files := ⟨[([.of "client.p12"], .file [0x30])]⟩ }
    library := { opened := Bundle.openFrom [([0x30], clientBundle)] } }

theorem key_file_custody_encrypted :
    EndsAsBundle (.sound "client.p12") ∧
      Writable bundleWorld (.sound "client.p12") (.str "secret") ∧
      ∃ cs : List Call, ((loadKeystore bundleSettings).run bundleWorld).2 = bundleWorld.called cs ∧
        ∃ content handed,
          WrittenOut bundleWorld (.sound "client.p12") (.str "secret") content handed ∧
            cs.filterMap Call.load? = [.context (.loadChain (.temporary content) handed)] := by
  have hend : EndsAsBundle (.sound "client.p12") := (isBundlePath_iff _).mp (by decide)
  have hwritable : Writable bundleWorld (.sound "client.p12") (.str "secret") :=
    ⟨⟨clientBundle, "client", "client", ⟨[0x30], some "secret", rfl, rfl, rfl⟩, rfl, rfl⟩, rfl, rfl⟩
  have hpath : bundleSettings.keystorePath = .ofText (.sound "client.p12") := rfl
  obtain ⟨-, ⟨cs, hcalled, -, hcalls, -⟩, -⟩ := key_file_custody bundleWorld hpath hend
  exact ⟨hend, hwritable, cs, hcalled, hcalls hwritable⟩

end PeerCheck.Tls
