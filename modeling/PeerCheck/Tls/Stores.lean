import PeerCheck.Text.Casing
import PeerCheck.World

/-!
# Key stores and trust stores

The key store gives a context the client's key and chain, the trust store the roots it trusts. Both
are files in armour or bundles, told apart by the end of the path; a trust store can be a folder as
well. The key of a bundle is handed on in a temporary file, which is gone afterwards whatever
happens.
-/

namespace PeerCheck.Tls

open PeerCheck.Config PeerCheck.Json PeerCheck.Text

/-- The ends of the paths of bundles, in small letters. -/
def bundleSuffixes : List String := [".p12", ".pfx"]

def isBundlePath (path : Spelling) : Bool :=
  bundleSuffixes.any fun suffix => endsWith (lower path.ending) suffix.toList

def textPath : Value → Except Fault Spelling
  | .str s => .ok s
  | .broken b => .ok (.broken b)
  | v => .error (.lacksOperation v.typeName "lower")

/-- A password for a bundle; an empty one is none. -/
def bundlePassword (v : Value) : Except Fault (Option String) :=
  if !v.isSet then .ok none
  else match v with
    | .str s => .ok (some s)
    | .broken b => .error (.unencodable b.fault)
    | v => .error (.lacksOperation v.typeName "encode")

/-- A value that stands for nothing where it is empty. -/
def orNull (v : Value) : Value := if v.isSet then v else .null

def openBundle (bytes : List UInt8) (password : Option String) : Act Bundle := do
  Act.call (.openBundle bytes password)
  ofExcept ((← get).library.opened bytes password)

/-- Runs an act, where the faults of some kind become another fault. -/
def wrapping {α : Type} (kind : Fault → Bool) (wrap : Fault → Fault) (m : Act α) : Act α :=
  tryCatch m fun e => throw (if kind e then wrap e else e)

def isStoreFault (e : Fault) : Bool := e.isOs || e.isValue

def loadBundle (path : Spelling) (password : Value) : Act Bundle :=
  wrapping isStoreFault (fun e => .context (.bundle path.shown e.message)) do
    let bytes ← ofExcept ((← get).out.files.read (Path.tidy path))
    let password ← ofExcept (bundlePassword password)
    openBundle bytes password

/-! ## Key stores -/

/-- Runs an act while a temporary file with the content is there, if it could be written. -/
def withTemporary {α : Type} (content : List Armoured) (m : Act α) : Act α := do
  modify fun w => { w with temporaries := w.temporaries ++ [content] }
  tryFinally (do Act.check (← get).library.temporaryFault; m)
    (modify fun w => { w with temporaries := w.temporaries.dropLast })

/-- The key, its certificate and all further ones; the key encrypted under the password. -/
def chainContent (key certificate : String) (further : List String) (password : Option String) :
    List Armoured :=
  .key key password :: .certificate certificate :: further.map Armoured.certificate

/-- What the temporary file for the bundle at a path is to hold. -/
def encodedKey (path : Spelling) (password : Value) : Act (List Armoured) := do
  let b ← loadBundle path password
  match b.key, b.certificate with
  | some key, some certificate =>
    let secret ← ofExcept (bundlePassword password)
    Act.check (← get).library.exportFault
    pure (chainContent key certificate b.further secret)
  | _, _ => throw (.context (.bundleWithoutKey path.shown))

def handOver (path : Spelling) (password : Value) (content : List Armoured) : Act Unit :=
  wrapping Fault.isOs (fun e => .context (.keystore path.shown e.message))
    (withTemporary content (Act.callContext (.loadChain (.temporary content) (orNull password))))

def loadBundledKey (path : Spelling) (password : Value) : Act Unit := do
  let content ← encodedKey path password
  handOver path password content

def loadKeystore (s : Settings) : Act Unit := do
  let path ← ofExcept (textPath s.keystorePath)
  if isBundlePath path then loadBundledKey path s.keystorePassword
  else
    let source := ChainSource.file s.keystorePath (orNull s.keyfilePath)
    wrapping Fault.isOs (fun e => .context (.keystore path.shown e.message))
      (Act.callContext (.loadChain source (orNull s.keystorePassword)))

/-! ## Trust stores -/

/-- The numbers that can stand for an open file are those of 32 bits. -/
def isDescriptor (n : Int) : Bool := -0x80000000 ≤ n && n < 0x80000000

/-- Whether a path is a folder; only texts and the numbers of open files, none of which is a
folder, can be asked about. -/
def isFolderPath (files : Files) : Value → Except Fault Bool
  | .str s => .ok (files.isFolder s)
  | .broken b => .ok (files.isFolder (.broken b))
  | .int n => if isDescriptor n then .ok false else .error (.descriptorOutOfRange (0 < n))
  | .bool _ => .ok false
  | v => .error (.wrongType (.notAPath v.typeName))

/-- Where the roots of a trust store are taken from. -/
def trustSource (path password : Value) : Act TrustSource := do
  if ← ofExcept (isFolderPath (← get).out.files path) then pure (.folder path)
  else
    let text ← ofExcept (textPath path)
    if isBundlePath text then
      let b ← loadBundle text password
      if b.certificates.isEmpty then throw (.context (.bundleWithoutCertificates text.shown))
      else pure (.data b.certificates)
    else pure (.file path)

def loadTruststore (s : Settings) : Act Unit :=
  wrapping Fault.isOs (fun e => .context (.truststore s.truststorePath.plain e.message)) do
    let source ← trustSource s.truststorePath s.truststorePassword
    Act.callContext (.loadTrust source)

/-! ## Contexts -/

def register (c : Context) : Act Context := do
  modify fun w => { w with contexts := w.contexts ++ [c] }
  pure c

def contextRecord (algorithm : Option String) (s : Settings) : Log.Record :=
  let name := algorithm.getD "None"
  let keystore := pathOr "-" s.keystorePath
  let truststore := pathOr "platform default" s.truststorePath
  .of "socket_factory" .info
    (s!"Created SSL context: algorithm={name}, keystore={keystore}, " ++
      s!"truststore={truststore}")

/-- Gives a context the roots from the trust store or else the platform's, and what is in the key
store if there is one. -/
def loadStores (s : Settings) : Act Unit := do
  if s.truststorePath.isSet then loadTruststore s else Act.callContext .loadRoots
  if s.keystorePath.isSet then loadKeystore s

/-- The context for the name of an algorithm and the stores of some settings. -/
def contextWith (algorithm : Option String) (s : Settings) : Act Context := do
  let base ← ofExcept (Context.base? algorithm)
  let c ← register base.enforce
  loadStores s
  Act.emit (contextRecord algorithm s)
  pure c

def contextFor (s : Settings) : Act Context := contextWith (some s.algorithm.name) s

def platformContext : Act Context := do
  Act.call .createContext
  register { origin := .platform : Context }.enforce

/-- The context for settings, the platform's own where there are none. -/
def createContext : Option Settings → Act Context
  | some s => contextFor s
  | none => platformContext

end PeerCheck.Tls
