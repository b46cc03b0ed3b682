import PeerCheck.Proofs.World
import PeerCheck.Tls.Stores

/-!
# What loading the stores comes to

Loading a store reads files, opens bundles and makes calls of a context, and changes nothing else.
So what it comes to depends only on the files and on how the TLS library answers, and is given here
by the functions `bundleAt`, `rootsAt` and `chainAt` and what is made of them (`run_contextWith`).
-/

namespace PeerCheck

open PeerCheck.Config PeerCheck.Json PeerCheck.Session PeerCheck.Text PeerCheck.Tls

variable {α β : Type}

def World.called (w : World) (cs : List Call) : World := { w with trail := w.trail ++ cs.map .call }

def World.withContext (w : World) (c : Context) : World := { w with contexts := w.contexts ++ [c] }

theorem World.called_nil (w : World) : w.called [] = w := by
  unfold called
  rw [List.map_nil, List.append_nil]

theorem World.after_call (w : World) (cs : List Call) (c : Call) :
    (w.called cs).after [.call c] = w.called (cs ++ [c]) := by
  unfold called after
  rw [List.map_append, List.append_assoc]
  rfl

/-- A call, unless it is to open a bundle. -/
def Call.load? : Call → Option Call
  | .openBundle .. => none
  | c => some c

/-- What comes of the answer, if it is no fault. -/
def following (r : Except Fault α) (f : α → List β) : List β :=
  match r with
  | .ok a => f a
  | .error _ => []

/-- An answer in which the faults of some kind have become another fault. -/
def reworded (kind : Fault → Bool) (wrap : Fault → Fault) (r : Except Fault α) : Except Fault α :=
  r.mapError fun e => if kind e then wrap e else e

/-! ## Acts that only make calls -/

namespace Act

/-- Whatever calls came before in the world `w`, the act comes to `r` and does nothing but make
calls, of which `xs` are those that do not open a bundle. -/
def Comes (w : World) (m : Act α) (r : Except Fault α) (xs : List Call) : Prop :=
  ∀ before, ∃ cs : List Call, cs.filterMap Call.load? = xs ∧
    m.run (w.called before) = (r, w.called (before ++ cs))

namespace Comes

variable {w : World} {m : Act α} {k : α → Act β} {r : Except Fault α} {xs : List Call}

theorem of_run (h : ∀ before, m.run (w.called before) = (r, w.called before)) :
    Comes w m r [] := fun before => ⟨[], rfl, by rw [h, List.append_nil]⟩

protected theorem pure (w : World) (a : α) : Comes w (pure a) (.ok a) [] := of_run fun _ => rfl

protected theorem throw (w : World) (e : Fault) : Comes w (throw e : Act α) (.error e) [] :=
  of_run fun _ => rfl

protected theorem ofExcept (w : World) (r : Except Fault α) : Comes w (ofExcept r) r [] :=
  of_run fun _ => run_ofExcept r _

protected theorem check (w : World) (o : Option Fault) : Comes w (check o) (refusal o) [] :=
  of_run fun _ => run_check o _

/-- What follows may depend on the world that was read. -/
theorem get_bind {k : World → Act α} (h : ∀ before, Comes w (k (w.called before)) r xs) :
    Comes w (get >>= k) r xs := fun before => h before before

protected theorem bind {q : α → Except Fault β} {ys : α → List Call} (h : Comes w m r xs)
    (hk : ∀ a, Comes w (k a) (q a) (ys a)) :
    Comes w (m >>= k) (r >>= q) (xs ++ following r ys) := by
  intro before
  obtain ⟨cs, rfl, hrun⟩ := h before
  cases r with
  | ok a =>
    obtain ⟨cs', hcs', hrun'⟩ := hk a (before ++ cs)
    refine ⟨cs ++ cs', ?_, ?_⟩
    · rw [List.filterMap_append, hcs']
      rfl
    · rw [run_bind_of_ok hrun, hrun', List.append_assoc]
      rfl
  | error e => exact ⟨cs, (List.append_nil _).symm, run_bind_of_error hrun⟩

protected theorem congr {r' : Except Fault α} {xs' : List Call} (h : Comes w m r xs) (hr : r = r')
    (hx : xs = xs') : Comes w m r' xs' := hr ▸ hx ▸ h

/-- An act that makes no such call, and what follows it. -/
theorem bind_of_nil {q : α → Except Fault β} {ys : α → List Call} (h : Comes w m r [])
    (hk : ∀ a, Comes w (k a) (q a) (ys a)) : Comes w (m >>= k) (r >>= q) (following r ys) :=
  h.bind hk

theorem bind_nil {q : α → Except Fault β} (h : Comes w m r [])
    (hk : ∀ a, Comes w (k a) (q a) []) : Comes w (m >>= k) (r >>= q) [] :=
  (h.bind hk).congr rfl (by cases r <;> rfl)

theorem openBundle (w : World) (bytes : List UInt8) (password : Option String) :
    Comes w (call (.openBundle bytes password)) (.ok ()) [] := fun before =>
  ⟨[.openBundle bytes password], rfl, by rw [run_call, World.after_call]⟩

theorem callContext (w : World) (c : ContextCall) :
    Comes w (callContext c) (refusal (w.library.faults.lookup c.method)) [.context c] :=
  fun before => ⟨[.context c], rfl, by rw [run_callContext, World.after_call]; rfl⟩

theorem wrapping {kind : Fault → Bool} {wrap : Fault → Fault} (h : Comes w m r xs) :
    Comes w (wrapping kind wrap m) (reworded kind wrap r) xs := by
  intro before
  obtain ⟨cs, hcs, hrun⟩ := h before
  refine ⟨cs, hcs, ?_⟩
  unfold Tls.wrapping
  cases r with
  | ok a => exact run_tryCatch_of_ok hrun
  | error e => exact run_tryCatch_of_error hrun

/-- The temporary file is gone in the end. -/
theorem withTemporary {content : List Armoured}
    (h : Comes { w with temporaries := w.temporaries ++ [content] } m r xs) :
    Comes w (withTemporary content m) (refusal w.library.temporaryFault >>= fun _ => r)
      (following (refusal w.library.temporaryFault) fun _ => xs) := by
  intro before
  obtain ⟨cs, hcs, hrun⟩ := (Comes.check _ w.library.temporaryFault).bind (fun _ => h) before
  refine ⟨cs, hcs, ?_⟩
  let during : World := { w with temporaries := w.temporaries ++ [content] }
  have hgone : { during.called (before ++ cs) with temporaries := during.temporaries.dropLast } =
      w.called (before ++ cs) := by
    show { w.called (before ++ cs) with temporaries := (w.temporaries ++ [content]).dropLast } = _
    rw [List.dropLast_concat]
    rfl
  unfold Tls.withTemporary
  rw [run_modify_bind, ← hgone]
  exact run_tryFinally_of_ok hrun rfl

end Comes

end Act

/-! ## What the loaders come to -/

/-- How a context answers to a call. -/
def Library.answer (l : Library) (c : ContextCall) : Except Fault Unit :=
  refusal (l.faults.lookup c.method)

/-- How a context answers where it is given the key and the chain of a key store. -/
def keyAnswer (path : Spelling) (r : Except Fault Unit) : Except Fault Unit :=
  reworded Fault.isOs (fun e => .context (.keystore path.shown e.message)) r

namespace World

variable (w : World)

def bundleAt (path : Spelling) (password : Value) : Except Fault Bundle :=
  reworded isStoreFault (fun e => .context (.bundle path.shown e.message)) do
    let bytes ← w.out.files.read (Path.tidy path)
    let password ← bundlePassword password
    w.library.opened bytes password

def rootsAt (path password : Value) : Except Fault TrustSource := do
  if ← isFolderPath w.out.files path then .ok (.folder path)
  else
    let text ← textPath path
    if isBundlePath text then
      let b ← w.bundleAt text password
      if b.certificates.isEmpty then .error (.context (.bundleWithoutCertificates text.shown))
      else .ok (.data b.certificates)
    else .ok (.file path)

def roots (s : Settings) : Except Fault Unit :=
  if s.truststorePath.isSet then
    reworded Fault.isOs (fun e => .context (.truststore s.truststorePath.plain e.message)) do
      let source ← w.rootsAt s.truststorePath s.truststorePassword
      w.library.answer (.loadTrust source)
  else w.library.answer .loadRoots

def rootsCalls (s : Settings) : List Call :=
  if s.truststorePath.isSet then
    following (w.rootsAt s.truststorePath s.truststorePassword) fun source =>
      [.context (.loadTrust source)]
  else [.context .loadRoots]

/-- What the temporary file for a bundle holds. -/
def chainOf (path : Spelling) (password : Value) (b : Bundle) : Except Fault (List Armoured) :=
  match b.key, b.certificate with
  | some key, some certificate => do
    let secret ← bundlePassword password
    refusal w.library.exportFault
    .ok (chainContent key certificate b.further secret)
  | _, _ => .error (.context (.bundleWithoutKey path.shown))

/-- What the temporary file for the bundle at a path holds. -/
def chainAt (path : Spelling) (password : Value) : Except Fault (List Armoured) :=
  w.bundleAt path password >>= w.chainOf path password

/-- How a context answers where it is given the key and the chain in a temporary file. -/
def temporaryAnswer (path : Spelling) (password : Value) (content : List Armoured) :
    Except Fault Unit :=
  keyAnswer path do
    refusal w.library.temporaryFault
    w.library.answer (.loadChain (.temporary content) password)

def temporaryCalls (password : Value) (content : List Armoured) : List Call :=
  following (refusal w.library.temporaryFault) fun _ =>
    [.context (.loadChain (.temporary content) password)]

def chain (s : Settings) : Except Fault Unit :=
  if s.keystorePath.isSet then do
    let path ← textPath s.keystorePath
    let password := orNull s.keystorePassword
    if isBundlePath path then w.chainAt path s.keystorePassword >>= w.temporaryAnswer path password
    else
      let source := ChainSource.file s.keystorePath (orNull s.keyfilePath)
      keyAnswer path (w.library.answer (.loadChain source password))
  else .ok ()

def chainCalls (s : Settings) : List Call :=
  if s.keystorePath.isSet then
    following (textPath s.keystorePath) fun path =>
      let password := orNull s.keystorePassword
      if isBundlePath path then
        following (w.chainAt path s.keystorePassword) (w.temporaryCalls password)
      else [.context (.loadChain (.file s.keystorePath (orNull s.keyfilePath)) password)]
  else []

def stores (s : Settings) : Except Fault Unit := do
  w.roots s
  w.chain s

def storeCalls (s : Settings) : List Call :=
  w.rootsCalls s ++ following (w.roots s) fun _ => w.chainCalls s

end World

namespace Tls

open Act (Comes)

variable (w : World)

theorem comes_openBundle (bytes : List UInt8) (password : Option String) :
    Comes w (openBundle bytes password) (w.library.opened bytes password) [] :=
  Comes.bind_nil (q := fun _ => w.library.opened bytes password)
    (Comes.openBundle w bytes password) fun _ => Comes.get_bind fun _ => .ofExcept w _

theorem comes_loadBundle (path : Spelling) (password : Value) :
    Comes w (loadBundle path password) (w.bundleAt path password) [] :=
  Comes.wrapping (Comes.get_bind fun _ => (Comes.ofExcept w _).bind_nil fun bytes =>
    (Comes.ofExcept w _).bind_nil fun password => comes_openBundle w bytes password)

theorem comes_trustSource (path password : Value) :
    Comes w (trustSource path password) (w.rootsAt path password) [] := by
  refine Comes.get_bind fun _ => (Comes.ofExcept w _).bind_nil fun folder => ?_
  cases folder with
  | true => exact .pure w _
  | false =>
    refine (Comes.ofExcept w _).bind_nil fun text => ?_
    cases isBundlePath text with
    | true =>
      refine (comes_loadBundle w text password).bind_nil fun b => ?_
      cases b.certificates.isEmpty with
      | true => exact .throw w _
      | false => exact .pure w _
    | false => exact .pure w _

theorem comes_loadTruststore (s : Settings) (h : s.truststorePath.isSet = true) :
    Comes w (loadTruststore s) (w.roots s) (w.rootsCalls s) := by
  unfold World.roots World.rootsCalls
  rw [if_pos h, if_pos h]
  exact Comes.wrapping ((comes_trustSource w _ _).bind_of_nil fun source =>
    Comes.callContext w (.loadTrust source))

/-- A key is encoded before there is a file for it. -/
theorem comes_encodedKey (path : Spelling) (password : Value) :
    Comes w (encodedKey path password) (w.chainAt path password) [] := by
  refine (comes_loadBundle w path password).bind_nil fun b => ?_
  unfold World.chainOf
  rcases b with ⟨_, _ | key, _ | certificate, further⟩
  case some.some =>
    exact (Comes.ofExcept w _).bind_nil fun secret => Comes.get_bind fun _ =>
      (Comes.check w _).bind_nil fun _ => .pure w _
  all_goals exact .throw w _

theorem comes_handOver (path : Spelling) (password : Value) (content : List Armoured) :
    Comes w (handOver path password content) (w.temporaryAnswer path (orNull password) content)
      (w.temporaryCalls (orNull password) content) :=
  Comes.wrapping (Comes.withTemporary (Comes.callContext _ _))

theorem comes_loadBundledKey (path : Spelling) (password : Value) :
    Comes w (loadBundledKey path password)
      (w.chainAt path password >>= w.temporaryAnswer path (orNull password))
      (following (w.chainAt path password) (w.temporaryCalls (orNull password))) :=
  (comes_encodedKey w path password).bind_of_nil fun content =>
    comes_handOver w path password content

theorem comes_loadKeystore (s : Settings) (h : s.keystorePath.isSet = true) :
    Comes w (loadKeystore s) (w.chain s) (w.chainCalls s) := by
  unfold World.chain World.chainCalls
  rw [if_pos h, if_pos h]
  refine (Comes.ofExcept w _).bind_of_nil fun path => ?_
  cases isBundlePath path with
  | true => exact comes_loadBundledKey w path _
  | false => exact Comes.wrapping (Comes.callContext w _)

theorem comes_loadStores (s : Settings) : Comes w (loadStores s) (w.stores s) (w.storeCalls s) := by
  have hchain : Comes w (do if s.keystorePath.isSet then loadKeystore s) (w.chain s)
      (w.chainCalls s) := by
    cases h : s.keystorePath.isSet with
    | true => exact comes_loadKeystore w s h
    | false =>
      unfold World.chain World.chainCalls
      rw [h]
      exact .pure w ()
  unfold loadStores
  cases h : s.truststorePath.isSet with
  | true => exact (comes_loadTruststore w s h).bind fun _ => hchain
  | false =>
    have hroots : Comes w (Act.callContext .loadRoots) (w.roots s) (w.rootsCalls s) := by
      unfold World.roots World.rootsCalls
      rw [h]
      exact Comes.callContext w .loadRoots
    exact hroots.bind fun _ => hchain

variable {w} {algorithm : Option String}

theorem run_base {r : Except Fault Context} (h : Context.base? algorithm = r) (w : World) :
    (ofExcept (Context.base? algorithm) : Act Context).run w = (r, w) := by
  rw [run_ofExcept, h]

/-- Where the algorithm is none that is supported, nothing is done. -/
theorem run_contextWith_of_error {e : Fault} (h : Context.base? algorithm = .error e)
    (s : Settings) : (contextWith algorithm s).run w = (.error e, w) :=
  run_bind_of_error (run_base h w)

/-- A context is made just where its stores are loaded. -/
theorem run_contextWith {base : Context} (h : Context.base? algorithm = .ok base) (s : Settings) :
    ∃ cs : List Call, cs.filterMap Call.load? = w.storeCalls s ∧
      (contextWith algorithm s).run w = match w.stores s with
        | .ok () => (.ok base.enforce,
            ((w.withContext base.enforce).called cs).after [.record (contextRecord algorithm s)])
        | .error e => (.error e, (w.withContext base.enforce).called cs) := by
  let registered := w.withContext base.enforce
  obtain ⟨cs, hcs, hrun⟩ := comes_loadStores registered s []
  rw [World.called_nil, List.nil_append] at hrun
  have hregister : (register base.enforce).run w = (.ok base.enforce, registered) := rfl
  refine ⟨cs, hcs, (run_bind_of_ok (run_base h w)).trans ((run_bind_of_ok hregister).trans ?_)⟩
  -- the new context does not matter to what the loaders come to
  have hsame : registered.stores s = w.stores s := rfl
  rw [run_bind, hrun, hsame]
  cases w.stores s <;> rfl

end Tls

end PeerCheck
