import PeerCheck.Factory
import PeerCheck.Proofs.Session.Custody
import PeerCheck.Proofs.World

/-!
# Securing a connection

A connection is wrapped, the peer of the new socket is verified, and the session is reported.
`Fate` says the four ways this can go: the connection cannot be wrapped, the peer is not verified,
the session is not reported, or the socket is handed out. Only in the second is the socket closed.
-/

namespace PeerCheck

open PeerCheck.Config PeerCheck.Json PeerCheck.Log PeerCheck.Session

/-- What the TLS library makes of the next connection. -/
def World.wrapAnswer (w : World) : Except Fault TlsSocket :=
  match w.library.faults.lookup .wrap with
  | some e => .error e
  | none => w.wraps.current

namespace Session

/-- A socket as it comes from the TLS library. -/
def TlsSocket.fresh (s : TlsSocket) : TlsSocket := { s with closed := false }

def TlsSocket.asked (s : TlsSocket) : TlsSocket :=
  { s with certificate := s.certificate.advance }

/-- The record of the session of a socket, or the fault met in asking for what it tells. -/
def TlsSocket.report (s : TlsSocket) (host : String) (port : Value) : Except Fault Record := do
  let certificate ← heard s.certificate.current
  let cipher ← heard s.reportedCipher
  let version ← heard s.reportedVersion
  .ok (Factory.establishedRecord host port version cipher certificate)

/-- The verification of a socket for a host, where only a pass is let through. -/
abbrev TlsSocket.verified (s : TlsSocket) (l : Ladder) (host : String) : Exchange Verdict :=
  (Candidate.socket (.tls s)).verifyHost l (some host)

end Session

namespace Factory

variable {s s' : TlsSocket} {l : Ladder} {host : String} {port : Value} {e : Fault} {v : Verdict}
  {es : List (Event SocketCall)} {w : World} {raw : RawSocket}

/-! ## The dialogue with the new socket -/

theorem ends_closeSocket (s : TlsSocket) :
    Ends closeSocket (.tls s) [.call .close] (.ok ()) (.tls { s with closed := true }) := by
  refine (Ends.call .close).bind (Ends.get fun t ht => ?_)
  rw [ht]
  exact Ends.setSocket _

theorem ends_peerCertificate (s : TlsSocket) :
    Ends (peerCertificate s) (.tls s) [.call .certificate] (heard s.certificate.current)
      (.tls s.asked) :=
  (Ends.call .certificate).bind ((Ends.setSocket _).bind_silent (Ends.ofExcept _))

theorem ends_reportSession_error (h : s.report host port = .error e) :
    Ends (reportSession host port) (.tls s) [.call .certificate] (.error e) (.tls s.asked) := by
  have hc := ends_peerCertificate s
  refine Ends.get fun t ht => ?_
  rw [ht]
  unfold TlsSocket.report at h
  cases hcert : heard s.certificate.current with
  | error e' =>
    rw [hcert] at hc h
    cases h
    exact hc.bind_error
  | ok der =>
    rw [hcert] at hc h
    rw [← List.append_nil [Event.call SocketCall.certificate]]
    refine hc.bind ?_
    cases hcipher : heard s.reportedCipher with
    | error e' =>
      rw [hcipher] at h
      cases h
      exact (Ends.throw e).bind_error
    | ok cipher =>
      rw [hcipher] at h
      refine (Ends.pure cipher).bind_silent ?_
      cases hversion : heard s.reportedVersion with
      | error e' =>
        rw [hversion] at h
        cases h
        exact (Ends.throw e).bind_error
      | ok version =>
        rw [hversion] at h
        cases h

theorem ends_reportSession_ok {r : Record} (h : s.report host port = .ok r) :
    Ends (reportSession host port) (.tls s) [.call .certificate, .record r] (.ok ())
      (.tls s.asked) := by
  obtain ⟨der, hcert, h⟩ := exists_of_bind_eq_ok h
  obtain ⟨cipher, hcipher, h⟩ := exists_of_bind_eq_ok h
  obtain ⟨version, hversion, h⟩ := exists_of_bind_eq_ok h
  cases h
  have hc := ends_peerCertificate s
  rw [hcert] at hc
  refine Ends.get fun t ht => ?_
  rw [ht]
  refine hc.bind ?_
  rw [hcipher, hversion]
  exact (Ends.pure cipher).bind_silent ((Ends.pure version).bind_silent (Ends.emit _))

/-- A peer that is not verified costs the socket. -/
theorem ends_verifyOrClose_error
    (h : Ends (verifyHost l (some host)) (.tls s) es (.error e) (.tls s')) :
    Ends (verifyOrClose l host) (.tls s) (es ++ [.call .close]) (.error e)
      (.tls { s' with closed := true }) := by
  have hv : Ends (do let _ ← verifyHost l (some host) : Dialogue Unit) (.tls s) es (.error e)
      (.tls s') := h.bind_error
  refine hv.tryCatch_error ?_
  rw [← List.append_nil [Event.call SocketCall.close]]
  exact (ends_closeSocket s').bind (Ends.throw e)

theorem ends_verifyOrClose_ok (h : Ends (verifyHost l (some host)) (.tls s) es (.ok v) (.tls s')) :
    Ends (verifyOrClose l host) (.tls s) es (.ok ()) (.tls s') := by
  have hv : Ends (do let _ ← verifyHost l (some host) : Dialogue Unit) (.tls s) (es ++ [])
      (.ok ()) (.tls s') := h.bind (Ends.pure ())
  rw [List.append_nil] at hv
  exact hv.tryCatch_ok

/-! ## The wrapped connection -/

def wrapping (w : World) (raw : RawSocket) (host : String) : World :=
  { w.after [.call (.context (.wrap raw host))] with
    wraps := if (w.library.faults.lookup .wrap).isSome then w.wraps else w.wraps.advance }

def wrapped (w : World) (raw : RawSocket) (host : String) (s : TlsSocket) : World :=
  { wrapping w raw host with sockets := w.sockets ++ [s.fresh] }

theorem run_wrap (w : World) (raw : RawSocket) (host : String) :
    (wrap raw host).run w = match w.wrapAnswer with
      | .error e => (.error e, wrapping w raw host)
      | .ok s => (.ok (w.sockets.length + 1), wrapped w raw host s) := by
  unfold wrap wrapped wrapping World.wrapAnswer
  rw [run_bind, Act.run_callContext]
  simp only [ContextCall.method]
  cases w.library.faults.lookup .wrap with
  | some e => rfl
  | none =>
    simp only [refusal, run_get_bind, World.wraps_after]
    cases w.wraps.current <;> rfl

/-- What a connection of the factory's own is owed where it cannot be wrapped. -/
def rescue (raw : RawSocket) (e : Fault) : List (Event Call) :=
  if e.isOs || e.isValue then [.call (.raw raw .close)] else []

theorem run_wrapOrClose (w : World) (raw : RawSocket) (host : String) :
    (wrapOrClose raw host).run w = match w.wrapAnswer with
      | .error e => (.error e, (wrapping w raw host).after (rescue raw e))
      | .ok s => (.ok (w.sockets.length + 1), wrapped w raw host s) := by
  have h := run_wrap w raw host
  unfold wrapOrClose
  cases hw : w.wrapAnswer with
  | ok s =>
    rw [hw] at h
    exact run_tryCatch_of_ok h
  | error e =>
    rw [hw] at h
    rw [run_tryCatch_of_error h]
    cases hb : e.isOs || e.isValue with
    | true => simp only [rescue, hb, if_true]; rfl
    | false => simp only [rescue, hb, Bool.false_eq_true, if_false, World.after_nil]; rfl

/-! ## The whole -/

/-- How it goes with a connection, if the TLS library answers `a` and the `n`-th socket is the next:
the outcome, what happens once the library was asked, and the socket that was made. What is done
where the connection cannot be wrapped is `rescue`. -/
inductive Fate (a : Except Fault TlsSocket) (n : Nat) (l : Ladder) (host : String) (port : Value)
    (rescue : Fault → List (Event Call)) :
    Except Fault Nat → List (Event Call) → Option TlsSocket → Prop
  | unwrapped (e : Fault) (h : a = .error e) :
      Fate a n l host port rescue (.error e) (rescue e) none
  | unverified (s s' : TlsSocket) (es : List (Event SocketCall)) (e : Fault) (h : a = .ok s)
      (hv : s.fresh.verified l host = ⟨.error e, es, .socket (.tls s')⟩) :
      Fate a n l host port rescue (.error e) (List.map (.tagged n) (es ++ [.call .close]))
        (some { s' with closed := true })
  | unreported (s s' : TlsSocket) (es : List (Event SocketCall)) (v : Verdict) (e : Fault)
      (h : a = .ok s) (hv : s.fresh.verified l host = ⟨.ok v, es, .socket (.tls s')⟩)
      (hr : s'.report host port = .error e) :
      Fate a n l host port rescue (.error e) (List.map (.tagged n) (es ++ [.call .certificate]))
        (some s'.asked)
  | vouched (s s' : TlsSocket) (es : List (Event SocketCall)) (v : Verdict) (r : Record)
      (h : a = .ok s) (hv : s.fresh.verified l host = ⟨.ok v, es, .socket (.tls s')⟩)
      (hr : s'.report host port = .ok r) :
      Fate a n l host port rescue (.ok n)
        (List.map (.tagged n) (es ++ [.call .certificate, .record r])) (some s'.asked)

/-- A connection has one fate: the answer of the library, the outcome of the verification and that
of the report tell which. -/
theorem Fate.outcome_unique {a : Except Fault TlsSocket} {n : Nat}
    {rescue : Fault → List (Event Call)} {r r' : Except Fault Nat} {es es' : List (Event Call)}
    {o o' : Option TlsSocket}
    (h : Fate a n l host port rescue r es o) (h' : Fate a n l host port rescue r' es' o') :
    r' = r := by
  -- two fates that differ disagree on one of the three
  cases h <;> cases h' <;> grind

/-- From `w` to `w'` the events `es` happened and the sockets `made` were made. -/
structure Leaves (w w' : World) (es : List (Event Call)) (made : List TlsSocket) : Prop where
  trail : w'.trail = w.trail ++ es
  sockets : w'.sockets = w.sockets ++ made

/-- A dialogue with the socket that was just made. -/
theorem leaves_conversed (w : World) (raw : RawSocket) (host : String) (s s' : TlsSocket)
    (es : List (Event SocketCall)) :
    Leaves w ((wrapped w raw host s).conversed (w.sockets.length + 1) s' es)
      (.call (.context (.wrap raw host)) :: es.map (.tagged (w.sockets.length + 1))) [s'] where
  trail := by
    show w.trail ++ [_] ++ _ = _
    rw [List.append_assoc, List.singleton_append]
  sockets := by
    show (w.sockets ++ [s.fresh]).set (w.sockets.length + 1 - 1) s' = _
    simp

theorem run_vouch {d : Dialogue Unit} {r : Except Fault Unit} (raw : RawSocket) (host : String)
    (h : Ends d (.tls s.fresh) es r (.tls s')) :
    (do Act.converse (w.sockets.length + 1) d; pure (w.sockets.length + 1)).run
        (wrapped w raw host s) =
      ((fun _ => w.sockets.length + 1) <$> r,
        (wrapped w raw host s).conversed (w.sockets.length + 1) s' es) := by
  have hs : (wrapped w raw host s).sockets[w.sockets.length + 1 - 1]? = some s.fresh :=
    List.getElem?_concat_length
  have hrun := Act.run_converse hs h
  cases r with
  | ok u => exact run_bind_of_ok hrun
  | error e => exact run_bind_of_error hrun

/-- Every connection meets one of the four fates, however it is wrapped. -/
theorem exists_fate {m : Act Nat} {rescue : Fault → List (Event Call)} (port : Value)
    (hm : m.run w = match w.wrapAnswer with
      | .error e => (.error e, (wrapping w raw host).after (rescue e))
      | .ok s => (.ok (w.sockets.length + 1), wrapped w raw host s)) (l : Ladder) :
    ∃ r es o w', Fate w.wrapAnswer (w.sockets.length + 1) l host port rescue r es o ∧
      (do
        let n ← m
        Act.converse n (vouch l host port)
        pure n).run w = (r, w') ∧
      Leaves w w' (.call (.context (.wrap raw host)) :: es) o.toList := by
  cases hw : w.wrapAnswer with
  | error e =>
    rw [hw] at hm
    refine ⟨_, _, _, _, .unwrapped e rfl, run_bind_of_error hm, ?_, ?_⟩
    · show w.trail ++ [_] ++ _ = _
      rw [List.append_assoc, List.singleton_append]
    · exact (List.append_nil _).symm
  | ok s =>
    rw [hw] at hm
    obtain ⟨es, r, s', hv, -, -⟩ := exists_ends_verifyHost s.fresh l host
    have hx : s.fresh.verified l host = ⟨r, es, .socket (.tls s')⟩ := hv.converse
    cases r with
    | error e =>
      have hd : Ends (vouch l host port) _ _ _ _ := (ends_verifyOrClose_error hv).bind_error
      exact ⟨_, _, _, _, .unverified s s' es e rfl hx,
        (run_bind_of_ok hm).trans (run_vouch raw host hd), leaves_conversed ..⟩
    | ok v =>
      cases hr : s'.report host port with
      | error e =>
        have hd : Ends (vouch l host port) _ _ _ _ :=
          (ends_verifyOrClose_ok hv).bind (ends_reportSession_error hr)
        exact ⟨_, _, _, _, .unreported s s' es v e rfl hx hr,
          (run_bind_of_ok hm).trans (run_vouch raw host hd), leaves_conversed ..⟩
      | ok r =>
        have hd : Ends (vouch l host port) _ _ _ _ :=
          (ends_verifyOrClose_ok hv).bind (ends_reportSession_ok hr)
        exact ⟨_, _, _, _, .vouched s s' es v r rfl hx hr,
          (run_bind_of_ok hm).trans (run_vouch raw host hd), leaves_conversed ..⟩

/-! ## From the connection on -/

/-- What happens before a connection of the factory's own is wrapped. -/
def opening (f : Factory) (host : String) (port : Value) (wishes : Wishes) (w : World) :
    List (Event Call) :=
  [.call (.connect host port (Tls.orNull (timeoutFor f.settings wishes))
      (sourceFor f.settings wishes)),
    .call (.raw (.opened (w.connected + 1)) (.setTimeout f.settings.socketTimeout))]

def connecting (s : Settings) (host : String) (port : Value) (wishes : Wishes) (w : World) :
    World :=
  { w.after
      [.call (.connect host port (Tls.orNull (timeoutFor s wishes)) (sourceFor s wishes))] with
    network := { w.network with connects := w.network.connects.advance } }

theorem run_connect (s : Settings) (host : String) (port : Value) (wishes : Wishes) (w : World) :
    (connect s host port wishes).run w = match w.network.connects.current with
      | some e => (.error (if e.isTimeout then
          .connectTimedOut host port.plain (timeoutFor s wishes).plain else e),
          connecting s host port wishes w)
      | none => (.ok (.opened (w.connected + 1)),
          { connecting s host port wishes w with connected := w.connected + 1 }) := by
  unfold connect connecting
  rw [run_bind_of_ok (Act.run_call _ w), run_get_bind, run_modify_bind]
  simp only [World.network_after]
  cases w.network.connects.current <;> rfl

theorem Leaves.trans {w' w'' : World} {es es' : List (Event Call)} {made made' : List TlsSocket}
    (h : Leaves w w' es made) (h' : Leaves w' w'' es' made') :
    Leaves w w'' (es ++ es') (made ++ made') where
  trail := by rw [h'.trail, h.trail, List.append_assoc]
  sockets := by rw [h'.sockets, h.sockets, List.append_assoc]

/-! ## What is closed -/

/-- What can be closed: a TLS socket, by its number, or a connection. -/
inductive Handle
  | tls (n : Nat)
  | raw (q : RawSocket)
  deriving DecidableEq, Repr

def closes? : Event Call → Option Handle
  | .call (.tls n .close) => some (.tls n)
  | .call (.raw q .close) => some (.raw q)
  | _ => none

def closedIn (es : List (Event Call)) : List Handle := es.filterMap closes?

@[simp] theorem closedIn_append (es es' : List (Event Call)) :
    closedIn (es ++ es') = closedIn es ++ closedIn es' := List.filterMap_append

@[simp] theorem closedIn_opening (f : Factory) (host : String) (port : Value) (wishes : Wishes)
    (w : World) : closedIn (opening f host port wishes w) = [] := rfl

@[simp] theorem closedIn_wrap_cons (raw : RawSocket) (host : String) (es : List (Event Call)) :
    closedIn (.call (.context (.wrap raw host)) :: es) = closedIn es := rfl

theorem closedIn_rescue (raw : RawSocket) (e : Fault) :
    closedIn (rescue raw e) = if e.isOs || e.isValue then [.raw raw] else [] := by
  unfold rescue
  split <;> rfl

/-- A dialogue that does not close its socket closes nothing. -/
theorem closedIn_tagged {es : List (Event SocketCall)} (n : Nat) (h : .call .close ∉ es) :
    closedIn (es.map (.tagged n)) = [] := by
  unfold closedIn
  rw [List.filterMap_map, List.filterMap_eq_nil_iff]
  intro x hx
  cases x with
  | record r => rfl
  | call c =>
    cases c with
    | close => exact absurd hx h
    | _ => rfl

/-! ## Both kinds of connections -/

/-- A connection that was made is given its timeout and meets its fate. -/
theorem createSocket_course (f : Factory) (host : String) (port : Value) (wishes : Wishes)
    (hc : w.network.connects.current = none) :
    (∃ e w', w.network.timeoutFault = some e ∧
      (createSocket f (some host) port wishes).run w = (.error e, w') ∧
      Leaves w w' (opening f host port wishes w) []) ∨
    (w.network.timeoutFault = none ∧ ∃ r es o w',
      Fate w.wrapAnswer (w.sockets.length + 1) f.ladder host port
        (rescue (.opened (w.connected + 1))) r es o ∧
      (createSocket f (some host) port wishes).run w = (r, w') ∧
      Leaves w w' (opening f host port wishes w ++
        .call (.context (.wrap (.opened (w.connected + 1)) host)) :: es) o.toList) := by
  have hconnect := run_connect f.settings host port wishes w
  rw [hc] at hconnect
  generalize hu : ({ connecting f.settings host port wishes w with
    connected := w.connected + 1 } : World) = u at hconnect
  have hset : ∀ v : Value, (setTimeout (.opened (w.connected + 1)) v).run u =
      (refusal w.network.timeoutFault,
        u.after [.call (.raw (.opened (w.connected + 1)) (.setTimeout v))]) := by
    intro v
    subst hu
    unfold setTimeout
    rw [run_bind_of_ok (Act.run_call _ _), run_get_bind, Act.run_check]
    rfl
  have hopen : Leaves w (u.after [.call (.raw (.opened (w.connected + 1))
      (.setTimeout f.settings.socketTimeout))]) (opening f host port wishes w) [] := by
    subst hu
    refine ⟨?_, (List.append_nil _).symm⟩
    show (w.trail ++ [_]) ++ [_] = _
    rw [List.append_assoc]
    rfl
  cases ht : w.network.timeoutFault with
  | some e =>
    rw [ht] at hset
    refine .inl ⟨e, _, rfl, ?_, hopen⟩
    exact (run_bind_of_ok hconnect).trans (run_bind_of_error (hset _))
  | none =>
    rw [ht] at hset
    obtain ⟨r, es, o, w', hfate, hrun, hl⟩ := exists_fate port
      (run_wrapOrClose (u.after [.call (.raw (.opened (w.connected + 1))
        (.setTimeout f.settings.socketTimeout))]) (.opened (w.connected + 1)) host) f.ladder
    refine .inr ⟨rfl, r, es, o, w', ?_, ?_, hopen.trans hl⟩
    · subst hu
      exact hfate
    · exact (run_bind_of_ok hconnect).trans ((run_bind_of_ok (hset _)).trans hrun)

/-- Without a connection there is no socket. -/
theorem createSocket_refused (f : Factory) (host : Option String) (port : Value) (wishes : Wishes)
    (h : host = none ∨ w.network.connects.current ≠ none) :
    ∃ e w', (createSocket f host port wishes).run w = (.error e, w') ∧ w'.sockets = w.sockets ∧
      w'.connected = w.connected := by
  cases host with
  | none => exact ⟨_, w, rfl, rfl, rfl⟩
  | some host =>
    obtain ⟨e, he⟩ := Option.ne_none_iff_exists'.mp (h.resolve_left nofun)
    have hconnect := run_connect f.settings host port wishes w
    rw [he] at hconnect
    exact ⟨_, _, run_bind_of_error hconnect, rfl, rfl⟩

/-- What happens before a connection that is there already is wrapped. -/
def preparing (raw : RawSocket) (autoClose : Bool) : List (Event Call) :=
  if autoClose then [] else [.call (.raw raw .dup)]

/-- The connection that is wrapped in the place of one that is there already. -/
def layered (raw : RawSocket) (autoClose : Bool) : RawSocket :=
  if autoClose then raw else .duplicate raw

/-- A connection that is there already, or its duplicate if there could be one, meets its fate. -/
theorem createLayered_course (f : Factory) (raw : RawSocket) (host : String) (port : Value)
    (autoClose : Bool) (w : World) :
    (∃ e w', autoClose = false ∧ w.network.duplicateFault = some e ∧
      (createLayered f raw (some host) port autoClose).run w = (.error e, w') ∧
      Leaves w w' (preparing raw autoClose) []) ∨
    ((autoClose = true ∨ w.network.duplicateFault = none) ∧ ∃ r es o w',
      Fate w.wrapAnswer (w.sockets.length + 1) f.ladder host port (fun _ => []) r es o ∧
      (createLayered f raw (some host) port autoClose).run w = (r, w') ∧
      Leaves w w' (preparing raw autoClose ++
        .call (.context (.wrap (layered raw autoClose) host)) :: es) o.toList) := by
  have hwrap : ∀ (u : World) (raw : RawSocket), (wrap raw host).run u = match u.wrapAnswer with
      | .error e => (.error e, (wrapping u raw host).after [])
      | .ok s => (.ok (u.sockets.length + 1), wrapped u raw host s) := by
    intro u raw
    rw [run_wrap]
    cases u.wrapAnswer with
    | error e => simp only [World.after_nil]
    | ok s => rfl
  cases autoClose with
  | true =>
    obtain ⟨r, es, o, w', hfate, hrun, hl⟩ := exists_fate port (hwrap w raw) f.ladder
    exact .inr ⟨.inl rfl, r, es, o, w', hfate, hrun, hl⟩
  | false =>
    have hdup : (duplicate raw).run w = ((fun _ => .duplicate raw) <$>
        refusal w.network.duplicateFault, w.after [.call (.raw raw .dup)]) := by
      unfold duplicate
      rw [run_bind_of_ok (Act.run_call _ _), run_get_bind, run_bind, Act.run_check]
      simp only [World.network_after]
      cases w.network.duplicateFault <;> rfl
    have hopen : Leaves w (w.after [.call (.raw raw .dup)]) (preparing raw false) [] :=
      ⟨rfl, (List.append_nil _).symm⟩
    cases hd : w.network.duplicateFault with
    | some e =>
      rw [hd] at hdup
      exact .inl ⟨e, _, rfl, rfl, run_bind_of_error hdup, hopen⟩
    | none =>
      rw [hd] at hdup
      obtain ⟨r, es, o, w', hfate, hrun, hl⟩ :=
        exists_fate port (hwrap (w.after [.call (.raw raw .dup)]) (.duplicate raw)) f.ladder
      exact .inr ⟨.inr rfl, r, es, o, w', hfate, (run_bind_of_ok hdup).trans hrun, hopen.trans hl⟩

end Factory

end PeerCheck
