import PeerCheck.Proofs.Factory.Securing

/-!
# No unverified socket is handed out

A factory returns a socket just where the connection was made and wrapped, the peer of the very
socket passed the verification for the requested host after that, and its session was reported. The
socket is then the one that was made of the connection, and nothing was closed.
-/

namespace PeerCheck.Factory

open PeerCheck.Json PeerCheck.Session

/-- The `n`-th TLS socket was made of the connection `raw` for the host, after `before`; its peer
passed the verification for that host, and nothing was closed. -/
structure HandedOut (l : Ladder) (host : String) (raw : RawSocket) (before : List (Event Call))
    (w w' : World) (n : Nat) : Prop where
  number : n = w.sockets.length + 1
  verified : ∃ s s' es v r, w.wrapAnswer = .ok s ∧
    (Candidate.socket (.tls s.fresh)).verifyHost l (some host) = ⟨.ok v, es, .socket (.tls s')⟩ ∧
    v.failure = none ∧
    w'.trail = w.trail ++ (before ++ .call (.context (.wrap raw host)) ::
      (es.map (.tagged n) ++ [.call (.tls n .certificate), .record r])) ∧
    w'.sockets = w.sockets ++ [s'.asked] ∧ s'.asked.closed = false
  unclosed : ∀ es, w'.trail = w.trail ++ es → closedIn es = []

/-- The TLS library makes a socket, its peer passes the verification, and its session is told. -/
def Passes (a : Except Fault TlsSocket) (l : Ladder) (host : String) (port : Value) : Prop :=
  ∃ s s' es v r, a = .ok s ∧
    (Candidate.socket (.tls s.fresh)).verifyHost l (some host) = ⟨.ok v, es, .socket (.tls s')⟩ ∧
    s'.report host port = .ok r

variable {a : Except Fault TlsSocket} {n m : Nat} {l : Ladder} {host : String} {port : Value}
  {rescue : Fault → List (Event Call)} {r : Except Fault Nat} {es before : List (Event Call)}
  {o : Option TlsSocket} {w w' : World} {raw : RawSocket}

theorem Fate.ok_iff (h : Fate a n l host port rescue r es o) :
    (∃ m, r = .ok m) ↔ Passes a l host port := by
  constructor
  · rintro ⟨m, rfl⟩
    cases h with
    | vouched s s' es v r h hv hr => exact ⟨s, s', es, v, r, h, hv, hr⟩
  · rintro ⟨s, s', ds, v, rec, ha, hv, hr⟩
    exact ⟨n, (Fate.vouched s s' ds v rec ha hv hr).outcome_unique h⟩

theorem Fate.number (h : Fate a n l host port rescue (.ok m) es o) : m = n := by
  cases h
  rfl

theorem Fate.handedOut
    (h : Fate w.wrapAnswer (w.sockets.length + 1) l host port rescue (.ok n) es o)
    (hl : Leaves w w' (before ++ .call (.context (.wrap raw host)) :: es) o.toList)
    (hb : closedIn before = []) : HandedOut l host raw before w w' n := by
  cases h with
  | vouched s s' ds v r h hv hr =>
    obtain ⟨hopen, hclose⟩ := unclosed_of_verifyHost hv
    have htrail := hl.trail
    rw [List.map_append] at htrail
    refine ⟨rfl, ⟨s, s', ds, v, r, h, hv, failure_of_verifyHost hv, htrail, hl.sockets, hopen⟩,
      fun fs hfs => ?_⟩
    rw [htrail] at hfs
    rw [← List.append_cancel_left hfs, closedIn_append, hb, closedIn_wrap_cons, closedIn_append,
      closedIn_tagged _ hclose]
    rfl

/-- A factory that connects hands out a socket just where the connection is there and passes. -/
theorem createSocket_ok_iff (f : Factory) (host : Option String) (port : Value) (wishes : Wishes)
    (w : World) :
    (∃ n w', (createSocket f host port wishes).run w = (.ok n, w')) ↔
      ∃ h, host = some h ∧ w.network.connects.current = none ∧ w.network.timeoutFault = none ∧
        Passes w.wrapAnswer f.ladder h port := by
  by_cases hc : host = none ∨ w.network.connects.current ≠ none
  · obtain ⟨e, w₁, hrun, -, -⟩ := createSocket_refused f host port wishes hc
    constructor
    · rintro ⟨n, w', h⟩
      cases hrun.symm.trans h
    · rintro ⟨h, rfl, hopen, -⟩
      exact absurd hopen (hc.resolve_left nofun)
  · rw [not_or, not_not] at hc
    obtain ⟨host, rfl⟩ := Option.ne_none_iff_exists'.mp hc.1
    rcases createSocket_course f host port wishes hc.2 with
      ⟨e, w₁, ht, hrun, -⟩ | ⟨ht, r, es, o, w₁, hfate, hrun, -⟩
    · rw [exists_run_ok_iff hrun]
      simp [ht]
    · rw [exists_run_ok_iff hrun, hfate.ok_iff]
      simp [ht, hc.2]

theorem handedOut_of_createSocket {f : Factory} {host : Option String} {wishes : Wishes}
    (hrun : (createSocket f host port wishes).run w = (.ok n, w')) : ∃ h, host = some h ∧
      HandedOut f.ladder h (.opened (w.connected + 1)) (opening f h port wishes w) w w' n := by
  by_cases hc : host = none ∨ w.network.connects.current ≠ none
  · obtain ⟨e, w₁, hrun', -, -⟩ := createSocket_refused f host port wishes hc
    cases hrun'.symm.trans hrun
  · rw [not_or, not_not] at hc
    obtain ⟨host, rfl⟩ := Option.ne_none_iff_exists'.mp hc.1
    rcases createSocket_course f host port wishes hc.2 with
      ⟨e, w₁, -, hrun', -⟩ | ⟨-, r, es, o, w₁, hfate, hrun', hl⟩
    · cases hrun'.symm.trans hrun
    · cases hrun'.symm.trans hrun
      cases hfate.number
      exact ⟨host, rfl, hfate.handedOut hl (closedIn_opening ..)⟩

/-- A factory that layers hands out a socket just where there is a connection to wrap and it
passes. -/
theorem createLayered_ok_iff (f : Factory) (raw : RawSocket) (host : Option String) (port : Value)
    (autoClose : Bool) (w : World) :
    (∃ n w', (createLayered f raw host port autoClose).run w = (.ok n, w')) ↔
      ∃ h, host = some h ∧ (autoClose = true ∨ w.network.duplicateFault = none) ∧
        Passes w.wrapAnswer f.ladder h port := by
  cases host with
  | none =>
    constructor
    · rintro ⟨n, w', h⟩
      cases h
    · rintro ⟨h, hh, -⟩
      cases hh
  | some host =>
    rcases createLayered_course f raw host port autoClose w with
      ⟨e, w₁, ha, hd, hrun, -⟩ | ⟨hd, r, es, o, w₁, hfate, hrun, -⟩
    · rw [exists_run_ok_iff hrun]
      simp [ha, hd]
    · rw [exists_run_ok_iff hrun, hfate.ok_iff]
      simp [hd]

theorem handedOut_of_createLayered {f : Factory} {host : Option String} {autoClose : Bool}
    (hrun : (createLayered f raw host port autoClose).run w = (.ok n, w')) : ∃ h, host = some h ∧
      HandedOut f.ladder h (layered raw autoClose) (preparing raw autoClose) w w' n := by
  cases host with
  | none => cases hrun
  | some host =>
    rcases createLayered_course f raw host port autoClose w with
      ⟨e, w₁, -, -, hrun', -⟩ | ⟨-, r, es, o, w₁, hfate, hrun', hl⟩
    · cases hrun'.symm.trans hrun
    · cases hrun'.symm.trans hrun
      cases hfate.number
      refine ⟨host, rfl, hfate.handedOut hl ?_⟩
      cases autoClose <;> rfl

/-- A factory hands out a socket just where its connection is there and passes; it is then the
socket made of this connection for the host, verified for that host after it was made, and open. -/
theorem returned_socket_is_vouched (f : Factory) (host : Option String) (port : Value) (w : World) :
    (∀ wishes,
      ((∃ n w', (createSocket f host port wishes).run w = (.ok n, w')) ↔
        ∃ h, host = some h ∧ w.network.connects.current = none ∧ w.network.timeoutFault = none ∧
          Passes w.wrapAnswer f.ladder h port) ∧
      ∀ n w', (createSocket f host port wishes).run w = (.ok n, w') → ∃ h, host = some h ∧
        HandedOut f.ladder h (.opened (w.connected + 1)) (opening f h port wishes w) w w' n) ∧
    ∀ raw autoClose,
      ((∃ n w', (createLayered f raw host port autoClose).run w = (.ok n, w')) ↔
        ∃ h, host = some h ∧ (autoClose = true ∨ w.network.duplicateFault = none) ∧
          Passes w.wrapAnswer f.ladder h port) ∧
      ∀ n w', (createLayered f raw host port autoClose).run w = (.ok n, w') → ∃ h, host = some h ∧
        HandedOut f.ladder h (layered raw autoClose) (preparing raw autoClose) w w' n := by
  refine ⟨fun wishes => ⟨createSocket_ok_iff f host port wishes w, fun n w' hrun => ?_⟩,
    fun raw autoClose => ⟨createLayered_ok_iff f raw host port autoClose w, fun n w' hrun => ?_⟩⟩
  · exact handedOut_of_createSocket hrun
  · exact handedOut_of_createLayered hrun

/-! ## A socket that is handed out -/

def peerDer : List UInt8 :=
  [48, 129, 150, 48, 129, 132, 160, 3, 2, 1, 2, 2, 1, 1, 48, 10, 6, 8, 42, 134, 72, 206, 61, 4, 3,
    2, 48, 12, 49, 10, 48, 8, 6, 3, 85, 4, 10, 12, 1, 105, 48, 30, 23, 13, 50, 48, 48, 49, 48, 49,
    48, 48, 48, 48, 48, 48, 90, 23, 13, 51, 48, 48, 49, 48, 49, 48, 48, 48, 48, 48, 48, 90, 48, 20,
    49, 18, 48, 16, 6, 3, 85, 4, 3, 12, 9, 112, 101, 101, 114, 46, 116, 101, 115, 116, 48, 42, 48,
    5, 6, 3, 43, 101, 112, 3, 33] ++ List.replicate 33 0 ++
    [48, 10, 6, 8, 42, 134, 72, 206, 61, 4, 3, 2, 3, 1, 0]

/-- A TLS socket that has this certificate at once, and answers `later` when asked once more. -/
def readySocket (later : Except SocketFault (Option (List UInt8))) : TlsSocket :=
  { certificate := ⟨.ok (some peerDer), [later]⟩ }

theorem verified_readySocket (later : Except SocketFault (Option (List UInt8))) :
    (readySocket later).fresh.verified .default "peer.test" =
      ⟨.ok (Verdict.pass "peer.test" "peer.test" "CN=peer.test"),
        .call .certificate :: (Verdict.records "CN=peer.test" "peer.test").map .record,
        .socket (.tls { certificate := ⟨later, []⟩ })⟩ := by
  cbv

theorem readySocket_is_vouched :
    let f : Factory := ⟨.default, { origin := .given }, .default⟩
    let w : World := { wraps := ⟨.ok (readySocket (.ok none)), []⟩ }
    ∃ n w', (createSocket f (some "peer.test") (.int 443) {}).run w = (.ok n, w') ∧
      HandedOut .default "peer.test" (.opened 1) (opening f "peer.test" (.int 443) {} w)
        w w' n := by
  intro f w
  obtain ⟨hiff, hout⟩ := (returned_socket_is_vouched f (some "peer.test") (.int 443) w).1 {}
  obtain ⟨n, w', hrun⟩ := hiff.mpr
    ⟨_, rfl, rfl, rfl, _, _, _, _, _, rfl, verified_readySocket (.ok none), rfl⟩
  obtain ⟨_, ⟨rfl⟩, hh⟩ := hout n w' hrun
  exact ⟨n, w', hrun, hh⟩

end PeerCheck.Factory
