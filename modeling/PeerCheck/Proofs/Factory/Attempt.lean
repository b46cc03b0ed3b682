import PeerCheck.Proofs.Config.Settings
import PeerCheck.Proofs.Factory.Verdict

/-!
# The attempt to connect

Before anything else a connection is attempted, and only once. What it is attempted with comes of
the caller's wishes and of the settings, where each wish has its own way of not being one: a timeout
may be null, an address empty, and a port zero (`Resolved`). An attempt that runs out of time ends
the run there and then, and no other run ends so (`attempted_once_as_resolved`), unless that very
fault is among the answers of the network or of the TLS library.

A port is bound together with an address. Settings with a port have an address for it, but a caller
may ask for a port where there is none at all, and this port is dropped without a word
(`PortDropped`).
-/

namespace PeerCheck

open PeerCheck.Config PeerCheck.Json PeerCheck.Session PeerCheck.Tls

def World.TimesOut (w : World) : Prop := ∃ e, w.network.connects.current = some e ∧ e.isTimeout

namespace Factory

/-! ## Wishes and settings -/

/-- Of a wish and a setting, the wish where it counts. -/
inductive Preferred (counts : Value → Bool) (wish setting : Value) : Value → Prop
  | wish (h : counts wish = true) : Preferred counts wish setting wish
  | setting (h : counts wish = false) : Preferred counts wish setting setting

def Wishes.address (wishes : Wishes) : Value := wishes.localAddress.elim .null .str

/-- What wishes and settings come to: the timeout, and what to bind to, which needs an address. -/
structure Resolved (s : Settings) (wishes : Wishes) (timeout : Value)
    (source : Option (Value × Value)) : Prop where
  timeout : Preferred (fun v => !v.isNull) (wishes.timeout.getD .null) (.float s.connectTimeout)
    timeout
  source : ∃ address port, Preferred Value.isSet wishes.address s.localAddress address ∧
    Preferred Value.isSet wishes.localPort s.localPort port ∧
    source = if address.isSet then some (address, port) else none

/-- The caller asks for a port, and neither the caller nor the settings have an address for it. -/
structure PortDropped (s : Settings) (wishes : Wishes) : Prop where
  wished : wishes.localPort.isSet
  unaddressed : wishes.address.isSet = false
  unconfigured : s.localAddress.isSet = false

variable {s : Settings} {wishes : Wishes} {counts : Value → Bool} {wish setting v timeout : Value}
  {source : Option (Value × Value)}

theorem preferred_iff :
    Preferred counts wish setting v ↔ v = if counts wish then wish else setting := by
  constructor
  · rintro (h | h) <;> simp [h]
  · rintro rfl
    cases h : counts wish with
    | true => exact .wish h
    | false => exact .setting h

theorem timeoutFor_eq_iff :
    Preferred (fun v => !v.isNull) (wishes.timeout.getD .null) (.float s.connectTimeout) timeout ↔
      timeout = timeoutFor s wishes := by
  rw [preferred_iff]
  unfold timeoutFor
  cases wishes.timeout with
  | none => rfl
  | some t => cases t <;> rfl

theorem addressFor_eq {address : Value}
    (h : Preferred Value.isSet wishes.address s.localAddress address) :
    addressFor s wishes = if address.isSet then some address else none := by
  rw [preferred_iff] at h
  subst h
  unfold addressFor addressFor.configured Wishes.address
  cases wishes.localAddress with
  | none => rfl
  | some a =>
    change (if Value.isSet (.str a) then _ else _) = _
    cases ha : Value.isSet (.str a) <;> simp [ha]

theorem sourceFor_eq {address port : Value}
    (ha : Preferred Value.isSet wishes.address s.localAddress address)
    (hp : Preferred Value.isSet wishes.localPort s.localPort port) :
    sourceFor s wishes = if address.isSet then some (address, port) else none := by
  rw [sourceFor, addressFor_eq ha, ← preferred_iff.mp hp]
  split <;> rfl

/-- Wishes and settings come to what the factory makes of them, and to nothing else. -/
theorem resolved_iff :
    Resolved s wishes timeout source ↔
      timeout = timeoutFor s wishes ∧ source = sourceFor s wishes := by
  constructor
  · rintro ⟨ht, address, port, ha, hp, rfl⟩
    exact ⟨timeoutFor_eq_iff.mp ht, (sourceFor_eq ha hp).symm⟩
  · rintro ⟨ht, rfl⟩
    have ha : Preferred Value.isSet wishes.address s.localAddress _ := preferred_iff.mpr rfl
    have hp : Preferred Value.isSet wishes.localPort s.localPort _ := preferred_iff.mpr rfl
    exact ⟨timeoutFor_eq_iff.mpr ht, _, _, ha, hp, sourceFor_eq ha hp⟩

/-- There is nothing to bind to just where there is no address. -/
theorem Resolved.source_eq_none_iff (h : Resolved s wishes timeout source) :
    source = none ↔ wishes.address.isSet = false ∧ s.localAddress.isSet = false := by
  obtain ⟨-, a, p, ha, -, rfl⟩ := h
  cases ha <;> simp [*]

theorem isSet_localAddress_of_ofFields {raw : Fields} (h : Settings.ofFields raw = .ok s)
    (hp : s.localPort.isSet) : s.localAddress.isSet := by
  rw [Settings.eq_made_of_ofFields h] at hp ⊢
  simp only [Settings.ofFields_eq, bind_eq_ok_iff, Settings.checkBind_eq_ok_iff] at h
  obtain ⟨-, -, -, -, -, ⟨-, hbind⟩, -⟩ := h
  exact hbind hp

/-- Of a port that is asked for, nothing is bound just where it is dropped. -/
theorem Resolved.portDropped_iff {raw : Fields} (h : Resolved s wishes timeout source)
    (hs : Settings.ofFields raw = .ok s) (hp : wishes.localPort.isSet ∨ s.localPort.isSet) :
    source = none ↔ PortDropped s wishes := by
  rw [h.source_eq_none_iff]
  refine ⟨fun ⟨ha, hc⟩ => ⟨hp.resolve_right fun hp => ?_, ha, hc⟩, fun h => ⟨h.2, h.3⟩⟩
  have hset := isSet_localAddress_of_ofFields hs hp
  rw [hc] at hset
  cases hset

/-- A port that is dropped makes no difference to the run. -/
theorem createSocket_of_portDropped {f : Factory} (h : PortDropped f.settings wishes)
    (host : Option String) (port : Value) :
    createSocket f host port wishes =
      createSocket f host port { wishes with localPort := .int 0 } := by
  have hnone : ∀ p : Value, sourceFor f.settings { wishes with localPort := p } = none := fun p =>
    (resolved_iff.mpr ⟨rfl, rfl⟩).source_eq_none_iff.mpr ⟨h.unaddressed, h.unconfigured⟩
  have hsame : sourceFor f.settings wishes = none := hnone wishes.localPort
  unfold createSocket connect
  rw [hsame, hnone]
  rfl

/-! ## Attempts on the trail -/

def attempts : Event Call → Bool
  | .call (.connect ..) => true
  | _ => false

variable {f : Factory} {host : String} {port : Value} {w w' : World} {a : Except Fault TlsSocket}
  {n : Nat} {l : Ladder} {rescue : Fault → List (Event Call)} {r : Except Fault Nat}
  {es : List (Event Call)} {o : Option TlsSocket} {address number seconds : String}

theorem filter_attempts_tagged (n : Nat) (es : List (Event SocketCall)) :
    (es.map (.tagged n)).filter attempts = [] := by
  rw [List.filter_eq_nil_iff]
  rintro x hx
  obtain ⟨e, -, rfl⟩ := List.mem_map.mp hx
  cases e <;> exact Bool.false_ne_true

theorem filter_attempts_rescue (raw : RawSocket) (e : Fault) :
    (Factory.rescue raw e).filter attempts = [] := by
  unfold Factory.rescue
  split <;> rfl

/-- From the wrapping on no connection is attempted. -/
theorem Fate.filter_attempts (h : Fate a n l host port rescue r es o)
    (hr : ∀ e, (rescue e).filter attempts = []) : es.filter attempts = [] := by
  cases h with
  | unwrapped e => exact hr e
  | unverified | unreported | vouched => exact filter_attempts_tagged ..

/-- What fails as a connection that ran out of time, after there was one, is an answer in store. -/
theorem Fate.voices_of_connectTimedOut
    (h : Fate w.wrapAnswer n l host port rescue (.error (.connectTimedOut address number seconds))
      es o) : w.Voices (.connectTimedOut address number seconds) := by
  cases h with
  | unwrapped _ h => exact .wrap h
  | unverified s s' es _ h hv =>
    exact .socket s h (voices_fresh (Session.voices_of_connectTimedOut hv))
  | unreported s s' es v _ h hv hr =>
    exact .socket s h (voices_fresh (voices_of_report (later_of_verifyHost hv) hr))

/-! ## The run -/

/-- From `w` to `w'` one connection was attempted, before all else, with this timeout and source, and
the events `es` happened after that. -/
structure Attempted (host : String) (port timeout : Value) (source : Option (Value × Value))
    (w w' : World) (es : List (Event Call)) : Prop where
  trail : w'.trail = w.trail ++ .call (.connect host port (orNull timeout) source) :: es
  once : es.filter attempts = []

/-- An attempt that fails ends the run, for want of time just where it ran out of it. -/
theorem attempted_refused (f : Factory) (host : String) (port : Value) (wishes : Wishes)
    (hc : w.network.connects.current ≠ none) :
    ∃ r w', (createSocket f (some host) port wishes).run w = (r, w') ∧
      Attempted host port (timeoutFor f.settings wishes) (sourceFor f.settings wishes) w w' [] ∧
      (w.TimesOut →
        r = .error (.connectTimedOut host port.plain (timeoutFor f.settings wishes).plain)) ∧
      ∀ address number seconds, r = .error (.connectTimedOut address number seconds) →
        w.TimesOut := by
  obtain ⟨e, he⟩ := Option.ne_none_iff_exists'.mp hc
  have hconnect := run_connect f.settings host port wishes w
  rw [he] at hconnect
  refine ⟨_, _, run_bind_of_error hconnect, ⟨rfl, rfl⟩, ?_, ?_⟩
  · rintro ⟨e', he', ht⟩
    cases he.symm.trans he'
    rw [if_pos ht]
  · rintro _ _ _ h
    refine ⟨e, he, ?_⟩
    -- a fault that is passed on as it came is itself the one of the outcome
    by_contra ht
    rw [if_neg ht] at h
    cases h
    exact ht rfl

/-- After an attempt that succeeds something is done, but no connection is attempted again. -/
theorem attempted_made (f : Factory) (host : String) (port : Value) (wishes : Wishes)
    (hc : w.network.connects.current = none) :
    ∃ r w' es, (createSocket f (some host) port wishes).run w = (r, w') ∧
      Attempted host port (timeoutFor f.settings wishes) (sourceFor f.settings wishes) w w' es ∧
      es ≠ [] ∧ ∀ address number seconds, r = .error (.connectTimedOut address number seconds) →
        w.Voices (.connectTimedOut address number seconds) := by
  obtain ⟨e, w', ht, hrun, hl⟩ | ⟨-, r, es, o, w', hfate, hrun, hl⟩ :=
    createSocket_course f host port wishes hc
  · refine ⟨_, _, _, hrun, ⟨hl.trail, rfl⟩, List.cons_ne_nil _ _, ?_⟩
    rintro _ _ _ ⟨⟩
    exact .timeout ht
  · refine ⟨_, _, _, hrun, ⟨hl.trail, ?_⟩, List.cons_ne_nil _ _, ?_⟩
    · exact hfate.filter_attempts (filter_attempts_rescue _)
    · rintro _ _ _ rfl
      exact hfate.voices_of_connectTimedOut

/-- Every run attempts one connection, with what the wishes and the settings come to. The run fails
for want of time, with nothing done after the attempt, just where the attempt ran out of it. A port
that is asked for is bound, unless it is the caller's and nobody has an address for it; then the run
is as if it had not been asked for. -/
theorem attempted_once_as_resolved (f : Factory) {raw : Fields}
    (hs : Settings.ofFields raw = .ok f.settings) (host : String) (port : Value) (wishes : Wishes)
    (w : World) :
    ∃ r w' timeout source es,
      (createSocket f (some host) port wishes).run w = (r, w') ∧
      Resolved f.settings wishes timeout source ∧
      Attempted host port timeout source w w' es ∧
      (w.TimesOut ↔ r = .error (.connectTimedOut host port.plain timeout.plain) ∧ es = []) ∧
      (∀ address number seconds, r = .error (.connectTimedOut address number seconds) →
        w.TimesOut ∨ w.Voices (.connectTimedOut address number seconds)) ∧
      (wishes.localPort.isSet ∨ f.settings.localPort.isSet →
        (source = none ↔ PortDropped f.settings wishes)) ∧
      (PortDropped f.settings wishes → createSocket f (some host) port wishes =
        createSocket f (some host) port { wishes with localPort := .int 0 }) := by
  have hresolved : Resolved f.settings wishes _ _ := resolved_iff.mpr ⟨rfl, rfl⟩
  have hdropped := fun h : PortDropped f.settings wishes =>
    createSocket_of_portDropped h (some host) port
  by_cases hc : w.network.connects.current = none
  · obtain ⟨r, w', es, hrun, ha, hes, hvoices⟩ := attempted_made f host port wishes hc
    refine ⟨r, w', _, _, es, hrun, hresolved, ha, ⟨?_, fun h => absurd h.2 hes⟩, fun x y z hr =>
      .inr (hvoices x y z hr), hresolved.portDropped_iff hs, hdropped⟩
    rintro ⟨e, he, -⟩
    cases hc.symm.trans he
  · obtain ⟨r, w', hrun, ha, hr, htime⟩ := attempted_refused f host port wishes hc
    exact ⟨r, w', _, _, [], hrun, hresolved, ha, ⟨fun h => ⟨hr h, rfl⟩, fun h => htime _ _ _ h.1⟩,
      fun x y z h => .inl (htime x y z h), hresolved.portDropped_iff hs, hdropped⟩

/-- A port without an address: the socket is handed out, bound to nothing. -/
theorem attempted_once_unbound :
    let f : Factory := ⟨.default, { origin := .given }, .default⟩
    let wishes : Wishes := { localPort := .int 5000 }
    let w : World := { wraps := ⟨.ok (readySocket (.ok none)), []⟩ }
    PortDropped f.settings wishes ∧
      ∃ w' es, (createSocket f (some "peer.test") (.int 443) wishes).run w = (.ok 1, w') ∧
        Attempted "peer.test" (.int 443) (.float f.settings.connectTimeout) none w w' es := by
  intro f wishes w
  have hdrop : PortDropped f.settings wishes := ⟨rfl, rfl, rfl⟩
  have hs : Settings.ofFields Settings.defaultFields = .ok f.settings := Settings.ofFields_default
  obtain ⟨r, w', timeout, source, es, hrun, hresolved, ha, -, -, hport, -⟩ :=
    attempted_once_as_resolved f hs "peer.test" (.int 443) wishes w
  obtain rfl := (hport (.inl rfl)).mpr hdrop
  obtain ⟨rfl, -⟩ := resolved_iff.mp hresolved
  obtain ⟨n, w₁, hok⟩ := (createSocket_ok_iff f (some "peer.test") (.int 443) wishes w).mpr
    ⟨_, rfl, rfl, rfl, _, _, _, _, _, rfl, verified_readySocket (.ok none), rfl⟩
  cases hrun.symm.trans hok
  obtain ⟨_, ⟨⟩, hh⟩ := handedOut_of_createSocket hok
  obtain rfl : n = 1 := hh.number
  exact ⟨hdrop, w', es, hok, ha⟩

end Factory

end PeerCheck
