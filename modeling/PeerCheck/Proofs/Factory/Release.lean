import PeerCheck.Proofs.Factory.Handover

/-!
# What stays open when a factory fails

A factory that fails should give back the connection it made, or the duplicate. It does where the
verification fails, and its own connection also where the TLS library refuses with a fault of the
system or an unsuitable value. Everything it opened stays open if the connection takes no timeout,
if the library refuses for any other cause or refuses a duplicate, and if the session of a verified
socket cannot be told (`KeepsOpen`, `KeepsDuplicate`).
-/

namespace PeerCheck.Factory

open PeerCheck.Json PeerCheck.Session

/-- The peer of the new socket is verified, but telling its session fails with `e`. -/
def Unreported (a : Except Fault TlsSocket) (l : Ladder) (host : String) (port : Value)
    (e : Fault) : Prop :=
  ∃ s s' es v, a = .ok s ∧ s.fresh.verified l host = ⟨.ok v, es, .socket (.tls s')⟩ ∧
    s'.report host port = .error e

/-- What was opened was given back: the TLS socket if there was one by then, the connection if not.
Nothing else was closed. -/
def Released (raw : RawSocket) (w w' : World) : Prop :=
  ∃ es, w'.trail = w.trail ++ es ∧
    ((w'.sockets = w.sockets ∧ closedIn es = [.raw raw]) ∨
      ∃ s, w'.sockets = w.sockets ++ [s] ∧ s.closed = true ∧
        closedIn es = [.tls (w.sockets.length + 1)])

/-- Nothing was closed, and the sockets that were made are open. -/
def StaysOpen (w w' : World) : Prop :=
  ∃ es made, w'.trail = w.trail ++ es ∧ closedIn es = [] ∧ w'.sockets = w.sockets ++ made ∧
    ∀ s ∈ made, s.closed = false

variable {a : Except Fault TlsSocket} {n : Nat} {l : Ladder} {host : String} {port : Value}
  {care : Fault → List (Event Call)} {r : Except Fault Nat} {es before : List (Event Call)}
  {o : Option TlsSocket} {w w' : World} {raw : RawSocket} {e : Fault}

theorem Unreported.not_error (h : Unreported a l host port e) (e' : Fault) : a ≠ .error e' := by
  obtain ⟨s, -, -, -, rfl, -⟩ := h
  nofun

theorem closedIn_closing {ds : List (Event SocketCall)} (n : Nat) (h : Event.call .close ∉ ds) :
    closedIn (List.map (Event.tagged n) (ds ++ [.call .close])) = [.tls n] := by
  rw [List.map_append, closedIn_append, closedIn_tagged n h]
  rfl

/-- A failure of the factory, by what was done about the connection: what is cared for where it
cannot be wrapped, nothing where the session is not told, and the socket closed otherwise. -/
theorem Fate.release (h : Fate w.wrapAnswer (w.sockets.length + 1) l host port care (.error e) es o)
    (hl : Leaves w w' (before ++ .call (.context (.wrap raw host)) :: es) o.toList)
    (hb : closedIn before = []) :
    (w.wrapAnswer = .error e ∧ w'.sockets = w.sockets ∧
      ∃ fs, w'.trail = w.trail ++ fs ∧ closedIn fs = closedIn (care e)) ∨
    (Unreported w.wrapAnswer l host port e ∧ StaysOpen w w') ∨
    ((∃ s, w.wrapAnswer = .ok s) ∧ ¬ Unreported w.wrapAnswer l host port e ∧
      Released raw w w') := by
  have hclosed : closedIn (before ++ .call (.context (.wrap raw host)) :: es) = closedIn es := by
    rw [closedIn_append, hb, closedIn_wrap_cons, List.nil_append]
  cases h with
  | unwrapped _ ha =>
    exact .inl ⟨ha, hl.sockets.trans (List.append_nil _), _, hl.trail, hclosed⟩
  | unreported s s' ds v _ ha hv hr =>
    obtain ⟨hopen, hcalls⟩ := unclosed_of_verifyHost hv
    have hds : .call .close ∉ ds ++ [.call .certificate] := by simpa using hcalls
    rw [closedIn_tagged _ hds] at hclosed
    refine .inr (.inl ⟨⟨s, s', ds, v, ha, hv, hr⟩, _, _, hl.trail, hclosed, hl.sockets, ?_⟩)
    intro t ht
    rw [List.mem_singleton.mp ht]
    exact hopen
  | unverified s s' ds _ ha hv =>
    have hcalls := (unclosed_of_verifyHost hv).2
    rw [closedIn_closing _ hcalls] at hclosed
    refine .inr (.inr ⟨⟨s, ha⟩, ?_, _, hl.trail, .inr ⟨_, hl.sockets, rfl, hclosed⟩⟩)
    rintro ⟨t, t', es', v', ht, hv', -⟩
    cases ha.symm.trans ht
    cases hv.symm.trans hv'

theorem Fate.error_of_unreported (h : Fate a n l host port care r es o)
    (hu : Unreported a l host port e) : r = .error e := by
  obtain ⟨s, s', ds, v, ha, hv, hr⟩ := hu
  exact (Fate.unreported s s' ds v e ha hv hr).outcome_unique h

theorem Fate.error_of_wrap (h : Fate a n l host port care r es o) (ha : a = .error e) :
    r = .error e :=
  (Fate.unwrapped e ha).outcome_unique h

/-! ## The factory's own connection -/

/-- The failures that leave a connection of the factory's own open. -/
inductive KeepsOpen (w : World) (l : Ladder) (host : String) (port : Value) (e : Fault) : Prop
  | timeout (h : w.network.timeoutFault = some e)
  | wrap (ht : w.network.timeoutFault = none) (h : w.wrapAnswer = .error e)
    (hos : e.isOs = false) (hvalue : e.isValue = false)
  | report (ht : w.network.timeoutFault = none) (h : Unreported w.wrapAnswer l host port e)

theorem not_keepsOpen (ht : w.network.timeoutFault = none)
    (hw : w.wrapAnswer = .error e → (e.isOs || e.isValue) = true)
    (hu : ¬ Unreported w.wrapAnswer l host port e) : ¬ KeepsOpen w l host port e := by
  rintro (h | ⟨-, h, hos, hvalue⟩ | ⟨-, h⟩)
  · rw [ht] at h
    cases h
  · have hfam := hw h
    rw [hos, hvalue] at hfam
    cases hfam
  · exact hu h

theorem createSocket_releases {f : Factory} {wishes : Wishes}
    (hc : w.network.connects.current = none)
    (hrun : (createSocket f (some host) port wishes).run w = (.error e, w')) :
    KeepsOpen w f.ladder host port e ∧ StaysOpen w w' ∨
      ¬ KeepsOpen w f.ladder host port e ∧ Released (.opened (w.connected + 1)) w w' := by
  rcases createSocket_course f host port wishes hc with
    ⟨_, _, ht, hrun', hl⟩ | ⟨ht, r, es, o, _, hfate, hrun', hl⟩
  · cases hrun'.symm.trans hrun
    exact .inl ⟨.timeout ht, _, [], hl.trail, closedIn_opening .., hl.sockets,
      List.forall_mem_nil _⟩
  cases hrun'.symm.trans hrun
  rcases hfate.release hl (closedIn_opening ..) with
    ⟨ha, hs, fs, htrail, hclosed⟩ | ⟨hr, hopen⟩ | ⟨⟨s, hs⟩, hr, hrel⟩
  · rw [closedIn_rescue] at hclosed
    by_cases hfam : (e.isOs || e.isValue) = true
    · rw [if_pos hfam] at hclosed
      exact .inr ⟨not_keepsOpen ht (fun _ => hfam) fun h => h.not_error e ha,
        fs, htrail, .inl ⟨hs, hclosed⟩⟩
    · rw [if_neg hfam] at hclosed
      rw [Bool.not_eq_true, Bool.or_eq_false_iff] at hfam
      exact .inl ⟨.wrap ht ha hfam.1 hfam.2, fs, [], htrail, hclosed,
        hs.trans (List.append_nil _).symm, List.forall_mem_nil _⟩
  · exact .inl ⟨.report ht hr, hopen⟩
  · refine .inr ⟨not_keepsOpen ht (fun h => ?_) hr, hrel⟩
    rw [hs] at h
    cases h

theorem createSocket_raises (f : Factory) (wishes : Wishes)
    (hc : w.network.connects.current = none) (hk : KeepsOpen w f.ladder host port e) :
    ∃ w', (createSocket f (some host) port wishes).run w = (.error e, w') := by
  rcases createSocket_course f host port wishes hc with
    ⟨e', w₁, ht, hrun, -⟩ | ⟨ht, r, es, o, w₁, hfate, hrun, -⟩
  · rcases hk with h | ⟨h, -⟩ | ⟨h, -⟩
    · cases ht.symm.trans h
      exact ⟨w₁, hrun⟩
    · cases ht.symm.trans h
    · cases ht.symm.trans h
  · rcases hk with h | ⟨-, h, -⟩ | ⟨-, h⟩
    · cases ht.symm.trans h
    · exact ⟨w₁, hfate.error_of_wrap h ▸ hrun⟩
    · exact ⟨w₁, hfate.error_of_unreported h ▸ hrun⟩

/-- A factory that connected and fails gives its connection back, except for the three failures that
leave it open; and these leave it open whenever they occur. -/
theorem connection_released_or_kept (f : Factory) (host : Option String) (port : Value)
    (wishes : Wishes) (w : World) :
    (∀ e w', (createSocket f host port wishes).run w = (.error e, w') →
      ((host = none ∨ w.network.connects.current ≠ none) ∧ w'.connected = w.connected ∧
        w'.sockets = w.sockets) ∨
      ∃ h, host = some h ∧ w.network.connects.current = none ∧
        (KeepsOpen w f.ladder h port e ∧ StaysOpen w w' ∨
          ¬ KeepsOpen w f.ladder h port e ∧ Released (.opened (w.connected + 1)) w w')) ∧
    ∀ h e, host = some h → w.network.connects.current = none → KeepsOpen w f.ladder h port e →
      ∃ w', (createSocket f host port wishes).run w = (.error e, w') ∧ StaysOpen w w' := by
  constructor
  · intro e w' hrun
    by_cases hc : host = none ∨ w.network.connects.current ≠ none
    · obtain ⟨_, _, hrun', hsockets, hconnected⟩ := createSocket_refused f host port wishes hc
      cases hrun'.symm.trans hrun
      exact .inl ⟨hc, hconnected, hsockets⟩
    · rw [not_or, not_not] at hc
      obtain ⟨host, rfl⟩ := Option.ne_none_iff_exists'.mp hc.1
      exact .inr ⟨host, rfl, hc.2, createSocket_releases hc.2 hrun⟩
  · rintro h e rfl hc hk
    obtain ⟨w', hrun⟩ := createSocket_raises f wishes hc hk
    obtain ⟨-, hopen⟩ | ⟨hn, -⟩ := createSocket_releases hc hrun
    · exact ⟨w', hrun, hopen⟩
    · exact absurd hk hn

/-- A verified socket that fails when its session is to be told. -/
theorem readySocket_kept :
    let f : Factory := ⟨.default, { origin := .given }, .default⟩
    let e : Fault := .outside .os "connection lost"
    let w : World := { wraps := ⟨.ok (readySocket (.error ⟨e, rfl⟩)), []⟩ }
    ∃ w', (createSocket f (some "peer.test") (.int 443) {}).run w = (.error e, w') ∧
      StaysOpen w w' := by
  intro f e w
  have hkeeps : KeepsOpen w f.ladder "peer.test" (.int 443) e :=
    .report rfl ⟨_, _, _, _, rfl, verified_readySocket (.error ⟨e, rfl⟩), rfl⟩
  exact (connection_released_or_kept f (some "peer.test") (.int 443) {} w).2 _ e rfl rfl hkeeps

/-! ## Over a connection that is there already -/

/-- What happens under the number of a TLS socket closes and wraps no connection. -/
theorem raw_untouched_by_tagged (n : Nat) (ds : List (Event SocketCall)) (q : RawSocket) :
    .raw q ∉ closedIn (List.map (.tagged n) ds) ∧
      ∀ h, Event.call (.context (.wrap q h)) ∉ List.map (.tagged n) ds := by
  induction ds with
  | nil => exact ⟨List.not_mem_nil, fun _ => List.not_mem_nil⟩
  | cons d ds ih =>
    refine ⟨fun hm => ?_, fun h hm => ?_⟩
    · rw [List.map_cons, ← List.singleton_append, closedIn_append] at hm
      refine (List.mem_append.mp hm).elim (fun hd => ?_) ih.1
      cases d with
      | record r => cases hd
      | call c => cases c <;> simp [closedIn, closes?, Event.tagged] at hd
    · rw [List.map_cons, List.mem_cons] at hm
      refine hm.elim (fun hd => ?_) (ih.2 h)
      cases d <;> cases hd

theorem Fate.exists_tagged (h : Fate a n l host port (fun _ => []) r es o) :
    ∃ ds, es = List.map (.tagged n) ds := by
  cases h with
  | unwrapped => exact ⟨[], rfl⟩
  | unverified | unreported | vouched => exact ⟨_, rfl⟩

/-- Nothing was done to the connection `raw` but duplicating it. -/
def LeftAlone (raw : RawSocket) (w w' : World) : Prop :=
  ∃ es, w'.trail = w.trail ++ es ∧ .raw raw ∉ closedIn es ∧
    ∀ h, Event.call (.context (.wrap raw h)) ∉ es

/-- A duplicate stays open if the TLS library refuses it, or if its session is not told. -/
def KeepsDuplicate (w : World) (l : Ladder) (host : String) (port : Value) (e : Fault) : Prop :=
  w.wrapAnswer = .error e ∨ Unreported w.wrapAnswer l host port e

theorem leftAlone_of_createLayered {f : Factory} {host : Option String}
    (hrun : (createLayered f raw host port false).run w = (r, w')) : LeftAlone raw w w' := by
  cases host with
  | none =>
    cases hrun
    exact ⟨[], (List.append_nil _).symm, List.not_mem_nil, fun _ => List.not_mem_nil⟩
  | some host =>
    rcases createLayered_course f raw host port false w with
      ⟨_, _, -, -, hrun', hl⟩ | ⟨-, _, es, o, _, hfate, hrun', hl⟩
    · cases hrun'.symm.trans hrun
      exact ⟨_, hl.trail, by simp [preparing, closedIn, closes?], by simp [preparing]⟩
    · cases hrun'.symm.trans hrun
      obtain ⟨ds, rfl⟩ := hfate.exists_tagged
      obtain ⟨hclose, hwrap⟩ := raw_untouched_by_tagged (w.sockets.length + 1) ds raw
      refine ⟨_, hl.trail, ?_, fun h hm => ?_⟩
      · rw [closedIn_append, closedIn_wrap_cons]
        exact List.not_mem_append List.not_mem_nil hclose
      · rw [List.mem_append, List.mem_cons] at hm
        rcases hm with hm | hm | hm
        · simp [preparing] at hm
        · -- no connection is its own duplicate
          have hself : layered raw false = .duplicate raw := rfl
          rw [hself] at hm
          cases hm
        · exact hwrap h hm

theorem createLayered_releases {f : Factory} (hd : w.network.duplicateFault = none)
    (hrun : (createLayered f raw (some host) port false).run w = (.error e, w')) :
    KeepsDuplicate w f.ladder host port e ∧ StaysOpen w w' ∨
      ¬ KeepsDuplicate w f.ladder host port e ∧ Released (.duplicate raw) w w' := by
  rcases createLayered_course f raw host port false w with
    ⟨_, _, -, hd', -, -⟩ | ⟨-, _, es, o, _, hfate, hrun', hl⟩
  · cases hd.symm.trans hd'
  · cases hrun'.symm.trans hrun
    rcases hfate.release hl rfl with
      ⟨ha, hs, fs, htrail, hclosed⟩ | ⟨hr, hopen⟩ | ⟨⟨s, hs⟩, hr, hrel⟩
    · exact .inl ⟨.inl ha, fs, [], htrail, hclosed, hs.trans (List.append_nil _).symm,
        List.forall_mem_nil _⟩
    · exact .inl ⟨.inr hr, hopen⟩
    · refine .inr ⟨?_, hrel⟩
      rintro (h | h)
      · cases hs.symm.trans h
      · exact hr h

theorem createLayered_raises (f : Factory) (raw : RawSocket)
    (hd : w.network.duplicateFault = none) (hk : KeepsDuplicate w f.ladder host port e) :
    ∃ w', (createLayered f raw (some host) port false).run w = (.error e, w') := by
  rcases createLayered_course f raw host port false w with
    ⟨_, _, -, hd', -, -⟩ | ⟨-, _, es, o, w₁, hfate, hrun, -⟩
  · cases hd.symm.trans hd'
  · rcases hk with h | h
    · exact ⟨w₁, hfate.error_of_wrap h ▸ hrun⟩
    · exact ⟨w₁, hfate.error_of_unreported h ▸ hrun⟩

/-- Layering over a duplicate leaves the caller's connection alone. If it fails the duplicate is
given back, except where the TLS library refuses it or its session is not told; and then it always
stays open. -/
theorem duplicate_released_or_kept (f : Factory) (raw : RawSocket) (host : Option String)
    (port : Value) (w : World) :
    (∀ r w', (createLayered f raw host port false).run w = (r, w') → LeftAlone raw w w') ∧
    (∀ e w', (createLayered f raw host port false).run w = (.error e, w') →
      ((host = none ∨ w.network.duplicateFault = some e) ∧ w'.sockets = w.sockets) ∨
      ∃ h, host = some h ∧ w.network.duplicateFault = none ∧
        (KeepsDuplicate w f.ladder h port e ∧ StaysOpen w w' ∨
          ¬ KeepsDuplicate w f.ladder h port e ∧ Released (.duplicate raw) w w')) ∧
    ∀ h e, host = some h → w.network.duplicateFault = none → KeepsDuplicate w f.ladder h port e →
      ∃ w', (createLayered f raw host port false).run w = (.error e, w') ∧ StaysOpen w w' := by
  refine ⟨fun r w' hrun => leftAlone_of_createLayered hrun, ?_, ?_⟩
  · intro e w' hrun
    cases host with
    | none =>
      cases hrun
      exact .inl ⟨.inl rfl, rfl⟩
    | some host =>
      cases hd : w.network.duplicateFault with
      | none => exact .inr ⟨host, rfl, rfl, createLayered_releases hd hrun⟩
      | some e' =>
        rcases createLayered_course f raw host port false w with
          ⟨_, _, -, hd', hrun', hl⟩ | ⟨hd', -⟩
        · cases hrun'.symm.trans hrun
          exact .inl ⟨.inr (hd.symm.trans hd'), hl.sockets.trans (List.append_nil _)⟩
        · cases hd.symm.trans (hd'.resolve_left nofun)
  · rintro h e rfl hd hk
    obtain ⟨w', hrun⟩ := createLayered_raises f raw hd hk
    obtain ⟨-, hopen⟩ | ⟨hn, -⟩ := createLayered_releases hd hrun
    · exact ⟨w', hrun, hopen⟩
    · exact absurd hk hn

/-- A duplicate that the TLS library refuses. -/
theorem refused_duplicate_kept :
    let f : Factory := ⟨.default, { origin := .given }, .default⟩
    let e : Fault := .outside .tls "handshake failure"
    let w : World := { wraps := ⟨.error e, []⟩ }
    ∃ w', (createLayered f .given (some "peer.test") (.int 443) false).run w = (.error e, w') ∧
      LeftAlone .given w w' ∧ StaysOpen w w' := by
  intro f e w
  obtain ⟨halone, -, hkept⟩ := duplicate_released_or_kept f .given (some "peer.test") (.int 443) w
  obtain ⟨w', hrun, hopen⟩ := hkept _ e rfl rfl (.inl rfl)
  exact ⟨w', hrun, halone _ _ hrun, hopen⟩

end PeerCheck.Factory
