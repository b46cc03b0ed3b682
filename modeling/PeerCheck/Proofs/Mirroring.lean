import PeerCheck.Proofs.Factory.Securing
import PeerCheck.Proofs.Log.Console

/-!
# Acts that print nothing of their own

Making a context, connecting, wrapping and talking to a socket leave the standard output as it was,
except for the records they emit, as far as these are mirrored there. `World.Mirrors` says so of two
worlds, and the acts are gone through one after another.
-/

namespace PeerCheck

open PeerCheck.Json PeerCheck.Log PeerCheck.Session PeerCheck.Tls PeerCheck.Config

/-- The clock stood still, logging stayed as it was, and what was printed are the records that were
emitted, as they are mirrored. -/
structure World.Mirrors (w w' : World) : Prop where
  journal : w'.journal = w.journal
  clock : w'.clock = w.clock
  stdout : ∃ es, w'.trail = w.trail ++ es ∧ w'.out.stdout =
    w.out.stdout ++ String.join ((es.filterMap Event.record?).map (w.journal.shown w.clock))

namespace World.Mirrors

theorem of_same {w w' : World} (hj : w'.journal = w.journal) (hc : w'.clock = w.clock)
    (ht : w'.trail = w.trail) (ho : w'.out = w.out) : w.Mirrors w' where
  journal := hj
  clock := hc
  stdout := ⟨[], ht.trans (List.append_nil _).symm,
    (congrArg Outlets.stdout ho).trans String.append_empty.symm⟩

protected theorem trans {w w' w'' : World} (h : w.Mirrors w') (h' : w'.Mirrors w'') :
    w.Mirrors w'' := by
  obtain ⟨hj, hc, es, ht, ho⟩ := h
  obtain ⟨hj', hc', es', ht', ho'⟩ := h'
  refine ⟨hj'.trans hj, hc'.trans hc, es ++ es', ?_, ?_⟩
  · rw [ht', ht, List.append_assoc]
  · rw [ho', ho, hj, hc, List.filterMap_append, List.map_append, String.join_append,
      String.append_assoc]

instance : IsPreorder World World.Mirrors where
  refl _ := of_same rfl rfl rfl rfl
  trans _ _ _ := Mirrors.trans

theorem after (w : World) (es : List (Event Call)) : w.Mirrors (w.after es) where
  journal := rfl
  clock := rfl
  stdout := by
    refine ⟨es, rfl, ?_⟩
    show (List.foldl _ w.out (es.filterMap Event.record?)).stdout = _
    generalize es.filterMap Event.record? = rs
    generalize w.out = o
    induction rs generalizing o with
    | nil => exact String.append_empty.symm
    | cons r rs ih =>
      rw [List.foldl_cons, ih, Journal.stdout_deliver, List.map_cons, String.join_cons,
        String.append_assoc]

/-- Whatever else changed, these events are all that happened. -/
theorem of_after {w w' : World} (es : List (Event Call)) (hj : w'.journal = w.journal)
    (hc : w'.clock = w.clock) (ht : w'.trail = w.trail ++ es) (ho : w'.out = (w.after es).out) :
    w.Mirrors w' :=
  (after w es).trans (of_same hj hc ht ho)

end World.Mirrors

open World (Mirrors)

variable {α : Type}

/-! ## Small acts -/

namespace Act

theorem mirrors_modify {f : World → World} (h : ∀ w, Mirrors w (f w)) :
    Leads Mirrors (modify f : Act PUnit) := h

theorem mirrors_call (c : Call) : Leads Mirrors (call c) := fun w => .after w [.call c]

theorem mirrors_emit (r : Record) : Leads Mirrors (emit r) := fun w => .after w [.record r]

theorem mirrors_emitAll (rs : List Record) : Leads Mirrors (rs.forM emit) := by
  intro w
  rw [run_emitAll]
  exact .after w _

theorem mirrors_check (o : Option Fault) : Leads Mirrors (check o) := by
  cases o with
  | none => exact .pure ()
  | some e => exact .throw e

theorem mirrors_callContext (c : ContextCall) : Leads Mirrors (callContext c) := by
  intro w
  rw [run_callContext]
  exact .after w _

theorem mirrors_ofRecorded (m : Recorded α) : Leads Mirrors (ofRecorded m) :=
  (mirrors_emitAll _).bind fun _ => .ofExcept _

theorem mirrors_repeatTrail (n : Nat) (es : List (Event SocketCall)) :
    Leads Mirrors (repeatTrail n es) := by
  intro w
  rw [run_repeatTrail]
  exact .after w _

theorem mirrors_converse (n : Nat) (d : Dialogue α) : Leads Mirrors (converse n d) := by
  refine Leads.get_bind fun w => ?_
  have hrest : ∀ (es : List (Event SocketCall)) (r : Except Fault α), Leads Mirrors (do
      repeatTrail n es
      ofExcept r : Act α) := fun es r => (mirrors_repeatTrail n es).bind fun _ => .ofExcept r
  cases w.sockets[n - 1]? with
  | none => exact refl w
  | some s =>
    simp only
    rcases d.run ⟨.tls s, []⟩ with ⟨r, ⟨u, es⟩⟩
    cases u with
    | stack u => exact hrest es r w
    | tls u =>
      have htold : Leads Mirrors (do
          modify fun w => { w with sockets := w.sockets.set (n - 1) u }
          repeatTrail n es
          ofExcept r : Act α) :=
        Leads.bind (mirrors_modify fun _ => .of_same rfl rfl rfl rfl) fun _ => hrest es r
      exact htold w

end Act

/-! ## Contexts -/

namespace Tls

theorem mirrors_wrapping {kind : Fault → Bool} {wrap : Fault → Fault} {m : Act α}
    (h : Leads Mirrors m) : Leads Mirrors (wrapping kind wrap m) := h.tryCatch fun _ => .throw _

theorem mirrors_openBundle (bytes : List UInt8) (password : Option String) :
    Leads Mirrors (openBundle bytes password) :=
  (Act.mirrors_call _).bind fun _ => Leads.get.bind fun _ => .ofExcept _

theorem mirrors_loadBundle (path : Text.Spelling) (password : Value) :
    Leads Mirrors (loadBundle path password) :=
  mirrors_wrapping (Leads.get.bind fun _ => (Leads.ofExcept _).bind fun bytes =>
    (Leads.ofExcept _).bind fun password => mirrors_openBundle bytes password)

theorem mirrors_withTemporary (content : List Armoured) {m : Act α} (h : Leads Mirrors m) :
    Leads Mirrors (withTemporary content m) :=
  Leads.bind (Act.mirrors_modify fun _ => .of_same rfl rfl rfl rfl) fun _ =>
    Leads.tryFinally (Leads.get.bind fun _ => (Act.mirrors_check _).bind fun _ => h)
      (Act.mirrors_modify fun _ => .of_same rfl rfl rfl rfl)

theorem mirrors_encodedKey (path : Text.Spelling) (password : Value) :
    Leads Mirrors (encodedKey path password) := by
  refine (mirrors_loadBundle path password).bind fun b => ?_
  split
  · exact (Leads.ofExcept _).bind fun _ => Leads.get.bind fun _ => (Act.mirrors_check _).bind
      fun _ => .pure _
  · exact .throw _

theorem mirrors_handOver (path : Text.Spelling) (password : Value) (content : List Armoured) :
    Leads Mirrors (handOver path password content) :=
  mirrors_wrapping (mirrors_withTemporary content (Act.mirrors_callContext _))

theorem mirrors_loadBundledKey (path : Text.Spelling) (password : Value) :
    Leads Mirrors (loadBundledKey path password) :=
  (mirrors_encodedKey path password).bind fun content => mirrors_handOver path password content

theorem mirrors_loadKeystore (s : Settings) : Leads Mirrors (loadKeystore s) := by
  refine (Leads.ofExcept _).bind fun path => ?_
  split
  · exact mirrors_loadBundledKey path _
  · exact mirrors_wrapping (Act.mirrors_callContext _)

theorem mirrors_trustSource (path password : Value) :
    Leads Mirrors (trustSource path password) := by
  refine Leads.get.bind fun w => (Leads.ofExcept _).bind fun folder => ?_
  split
  · exact .pure _
  · refine (Leads.ofExcept _).bind fun text => ?_
    split
    · refine (mirrors_loadBundle text password).bind fun b => ?_
      split
      · exact .throw _
      · exact .pure _
    · exact .pure _

theorem mirrors_loadTruststore (s : Settings) : Leads Mirrors (loadTruststore s) :=
  mirrors_wrapping ((mirrors_trustSource _ _).bind fun _ => Act.mirrors_callContext _)

theorem mirrors_register (c : Context) : Leads Mirrors (register c) :=
  Leads.bind (Act.mirrors_modify fun _ => .of_same rfl rfl rfl rfl) fun _ => .pure c

theorem mirrors_loadStores (s : Settings) : Leads Mirrors (loadStores s) := by
  have hkeystore : Leads Mirrors (do if s.keystorePath.isSet then loadKeystore s) := by
    cases s.keystorePath.isSet with
    | true => exact mirrors_loadKeystore s
    | false => exact .pure ()
  unfold loadStores
  cases s.truststorePath.isSet with
  | true => exact (mirrors_loadTruststore s).bind fun _ => hkeystore
  | false => exact (Act.mirrors_callContext _).bind fun _ => hkeystore

theorem mirrors_contextWith (algorithm : Option String) (s : Settings) :
    Leads Mirrors (contextWith algorithm s) :=
  (Leads.ofExcept _).bind fun _ => (mirrors_register _).bind fun c =>
    (mirrors_loadStores s).bind fun _ => (Act.mirrors_emit _).bind fun _ => .pure c

theorem mirrors_createContext (settings : Option Settings) :
    Leads Mirrors (createContext settings) := by
  cases settings with
  | some s => exact mirrors_contextWith _ s
  | none => exact (Act.mirrors_call _).bind fun _ => mirrors_register _

end Tls

/-! ## Sockets -/

namespace Factory

variable (f : Factory) (raw : RawSocket) (host : String) (port : Value)

theorem mirrors_create (settings : Option Settings) (l : Ladder) :
    Leads Mirrors (create settings l) :=
  (mirrors_createContext settings).bind fun _ => .pure _

theorem mirrors_connect (s : Settings) (wishes : Wishes) :
    Leads Mirrors (connect s host port wishes) := by
  intro w
  rw [run_connect]
  cases w.network.connects.current <;> exact .of_after [_] rfl rfl rfl rfl

theorem mirrors_setTimeout (v : Value) : Leads Mirrors (setTimeout raw v) :=
  (Act.mirrors_call _).bind fun _ => Leads.get.bind fun _ => Act.mirrors_check _

theorem mirrors_wrapOrClose : Leads Mirrors (wrapOrClose raw host) := by
  intro w
  have hafter : Mirrors w (wrapping w raw host) := .of_after [_] rfl rfl rfl rfl
  rw [run_wrapOrClose]
  cases w.wrapAnswer with
  | ok s => exact .of_after [_] rfl rfl rfl rfl
  | error e => exact hafter.trans (.after _ _)

theorem mirrors_createSocket (host : Option String) (wishes : Wishes) :
    Leads Mirrors (createSocket f host port wishes) := by
  cases host with
  | none => exact .throw _
  | some host =>
    exact (mirrors_connect host port f.settings wishes).bind fun raw =>
      (mirrors_setTimeout raw _).bind fun _ => (mirrors_wrapOrClose raw host).bind fun n =>
        (Act.mirrors_converse n _).bind fun _ => .pure n

end Factory

end PeerCheck
