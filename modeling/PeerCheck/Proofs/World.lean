import PeerCheck.Proofs.Session.Dialogue
import PeerCheck.World

/-!
# How acts are run

An act notes its calls and its records as they come: `World.after w es` is the world `w` after the
events `es`. The rules here say what the small acts come to, so that larger ones are run by
`run_bind`; a dialogue with a TLS socket leaves the events it ends with, under the socket's number.
-/

namespace PeerCheck

open PeerCheck.Log PeerCheck.Session

/-- Neither a fault of the system nor an unsuitable value. -/
def Fault.IsApart (e : Fault) : Prop := e.isOs = false ∧ e.isValue = false

namespace Event

def record? {Call : Type} : Event Call → Option Record
  | .call _ => none
  | .record r => some r

def tagged (n : Nat) : Event SocketCall → Event PeerCheck.Call
  | .call c => .call (.tls n c)
  | .record r => .record r

end Event

namespace World

/-- The world after some events: they are on the trail, and the records among them are delivered. -/
def after (w : World) (es : List (Event Call)) : World :=
  { w with
    trail := w.trail ++ es
    out := (es.filterMap Event.record?).foldl (fun o r => w.journal.deliver w.clock r o) w.out }

variable (w : World) (es es' : List (Event Call))

@[simp] theorem library_after : (w.after es).library = w.library := rfl

@[simp] theorem network_after : (w.after es).network = w.network := rfl

@[simp] theorem wraps_after : (w.after es).wraps = w.wraps := rfl

/-- The world after a dialogue with its `n`-th socket. -/
def conversed (n : Nat) (s : TlsSocket) (es : List (Event SocketCall)) : World :=
  { w with sockets := w.sockets.set (n - 1) s }.after (es.map (Event.tagged n))

theorem after_nil : w.after [] = w := by
  unfold after
  rw [List.append_nil]
  rfl

theorem after_after : (w.after es).after es' = w.after (es ++ es') := by
  unfold after
  simp only [List.append_assoc, List.filterMap_append, List.foldl_append]

end World

namespace Act

variable {α β : Type} {w : World}

theorem run_call (c : Call) (w : World) : (call c).run w = (.ok (), w.after [.call c]) := rfl

theorem run_emit (r : Record) (w : World) : (emit r).run w = (.ok (), w.after [.record r]) := rfl

theorem run_emitAll (rs : List Record) (w : World) :
    (rs.forM emit).run w = (.ok (), w.after (rs.map .record)) := by
  induction rs generalizing w with
  | nil =>
    rw [List.map_nil, World.after_nil]
    rfl
  | cons r rs ih =>
    refine (run_bind_of_ok (run_emit r w)).trans ?_
    rw [ih, World.after_after]
    rfl

/-- The records of what only leaves records are emitted before its fault is met. -/
theorem run_ofRecorded {m : Recorded α} {r : Except Fault α} {records : List Record}
    (h : m.run [] = (r, records)) (w : World) :
    (ofRecorded m).run w = (r, w.after (records.map .record)) := by
  unfold ofRecorded
  rw [h]
  exact (run_bind_of_ok (run_emitAll records w)).trans (run_ofExcept _ _)

/-- What only leaves records comes to the same as an act. -/
theorem fst_run_ofRecorded {m : Recorded α} {r : Except Fault α} (h : Gives m r) (w : World) :
    ((ofRecorded m).run w).1 = r := by
  have hrun : m.run [] = ((m.run []).1, (m.run []).2) := rfl
  rw [run_ofRecorded hrun w, h]

theorem run_check (o : Option Fault) (w : World) : (check o).run w = (refusal o, w) := by
  cases o <;> rfl

/-- The call of a context is noted before it fails. -/
theorem run_callContext (c : ContextCall) (w : World) :
    (callContext c).run w =
      (refusal (w.library.faults.lookup c.method), w.after [.call (.context c)]) := by
  unfold callContext
  rw [run_bind_of_ok (run_call _ w), run_get_bind, World.library_after]
  cases w.library.faults.lookup c.method <;> rfl

theorem run_repeatTrail (n : Nat) (es : List (Event SocketCall)) (w : World) :
    (repeatTrail n es).run w = (.ok (), w.after (es.map (Event.tagged n))) := by
  induction es generalizing w with
  | nil => rw [List.map_nil, World.after_nil]; rfl
  | cons e es ih =>
    have hrest : (repeatTrail n es).run (w.after [e.tagged n]) =
        (.ok (), w.after ((e :: es).map (Event.tagged n))) := by
      rw [ih, World.after_after, List.singleton_append, List.map_cons]
    rw [← hrest]
    cases e with
    | call c => exact run_bind_of_ok (run_call (.tls n c) w)
    | record r => exact run_bind_of_ok (run_emit r w)

/-- A dialogue with a TLS socket is what it ends in, in the world. -/
theorem run_converse {d : Dialogue α} {n : Nat} {s s' : TlsSocket} {es : List (Event SocketCall)}
    {r : Except Fault α} (hs : w.sockets[n - 1]? = some s) (h : Ends d (.tls s) es r (.tls s')) :
    (converse n d).run w = (r, w.conversed n s' es) := by
  have hd : d.run ⟨.tls s, []⟩ = (r, ⟨.tls s', es⟩) := h []
  unfold converse
  rw [run_get_bind, hs]
  simp only [hd]
  rw [run_modify_bind, run_bind_of_ok (run_repeatTrail n es _), run_ofExcept]
  rfl

end Act

end PeerCheck
