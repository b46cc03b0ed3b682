import PeerCheck.Config.Environment
import PeerCheck.Proofs.Run

/-!
# Two runs abreast

`Agree R` says of two answers that they are the same fault, or else related by `R`; `Abreast R` says
of two recorded computations that they leave the same records and that their answers agree. Here is
one rule for each way the computations are put together.
-/

namespace PeerCheck

open PeerCheck.Log

variable {ε α α' β β' : Type} {R : α → α' → Prop} {S : β → β' → Prop}

/-- Both answers are the same fault, or neither is one and they are related. -/
inductive Agree (R : α → α' → Prop) : Except ε α → Except ε α' → Prop
  | ok {a : α} {a' : α'} (h : R a a') : Agree R (.ok a) (.ok a')
  | error (e : ε) : Agree R (.error e) (.error e)

namespace Agree

variable {r : Except ε α} {r' : Except ε α'}

theorem of_eq {q q' : Except ε α} (h : q = q') : Agree Eq q q' := by
  subst h
  cases q with
  | ok a => exact .ok rfl
  | error e => exact .error e

protected theorem bind {k : α → Except ε β} {k' : α' → Except ε β'} (h : Agree R r r')
    (hk : ∀ a a', R a a' → Agree S (k a) (k' a')) : Agree S (r >>= k) (r' >>= k') := by
  cases h with
  | ok h => exact hk _ _ h
  | error e => exact .error e

/-- Two checks of the same things, and what comes after them. -/
theorem bind_of_eq {q q' : Except ε α} {k : α → Except ε β} {k' : α → Except ε β'} (h : q = q')
    (hk : ∀ a, Agree S (k a) (k' a)) : Agree S (q >>= k) (q' >>= k') :=
  (of_eq h).bind fun a _ ha => ha ▸ hk a

theorem imp {T : α → α' → Prop} (h : Agree R r r') (ht : ∀ a a', R a a' → T a a') :
    Agree T r r' := by
  cases h with
  | ok h => exact .ok (ht _ _ h)
  | error e => exact .error e

theorem mapError {δ : Type} (f : ε → δ) (h : Agree R r r') :
    Agree R (r.mapError f) (r'.mapError f) := by
  cases h with
  | ok h => exact .ok h
  | error e => exact .error (f e)

theorem eq {q q' : Except ε α} (h : Agree Eq q q') : q = q' := by
  cases h with
  | ok h => rw [h]
  | error e => rfl

theorem error_right {e : ε} (h : Agree R r r') (hr : r = .error e) : r' = .error e := by
  subst hr
  cases h
  rfl

theorem ok_right {a : α} (h : Agree R r r') (hr : r = .ok a) : ∃ a', r' = .ok a' ∧ R a a' := by
  subst hr
  cases h with
  | ok h => exact ⟨_, rfl, h⟩

end Agree

/-- The two leave the same records, whatever was there before, and their answers agree. -/
def Abreast (R : α → α' → Prop) (m : Recorded α) (m' : Recorded α') : Prop :=
  ∀ t t', ∃ records, (m.run t).2 = t ++ records ∧ (m'.run t').2 = t' ++ records ∧
    Agree R (m.run t).1 (m'.run t').1

namespace Abreast

variable {m : Recorded α} {m' : Recorded α'}

protected theorem ofExcept {r : Except Fault α} {r' : Except Fault α'} (h : Agree R r r') :
    Abreast R (ofExcept r) (ofExcept r') := by
  intro t t'
  rw [run_ofExcept, run_ofExcept]
  exact ⟨[], (List.append_nil t).symm, (List.append_nil t').symm, h⟩

protected theorem pure {a : α} {a' : α'} (h : R a a') : Abreast R (pure a) (pure a') :=
  Abreast.ofExcept (.ok h)

protected theorem emit (r : Record) : Abreast Eq (Recorded.emit r) (Recorded.emit r) :=
  fun _ _ => ⟨[r], rfl, rfl, .ok rfl⟩

protected theorem bind {k : α → Recorded β} {k' : α' → Recorded β'} (h : Abreast R m m')
    (hk : ∀ a a', R a a' → Abreast S (k a) (k' a')) : Abreast S (m >>= k) (m' >>= k') := by
  intro t t'
  obtain ⟨records, hu, hu', hr⟩ := h t t'
  rw [run_bind, run_bind]
  rcases hm : m.run t with ⟨r, u⟩
  rcases hm' : m'.run t' with ⟨r', u'⟩
  rw [hm] at hu hr
  rw [hm'] at hu' hr
  obtain rfl : u = t ++ records := hu
  obtain rfl : u' = t' ++ records := hu'
  cases hr with
  | error e => exact ⟨records, rfl, rfl, .error e⟩
  | ok ha =>
    obtain ⟨more, hv, hv', hs⟩ := hk _ _ ha (t ++ records) (t' ++ records)
    refine ⟨records ++ more, ?_, ?_, hs⟩
    · rw [← List.append_assoc]
      exact hv
    · rw [← List.append_assoc]
      exact hv'

protected theorem foldlM {γ : Type} {f : β → γ → Recorded β} {f' : β' → γ → Recorded β'}
    {cs : List γ} (h : ∀ c ∈ cs, ∀ b b', S b b' → Abreast S (f b c) (f' b' c)) {b : β} {b' : β'}
    (hb : S b b') : Abreast S (cs.foldlM f b) (cs.foldlM f' b') := by
  induction cs generalizing b b' with
  | nil => exact .pure hb
  | cons c cs ih =>
    rw [List.foldlM_cons, List.foldlM_cons]
    exact (h c List.mem_cons_self b b' hb).bind fun _ _ =>
      ih fun x hx => h x (List.mem_cons_of_mem c hx)

end Abreast

end PeerCheck
