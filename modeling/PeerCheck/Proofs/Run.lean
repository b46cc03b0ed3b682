import Mathlib.Order.Defs.Unbundled

/-!
# How computations are run

Dialogues, acts and recorded computations all may fail and change a state either way. Here is one
rule for each way they are put together, and two things to say of a whole computation: `Leads R m`,
that it ends in a state that `R` relates to the first, and `Gives m r`, that it comes to `r`.
-/

namespace PeerCheck

variable {ε σ α β : Type} {d : ExceptT ε (StateM σ) α} {k : α → ExceptT ε (StateM σ) β}
  {t u v : σ} {a : α} {e : ε}

theorem exists_of_bind_eq_ok {r : Except ε α} {f : α → Except ε β} {b : β}
    (h : (r >>= f) = .ok b) : ∃ a, r = .ok a ∧ f a = .ok b := by
  cases r with
  | ok a => exact ⟨a, rfl, h⟩
  | error e => cases h

theorem bind_eq_ok_iff {r : Except ε α} {f : α → Except ε β} {b : β} :
    (r >>= f) = .ok b ↔ ∃ a, r = .ok a ∧ f a = .ok b := by
  refine ⟨exists_of_bind_eq_ok, ?_⟩
  rintro ⟨a, rfl, h⟩
  exact h

/-- What comes after a check comes about just where the check passes. -/
theorem check_bind_eq_ok_iff {r : Except ε Unit} {q : Except ε β} {b : β} :
    (r >>= fun _ => q) = .ok b ↔ r = .ok () ∧ q = .ok b := by
  rw [bind_eq_ok_iff]
  exact ⟨fun ⟨_, hr, hq⟩ => ⟨hr, hq⟩, fun ⟨hr, hq⟩ => ⟨(), hr, hq⟩⟩

theorem of_bind_eq_error {r : Except ε α} {f : α → Except ε β} (h : (r >>= f) = .error e) :
    r = .error e ∨ ∃ a, r = .ok a ∧ f a = .error e := by
  cases r with
  | ok a => exact .inr ⟨a, rfl, h⟩
  | error e' =>
    cases h
    exact .inl rfl

theorem exists_of_map_eq_ok {r : Except ε α} {f : α → β} {b : β} (h : r.map f = .ok b) :
    ∃ a, r = .ok a ∧ f a = b := by
  cases r with
  | ok a => exact ⟨a, rfl, Except.ok.inj h⟩
  | error e => cases h

theorem of_map_eq_error {r : Except ε α} {f : α → β} (h : r.map f = .error e) : r = .error e := by
  cases r with
  | ok a => cases h
  | error e' =>
    cases h
    rfl

/-- A list is gone through up to the first fault. -/
theorem exists_of_mapM_eq_error {f : α → Except ε β} {as : List α} (h : as.mapM f = .error e) :
    ∃ a ∈ as, f a = .error e := by
  induction as with
  | nil => cases h
  | cons a as ih =>
    rw [List.mapM_cons] at h
    obtain ha | ⟨b, -, h⟩ := of_bind_eq_error h
    · exact ⟨a, List.mem_cons_self, ha⟩
    · obtain hr | ⟨bs, -, h⟩ := of_bind_eq_error h
      · obtain ⟨a', hmem, ha'⟩ := ih hr
        exact ⟨a', List.mem_cons_of_mem a hmem, ha'⟩
      · cases h

theorem run_bind (d : ExceptT ε (StateM σ) α) (k : α → ExceptT ε (StateM σ) β) (t : σ) :
    (d >>= k).run t = match d.run t with
      | (.ok a, u) => (k a).run u
      | (.error e, u) => (.error e, u) := by
  simp only [ExceptT.run_bind]
  show StateT.bind d.run _ t = _
  simp only [StateT.bind, bind]
  rcases d.run t with ⟨r, u⟩
  cases r <;> rfl

theorem run_tryCatch (d : ExceptT ε (StateM σ) α) (k : ε → ExceptT ε (StateM σ) α) (t : σ) :
    (tryCatch d k : ExceptT ε (StateM σ) α).run t = match d.run t with
      | (.ok a, u) => (.ok a, u)
      | (.error e, u) => (k e).run u := by
  unfold ExceptT.run
  simp only [tryCatch, tryCatchThe, MonadExceptOf.tryCatch, ExceptT.tryCatch, ExceptT.mk, bind,
    StateT.bind]
  rcases d t with ⟨r, u⟩
  cases r <;> rfl

/-- What is done in the end is done after a fault too; its own fault comes first. -/
theorem run_tryFinally (d : ExceptT ε (StateM σ) α) (f : ExceptT ε (StateM σ) β) (t : σ) :
    (tryFinally d f : ExceptT ε (StateM σ) α).run t = match d.run t with
      | (r, u) => match f.run u with
        | (.ok _, v) => (r, v)
        | (.error e, v) => (.error e, v) := by
  unfold tryFinally
  rw [map_eq_pure_bind, run_bind]
  unfold ExceptT.run
  simp only [tryFinally', ExceptT.mk, bind, StateT.bind, pure]
  rcases d t with ⟨r, u⟩
  cases r with
  | ok a =>
    dsimp only
    rcases f u with ⟨_ | _, v⟩ <;> rfl
  | error e =>
    dsimp only
    rcases f u with ⟨_ | _, v⟩ <;> rfl

theorem run_tryFinally_of_ok {f : ExceptT ε (StateM σ) β} {r : Except ε α} {b : β}
    (h : d.run t = (r, u)) (hf : f.run u = (.ok b, v)) :
    (tryFinally d f : ExceptT ε (StateM σ) α).run t = (r, v) := by
  rw [run_tryFinally, h]
  dsimp only
  rw [hf]

theorem run_bind_of_ok (h : d.run t = (.ok a, u)) : (d >>= k).run t = (k a).run u := by
  rw [run_bind, h]

theorem run_bind_of_error (h : d.run t = (.error e, u)) : (d >>= k).run t = (.error e, u) := by
  rw [run_bind, h]

theorem run_tryCatch_of_ok {k : ε → ExceptT ε (StateM σ) α} (h : d.run t = (.ok a, u)) :
    (tryCatch d k : ExceptT ε (StateM σ) α).run t = (.ok a, u) := by
  rw [run_tryCatch, h]

theorem run_tryCatch_of_error {k : ε → ExceptT ε (StateM σ) α} (h : d.run t = (.error e, u)) :
    (tryCatch d k : ExceptT ε (StateM σ) α).run t = (k e).run u := by
  rw [run_tryCatch, h]

theorem run_get_bind (k : σ → ExceptT ε (StateM σ) β) (t : σ) :
    (get >>= k).run t = (k t).run t := rfl

theorem run_modify_bind (f : σ → σ) (k : PUnit → ExceptT ε (StateM σ) β) (t : σ) :
    (modify f >>= k).run t = (k ⟨⟩).run (f t) := rfl

theorem run_ofExcept (r : Except ε α) (t : σ) :
    (ofExcept r : ExceptT ε (StateM σ) α).run t = (r, t) := by
  cases r <;> rfl

/-- A run comes to one outcome only. -/
theorem exists_run_ok_iff {r : Except ε α} (h : d.run t = (r, u)) :
    (∃ a v, d.run t = (.ok a, v)) ↔ ∃ a, r = .ok a := by
  rw [h]
  constructor
  · rintro ⟨a, v, hv⟩
    exact ⟨a, congrArg Prod.fst hv⟩
  · rintro ⟨a, rfl⟩
    exact ⟨a, u, rfl⟩

/-! ## From the first state to the last -/

/-- The computation leads from every state to one that `R` relates to it, failing or not. -/
def Leads (R : σ → σ → Prop) (d : ExceptT ε (StateM σ) α) : Prop := ∀ t, R t (d.run t).2

namespace Leads

variable {R : σ → σ → Prop}

theorem of_run (h : Leads R d) {r : Except ε α} (hr : d.run t = (r, u)) : R t u := by
  have ht := h t
  rw [hr] at ht
  exact ht

/-- What follows may depend on the state that was read. -/
theorem get_bind {k : σ → ExceptT ε (StateM σ) β} (h : ∀ t, R t ((k t).run t).2) :
    Leads R (get >>= k) := h

variable [IsPreorder σ R]

protected theorem pure (a : α) : Leads R (pure a : ExceptT ε (StateM σ) α) := fun t => refl t

protected theorem throw (e : ε) : Leads R (throw e : ExceptT ε (StateM σ) α) := fun t => refl t

protected theorem get : Leads R (get : ExceptT ε (StateM σ) σ) := fun t => refl t

protected theorem ofExcept (r : Except ε α) : Leads R (ofExcept r : ExceptT ε (StateM σ) α) := by
  intro t
  rw [run_ofExcept]
  exact refl t

protected theorem bind (h : Leads R d) (hk : ∀ a, Leads R (k a)) : Leads R (d >>= k) := by
  intro t
  have ht := h t
  rw [run_bind]
  rcases hd : d.run t with ⟨r, u⟩
  rw [hd] at ht
  cases r with
  | ok a => exact IsTrans.trans _ _ _ ht (hk a u)
  | error e => exact ht

protected theorem map (f : α → β) (h : Leads R d) : Leads R (f <$> d) := by
  rw [map_eq_pure_bind]
  exact h.bind fun a => Leads.pure (f a)

protected theorem tryCatch {k : ε → ExceptT ε (StateM σ) α} (h : Leads R d)
    (hk : ∀ e, Leads R (k e)) : Leads R (tryCatch d k) := by
  intro t
  have ht := h t
  rw [run_tryCatch]
  rcases hd : d.run t with ⟨r, u⟩
  rw [hd] at ht
  cases r with
  | ok a => exact ht
  | error e => exact IsTrans.trans _ _ _ ht (hk e u)

protected theorem tryFinally {f : ExceptT ε (StateM σ) β} (h : Leads R d) (hf : Leads R f) :
    Leads R (tryFinally d f) := by
  intro t
  have ht := h t
  rw [run_tryFinally]
  rcases hd : d.run t with ⟨r, u⟩
  rw [hd] at ht
  have hu := hf u
  simp only
  rcases hv : f.run u with ⟨r', v⟩
  rw [hv] at hu
  cases r' <;> exact IsTrans.trans _ _ _ ht hu

end Leads

/-! ## The faults it ends in -/

/-- If the answer is a fault, it is of the kind `P`. -/
def Fails (P : ε → Prop) (r : Except ε α) : Prop := ∀ e, r = .error e → P e

variable {P : ε → Prop}

namespace Fails

protected theorem ok (a : α) : Fails P (.ok a : Except ε α) := nofun

protected theorem error {e : ε} (h : P e) : Fails P (.error e : Except ε α) := by
  rintro _ ⟨⟩
  exact h

protected theorem bind {r : Except ε α} {k : α → Except ε β} (h : Fails P r)
    (hk : ∀ a, Fails P (k a)) : Fails P (r >>= k) := by
  cases r with
  | ok a => exact hk a
  | error e => exact .error (h e rfl)

end Fails

/-! ## What it comes to -/

/-- The computation comes to `r`, whatever the state it starts in. -/
def Gives (d : ExceptT ε (StateM σ) α) (r : Except ε α) : Prop := ∀ t, (d.run t).1 = r

namespace Gives

protected theorem pure (a : α) : Gives (pure a : ExceptT ε (StateM σ) α) (.ok a) := fun _ => rfl

protected theorem ofExcept (r : Except ε α) : Gives (ofExcept r : ExceptT ε (StateM σ) α) r := by
  intro t
  rw [run_ofExcept]

protected theorem bind {r : Except ε α} {f : α → Except ε β} (h : Gives d r)
    (hk : ∀ a, Gives (k a) (f a)) : Gives (d >>= k) (r >>= f) := by
  intro t
  obtain rfl := h t
  rw [run_bind]
  rcases d.run t with ⟨_ | a, u⟩
  · rfl
  · exact hk a u

/-- What follows may leave what came out as it is. -/
theorem keep {r : Except ε α} {k : α → ExceptT ε (StateM σ) α} (h : Gives d r)
    (hk : ∀ a, Gives (k a) (.ok a)) : Gives (d >>= k) r := by
  have hr : r >>= .ok = r := by cases r <;> rfl
  rw [← hr]
  exact h.bind hk

/-- A change of the state does not matter to what comes of it. -/
theorem modify_bind {q : ExceptT ε (StateM σ) α} {r : Except ε α} (f : σ → σ) (h : Gives q r) :
    Gives (modify f >>= fun _ => q) r := fun t => h (f t)

protected theorem foldlM {f : β → α → ExceptT ε (StateM σ) β} {g : β → α → Except ε β}
    (h : ∀ b a, Gives (f b a) (g b a)) (b : β) (as : List α) :
    Gives (as.foldlM f b) (as.foldlM g b) := by
  induction as generalizing b with
  | nil => exact .pure b
  | cons a as ih =>
    rw [List.foldlM_cons, List.foldlM_cons]
    exact (h b a).bind ih

end Gives

end PeerCheck
