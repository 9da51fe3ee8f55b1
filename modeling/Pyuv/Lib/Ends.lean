-- Programs with a state that an error does not roll back: what holds between the state they
-- begin in and each of their ends, with a value or with an error.
import Mathlib.Tactic.Common

namespace ends

variable {ε σ α β : Type} {pre : σ → Prop} {good : σ → α → σ → Prop} {bad : σ → ε → σ → Prop}
  {m : EStateM ε σ α}

/-- From every state with `pre`, an end with a value is one that `good` allows, and an end
with an error is one that `bad` allows. -/
def Ends (pre : σ → Prop) (good : σ → α → σ → Prop) (bad : σ → ε → σ → Prop)
    (m : EStateM ε σ α) : Prop :=
  ∀ s, pre s → match m s with
    | .ok a t => good s a t
    | .error e t => bad s e t

theorem Ends.ok (h : Ends pre good bad m) {s t : σ} {a : α} (hs : pre s) (hm : m s = .ok a t) :
    good s a t := by
  have hend := h s hs
  rw [hm] at hend
  exact hend

theorem Ends.error (h : Ends pre good bad m) {s t : σ} {e : ε} (hs : pre s)
    (hm : m s = .error e t) : bad s e t := by
  have hend := h s hs
  rw [hm] at hend
  exact hend

/-- Both promises from the two kinds of result. -/
theorem Ends.of (hok : ∀ s a t, pre s → m s = .ok a t → good s a t)
    (herr : ∀ s e t, pre s → m s = .error e t → bad s e t) : Ends pre good bad m := by
  intro s hs
  split
  · exact hok s _ _ hs ‹_›
  · exact herr s _ _ hs ‹_›

/-- A weaker promise under a stronger condition. -/
theorem Ends.mono {pre' : σ → Prop} {good' : σ → α → σ → Prop} {bad' : σ → ε → σ → Prop}
    (h : Ends pre good bad m) (hpre : ∀ s, pre' s → pre s)
    (hok : ∀ s a t, pre' s → good s a t → good' s a t)
    (herr : ∀ s e t, pre' s → bad s e t → bad' s e t) : Ends pre' good' bad' m := by
  apply Ends.of
  · intro s a t hs hm
    exact hok s a t hs (h.ok (hpre s hs) hm)
  · intro s e t hs hm
    exact herr s e t hs (h.error (hpre s hs) hm)

/-- Nothing is done. -/
theorem Ends.pure {a : α} (h : ∀ s, pre s → good s a s) :
    Ends pre good bad (Pure.pure a : EStateM ε σ α) := fun s hs => h s hs

/-- Nothing is done but to raise. -/
theorem Ends.throw {e : ε} (h : ∀ s, pre s → bad s e s) :
    Ends pre good bad (MonadExcept.throw e : EStateM ε σ α) := fun s hs => h s hs

/-- The new state is known. -/
theorem Ends.modify {f : σ → σ} {good : σ → PUnit → σ → Prop}
    (h : ∀ s, pre s → good s ⟨⟩ (f s)) :
    Ends pre good bad (modify f : EStateM ε σ PUnit) := fun s hs => h s hs

/-- Each branch under its condition. -/
theorem Ends.ite {c : Prop} [Decidable c] {m' : EStateM ε σ α} (h : c → Ends pre good bad m)
    (h' : ¬c → Ends pre good bad m') : Ends pre good bad (if c then m else m') := by
  split
  · exact h ‹_›
  · exact h' ‹_›

/-- The second part runs in the state that the first one left. -/
theorem bind_of_ok {x : EStateM ε σ α} {f : α → EStateM ε σ β} {s t : σ} {a : α}
    (h : x s = .ok a t) : (x >>= f) s = f a t := by
  change EStateM.bind x f s = f a t
  unfold EStateM.bind
  rw [h]

/-- After an exception the second part does not run. -/
theorem bind_of_error {x : EStateM ε σ α} {f : α → EStateM ε σ β} {s t : σ} {e : ε}
    (h : x s = .error e t) : (x >>= f) s = .error e t := by
  change EStateM.bind x f s = .error e t
  unfold EStateM.bind
  rw [h]

/-- What follows depends on the outcome of the first part alone. -/
theorem bind_congr_at {x y : EStateM ε σ α} {f : α → EStateM ε σ β} {s : σ} (h : x s = y s) :
    (x >>= f) s = (y >>= f) s := by
  change EStateM.bind x f s = EStateM.bind y f s
  unfold EStateM.bind
  rw [h]

/-- The handler is not needed. -/
theorem tryCatch_of_ok {x : EStateM ε σ α} {f : ε → EStateM ε σ α} {s t : σ} {a : α}
    (h : x s = .ok a t) : (tryCatch x f) s = .ok a t := by
  change EStateM.tryCatch x f s = .ok a t
  unfold EStateM.tryCatch
  rw [h]

/-- The handler runs in the state at the exception, not at the start. -/
theorem tryCatch_of_error {x : EStateM ε σ α} {f : ε → EStateM ε σ α} {s t : σ} {e : ε}
    (h : x s = .error e t) : (tryCatch x f) s = f e t := by
  change EStateM.tryCatch x f s = f e t
  unfold EStateM.tryCatch
  rw [h]
  rfl

/-- The rule of sequence. Its last three hypotheses compose the two parts: for a value, for an
error of the first part and for one of the second. -/
theorem Ends.bind {x : EStateM ε σ α} {f : α → EStateM ε σ β} {mid : α → σ → Prop}
    {good₁ : σ → α → σ → Prop} {good₂ : α → σ → β → σ → Prop} {good : σ → β → σ → Prop}
    {bad₁ : σ → ε → σ → Prop} {bad₂ : α → σ → ε → σ → Prop}
    (hx : Ends pre good₁ bad₁ x) (hf : ∀ a, Ends (mid a) (good₂ a) (bad₂ a) (f a))
    (hmid : ∀ s a t, pre s → good₁ s a t → mid a t)
    (hok : ∀ s a t b u, pre s → good₁ s a t → good₂ a t b u → good s b u)
    (hfst : ∀ s e t, pre s → bad₁ s e t → bad s e t)
    (hsnd : ∀ s a t e u, pre s → good₁ s a t → bad₂ a t e u → bad s e u) :
    Ends pre good bad (x >>= f) := by
  intro s hs
  cases hxs : x s with
  | ok a t =>
    have hfirst := hx.ok hs hxs
    rw [bind_of_ok hxs]
    cases hfa : f a t with
    | ok b u => exact hok s a t b u hs hfirst ((hf a).ok (hmid s a t hs hfirst) hfa)
    | error e u => exact hsnd s a t e u hs hfirst ((hf a).error (hmid s a t hs hfirst) hfa)
  | error e t =>
    rw [bind_of_error hxs]
    exact hfst s e t hs (hx.error hs hxs)

/-! ## Programs that keep an invariant and a relation -/

/-- From a state with `I`, every end has `I` too, and `R` holds between the two. -/
def Keeps (I : σ → Prop) (R : σ → σ → Prop) (m : EStateM ε σ α) : Prop :=
  Ends I (fun s _ t => I t ∧ R s t) (fun s _ t => I t ∧ R s t) m

variable {I : σ → Prop} {R : σ → σ → Prop}

/-- Along a sequence, for a relation that is transitive. -/
theorem Keeps.bind {x : EStateM ε σ α} {f : α → EStateM ε σ β}
    (htrans : ∀ {s t u}, R s t → R t u → R s u) (hx : Keeps I R x) (hf : ∀ a, Keeps I R (f a)) :
    Keeps I R (x >>= f) := by
  apply Ends.bind hx hf
  · intro s a t _ h
    exact h.1
  · intro s a t b u _ h₁ h₂
    exact ⟨h₂.1, htrans h₁.2 h₂.2⟩
  · intro s e t _ h
    exact h
  · intro s a t e u _ h₁ h₂
    exact ⟨h₂.1, htrans h₁.2 h₂.2⟩

theorem Keeps.pure {a : α} (hrefl : ∀ s, R s s) : Keeps I R (Pure.pure a : EStateM ε σ α) :=
  Ends.pure fun s hs => ⟨hs, hrefl s⟩

theorem Keeps.throw {e : ε} (hrefl : ∀ s, R s s) :
    Keeps I R (MonadExcept.throw e : EStateM ε σ α) :=
  Ends.throw fun s hs => ⟨hs, hrefl s⟩

theorem Keeps.modify {f : σ → σ} (h : ∀ s, I s → I (f s) ∧ R s (f s)) :
    Keeps I R (modify f : EStateM ε σ PUnit) :=
  Ends.modify h

theorem Keeps.ite {c : Prop} [Decidable c] {m' : EStateM ε σ α} (h : Keeps I R m)
    (h' : Keeps I R m') : Keeps I R (if c then m else m') :=
  Ends.ite (fun _ => h) (fun _ => h')

end ends
