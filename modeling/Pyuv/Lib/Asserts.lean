-- Functions with assertions, as partial ones: no result where an assertion fails. What such a
-- function fails under, and what holds of its result, along the ways to compose it.
import Mathlib.Data.Option.Basic

namespace asserts

variable {α β : Type*}

/-- `o` has no result exactly under `P`, and otherwise one with `Q`. -/
structure Fails (P : Prop) (Q : α → Prop) (o : Option α) : Prop where
  iff : o = none ↔ P
  post : ∀ a, o = some a → Q a

variable {P P' R : Prop} {Q : α → Prop} {o : Option α}

/-- A result, where nothing fails. -/
theorem Fails.ok {a : α} (h : Q a) (hP : ¬P) : Fails P Q (some a) :=
  ⟨iff_of_false (Option.some_ne_none a) hP, fun _ hb => Option.some.inj hb ▸ h⟩

/-- An assertion that does not hold. -/
theorem Fails.failed (hP : P) : Fails P Q none :=
  ⟨iff_of_true rfl hP, fun _ ha => nomatch ha⟩

/-- Another way to say when it fails. -/
theorem Fails.congr (h : Fails P Q o) (hP : P ↔ P') : Fails P' Q o := ⟨h.iff.trans hP, h.post⟩

/-- Less about the result. -/
theorem Fails.mono {Q' : α → Prop} (h : Fails P Q o) (hQ : ∀ a, Q a → Q' a) : Fails P Q' o :=
  ⟨h.iff, fun a ha => hQ a (h.post a ha)⟩

/-- A result without a failure. -/
theorem Fails.not {a : α} (h : Fails P Q (some a)) : ¬P := fun hP => nomatch h.iff.mpr hP

/-- A function on the result fails nowhere. -/
theorem Fails.map {f : β → α} {o : Option β} (h : Fails P (fun b => Q (f b)) o) :
    Fails P Q (o.map f) := by
  refine ⟨Option.map_eq_none_iff.trans h.iff, fun a ha => ?_⟩
  obtain ⟨b, hb, rfl⟩ := Option.map_eq_some_iff.mp ha
  exact h.post b hb

/-- The second function fails in the same way after every result of the first. -/
theorem Fails.bind {f : β → Option α} {o : Option β} {S : β → Prop} (h : Fails P S o)
    (hf : ∀ b, o = some b → S b → Fails R Q (f b)) : Fails (P ∨ R) Q (o.bind f) := by
  cases ho : o with
  | none => exact Fails.failed (.inl (h.iff.mp ho))
  | some b =>
    have hb := hf b ho (h.post b ho)
    have hP : ¬P := (ho ▸ h).not
    refine ⟨hb.iff.trans (or_iff_right hP).symm, hb.post⟩

/-- An assertion first. -/
theorem Fails.guard {c : Prop} [Decidable c] (h : ¬c → Fails P Q o) :
    Fails (c ∨ P) Q (if c then none else o) := by
  split
  · rename_i hc
    exact Fails.failed (.inl hc)
  · rename_i hc
    exact (h hc).congr (or_iff_right hc).symm

end asserts
