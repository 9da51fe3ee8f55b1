-- Runs of a step function that may refuse an action. A run is a list of
-- actions. It ends where the step function gives no next state.
import Mathlib.Logic.Basic

namespace runs

variable {σ α : Type*} (step : σ → α → Option σ)

/-- The state after all the actions of a run, when none is refused. -/
def exec (s : σ) : List α → Option σ
  | [] => some s
  | a :: as => (step s a).bind (fun t => exec t as)

/-- Some run leads from `s` to `t`. -/
def Reach (s t : σ) : Prop := ∃ as, exec step s as = some t

/-- `P` holds in every state that the run reaches, the first one too. -/
def Always (P : σ → Prop) (s : σ) : List α → Prop
  | [] => P s
  | a :: as => P s ∧ ∀ t, step s a = some t → Always P t as

/-- Every action of the run is one that `C` allows in the state it is taken in. -/
def Meets (C : σ → α → Prop) (s : σ) : List α → Prop
  | [] => True
  | a :: as => ∀ t, step s a = some t → C s a ∧ Meets C t as

variable {step}

/-- What one step keeps, a whole run keeps. -/
theorem exec_keeps {I : σ → Prop} (hstep : ∀ s a t, I s → step s a = some t → I t)
    {s t : σ} {as : List α} (hs : I s) (h : exec step s as = some t) : I t := by
  induction as generalizing s with
  | nil =>
    simp only [exec, Option.some.injEq] at h
    exact h ▸ hs
  | cons a as ih =>
    simp only [exec, Option.bind_eq_some_iff] at h
    obtain ⟨u, hu, hrest⟩ := h
    exact ih (hstep s a u hs hu) hrest

/-- An invariant of each step holds of every state that is reached. -/
theorem Reach.keeps {I : σ → Prop} (hstep : ∀ s a t, I s → step s a = some t → I t)
    {s t : σ} (hs : I s) (h : Reach step s t) : I t := by
  obtain ⟨as, has⟩ := h
  exact exec_keeps hstep hs has

/-- A property of all states of a run holds where the run starts. -/
theorem Always.head {P : σ → Prop} {s : σ} {as : List α} (h : Always step P s as) : P s := by
  cases as with
  | nil => exact h
  | cons a as => exact h.1

/-- A weaker property along the same run. -/
theorem Always.mono {P Q : σ → Prop} (hPQ : ∀ s, P s → Q s) {s : σ} {as : List α}
    (h : Always step P s as) : Always step Q s as := by
  induction as generalizing s with
  | nil => exact hPQ s h
  | cons a as ih => exact ⟨hPQ s h.1, fun t ht => ih (h.2 t ht)⟩

/-- `Always` speaks of the states that the prefixes of the run lead to. -/
theorem always_iff_exec {P : σ → Prop} {s : σ} {as : List α} :
    Always step P s as ↔ ∀ bs t, bs <+: as → exec step s bs = some t → P t := by
  induction as generalizing s with
  | nil =>
    constructor
    · intro h bs t hbs ht
      obtain rfl := List.prefix_nil.mp hbs
      simp only [exec, Option.some.injEq] at ht
      exact ht ▸ h
    · intro h
      exact h [] s (List.prefix_refl _) rfl
  | cons a as ih =>
    constructor
    · rintro ⟨hs, hrest⟩ bs t hbs ht
      cases bs with
      | nil =>
        simp only [exec, Option.some.injEq] at ht
        exact ht ▸ hs
      | cons b bs =>
        obtain ⟨rfl, hbs'⟩ := List.cons_prefix_cons.mp hbs
        simp only [exec, Option.bind_eq_some_iff] at ht
        obtain ⟨u, hu, hut⟩ := ht
        exact ih.mp (hrest u hu) bs t hbs' hut
    · intro h
      refine ⟨h [] s List.nil_prefix rfl, fun u hu => ih.mpr ?_⟩
      intro bs t hbs ht
      refine h (a :: bs) t (List.cons_prefix_cons.mpr ⟨rfl, hbs⟩) ?_
      simpa only [exec, hu, Option.bind_some] using ht

/-- The condition of the first step, and then that of the others. -/
theorem Meets.cons {C : σ → α → Prop} {s t : σ} {a : α} {as : List α} (h : step s a = some t)
    (hc : C s a) (hrest : Meets step C t as) : Meets step C s (a :: as) := by
  intro u hu
  obtain rfl : t = u := Option.some.inj (h.symm.trans hu)
  exact ⟨hc, hrest⟩

/-- A run that meets the condition at each step keeps what one such step keeps. -/
theorem always_of_meets {C : σ → α → Prop} {I : σ → Prop}
    (hstep : ∀ s a t, I s → C s a → step s a = some t → I t) {s : σ} {as : List α}
    (hs : I s) (h : Meets step C s as) : Always step I s as := by
  induction as generalizing s with
  | nil => exact hs
  | cons a as ih =>
    refine ⟨hs, fun t ht => ?_⟩
    obtain ⟨hc, hrest⟩ := h t ht
    exact ih (hstep s a t hs hc ht) hrest

/-- When a step that breaks the condition is exactly a step into a state
without `P`, a run keeps `P` if and only if each step meets the condition. -/
theorem always_iff_meets {C : σ → α → Prop} {I P : σ → Prop}
    (hinv : ∀ s a t, I s → C s a → step s a = some t → I t)
    (hiff : ∀ s a t, I s → step s a = some t → (P t ↔ C s a))
    {s : σ} (as : List α) (hs : I s) (hp : P s) :
    Always step P s as ↔ Meets step C s as := by
  induction as generalizing s with
  | nil => exact ⟨fun _ => trivial, fun _ => hp⟩
  | cons a as ih =>
    constructor
    · intro h t ht
      have hc : C s a := (hiff s a t hs ht).mp (h.2 t ht).head
      exact ⟨hc, (ih (hinv s a t hs hc ht) ((hiff s a t hs ht).mpr hc)).mp (h.2 t ht)⟩
    · intro h
      refine ⟨hp, fun t ht => ?_⟩
      obtain ⟨hc, hrest⟩ := h t ht
      exact (ih (hinv s a t hs hc ht) ((hiff s a t hs ht).mpr hc)).mpr hrest

end runs
