-- The references of a SignalChecker (src/util.c), over every run: its callback drops
-- one that nobody has taken, and nothing else breaks the count.
import Pyuv.HandleLife

set_option linter.style.nameCheck false

namespace pyuv.watchers

open handle

/-- Who has references to a SignalChecker: the user, a `__del__` that runs, the flag
and the close under way. -/
def checker_refs (h : Handle) : Nat := h.user + held h.frames + h.pyref.toNat + h.close_ref

/-- Exactly the references that were taken are there, on an object that is. -/
def Balanced (s : St) : Prop := s.core.refcnt = checker_refs s.core ∧ s.core.bad = false

section

variable {s t : St}

/-! ## The reference that nobody has taken -/

/-- Dropping a reference that is not there breaks the count, whichever of its four
ways Py_DECREF goes. -/
theorem Py_DECREF_unowned {h : Handle} (hi : Inv 0 h) (hexit : h.exit_ref = false) :
    (Py_DECREF h).bad = true ∨ (Py_DECREF h).refcnt ≠ checker_refs (Py_DECREF h) := by
  have hrefs := hi.refs
  simp only [Handle.owned, Handle.close_ref, hexit, Bool.toNat_false] at hrefs
  by_cases hpos : 0 < h.refcnt
  · right
    rcases Py_DECREF_cases hpos with ⟨hmany, heq⟩ | ⟨hone, hpending, heq⟩ |
      ⟨hone, hinit, hclosing, hclosed, heq⟩ | ⟨hone, hclosing, heq⟩ <;>
      simp only [heq, checker_refs, Handle.close_ref]
    · omega
    · simp only [held, List.countP_cons, Frame.holds, if_true] at hrefs ⊢
      omega
    · simp [hclosing, hi.finishes_of_open hclosing] at hrefs ⊢
      omega
    · omega
  · left
    have hzero : h.refcnt = 0 := by omega
    simp [Py_DECREF, hzero]

theorem balanced_iff_of_step {a : Act} (hi : Inv 0 s.core) (hexit : s.core.exit_ref = false)
    (hstep : step .SignalChecker s a = some t) : Balanced t ↔ ¬ends_check_signals s a := by
  constructor
  · intro hbal hends
    obtain ⟨rfl, htop⟩ := hends
    simp only [step] at hstep
    split at hstep
    · cases hstep
    · rename_i f fs hf
      have hcheck : f = .check_signals := by simpa [hf] using htop
      subst hcheck
      cases hstep
      have hpop : Inv 0 { s.core with frames := fs } := hi.pop_frame hf
      rcases Py_DECREF_unowned hpop hexit with hbad | hne
      · simp [Balanced, finish_frame, hbad] at hbal
      · exact hne hbal.1
  · intro hcheck
    have hinv := step_inv hi hcheck hstep
    have hnone := step_exit_ref (by decide) hexit hstep
    refine ⟨?_, hinv.alive⟩
    have hrefs := hinv.refs
    simp only [Handle.owned, hnone] at hrefs
    simp only [checker_refs]
    simp at hrefs
    omega

/-- A run of a SignalChecker keeps the count if and only if no callback of its poll
watcher has come to its end. -/
theorem a_checker_is_balanced_iff (finalizer : Finalizer) (as : List Act) :
    runs.Always (step .SignalChecker) Balanced (new finalizer) as ↔
    runs.Meets (step .SignalChecker) (fun s a => ¬ends_check_signals s a) (new finalizer) as := by
  let I := fun s : St => Inv 0 s.core ∧ s.core.exit_ref = false
  have hinv : ∀ s a t, I s → ¬ends_check_signals s a → step .SignalChecker s a = some t → I t :=
    fun s a t hi hcheck hstep => ⟨step_inv hi.1 hcheck hstep, step_exit_ref (by decide) hi.2 hstep⟩
  have hiff : ∀ s a t, I s → step .SignalChecker s a = some t →
      (Balanced t ↔ ¬ends_check_signals s a) :=
    fun s a t hi hstep => balanced_iff_of_step hi.1 hi.2 hstep
  have hnew : Balanced (new finalizer) := ⟨rfl, rfl⟩
  exact runs.always_iff_meets hinv hiff as ⟨fresh_inv finalizer, rfl⟩ hnew

/-- The user still has the reference of the constructor when two callbacks and the
close that they bring about have freed the object. -/
theorem two_callbacks_free_a_checker_in_use :
    ∃ as s, runs.exec (step .SignalChecker) (new .none) as = some s ∧
      s.core.user = 1 ∧ s.core.frees = 1 ∧
      ¬runs.Always (step .SignalChecker) Balanced (new .none) as := by
  let as : List Act := [.tp_init .Py_None 0, .call .SignalChecker_start,
    .event (.check_signals true true), .ret, .event (.check_signals true true), .ret, .finish_close]
  refine ⟨as, _, rfl, rfl, rfl, fun h => ?_⟩
  have hlast := runs.always_iff_exec.mp h as _ (List.prefix_refl as) rfl
  exact absurd hlast.1 (by decide)

end

end pyuv.watchers
