-- The first longest run of places that have a property, found in one pass: the best of the runs
-- that have ended, and the run that is still open.
import Mathlib.Tactic.Common

namespace longest_runs

variable {z : ℕ → Prop} {n b l : ℕ} {best cur : Option (ℕ × ℕ)}

/-- The places from `b` on, `l` of them. -/
def IsRun (z : ℕ → Prop) (b l : ℕ) : Prop := 0 < l ∧ ∀ j, b ≤ j → j < b + l → z j

/-- Of the runs in the first `n` places, one with no longer one and none as long before it. -/
def Longest (z : ℕ → Prop) (n : ℕ) : Option (ℕ × ℕ) → Prop
  | none => ∀ b l, IsRun z b l → ¬b + l ≤ n
  | some (b, l) => IsRun z b l ∧ b + l ≤ n ∧
      ∀ b' l', IsRun z b' l' → b' + l' ≤ n → l' < l ∨ (l' = l ∧ b ≤ b')

/-- The open run, if it is longer than the best one. -/
def better : Option (ℕ × ℕ) → Option (ℕ × ℕ) → Option (ℕ × ℕ)
  | best, none => best
  | none, some c => some c
  | some b, some c => if c.2 > b.2 then some c else some b

/-- The state of the pass after `n` places. -/
def Scanned (z : ℕ → Prop) (n : ℕ) (best : Option (ℕ × ℕ)) : Option (ℕ × ℕ) → Prop
  | none => Longest z n best ∧ ∀ j, j + 1 = n → ¬z j
  | some (b, l) => Longest z b best ∧ IsRun z b l ∧ b + l = n ∧ ∀ j, j + 1 = b → ¬z j

/-- Nothing was looked at. -/
theorem Scanned.zero (z : ℕ → Prop) : Scanned z 0 none none := by
  refine ⟨?_, ?_⟩
  · rintro b l ⟨hpos, -⟩ hle
    omega
  · intro j hj
    omega

/-- A place that has the property opens a run or makes the open one longer. -/
theorem Scanned.start (h : Scanned z n best none) (hz : z n) :
    Scanned z (n + 1) best (some (n, 1)) := by
  obtain ⟨hlongest, hbefore⟩ := h
  refine ⟨hlongest, ⟨by omega, ?_⟩, rfl, hbefore⟩
  intro j hle hlt
  have hj : j = n := by omega
  rw [hj]
  exact hz

/-- The run that is open grows by one place. -/
theorem Scanned.extend (h : Scanned z n best (some (b, l))) (hz : z n) :
    Scanned z (n + 1) best (some (b, l + 1)) := by
  obtain ⟨hlongest, ⟨-, hrun⟩, hend, hbefore⟩ := h
  refine ⟨hlongest, ⟨by omega, ?_⟩, by omega, hbefore⟩
  intro j hle hlt
  by_cases hj : j = n
  · rw [hj]
    exact hz
  · exact hrun j hle (by omega)

/-- A run ends before a place that does not have the property. -/
theorem IsRun.end_le (h : IsRun z b l) (hz : ¬z n) (hle : b + l ≤ n + 1) : b + l ≤ n := by
  obtain ⟨hpos, hrun⟩ := h
  by_contra hnot
  exact hz (hrun n (by omega) (by omega))

/-- A place that is in no run changes nothing. -/
theorem Longest.succ (h : Longest z n best) (hz : ¬z n) : Longest z (n + 1) best := by
  rcases best with _ | ⟨b, l⟩
  · intro b l hrun hle
    exact h b l hrun (hrun.end_le hz hle)
  · obtain ⟨hrun, hle, hothers⟩ := h
    refine ⟨hrun, by omega, ?_⟩
    intro b' l' hrun' hle'
    exact hothers b' l' hrun' (hrun'.end_le hz hle')

/-- The open run counts among the others once the pass has ended. -/
theorem Scanned.longest (h : Scanned z n best cur) : Longest z n (better best cur) := by
  rcases cur with _ | ⟨b, l⟩
  · have hbest : better best none = best := by
      unfold better
      rcases best with _ | best <;> rfl
    rw [hbest]
    exact h.1
  · obtain ⟨hlongest, hrun, hend, hbefore⟩ := h
    -- a run of the first n places is in the open run, or has ended before it
    have hsplit : ∀ b' l', IsRun z b' l' → b' + l' ≤ n → b' + l' ≤ b ∨ b ≤ b' := by
      intro b' l' hrun' hle'
      by_contra hnot
      have hcross : b' < b ∧ b < b' + l' := by omega
      exact hbefore (b - 1) (by omega) (hrun'.2 (b - 1) (by omega) (by omega))
    rcases best with _ | ⟨bb, bl⟩
    · refine ⟨hrun, Nat.le_of_eq hend, ?_⟩
      intro b' l' hrun' hle'
      rcases hsplit b' l' hrun' hle' with hearly | hlate
      · exact absurd hearly (hlongest b' l' hrun')
      · omega
    · obtain ⟨hbrun, hble, hbothers⟩ := hlongest
      by_cases hlonger : l > bl
      · have hpick : better (some (bb, bl)) (some (b, l)) = some (b, l) := if_pos hlonger
        rw [hpick]
        refine ⟨hrun, Nat.le_of_eq hend, ?_⟩
        intro b' l' hrun' hle'
        rcases hsplit b' l' hrun' hle' with hearly | hlate
        · have hother := hbothers b' l' hrun' hearly
          omega
        · omega
      · have hpick : better (some (bb, bl)) (some (b, l)) = some (bb, bl) := if_neg hlonger
        rw [hpick]
        refine ⟨hbrun, by omega, ?_⟩
        intro b' l' hrun' hle'
        rcases hsplit b' l' hrun' hle' with hearly | hlate
        · exact hbothers b' l' hrun' hearly
        · have hroom := hrun.1
          omega

/-- A place without the property ends the open run. -/
theorem Scanned.close (h : Scanned z n best cur) (hz : ¬z n) :
    Scanned z (n + 1) (better best cur) none := by
  refine ⟨h.longest.succ hz, ?_⟩
  intro j hj
  have hjn : j = n := by omega
  rw [hjn]
  exact hz

/-- There is one first longest run. -/
theorem Longest.unique {r s : Option (ℕ × ℕ)} (hr : Longest z n r)
    (hs : Longest z n s) : r = s := by
  rcases r with _ | ⟨b, l⟩
  · rcases s with _ | ⟨b', l'⟩
    · rfl
    · exact absurd hs.2.1 (hr b' l' hs.1)
  · rcases s with _ | ⟨b', l'⟩
    · exact absurd hr.2.1 (hs b l hr.1)
    · have hrs := hr.2.2 b' l' hs.1 hs.2.1
      have hsr := hs.2.2 b l hr.1 hr.2.1
      have hb : b = b' := by omega
      have hl : l = l' := by omega
      rw [hb, hl]

end longest_runs
