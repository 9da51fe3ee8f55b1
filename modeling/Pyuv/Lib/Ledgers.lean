-- A ledger of resources that are owed back. What is lent to another party
-- cannot be released until it is reclaimed, and what is not held cannot be
-- released at all, so a balanced run of the ledger is a run without a leak, a
-- double release or an early one.
import Mathlib.Algebra.Order.Group.Multiset

namespace ledgers

/-- What is held and free to be released, and what is held but lent out. -/
@[ext]
structure Ledger (R : Type*) where
  free : Multiset R
  lent : Multiset R

namespace Ledger

variable {R : Type*}

/-- One resource more. -/
def acquire (r : R) (L : Ledger R) : Ledger R := { L with free := r ::ₘ L.free }

/-- All of `rs`. -/
def acquireAll (rs : List R) (L : Ledger R) : Ledger R := rs.foldr acquire L

variable [DecidableEq R]

instance : DecidableEq (Ledger R) := fun L M =>
  decidable_of_iff (L.free = M.free ∧ L.lent = M.lent) Ledger.ext_iff.symm

/-- A resource is given back, which has to be held and not lent. -/
def release (r : R) (L : Ledger R) : Option (Ledger R) :=
  if r ∈ L.free then some { L with free := L.free.erase r } else none

/-- All of `rs`, one after the other. -/
def releaseAll : List R → Ledger R → Option (Ledger R)
  | [], L => some L
  | r :: rs, L => (release r L).bind (releaseAll rs)

/-- Hands the resources `rs` to the other party. -/
def lend (rs : List R) (L : Ledger R) : Option (Ledger R) :=
  if ↑rs ≤ L.free then some { free := L.free - ↑rs, lent := L.lent + ↑rs } else none

/-- Takes the resources `rs` back. -/
def reclaim (rs : List R) (L : Ledger R) : Option (Ledger R) :=
  if ↑rs ≤ L.lent then some { free := L.free + ↑rs, lent := L.lent - ↑rs } else none

/-! ## One resource -/

omit [DecidableEq R] in
/-- The ledger is not ordered. -/
theorem acquire_comm (r s : R) (L : Ledger R) :
    acquire r (acquire s L) = acquire s (acquire r L) := by
  simp only [acquire]
  rw [Multiset.cons_swap]

omit [DecidableEq R] in
/-- A resource that is held is seen in the ledger. -/
theorem acquire_ne (r : R) (L : Ledger R) : acquire r L ≠ L := by
  intro h
  have hcard := congrArg (fun M => M.free.card) h
  simp [acquire] at hcard

/-- What was acquired can be released, and then nothing has changed. -/
@[simp]
theorem release_acquire (r : R) (L : Ledger R) : release r (acquire r L) = some L := by
  simp [release, acquire]

/-! ## Lists of resources -/

omit [DecidableEq R] in
@[simp]
theorem acquireAll_nil (L : Ledger R) : acquireAll [] L = L := rfl

omit [DecidableEq R] in
@[simp]
theorem acquireAll_cons (r : R) (rs : List R) (L : Ledger R) :
    acquireAll (r :: rs) L = acquire r (acquireAll rs L) := rfl

omit [DecidableEq R] in
theorem acquireAll_append (rs ss : List R) (L : Ledger R) :
    acquireAll (rs ++ ss) L = acquireAll rs (acquireAll ss L) := by
  simp [acquireAll, List.foldr_append]

omit [DecidableEq R] in
theorem acquireAll_acquire (r : R) (rs : List R) (L : Ledger R) :
    acquireAll rs (acquire r L) = acquire r (acquireAll rs L) := by
  induction rs with
  | nil => rfl
  | cons s rs ih => rw [acquireAll_cons, ih, acquire_comm, acquireAll_cons]

omit [DecidableEq R] in
/-- The order in which they are acquired does not matter. -/
theorem acquireAll_perm {rs ss : List R} (h : rs.Perm ss) (L : Ledger R) :
    acquireAll rs L = acquireAll ss L :=
  h.foldr_eq' (fun r _ s _ M => acquire_comm s r M) L

/-- What was acquired can be released, each resource once. -/
@[simp]
theorem releaseAll_acquireAll (rs : List R) (L : Ledger R) :
    releaseAll rs (acquireAll rs L) = some L := by
  induction rs with
  | nil => rfl
  | cons r rs ih => simp [releaseAll, ih]

/-! ## Lending -/

omit [DecidableEq R] in
theorem free_acquireAll (rs : List R) (L : Ledger R) : (acquireAll rs L).free = ↑rs + L.free := by
  induction rs with
  | nil => simp
  | cons r rs ih => simp [acquire, ih, ← Multiset.cons_coe]

omit [DecidableEq R] in
theorem lent_acquireAll (rs : List R) (L : Ledger R) : (acquireAll rs L).lent = L.lent := by
  induction rs with
  | nil => rfl
  | cons r rs ih => simpa [acquire] using ih

/-- What is held can be lent, and comes back as it was, whatever was acquired meanwhile. -/
theorem reclaim_lend {rs : List R} (ss : List R) {L : Ledger R} (h : ↑rs ≤ L.free) :
    ∃ M, lend rs L = some M ∧ reclaim rs (acquireAll ss M) = some (acquireAll ss L) := by
  refine ⟨_, if_pos h, ?_⟩
  unfold reclaim
  rw [lent_acquireAll, if_pos (Multiset.le_add_left _ _)]
  simp only [Option.some.injEq, Ledger.ext_iff, free_acquireAll, lent_acquireAll]
  refine ⟨?_, by simp⟩
  rw [add_assoc, Multiset.sub_add_cancel h]

end Ledger

/-! ## A ledger in the state of a program -/

section

variable {R σ ε : Type} (ledger : σ → Ledger R) (put : σ → Ledger R → σ)

/-- The ledger in the state gets one resource more. -/
def acquire_in (r : R) : EStateM ε σ Unit := modify fun s => put s ((ledger s).acquire r)

/-- What is not held cannot be released. -/
def release_in [DecidableEq R] (crash : ε) (r : R) : EStateM ε σ Unit := fun s =>
  match (ledger s).release r with
  | some L => .ok () (put s L)
  | none => .error crash s

variable {ledger put}

/-- A release in a program that has the ledger in its state. -/
theorem release_in_ok [DecidableEq R] {crash : ε} {r : R} {s : σ} {L : Ledger R}
    (h : ledger s = L.acquire r) : release_in ledger put crash r s = .ok () (put s L) := by
  unfold release_in
  rw [h, Ledger.release_acquire]

end

end ledgers
