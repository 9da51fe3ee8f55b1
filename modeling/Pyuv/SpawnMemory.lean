-- What Process.spawn gives back: every block and every reference, on each of its ways out. The
-- block of the stdio containers is not in the options while it is filled, so it is lost when an
-- item is not a StdIO.
import Pyuv.SpawnRuns

set_option linter.style.nameCheck false

namespace pyuv.spawn

open ends ledgers ledgers.Ledger cvectors

/-- The references that a successful call leaves: the object to its caller and to the exit
callback, and what the object has. -/
def Call.kept (call : Call) : List Res :=
  .ref .self :: ((call.stdio.toList.map fun _ => .ref .stdio) ++ [.ref .callback, .ref .self])

/-- The call gives back what it takes. It raises an exception where it fails, and the object it
has made goes away: at once, or by its close if uv_spawn has been called. -/
def Balanced (M : Machine) (prior : Prior) (call : Call) (L : Ledger Res) : Prop :=
  match Process_func_spawn M prior call (State.initial L) with
  | .ok true t => t.ledger = acquireAll call.kept L ∧ t.pending = none ∧ t.released = none
  | .ok false t => t.ledger = L ∧ t.pending ≠ none ∧
      (t.self ≠ none → t.released = some (if t.passed.isSome then .by_close else .at_once))
  | .error e t => e = .aborted ∧ t.passed ≠ none

/-- Every item is a StdIO, with a stream where one is wanted of it, and a place in the block. -/
def Stdio.usable (stdio : Stdio) : Prop :=
  ∀ i < stdio.length.toNat,
    ∃ c, item_container (size_t (16 * stdio.length) / 16) i (stdio.item i) = .ok c

/-- With all strings there, the block of stdio is not to be had or is filled. -/
def Settled (M : Machine) (vars : Vars) : Prop :=
  args_filled M vars.arguments ≠ some .overrun ∧
    ((∀ prior, prepared M prior vars ≠ none) → ∀ stdio, vars.stdio = some stdio →
      allocates M .container (size_t (16 * stdio.length)) = true → stdio.usable)

theorem loop_containers_eq_ok_iff (item : Nat → Option StdioItem) (slots n i : Nat) :
    (∃ cs, loop_containers item slots n i = .ok cs) ↔
      ∀ j < n, ∃ c, item_container slots (i + j) (item (i + j)) = .ok c := by
  induction n generalizing i with
  | zero => simp [loop_containers]
  | succ n ih =>
    unfold loop_containers
    rw [Nat.forall_lt_succ_left, Nat.add_zero]
    have hrest := ih (i + 1)
    simp only [Nat.add_right_comm i 1, Nat.add_assoc i _ 1] at hrest
    rw [← hrest]
    cases item_container slots i (item i) with
    | error e => simp [Except.bind]
    | ok c => cases loop_containers item slots n (i + 1) <;> simp [Except.bind, Except.map]

variable {M : Machine} {vars : Vars} {call : Call} {L : Ledger Res}

theorem containers_eq_ok_iff (stdio : Stdio) :
    (∃ cs, stdio.containers = .ok cs) ↔ stdio.usable := by
  unfold Stdio.containers Stdio.usable
  rw [loop_containers_eq_ok_iff]
  simp only [Nat.zero_add]

theorem stdio_outcome_eq_lost_iff {stdio : Option Stdio} :
    (∃ e, stdio_outcome M stdio = .lost e) ↔
      ∃ s, stdio = some s ∧ allocates M .container (size_t (16 * s.length)) = true ∧
        ¬s.usable := by
  cases stdio with
  | none => simp [stdio_outcome]
  | some s =>
    have husable := containers_eq_ok_iff s
    unfold stdio_outcome
    dsimp only
    cases hall : allocates M .container (size_t (16 * s.length)) with
    | false => simp [hall]
    | true =>
      rw [if_pos rfl]
      cases hcs : s.containers with
      | error e =>
        rw [hcs] at husable
        simpa [hall] using husable
      | ok cs =>
        rw [hcs] at husable
        simpa [hall] using husable

theorem balanced_of_rejected {prior : Prior}
    (h : ∃ t, Process_func_spawn M prior call (State.initial L) = .ok false t ∧ Rejected L t) :
    Balanced M prior call L := by
  obtain ⟨t, ht, hrejected⟩ := h
  unfold Balanced
  rw [ht]
  exact ⟨hrejected.ledger, hrejected.pending, fun hself => absurd hrejected.self hself⟩

theorem balanced_of_refused {prior : Prior} {o : Option uv_process_options_t}
    (h : ∃ t, Process_func_spawn M prior call (State.initial L) = .ok false t ∧ Refused L t o) :
    Balanced M prior call L := by
  obtain ⟨t, ht, hrefused⟩ := h
  unfold Balanced
  rw [ht]
  refine ⟨hrefused.ledger, hrefused.pending, fun _ => ?_⟩
  rw [hrefused.passed]
  exact hrefused.released

theorem not_balanced_of_crash {prior : Prior}
    (h : ∃ t, Process_func_spawn M prior call (State.initial L) = .error .crash t) :
    ¬Balanced M prior call L := by
  obtain ⟨t, ht⟩ := h
  unfold Balanced
  rw [ht]
  rintro ⟨hcrash, -⟩
  cases hcrash

/-- With the callback of the call, it is the way through the phases that decides. -/
theorem balanced_accepted_iff {prior : Prior} {c : Callback} (h : call.vars = some vars)
    (hcb : call.callback prior = .object c) (hacc : vars.accepted M c) :
    Balanced M prior call L ↔ Settled M vars := by
  have hrun := spawn_accepted prior h hcb hacc (State.initial L)
  let vars' : Vars := { vars with callback := .object c }
  have hprepared : prepared M prior vars' = prepared M prior vars := rfl
  by_cases hover : args_filled M vars.arguments = some .overrun
  · apply iff_of_false
    · apply not_balanced_of_crash
      rw [hrun]
      exact spawn_process_overrun prior vars' hover L
    · exact fun hsettled => hsettled.1 hover
  · cases hp : prepared M prior vars with
    | none =>
      apply iff_of_true
      · apply balanced_of_refused (o := none)
        rw [hrun]
        exact spawn_process_unprepared vars' hp hover L
      · exact ⟨hover, fun hready => absurd hp (hready prior)⟩
    | some p =>
      have hready : ∀ prior', prepared M prior' vars ≠ none := by
        intro prior'
        rw [prepared_ne_none_iff prior' prior, hp]
        exact Option.some_ne_none p
      cases hout : stdio_outcome M vars.stdio with
      | refused =>
        apply iff_of_true
        · apply balanced_of_refused (o := none)
          rw [hrun]
          exact spawn_process_unallocated vars' hp hout L
        · refine ⟨hover, fun _ stdio hstdio hall => ?_⟩
          by_contra husable
          obtain ⟨e, he⟩ := stdio_outcome_eq_lost_iff.mpr ⟨stdio, hstdio, hall, husable⟩
          rw [he] at hout
          cases hout
      | lost e =>
        apply iff_of_false
        · rcases spawn_process_lost vars' hp hout L with
            ⟨-, hcrash⟩ | ⟨-, t, ht, hledger, -⟩
          · apply not_balanced_of_crash
            rw [hrun]
            exact hcrash
          · unfold Balanced
            rw [hrun, ht]
            rintro ⟨heq, -⟩
            rw [hledger] at heq
            exact acquire_ne _ L heq
        · rintro ⟨-, hsettled⟩
          obtain ⟨stdio, hstdio, hall, husable⟩ := stdio_outcome_eq_lost_iff.mp ⟨e, hout⟩
          exact husable (hsettled hready stdio hstdio hall)
      | built cs =>
        apply iff_of_true
        · obtain ⟨o, -, haborted, hfailed, hdone⟩ :=
            spawn_process_passed vars' hp hout rfl L
          cases hspawn : M.uv_spawn o with
          | none =>
            obtain ⟨t, ht, hpassed⟩ := haborted hspawn
            unfold Balanced
            rw [hrun, ht]
            exact ⟨rfl, by rw [hpassed]; exact Option.some_ne_none o⟩
          | some err =>
            by_cases herr : err < 0
            · obtain ⟨t, ht, hrefused, -⟩ := hfailed err hspawn herr
              apply balanced_of_refused (o := some o)
              rw [hrun]
              exact ⟨t, ht, hrefused⟩
            · obtain ⟨t, ht, hreturned⟩ := hdone err hspawn herr
              unfold Balanced
              rw [hrun, ht]
              refine ⟨?_, hreturned.pending, hreturned.released⟩
              rw [hreturned.ledger]
              unfold Call.kept spawn.kept
              rw [← vars_stdio h]
        · refine ⟨hover, fun _ stdio hstdio hall => ?_⟩
          by_contra husable
          obtain ⟨e, he⟩ := stdio_outcome_eq_lost_iff.mpr ⟨stdio, hstdio, hall, husable⟩
          rw [he] at hout
          cases hout

/-- The calls that give back what they take, whatever memory had before. -/
def settles (M : Machine) (call : Call) : Prop :=
  ∀ vars, call.vars = some vars → ∃ c, call.exit_callback = some c ∧
    (vars.accepted M c → Settled M vars)

/-- Which calls free each block and release each reference once, whether they succeed or fail. -/
theorem spawn_is_balanced_iff (M : Machine) (call : Call) (L : Ledger Res) :
    (∀ prior, Balanced M prior call L) ↔ settles M call := by
  constructor
  · intro hbalanced vars hvars
    cases hcb : call.exit_callback with
    | none =>
      let prior : Prior := ⟨.wild, fun _ => []⟩
      have hwild : call.callback prior = .wild := by
        unfold Call.callback
        rw [hcb]
        rfl
      exact absurd (hbalanced prior) (not_balanced_of_crash (spawn_wild _ hvars hwild L))
    | some c =>
      refine ⟨c, rfl, fun hacc => ?_⟩
      let prior : Prior := ⟨.null, fun _ => []⟩
      have hobject : call.callback prior = .object c := by
        unfold Call.callback
        rw [hcb]
        rfl
      exact (balanced_accepted_iff hvars hobject hacc).mp (hbalanced prior)
  · intro hsettles prior
    cases hvars : call.vars with
    | none => exact balanced_of_rejected (spawn_unparsed prior hvars L)
    | some vars =>
      obtain ⟨c, hc, hsettled⟩ := hsettles vars hvars
      have hobject : call.callback prior = .object c := by
        unfold Call.callback
        rw [hc]
        rfl
      by_cases hacc : vars.accepted M c
      · exact (balanced_accepted_iff hvars hobject hacc).mpr (hsettled hacc)
      · exact balanced_of_rejected (spawn_refused prior hvars hobject hacc L)

/-- A stdio with one item that is not a StdIO: the block of the containers is not freed. -/
theorem a_bad_item_loses_a_block : ¬∀ (M : Machine) (prior : Prior) (call : Call)
    (L : Ledger Res), Balanced M prior call L := by
  let stdio : Stdio := .sequence ⟨1, fun _ => some .other, by decide⟩
  let call : Call := { Call.plain with stdio := some stdio }
  let prior : Prior := ⟨.null, fun _ => []⟩
  let vars : Vars :=
    { arguments := Call.plain.args, executable := .None, env := none, cwd := .None, uid := 0
      gid := 0, flags := 0, stdio := some stdio, callback := .object .None }
  have hvars : call.vars = some vars := rfl
  have hacc : vars.accepted .willing .None := ⟨rfl, rfl, rfl, rfl⟩
  have hready : ∀ prior', prepared .willing prior' vars ≠ none := by
    intro prior' h
    cases h
  intro h
  have hbalanced := h .willing prior call ⟨0, 0⟩
  rw [balanced_accepted_iff hvars rfl hacc] at hbalanced
  obtain ⟨c, hc⟩ := hbalanced.2 hready stdio rfl rfl 0 (by decide)
  cases hc

end pyuv.spawn
