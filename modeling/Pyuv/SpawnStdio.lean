-- The stdio containers and the flags that Process.spawn passes to uv_spawn (src/src/process.c).
import Pyuv.SpawnOptions
import Pyuv.UvSpawn

set_option linter.style.nameCheck false

namespace pyuv.spawn

open ends ledgers ledgers.Ledger cvectors

variable {w : World}

/-! ## The calls of Process.spawn -/

/-- A call whose StdIO objects are ones that a user can make. -/
structure UserCall where
  call : Call
  built : ∀ stdio, call.stdio = some stdio → ∀ i s, stdio.item i = some (.stdio s) → s.Built

/-- An exception is raised, or uv_spawn gets what it needs. -/
def Safe (M : Machine) (w : World) (call : Call) : Prop :=
  ∀ (os : Os w) prior L,
    match Process_func_spawn (M.on os) prior call (State.initial L) with
    | .ok true t => ∃ o, t.passed = some o ∧ Preconditions w o
    | .ok false t => t.pending ≠ none
    | .error _ _ => False

/-- What a call that gets past the checks needs: no write outside of the vector of args, no
stream that is missing, and options that uv_spawn can take. -/
def Checked (M : Machine) (w : World) (vars : Vars) : Prop :=
  args_filled M vars.arguments ≠ some .overrun ∧
    ((∀ prior, prepared M prior vars ≠ none) → stdio_outcome M vars.stdio ≠ .lost .crash ∧
      ∀ cs, stdio_outcome M vars.stdio = .built cs → Acceptable w vars.flags (cs.getD []))

/-- Where libuv is reached, its assertions hold. -/
def spawns_safely (M : Machine) (w : World) (call : Call) : Prop :=
  ∀ vars, call.vars = some vars → ∃ c, call.exit_callback = some c ∧
    (vars.accepted M c → Checked M w vars)

variable {M : Machine} {vars : Vars}

theorem loop_containers_mem {item : Nat → Option StdioItem} {slots n i : Nat}
    {cs : List uv_stdio_container_t} (h : loop_containers item slots n i = .ok cs)
    {c : uv_stdio_container_t} (hc : c ∈ cs) :
    ∃ j s, item j = some (.stdio s) ∧ container s = some c := by
  induction n generalizing i cs with
  | zero =>
    obtain rfl := Except.ok.inj h
    cases hc
  | succ n ih =>
    unfold loop_containers at h
    cases hitem : item_container slots i (item i) with
    | error e =>
      rw [hitem] at h
      cases h
    | ok d =>
      cases hrest : loop_containers item slots n (i + 1) with
      | error e =>
        rw [hitem, hrest] at h
        cases h
      | ok ds =>
        rw [hitem, hrest] at h
        obtain rfl := Except.ok.inj h
        rcases List.mem_cons.mp hc with rfl | hc
        · unfold item_container at hitem
          split at hitem
          · rename_i s hs
            split at hitem
            · cases hcont : container s with
              | none =>
                rw [hcont] at hitem
                cases hitem
              | some e =>
                rw [hcont] at hitem
                obtain rfl := Except.ok.inj hitem
                exact ⟨i, s, hs, hcont⟩
            · cases hitem
          · cases hitem
        · exact ih hrest hc

theorem shaped_of_built (u : UserCall) (hvars : u.call.vars = some vars)
    {cs : Option (List uv_stdio_container_t)} (hout : stdio_outcome M vars.stdio = .built cs) :
    ∀ c ∈ cs.getD [], Shaped c := by
  have hstdio : vars.stdio = u.call.stdio := vars_stdio hvars
  intro c hc
  cases hs : vars.stdio with
  | none =>
    rw [hs] at hout
    injection hout with hout
    rw [← hout] at hc
    cases hc
  | some stdio =>
    rw [hs] at hout
    unfold stdio_outcome at hout
    dsimp only at hout
    split at hout
    · split at hout
      · rename_i ds hds
        injection hout with hout
        rw [← hout] at hc
        obtain ⟨j, s, hj, hcont⟩ := loop_containers_mem hds hc
        exact shaped_of_container (u.built stdio (hstdio ▸ hs) j s hj) hcont
      · cases hout
    · cases hout

theorem safe_of_rejected {call : Call} {os : Os w} {prior : Prior} {L : Ledger Res}
    (h : ∃ t, Process_func_spawn (M.on os) prior call (State.initial L) = .ok false t ∧
      t.pending ≠ none) :
    match Process_func_spawn (M.on os) prior call (State.initial L) with
    | .ok true t => ∃ o, t.passed = some o ∧ Preconditions w o
    | .ok false t => t.pending ≠ none
    | .error _ _ => False := by
  obtain ⟨t, ht, hpending⟩ := h
  rw [ht]
  exact hpending

theorem not_safe_of_crash {call : Call} (os : Os w) (prior : Prior) {L : Ledger Res}
    (h : ∃ t, Process_func_spawn (M.on os) prior call (State.initial L) = .error .crash t) :
    ¬Safe M w call := by
  obtain ⟨t, ht⟩ := h
  intro hsafe
  have hrun := hsafe os prior L
  rw [ht] at hrun
  exact hrun

/-- What uv_spawn returns for the options of a call decides. -/
theorem spawned_cases {call : Call} (os : Os w) {prior : Prior} {L : Ledger Res} {c : Callback}
    {p : Prepared} {cs : Option (List uv_stdio_container_t)} (hvars : call.vars = some vars)
    (hcb : call.callback prior = .object c) (hacc : vars.accepted M c)
    (hp : prepared M prior vars = some p) (hout : stdio_outcome M vars.stdio = .built cs) :
    ∃ o, Passed vars p cs o ∧
      ((∃ n, returned (uv_spawn os o) = some n ∧ (n < 0 ∨ Preconditions w o)) ↔
        match Process_func_spawn (M.on os) prior call (State.initial L) with
        | .ok true t => ∃ o, t.passed = some o ∧ Preconditions w o
        | .ok false t => t.pending ≠ none
        | .error _ _ => False) := by
  let vars' : Vars := { vars with callback := .object c }
  have hrun := spawn_accepted (M := M.on os) prior hvars hcb hacc (State.initial L)
  have hp' : prepared (M.on os) prior vars' = some p := hp
  have hout' : stdio_outcome (M.on os) vars'.stdio = .built cs := hout
  obtain ⟨o, hpassed, haborted, hfailed, hdone⟩ := spawn_process_passed vars' hp' hout' rfl L
  have hpassed' : Passed vars p cs o := by
    obtain ⟨hargs, hfile, hcwd, henv, hflags, huid, hgid, hstdio, hcount⟩ := hpassed
    exact ⟨hargs, hfile, hcwd, henv, hflags, huid, hgid, hstdio, hcount⟩
  refine ⟨o, hpassed', ?_⟩
  rw [hrun]
  cases hspawn : returned (uv_spawn os o) with
  | none =>
    obtain ⟨t, ht, -⟩ := haborted hspawn
    rw [ht]
    simp
  | some err =>
    by_cases herr : err < 0
    · obtain ⟨t, ht, hrefused, -⟩ := hfailed err hspawn herr
      rw [ht]
      exact iff_of_true ⟨err, rfl, .inl herr⟩ hrefused.pending
    · obtain ⟨t, ht, hreturned⟩ := hdone err hspawn herr
      rw [ht]
      dsimp only
      constructor
      · rintro ⟨n, hn, hpre⟩
        obtain rfl := Option.some.inj hn
        exact ⟨o, hreturned.passed, hpre.resolve_left herr⟩
      · rintro ⟨o', ho', hpre⟩
        rw [hreturned.passed] at ho'
        obtain rfl := Option.some.inj ho'
        exact ⟨err, rfl, .inr hpre⟩

theorem safe_accepted_iff (u : UserCall) {c : Callback} (hvars : u.call.vars = some vars)
    (hc : u.call.exit_callback = some c) (hacc : vars.accepted M c) :
    Safe M w u.call ↔ Checked M w vars := by
  let vars' : Vars := { vars with callback := .object c }
  have hcb : ∀ prior, u.call.callback prior = .object c := by
    intro prior
    unfold Call.callback
    rw [hc]
    rfl
  have hrun := fun (os : Os w) prior L =>
    spawn_accepted (M := M.on os) prior hvars (hcb prior) hacc (State.initial L)
  have hprior : ∀ prior prior', prepared M prior vars ≠ none → prepared M prior' vars ≠ none :=
    fun prior prior' h => (prepared_ne_none_iff prior' prior vars).mpr h
  let prior₀ : Prior := ⟨.null, fun _ => []⟩
  by_cases hover : args_filled M vars.arguments = some .overrun
  · apply iff_of_false
    · apply not_safe_of_crash (Os.generous w) prior₀ (L := ⟨0, 0⟩)
      rw [hrun]
      exact spawn_process_overrun (M := M.on (Os.generous w)) prior₀ vars' hover ⟨0, 0⟩
    · exact fun h => h.1 hover
  · cases hp : prepared M prior₀ vars with
    | none =>
      apply iff_of_true
      · intro os prior L
        apply safe_of_rejected
        have hnone : prepared (M.on os) prior vars' = none := by
          by_contra hsome
          exact hprior prior prior₀ hsome hp
        obtain ⟨t, ht, hrefused⟩ := spawn_process_unprepared vars' hnone hover L
        exact ⟨t, (hrun os prior L).trans ht, hrefused.pending⟩
      · exact ⟨hover, fun h => absurd hp (h prior₀)⟩
    | some p =>
      have hready : ∀ prior, prepared M prior vars ≠ none :=
        fun prior => hprior prior₀ prior (by rw [hp]; exact Option.some_ne_none p)
      cases hout : stdio_outcome M vars.stdio with
      | refused =>
        apply iff_of_true
        · intro os prior L
          apply safe_of_rejected
          obtain ⟨q, hq⟩ := Option.ne_none_iff_exists'.mp (hready prior)
          obtain ⟨t, ht, hrefused⟩ :=
            spawn_process_unallocated (M := M.on os) vars' hq hout L
          exact ⟨t, (hrun os prior L).trans ht, hrefused.pending⟩
        · refine ⟨hover, fun _ => ⟨?_, fun cs hcs => ?_⟩⟩
          · rw [hout]
            intro h
            cases h
          · rw [hout] at hcs
            cases hcs
      | lost e =>
        have hlost :=
          fun (os : Os w) prior (L : Ledger Res) q (hq : prepared M prior vars = some q) =>
          spawn_process_lost (M := M.on os) vars' hq hout L
        by_cases he : e = .crash
        · apply iff_of_false
          · apply not_safe_of_crash (Os.generous w) prior₀ (L := ⟨0, 0⟩)
            rcases hlost (Os.generous w) prior₀ ⟨0, 0⟩ p hp with ⟨-, hcrash⟩ | ⟨hgoto, -⟩
            · rw [hrun]
              exact hcrash
            · rw [he] at hgoto
              cases hgoto
          · rintro ⟨-, h⟩
            apply (h hready).1
            rw [hout, he]
        · apply iff_of_true
          · intro os prior L
            apply safe_of_rejected
            obtain ⟨q, hq⟩ := Option.ne_none_iff_exists'.mp (hready prior)
            rcases hlost os prior L q hq with ⟨hcrash, -⟩ | ⟨-, t, ht, -, -, -, hpending⟩
            · exact absurd hcrash he
            · exact ⟨t, (hrun os prior L).trans ht, hpending⟩
          · refine ⟨hover, fun _ => ⟨?_, fun cs hcs => ?_⟩⟩
            · rw [hout]
              intro h
              injection h with h
              exact he h
            · rw [hout] at hcs
              cases hcs
      | built cs =>
        have hshaped := shaped_of_built u hvars hout
        constructor
        · intro hsafe
          refine ⟨hover, fun _ => ⟨?_, fun cs' hcs' => ?_⟩⟩
          · rw [hout]
            intro h
            cases h
          · rw [hout] at hcs'
            injection hcs' with hcs'
            rw [← hcs']
            obtain ⟨o, hpassed, hiff⟩ := spawned_cases (Os.generous w) (L := ⟨0, 0⟩) hvars
              (hcb prior₀) hacc hp hout
            have hspawn := hiff.mpr (hsafe (Os.generous w) prior₀ ⟨0, 0⟩)
            rw [← hpassed.stdio] at hshaped ⊢
            rw [← hpassed.flags]
            exact generous_spec hshaped hspawn
        · rintro ⟨-, h⟩ os prior L
          obtain ⟨q, hq⟩ := Option.ne_none_iff_exists'.mp (hready prior)
          have hacceptable := (h hready).2 cs hout
          obtain ⟨o, hpassed, hiff⟩ := spawned_cases os (L := L) hvars (hcb prior) hacc hq hout
          rw [← hpassed.stdio] at hshaped hacceptable
          rw [← hpassed.flags] at hacceptable
          exact hiff.mp (acceptable_spec hshaped hacceptable os)

/-- Which calls raise an exception or give uv_spawn what it needs, and never abort. -/
theorem spawn_is_safe_iff (M : Machine) (w : World) (u : UserCall) :
    Safe M w u.call ↔ spawns_safely M w u.call := by
  constructor
  · intro hsafe vars hvars
    cases hc : u.call.exit_callback with
    | none =>
      let prior : Prior := ⟨.wild, fun _ => []⟩
      have hwild : u.call.callback prior = .wild := by
        unfold Call.callback
        rw [hc]
        rfl
      refine absurd hsafe (not_safe_of_crash (Os.generous w) prior (L := ⟨0, 0⟩) ?_)
      exact spawn_wild prior hvars hwild ⟨0, 0⟩
    | some c => exact ⟨c, rfl, fun hacc => (safe_accepted_iff u hvars hc hacc).mp hsafe⟩
  · intro h
    cases hvars : u.call.vars with
    | none =>
      intro os prior L
      apply safe_of_rejected
      obtain ⟨t, ht, hrejected⟩ := spawn_unparsed (M := M.on os) prior hvars L
      exact ⟨t, ht, hrejected.pending⟩
    | some vars =>
      obtain ⟨c, hc, hchecked⟩ := h vars hvars
      by_cases hacc : vars.accepted M c
      · exact (safe_accepted_iff u hvars hc hacc).mpr (hchecked hacc)
      · intro os prior L
        apply safe_of_rejected
        have hcb : u.call.callback prior = .object c := by
          unfold Call.callback
          rw [hc]
          rfl
        obtain ⟨t, ht, hrejected⟩ := spawn_refused (M := M.on os) prior hvars hcb hacc L
        exact ⟨t, ht, hrejected.pending⟩

/-- A container for an open pipe with the flags UV_CREATE_PIPE and UV_INHERIT_STREAM: uv_spawn
aborts. -/
theorem two_sources_abort : ¬∀ (M : Machine) (w : World) (u : UserCall), Safe M w u.call := by
  let s : StdIO := ⟨some ⟨some 0⟩, -1, UV_CREATE_PIPE ||| UV_INHERIT_STREAM⟩
  have hbuilt : s.Built :=
    ⟨⟨s, []⟩, ⟨[.begin ⟨some (.stream ⟨some 0⟩), none, some (.int 5)⟩, .finish], rfl⟩, rfl⟩
  let stdio : Stdio := .sequence ⟨1, fun _ => some (.stdio s), by decide⟩
  let u : UserCall :=
    { call := { Call.plain with stdio := some stdio }
      built := by
        intro stdio' h i s' hs
        obtain rfl := Option.some.inj h
        cases hs
        exact hbuilt }
  let w : World :=
    { streams := fun _ => .opened .NAMED_PIPE (-1)
      limit := 0
      bounded := fun _ => by decide }
  let vars : Vars :=
    { arguments := Call.plain.args, executable := .None, env := none, cwd := .None, uid := 0
      gid := 0, flags := 0, stdio := some stdio, callback := .object .None }
  have hacc : vars.accepted .willing .None := ⟨rfl, rfl, rfl, rfl⟩
  have hready : ∀ prior, prepared .willing prior vars ≠ none := by
    intro prior h
    cases h
  have hvars : u.call.vars = some vars := rfl
  have hout : stdio_outcome .willing vars.stdio = .built (some [⟨s.flags, .stream (some 0)⟩]) := by
    change stdio_outcome .willing (some stdio) = _
    have hcontainer : container s = some ⟨s.flags, .stream (some 0)⟩ := if_pos (by decide)
    have hitem : item_container (size_t 16 / 16) 0 (some (.stdio s)) =
        .ok ⟨s.flags, .stream (some 0)⟩ := by
      unfold item_container
      dsimp only
      rw [if_pos (by decide), hcontainer]
      rfl
    have hcs : stdio.containers = .ok [⟨s.flags, .stream (some 0)⟩] := by
      change (item_container (size_t 16 / 16) 0 (some (.stdio s))).bind _ = _
      rw [hitem]
      rfl
    have halloc : allocates .willing .container (size_t (16 * stdio.length)) = true := by decide
    unfold stdio_outcome
    dsimp only
    rw [if_pos halloc, hcs]
  intro h
  have hsafe := h .willing w u
  rw [safe_accepted_iff u hvars rfl hacc] at hsafe
  have hacceptable := (hsafe.2 hready).2 _ hout
  exact hacceptable.2.1 ⟨[], _, [], rfl, .inl (by decide), (fun _ h => nomatch h)⟩

end pyuv.spawn
