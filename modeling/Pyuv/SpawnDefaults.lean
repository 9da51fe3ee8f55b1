-- What a call of Process.spawn does where it leaves arguments out. The variable of the callback
-- is not set before the arguments are parsed, so without an exit_callback it is whatever the
-- stack had.
import Pyuv.SpawnOptions

set_option linter.style.nameCheck false

namespace pyuv.spawn

open ends ledgers ledgers.Ledger cvectors

/-- The call with the documented defaults in place of what it leaves out. An env and a stdio
that are left out have no value that could be given for them. -/
def documented (call : Call) : Call :=
  { call with
    executable := some (call.executable.getD .None)
    cwd := some (call.cwd.getD .None)
    uid := some (call.uid.getD (.int 0))
    gid := some (call.gid.getD (.int 0))
    flags := some (call.flags.getD (.int 0))
    exit_callback := some (call.exit_callback.getD .None) }

/-- How a call ends for its caller. -/
inductive Ending where
  | returned
  | raised
  | stopped (e : Stop)
deriving DecidableEq

/-- How a call ends, what uv_spawn has been called with, and the exit callback that is stored.
Of a crash there is nothing more to see. -/
structure Seen where
  ending : Ending
  passed : Option uv_process_options_t
  on_exit_cb : Option Callback
deriving DecidableEq

/-- What a caller sees of the call. -/
def seen : EStateM.Result Stop State Bool → Seen
  | .ok ret t => ⟨if ret then .returned else .raised, t.passed, t.self.bind Process.on_exit_cb⟩
  | .error e t => ⟨.stopped e, if e = .aborted then t.passed else none, none⟩

/-- The call is that with the documented defaults, and it does not depend on what memory had. -/
structure Defaulted (M : Machine) (call : Call) : Prop where
  documented : ∀ prior L, Process_func_spawn M prior call (State.initial L) =
    Process_func_spawn M prior (documented call) (State.initial L)
  prior : ∀ prior prior' L, seen (Process_func_spawn M prior call (State.initial L)) =
    seen (Process_func_spawn M prior' call (State.initial L))

/-- The callback is given, and no entry of a dict that is passed is too long. -/
def defaults (M : Machine) (call : Call) : Prop :=
  ∀ vars, call.vars = some vars → call.exit_callback ≠ none ∧
    (Ready M call vars → ∀ d, vars.env = some d → d.short M)

variable {M : Machine} {call : Call} {vars : Vars}

/-! ## The entries of env -/

theorem env_entry_congr {key value : PyObj} (h : ∀ k v, encoded M key = some k →
    encoded M value = some v → k.length + v.length + 2 ≤ INT_MAX - 1) (prior prior' : Prior)
    (i : Nat) : env_entry M prior i key value = env_entry M prior' i key value := by
  funext s
  cases hkey : encoded M key with
  | none =>
    obtain ⟨e, he⟩ := FSConverter_none hkey .key_bytes s
    unfold env_entry
    rw [bind_of_ok he, bind_of_ok he]
  | some k =>
    cases hvalue : encoded M value with
    | none =>
      obtain ⟨e, he⟩ := FSConverter_none hvalue .value_bytes (s.took [.ref .key_bytes])
      unfold env_entry
      rw [bind_of_ok (FSConverter_some hkey .key_bytes s),
        bind_of_ok (FSConverter_some hkey .key_bytes s)]
      dsimp only
      unfold entry_value
      rw [bind_of_ok he, bind_of_ok he]
    | some v =>
      have hsize := h k v hkey hvalue
      rw [env_entry_eq hkey hvalue, env_entry_eq hkey hvalue]
      unfold entry_written PyOS_snprintf
      rw [if_pos hsize]
      rw [if_pos hsize]

theorem process_env_congr {env : Option Dict} (h : ∀ d, env = some d → d.short M)
    (prior prior' : Prior) : process_env M prior env = process_env M prior' env := by
  cases env with
  | none => rfl
  | some d =>
    have hentries : (d.entries.mapIdx fun i e => env_entry M prior i e.1 e.2) =
        d.entries.mapIdx fun i e => env_entry M prior' i e.1 e.2 := by
      rw [List.mapIdx_eq_zipIdx_map, List.mapIdx_eq_zipIdx_map]
      apply List.map_congr_left
      intro x hx
      have hmem : x.1 ∈ d.entries := by
        rw [← List.zipIdx_map_fst 0 d.entries]
        exact List.mem_map_of_mem hx
      exact env_entry_congr (h d rfl x.1 hmem) prior prior' x.2
    unfold process_env
    dsimp only
    rw [hentries]

theorem spawn_congr (hvars : call.vars = some vars) {prior prior' : Prior}
    (hcb : call.callback prior = call.callback prior')
    (h : ∀ d, vars.env = some d → d.short M) (s : State) :
    Process_func_spawn M prior call s = Process_func_spawn M prior' call s := by
  rw [spawn_parsed hvars, spawn_parsed hvars, hcb]
  unfold spawn_checked spawn_process attempt prepare
  dsimp only
  rw [process_env_congr h prior prior']

/-! ## The documented defaults -/

theorem vars_documented (call : Call) : (documented call).vars = call.vars := by
  have huid : unsigned_var (some (call.uid.getD (.int 0))) = unsigned_var call.uid := by
    cases call.uid <;> rfl
  have hgid : unsigned_var (some (call.gid.getD (.int 0))) = unsigned_var call.gid := by
    cases call.gid <;> rfl
  have hflags : int_var (some (call.flags.getD (.int 0))) = int_var call.flags := by
    cases call.flags <;> rfl
  have hcb : (Option.map Pointer.object (some (call.exit_callback.getD .None))).getD
      (.object .None) = (call.exit_callback.map Pointer.object).getD (.object .None) := by
    cases call.exit_callback <;> rfl
  unfold Call.vars PyArg_ParseTupleAndKeywords documented
  dsimp only
  rw [huid, hgid, hflags, hcb]
  rfl

theorem callback_of_some {c : Callback} (h : call.exit_callback = some c) (prior : Prior) :
    call.callback prior = .object c := by
  unfold Call.callback
  rw [h]
  rfl

theorem unparsed_documented (hvars : call.vars = none) (prior : Prior) (s : State) :
    Process_func_spawn M prior call s = Process_func_spawn M prior (documented call) s := by
  have hvars' : (documented call).vars = none := (vars_documented call).trans hvars
  unfold Process_func_spawn
  rw [parse_eq, parse_eq, hvars, hvars']
  rfl

theorem spawn_documented {c : Callback} (hvars : call.vars = some vars)
    (h : call.exit_callback = some c) (prior : Prior) (s : State) :
    Process_func_spawn M prior call s = Process_func_spawn M prior (documented call) s := by
  have hcb : (documented call).callback prior = call.callback prior := by
    unfold documented Call.callback
    rw [h]
    rfl
  have hvars' : (documented call).vars = some vars := (vars_documented call).trans hvars
  rw [spawn_parsed hvars, spawn_parsed hvars', hcb]

/-! ## The calls that do not get to uv_spawn -/

theorem seen_raised {prior : Prior} {L : Ledger Res} {t : State}
    (h : Process_func_spawn M prior call (State.initial L) = .ok false t)
    (hpassed : t.passed = none) (hcb : t.self.bind Process.on_exit_cb = none) :
    seen (Process_func_spawn M prior call (State.initial L)) = ⟨.raised, none, none⟩ := by
  rw [h]
  unfold seen
  dsimp only
  rw [hpassed, hcb]
  rfl

theorem seen_rejected {prior : Prior} {L : Ledger Res}
    (h : ∃ t, Process_func_spawn M prior call (State.initial L) = .ok false t ∧ Rejected L t) :
    seen (Process_func_spawn M prior call (State.initial L)) = ⟨.raised, none, none⟩ := by
  obtain ⟨t, ht, hrejected⟩ := h
  apply seen_raised ht hrejected.passed
  rw [hrejected.self]
  rfl

theorem seen_refused {prior : Prior} {L : Ledger Res}
    (h : ∃ t, Process_func_spawn M prior call (State.initial L) = .ok false t ∧
      Refused L t none) :
    seen (Process_func_spawn M prior call (State.initial L)) = ⟨.raised, none, none⟩ := by
  obtain ⟨t, ht, hrefused⟩ := h
  apply seen_raised ht hrefused.passed
  rw [hrefused.self]
  rfl

theorem seen_crash {prior : Prior} {L : Ledger Res}
    (h : ∃ t, Process_func_spawn M prior call (State.initial L) = .error .crash t) :
    seen (Process_func_spawn M prior call (State.initial L)) = ⟨.stopped .crash, none, none⟩ := by
  obtain ⟨t, ht⟩ := h
  rw [ht]
  rfl

/-- They end alike. -/
theorem seen_unready {c : Callback} (hvars : call.vars = some vars)
    (hc : call.exit_callback = some c) (hready : ¬Ready M call vars) (L : Ledger Res) :
    ∃ x, ∀ prior, seen (Process_func_spawn M prior call (State.initial L)) = x := by
  by_cases hacc : vars.accepted M c
  · let vars' : Vars := { vars with callback := .object c }
    have hrun := fun prior => spawn_accepted prior hvars (callback_of_some hc prior) hacc
      (State.initial L)
    by_cases hover : args_filled M vars.arguments = some .overrun
    · refine ⟨⟨.stopped .crash, none, none⟩, fun prior => seen_crash ?_⟩
      rw [hrun prior]
      exact spawn_process_overrun prior vars' hover L
    · by_cases hprepared : ∀ prior, prepared M prior vars ≠ none
      · cases hout : stdio_outcome M vars.stdio with
        | refused =>
          refine ⟨⟨.raised, none, none⟩, fun prior => seen_refused ?_⟩
          obtain ⟨p, hp⟩ := Option.ne_none_iff_exists'.mp (hprepared prior)
          rw [hrun prior]
          exact spawn_process_unallocated vars' hp hout L
        | lost e =>
          have hlost := fun prior p (hp : prepared M prior vars = some p) =>
            spawn_process_lost vars' hp hout L
          by_cases he : e = .crash
          · refine ⟨⟨.stopped .crash, none, none⟩, fun prior => seen_crash ?_⟩
            obtain ⟨p, hp⟩ := Option.ne_none_iff_exists'.mp (hprepared prior)
            rcases hlost prior p hp with ⟨-, hcrash⟩ | ⟨hgoto, -⟩
            · rw [hrun prior]
              exact hcrash
            · rw [he] at hgoto
              cases hgoto
          · refine ⟨⟨.raised, none, none⟩, fun prior => ?_⟩
            obtain ⟨p, hp⟩ := Option.ne_none_iff_exists'.mp (hprepared prior)
            rcases hlost prior p hp with ⟨hcrash, -⟩ | ⟨-, t, ht, -, hpassed, hself, -⟩
            · exact absurd hcrash he
            · apply seen_raised ((hrun prior).trans ht) hpassed
              rw [hself]
              rfl
        | built cs =>
          refine absurd ⟨?_, hprepared, cs, hout⟩ hready
          rw [hc]
          exact hacc
      · push Not at hprepared
        obtain ⟨prior₀, hnone⟩ := hprepared
        refine ⟨⟨.raised, none, none⟩, fun prior => seen_refused ?_⟩
        have hp : prepared M prior vars = none := by
          by_contra hsome
          exact (prepared_ne_none_iff prior prior₀ vars).mp hsome hnone
        rw [hrun prior]
        exact spawn_process_unprepared vars' hp hover L
  · exact ⟨_, fun prior =>
      seen_rejected (spawn_refused prior hvars (callback_of_some hc prior) hacc L)⟩

/-! ## Which calls have their defaults -/

theorem seen_passed {prior : Prior} {L : Ledger Res} {o : uv_process_options_t}
    (h : Reaches M prior call L o) :
    (seen (Process_func_spawn M prior call (State.initial L))).passed = some o := by
  unfold Reaches at h
  unfold seen
  cases hrun : Process_func_spawn M prior call (State.initial L) with
  | ok a t =>
    rw [hrun] at h
    exact h
  | error e t =>
    rw [hrun] at h
    obtain ⟨rfl, h⟩ := h
    exact h

theorem short_of_seen {c : Callback} (hvars : call.vars = some vars)
    (hc : call.exit_callback = some c) (hready : Ready M call vars)
    (h : ∀ prior prior' L, seen (Process_func_spawn M prior call (State.initial L)) =
      seen (Process_func_spawn M prior' call (State.initial L)))
    {d : Dict} (hd : vars.env = some d) : d.short M := by
  by_contra hlong
  unfold Dict.short at hlong
  push Not at hlong
  obtain ⟨e, he, k, v, hk, hv, hsize⟩ := hlong
  obtain ⟨i, hi, hie⟩ := List.mem_iff_getElem.mp he
  have hget : d.entries[i]? = some e := by rw [List.getElem?_eq_getElem hi, hie]
  obtain ⟨cs, hcs⟩ := hready.stdio
  have hacc : vars.accepted M c := by
    have hacc := hready.accepted
    rw [hc] at hacc
    exact hacc
  have hentry : ∀ b, ∃ o w es q, (seen (Process_func_spawn M ⟨.null, fun _ => b⟩ call
      (State.initial ⟨0, 0⟩))).passed = some o ∧ o.env = some w ∧ scan w = some es ∧
      es[i]? = some q ∧ q.bytes = b := by
    intro b
    obtain ⟨p, hp⟩ := Option.ne_none_iff_exists'.mp (hready.prepared ⟨.null, fun _ => b⟩)
    obtain ⟨o, hreaches, ho⟩ :=
      reaches_of_prepared hvars (callback_of_some hc _) hacc hp hcs ⟨0, 0⟩
    obtain ⟨w, es, q, hw, hscan, hq, hbytes⟩ :=
      long_entry hp ho hd hget hk hv (not_le.mpr hsize)
    exact ⟨o, w, es, q, seen_passed hreaches, hw, hscan, hq, hbytes⟩
  obtain ⟨o, w, es, q, hseen, hw, hscan, hq, hbytes⟩ := hentry []
  obtain ⟨o', w', es', q', hseen', hw', hscan', hq', hbytes'⟩ := hentry [1]
  rw [h _ ⟨.null, fun _ => [1]⟩, hseen'] at hseen
  obtain rfl := Option.some.inj hseen
  rw [hw'] at hw
  obtain rfl := Option.some.inj hw
  rw [hscan'] at hscan
  obtain rfl := Option.some.inj hscan
  rw [hq'] at hq
  obtain rfl := Option.some.inj hq
  rw [hbytes'] at hbytes
  cases hbytes

/-- Which calls are those with the documented defaults, whatever memory had before. -/
theorem omitted_arguments_have_their_defaults_iff (M : Machine) (call : Call) :
    Defaulted M call ↔ defaults M call := by
  constructor
  · intro h vars hvars
    have hgiven : call.exit_callback ≠ none := by
      intro hnone
      have hcallback : ∀ p b, call.callback ⟨p, b⟩ = p := by
        intro p b
        unfold Call.callback
        rw [hnone]
        rfl
      have hwild := seen_crash (spawn_wild (M := M) _ hvars (hcallback .wild fun _ => []) ⟨0, 0⟩)
      have hnull := seen_rejected (spawn_null (M := M) _ hvars (hcallback .null fun _ => []) ⟨0, 0⟩)
      have hsame := h.prior ⟨.wild, fun _ => []⟩ ⟨.null, fun _ => []⟩ ⟨0, 0⟩
      rw [hwild, hnull] at hsame
      cases hsame
    obtain ⟨c, hc⟩ := Option.ne_none_iff_exists'.mp hgiven
    exact ⟨hgiven, fun hready d hd => short_of_seen hvars hc hready h.prior hd⟩
  · intro h
    constructor
    · intro prior L
      cases hvars : call.vars with
      | none => exact unparsed_documented hvars prior _
      | some vars =>
        obtain ⟨c, hc⟩ := Option.ne_none_iff_exists'.mp (h vars hvars).1
        exact spawn_documented hvars hc prior _
    · intro prior prior' L
      cases hvars : call.vars with
      | none => rw [seen_rejected (spawn_unparsed prior hvars L),
          seen_rejected (spawn_unparsed prior' hvars L)]
      | some vars =>
        obtain ⟨hgiven, hshort⟩ := h vars hvars
        obtain ⟨c, hc⟩ := Option.ne_none_iff_exists'.mp hgiven
        by_cases hready : Ready M call vars
        · have hcb := (callback_of_some hc prior).trans (callback_of_some hc prior').symm
          rw [spawn_congr hvars hcb (hshort hready)]
        · obtain ⟨x, hx⟩ := seen_unready hvars hc hready L
          rw [hx prior, hx prior']

/-- A call without an exit_callback, with NULL in the variable: it is refused. -/
theorem an_omitted_callback_is_refused : ¬∀ (M : Machine) (call : Call), Defaulted M call := by
  intro h
  let call : Call := { Call.plain with exit_callback := none }
  let vars : Vars :=
    { arguments := Call.plain.args, executable := .None, env := none, cwd := .None, uid := 0
      gid := 0, flags := 0, stdio := none, callback := .object .None }
  have hvars : call.vars = some vars := rfl
  have hwild := seen_crash (spawn_wild (M := .willing) ⟨.wild, fun _ => []⟩ hvars rfl
    ⟨0, 0⟩)
  have hnull := seen_rejected (spawn_null (M := .willing) ⟨.null, fun _ => []⟩ hvars rfl
    ⟨0, 0⟩)
  have hsame := (h .willing call).prior ⟨.wild, fun _ => []⟩ ⟨.null, fun _ => []⟩ ⟨0, 0⟩
  rw [hwild, hnull] at hsame
  cases hsame

end pyuv.spawn
