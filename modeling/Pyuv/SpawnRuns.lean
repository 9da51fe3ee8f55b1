-- What Process.spawn comes to: each phase leaves in the options what it has taken, so that the
-- label cleanup finds it, but for the block of the stdio containers.
import Pyuv.SpawnStrings

set_option linter.style.nameCheck false

namespace pyuv.spawn

open ends ledgers ledgers.Ledger cvectors

variable {M : Machine} {prior : Prior}

/-! ## The blocks of the options -/

/-- What is held for a vector, none where it has a slot that was not written. -/
def vector_res (b : Block) (v : Option (List (Slot CString))) : Option (List Res) :=
  match v with
  | none => some []
  | some v => (scan v).map fun ps => ps.map CString.res ++ [.block b]

/-- What the label cleanup finds in the options, if both vectors have their NULL. -/
def found (o : uv_process_options_t) : Option (List Res) := do
  let args ← vector_res .argv o.args
  let env ← vector_res .envp o.env
  return args ++ (env ++ (o.cwd.toList.map CString.res ++ (o.file.toList.map CString.res ++
    o.stdio.toList.map fun _ => .block .container)))

/-- The call has what the options point to, and nothing else. -/
def Held (L : Ledger Res) (s : State) : Prop :=
  ∃ rs, found s.options = some rs ∧ s.ledger = acquireAll rs L

theorem free_strings.spec {v : List (Slot CString)} {ps : List CString} (h : scan v = some ps)
    (s : State) : free_strings v (s.took (ps.map CString.res)) = .ok () s := by
  induction v generalizing ps with
  | nil => cases h
  | cons x v ih =>
    cases x with
    | unwritten => cases h
    | null =>
      obtain rfl := Option.some.inj h
      rfl
    | ptr p =>
      obtain ⟨qs, hqs, rfl⟩ := Option.map_eq_some_iff.mp h
      have hfree : PyMem_Free (some p) (s.took ((p :: qs).map CString.res)) =
          .ok () (s.took (qs.map CString.res)) := by
        rw [List.map_cons, ← took_cons]
        exact release_took_many _ _ s
      unfold free_strings
      rw [bind_of_ok hfree]
      exact ih hqs

theorem free_vector.spec {b : Block} {v : Option (List (Slot CString))} {rs : List Res}
    (h : vector_res b v = some rs) (s : State) : free_vector b v (s.took rs) = .ok () s := by
  cases v with
  | none =>
    obtain rfl := Option.some.inj h
    rfl
  | some v =>
    obtain ⟨ps, hps, rfl⟩ := Option.map_eq_some_iff.mp h
    unfold free_vector
    dsimp only
    rw [← took_took, bind_of_ok (free_strings.spec hps _)]
    exact release_took (.block b) s

theorem PyMem_Free.spec (p : Option CString) (s : State) :
    PyMem_Free p (s.took (p.toList.map CString.res)) = .ok () s := by
  cases p with
  | none => rfl
  | some p => exact release_took p.res s

theorem cleanup.spec {L : Ledger Res} {s : State} (h : Held L s) :
    cleanup s = .ok () { s with ledger := L } := by
  obtain ⟨rs, hfound, hledger⟩ := h
  obtain ⟨args, hargs, hrest⟩ := Option.bind_eq_some_iff.mp hfound
  obtain ⟨env, henv, hrs⟩ := Option.bind_eq_some_iff.mp hrest
  obtain rfl := Option.some.inj hrs
  have hs : s = State.took args (State.took env (State.took (s.options.cwd.toList.map CString.res)
      (State.took (s.options.file.toList.map CString.res)
        (State.took (s.options.stdio.toList.map fun _ => Res.block .container)
          { s with ledger := L })))) := by
    rw [took_took, took_took, took_took, took_took]
    unfold State.took
    simp only [List.append_assoc]
    rw [← hledger]
  have hget : (get : Run State) s = .ok s s := rfl
  unfold cleanup
  rw [bind_of_ok hget]
  conv_lhs => rw [hs]
  change (free_vector .argv s.options.args >>= fun _ => _) _ = _
  rw [bind_of_ok (free_vector.spec hargs _)]
  change (free_vector .envp s.options.env >>= fun _ => _) _ = _
  rw [bind_of_ok (free_vector.spec henv _)]
  change (PyMem_Free s.options.cwd >>= fun _ => _) _ = _
  rw [bind_of_ok (PyMem_Free.spec _ _)]
  change (PyMem_Free s.options.file >>= fun _ => _) _ = _
  rw [bind_of_ok (PyMem_Free.spec _ _)]
  change free_stdio s.options.stdio _ = _
  cases s.options.stdio with
  | none => rfl
  | some _ => exact release_took (.block .container) _

/-- What a phase has taken is what it has put into the options. -/
theorem Held.take {L : Ledger Res} {s t : State} (h : Held L s) (new : List Res)
    (hledger : t.ledger = acquireAll new s.ledger)
    (hfound : ∀ rs, found s.options = some rs →
      ∃ rs', found t.options = some rs' ∧ rs'.Perm (new ++ rs)) : Held L t := by
  obtain ⟨rs, hrs, hs⟩ := h
  obtain ⟨rs', hrs', hperm⟩ := hfound rs hrs
  refine ⟨rs', hrs', ?_⟩
  rw [hledger, hs, ← acquireAll_append]
  exact (acquireAll_perm hperm L).symm

theorem found_eq_some_iff {o : uv_process_options_t} {rs : List Res} :
    found o = some rs ↔ ∃ args env, vector_res .argv o.args = some args ∧
      vector_res .envp o.env = some env ∧
      args ++ (env ++ (o.cwd.toList.map CString.res ++ (o.file.toList.map CString.res ++
        o.stdio.toList.map fun _ => .block .container))) = rs := by
  unfold found
  simp only [Option.bind_eq_bind, Option.bind_eq_some_iff, Option.pure_def, Option.some.injEq,
    exists_and_left]

/-- The memory of a vector. -/
def Vec.block : Vec → Block
  | .args => .argv
  | .env => .envp

/-- The vector is written where it was made. -/
def State.with_vector (w : Vec) (v : Option (List (Slot CString))) (s : State) : State :=
  match v with
  | none => s
  | some v => s.set_vector w v

theorem Held.with_vector {L : Ledger Res} {s : State} {w : Vec}
    {v : Option (List (Slot CString))} {new : List Res} (h : Held L s)
    (hunset : s.vector w = none) (hv : vector_res w.block v = some new) :
    Held L ((s.with_vector w v).took new) := by
  cases v with
  | none =>
    obtain rfl := Option.some.inj hv
    exact h
  | some v =>
    refine h.take new (by cases w <;> rfl) fun rs hrs => ?_
    obtain ⟨args, env, hargs, henv, rfl⟩ := found_eq_some_iff.mp hrs
    cases w with
    | args =>
      have hnone : s.options.args = none := hunset
      rw [hnone] at hargs
      obtain rfl := Option.some.inj hargs
      exact ⟨_, found_eq_some_iff.mpr ⟨new, env, hv, henv, rfl⟩, .refl _⟩
    | env =>
      have hnone : s.options.env = none := hunset
      rw [hnone] at henv
      obtain rfl := Option.some.inj henv
      refine ⟨_, found_eq_some_iff.mpr ⟨args, new, hargs, hv, rfl⟩, ?_⟩
      exact List.perm_append_comm_assoc _ _ _

theorem Held.with_cwd {L : Ledger Res} {s : State} {p : CString} (h : Held L s)
    (hunset : s.options.cwd = none) : Held L ((s.with_cwd p).took [p.res]) := by
  refine h.take [p.res] rfl fun rs hrs => ?_
  obtain ⟨args, env, hargs, henv, rfl⟩ := found_eq_some_iff.mp hrs
  refine ⟨_, found_eq_some_iff.mpr ⟨args, env, hargs, henv, rfl⟩, ?_⟩
  rw [hunset]
  apply List.perm_iff_count.mpr
  intro r
  simp only [State.took, State.with_cwd, Option.toList_some, Option.toList_none, List.map_cons,
    List.map_nil, List.count_append, List.count_nil]
  omega

theorem Held.with_file {L : Ledger Res} {s : State} {p : CString} (h : Held L s)
    (hunset : s.options.file = none) : Held L ((s.with_file p).took [p.res]) := by
  refine h.take [p.res] rfl fun rs hrs => ?_
  obtain ⟨args, env, hargs, henv, rfl⟩ := found_eq_some_iff.mp hrs
  refine ⟨_, found_eq_some_iff.mpr ⟨args, env, hargs, henv, rfl⟩, ?_⟩
  rw [hunset]
  apply List.perm_iff_count.mpr
  intro r
  simp only [State.took, State.with_file, Option.toList_some, Option.toList_none, List.map_cons,
    List.map_nil, List.count_append, List.count_nil]
  omega

/-! ## The first four phases -/

/-- A phase that is not done leaves a vector that ends, if any. -/
theorem Builds.error {w : Vec} {f : Option (Filled CString)} {m : Run Unit}
    (h : Builds w w.block f m) (hdone : ∀ qs, f ≠ some (.done qs)) (hover : f ≠ some .overrun)
    (s : State) : ∃ v new e, vector_res w.block v = some new ∧
      m s = .error .goto_error (((s.with_vector w v).took new).failing e) := by
  cases hf : f with
  | none =>
    obtain ⟨e, he⟩ := h.missing hf s
    exact ⟨none, [], e, rfl, he⟩
  | some f' =>
    cases f' with
    | done qs => exact absurd hf (hdone qs)
    | overrun => exact absurd hf hover
    | failed qs =>
      obtain ⟨v, e, hscan, he⟩ := h.failed qs hf s
      refine ⟨some v, qs.map CString.res ++ [.block w.block], e, ?_, he⟩
      unfold vector_res
      dsimp only
      rw [hscan]
      rfl

theorem env_filled_ne_overrun (entries : List (PyObj × PyObj)) :
    env_filled M prior entries ≠ some .overrun := by
  unfold env_filled
  intro h
  split at h
  · refine fill_ne_overrun ?_ (Option.some.inj h)
    simp
  · cases h

theorem process_env.spec (prior : Prior) (env : Option Dict) (s : State) :
    (∀ es, env_strings M prior env = some es → ∃ v new, v.map scan = es.map some ∧
      vector_res .envp v = some new ∧
      process_env M prior env s = .ok () ((s.with_vector .env v).took new)) ∧
    (env_strings M prior env = none → ∃ v new e, vector_res .envp v = some new ∧
      process_env M prior env s =
        .error .goto_error (((s.with_vector .env v).took new).failing e)) := by
  have hunset : process_env M prior env s = .ok () s → env_strings M prior env = some none →
      (∀ es, env_strings M prior env = some es → ∃ v new, v.map scan = es.map some ∧
        vector_res .envp v = some new ∧
        process_env M prior env s = .ok () ((s.with_vector .env v).took new)) ∧
      (env_strings M prior env = none → ∃ v new e, vector_res .envp v = some new ∧
        process_env M prior env s =
          .error .goto_error (((s.with_vector .env v).took new).failing e)) := by
    intro hrun hes
    rw [hes]
    refine ⟨fun es h => ?_, (fun h => nomatch h)⟩
    obtain rfl := Option.some.inj h
    exact ⟨none, [], rfl, rfl, hrun⟩
  cases env with
  | none => exact hunset rfl rfl
  | some d =>
    by_cases hlen : d.entries.length > 0
    · have hbuilds := process_env.builds (M := M) prior hlen
      unfold env_strings
      dsimp only
      rw [if_pos hlen]
      cases hf : env_filled M prior d.entries with
      | none =>
        refine ⟨(fun _ h => nomatch h), fun _ => ?_⟩
        exact Builds.error (w := .env) hbuilds (by simp [hf]) (env_filled_ne_overrun _) s
      | some f =>
        cases f with
        | overrun => exact absurd hf (env_filled_ne_overrun _)
        | failed qs =>
          refine ⟨(fun _ h => nomatch h), fun _ => ?_⟩
          exact Builds.error (w := .env) hbuilds (by simp [hf]) (env_filled_ne_overrun _) s
        | done qs =>
          refine ⟨fun es h => ?_, (fun h => nomatch h)⟩
          obtain rfl := Option.some.inj h
          obtain ⟨v, hscan, hrun⟩ := hbuilds.done qs hf s
          refine ⟨some v, _, by rw [Option.map_some, hscan]; rfl, ?_, hrun⟩
          unfold vector_res
          dsimp only
          rw [hscan]
          rfl
    · apply hunset
      · unfold process_env
        dsimp only
        rw [if_neg hlen]
        rfl
      · unfold env_strings
        dsimp only
        rw [if_neg hlen]

/-- The options that have the strings of `p`, and what they had for the rest. -/
structure Loaded (p : Prepared) (o o' : uv_process_options_t) : Prop where
  args : ∃ v, o'.args = some v ∧ scan v = some p.args
  file : o'.file = some p.file
  cwd : o'.cwd = p.cwd
  env : o'.env.map scan = p.env.map some
  flags : o'.flags = o.flags
  uid : o'.uid = o.uid
  gid : o'.gid = o.gid
  stdio : o'.stdio = o.stdio

/-- What a part of the function leaves alone. -/
structure Untouched (s t : State) : Prop where
  self : t.self = s.self
  passed : t.passed = s.passed
  released : t.released = s.released

/-- Nothing is set yet of what the phases set. -/
structure Unset (o : uv_process_options_t) : Prop where
  args : o.args = none
  file : o.file = none
  cwd : o.cwd = none
  env : o.env = none
  stdio : o.stdio = none

theorem Held.of_unset {s : State} (h : Unset s.options) : Held s.ledger s := by
  refine ⟨[], found_eq_some_iff.mpr ⟨[], [], ?_, ?_, ?_⟩, rfl⟩
  · rw [h.args]
    rfl
  · rw [h.env]
    rfl
  · rw [h.cwd, h.file, h.stdio]
    rfl

theorem prepare.overrun (prior : Prior) {vars : Vars}
    (h : args_filled M vars.arguments = some .overrun)
    (s : State) : ∃ t, prepare M prior vars s = .error .crash t := by
  obtain ⟨t, ht⟩ := (process_args.builds vars.arguments).overrun h s
  exact ⟨t, bind_of_error ht⟩

theorem Held.cwd_set {L : Ledger Res} {s : State} {p : Option CString} (h : Held L s)
    (hunset : s.options.cwd = none) : Held L (s.cwd_set p) := by
  cases p with
  | none => exact h
  | some p => exact h.with_cwd hunset

/-- The phase of args and those after it, from where the vector of args is done. -/
theorem after_args.spec (prior : Prior) (vars : Vars) {s : State}
    (hs : Unset s.options) {a : CString}
    {as : List CString} {v : List (Slot CString)} (hscan : scan v = some (a :: as)) :
    let s₁ := (s.set_vector .args v).took ((a :: as).map CString.res ++ [.block .argv])
    let m : Run Unit := do
      process_file M vars.executable
      process_cwd M vars.cwd
      process_env M prior vars.env
    (∀ file cwd env, file_string M (a :: as) vars.executable = some file →
      cwd_string M vars.cwd = some cwd → env_strings M prior vars.env = some env →
      ∃ t, m s₁ = .ok () t ∧ Held s.ledger t ∧
        Loaded ⟨a :: as, file, cwd, env⟩ s.options t.options ∧ Untouched s t ∧
        t.pending = s.pending) ∧
    ((file_string M (a :: as) vars.executable = none ∨ cwd_string M vars.cwd = none ∨
        env_strings M prior vars.env = none) →
      ∃ t, m s₁ = .error .goto_error t ∧ Held s.ledger t ∧ t.pending ≠ none ∧ Untouched s t ∧
        t.options.stdio = none) := by
  intro s₁ m
  have hheld₁ : Held s.ledger s₁ := by
    refine Held.with_vector (w := .args) (v := some v) (Held.of_unset hs) hs.args ?_
    unfold vector_res
    dsimp only
    rw [hscan]
    rfl
  obtain ⟨hfile, hnofile⟩ := process_file.spec (M := M) vars.executable (s := s₁) rfl hscan
  cases hf : file_string M (a :: as) vars.executable with
  | none =>
    refine ⟨(fun _ _ _ h => nomatch h), fun _ => ?_⟩
    obtain ⟨e, he⟩ := hnofile hf
    exact ⟨_, bind_of_error he, hheld₁, Option.some_ne_none e, ⟨rfl, rfl, rfl⟩, hs.stdio⟩
  | some file =>
    have hm₁ := bind_of_ok (f := fun _ => (do
      process_cwd M vars.cwd
      process_env M prior vars.env : Run Unit)) (hfile file hf)
    let s₂ := (s₁.with_file file).took [file.res]
    have hheld₂ : Held s.ledger s₂ := hheld₁.with_file hs.file
    obtain ⟨hcwd, hnocwd⟩ := process_cwd.spec (M := M) vars.cwd s₂
    cases hc : cwd_string M vars.cwd with
    | none =>
      refine ⟨(fun _ _ _ _ h => nomatch h), fun _ => ?_⟩
      obtain ⟨e, he⟩ := hnocwd hc
      exact ⟨_, hm₁.trans (bind_of_error he), hheld₂, Option.some_ne_none e, ⟨rfl, rfl, rfl⟩,
        hs.stdio⟩
    | some cwd =>
      have hm₂ := bind_of_ok (f := fun _ => process_env M prior vars.env) (hcwd cwd hc)
      have hheld₃ : Held s.ledger (s₂.cwd_set cwd) := hheld₂.cwd_set hs.cwd
      have hunset : (s₂.cwd_set cwd).vector .env = none := by
        cases cwd <;> exact hs.env
      obtain ⟨henv, hnoenv⟩ := process_env.spec (M := M) prior vars.env (s₂.cwd_set cwd)
      have huntouched : ∀ v' new,
        Untouched s (((s₂.cwd_set cwd).with_vector .env v').took new) := by
        intro v' new
        constructor
        all_goals cases cwd <;> cases v' <;> rfl
      cases he : env_strings M prior vars.env with
      | none =>
        refine ⟨(fun _ _ _ _ _ h => nomatch h), fun _ => ?_⟩
        obtain ⟨v', new, e, hnew, hrun⟩ := hnoenv he
        refine ⟨_, hm₁.trans (hm₂.trans hrun), hheld₃.with_vector hunset hnew,
          Option.some_ne_none e, ?_, ?_⟩
        · obtain ⟨hself, hpassed, hreleased⟩ := huntouched v' new
          exact ⟨hself, hpassed, hreleased⟩
        · cases cwd <;> cases v' <;> exact hs.stdio
      | some env =>
        refine ⟨fun file' cwd' env' h₁ h₂ h₃ => ?_, fun h => ?_⟩
        · obtain rfl := Option.some.inj h₁
          obtain rfl := Option.some.inj h₂
          obtain rfl := Option.some.inj h₃
          obtain ⟨v', new, hmap, hnew, hrun⟩ := henv env he
          refine ⟨_, hm₁.trans (hm₂.trans hrun), hheld₃.with_vector hunset hnew, ?_,
            huntouched v' new, ?_⟩
          · constructor
            · exact ⟨v, by cases cwd <;> cases v' <;> rfl, hscan⟩
            · cases cwd <;> cases v' <;> rfl
            · cases cwd <;> cases v' <;> first | rfl | exact hs.cwd
            · cases v' with
              | none =>
                have hnone : (s₂.cwd_set cwd).options.env = none := hunset
                change (s₂.cwd_set cwd).options.env.map scan = _
                rw [hnone]
                exact hmap
              | some v' => exact hmap
            all_goals cases cwd <;> cases v' <;> rfl
          · cases cwd <;> cases v' <;> rfl
        · rcases h with h | h | h <;> cases h

/-- The first four phases are done where there are all strings. Else, and without a write outside
of the vector of args, they jump with what they have taken in the options. -/
theorem prepare.spec (prior : Prior) {vars : Vars} {s : State} (hs : Unset s.options) :
    (∀ p, prepared M prior vars = some p → ∃ t, prepare M prior vars s = .ok () t ∧
      Held s.ledger t ∧ Loaded p s.options t.options ∧ Untouched s t ∧ t.pending = s.pending) ∧
    (prepared M prior vars = none → args_filled M vars.arguments ≠ some .overrun →
      ∃ t, prepare M prior vars s = .error .goto_error t ∧ Held s.ledger t ∧ t.pending ≠ none ∧
        Untouched s t ∧ t.options.stdio = none) := by
  have hbuilds := process_args.builds (M := M) vars.arguments
  unfold prepared
  have herror : (∀ qs, args_filled M vars.arguments ≠ some (.done qs)) →
      args_filled M vars.arguments ≠ some .overrun →
      ∃ t, prepare M prior vars s = .error .goto_error t ∧ Held s.ledger t ∧ t.pending ≠ none ∧
        Untouched s t ∧ t.options.stdio = none := by
    intro hdone hover
    obtain ⟨v, new, e, hnew, hrun⟩ := Builds.error (w := .args) hbuilds hdone hover s
    refine ⟨_, bind_of_error hrun, (Held.of_unset hs).with_vector hs.args hnew,
      Option.some_ne_none e, ?_, ?_⟩
    · constructor
      all_goals cases v <;> rfl
    · cases v <;> exact hs.stdio
  cases hf : args_filled M vars.arguments with
  | none =>
    rw [hf] at herror
    exact ⟨(fun _ h => nomatch h), fun _ hover => herror (by simp) hover⟩
  | some f =>
    cases f with
    | overrun => exact ⟨(fun _ h => nomatch h), fun _ hover => absurd rfl hover⟩
    | failed qs =>
      rw [hf] at herror
      exact ⟨(fun _ h => nomatch h), fun _ hover => herror (by simp) hover⟩
    | done qs =>
      obtain ⟨a, as, rfl⟩ := args_filled_ne_nil hf
      obtain ⟨v, hscan, hrun⟩ := hbuilds.done _ hf s
      have hprep : prepare M prior vars s = _ := bind_of_ok hrun
      obtain ⟨hok, herr⟩ := after_args.spec (M := M) prior vars hs hscan
      rw [hprep]
      dsimp only
      constructor
      · intro p hp
        obtain ⟨file, hfile, hp⟩ := Option.bind_eq_some_iff.mp hp
        obtain ⟨cwd, hcwd, hp⟩ := Option.bind_eq_some_iff.mp hp
        obtain ⟨env, henv, hp⟩ := Option.bind_eq_some_iff.mp hp
        obtain rfl := Option.some.inj hp
        exact hok file cwd env hfile hcwd henv
      · intro hnone _
        apply herr
        by_contra hall
        push Not at hall
        obtain ⟨hfile, hcwd, henv⟩ := hall
        obtain ⟨file, hfile⟩ := Option.ne_none_iff_exists'.mp hfile
        obtain ⟨cwd, hcwd⟩ := Option.ne_none_iff_exists'.mp hcwd
        obtain ⟨env, henv⟩ := Option.ne_none_iff_exists'.mp henv
        rw [hfile, hcwd, henv] at hnone
        cases hnone

/-! ## stdio -/

/-- None where a stream is wanted of an object that has none. -/
def container (s : StdIO) : Option uv_stdio_container_t :=
  if s.flags &&& (UV_CREATE_PIPE ||| UV_INHERIT_STREAM) ≠ 0 then
    s.stream.map fun stream => ⟨s.flags, .stream stream.uv_handle⟩
  else if s.flags &&& UV_INHERIT_FD ≠ 0 then some ⟨s.flags, .fd s.fd⟩
  else some ⟨s.flags, .unwritten⟩

/-- What an item comes to in a block of `slots`, or how the loop ends there. -/
def item_container (slots i : Nat) (item : Option StdioItem) : Except Stop uv_stdio_container_t :=
  match item with
  | some (.stdio s) =>
    if i < slots ∧ i < INT_MAX then (container s).elim (.error .crash) .ok else .error .crash
  | _ => .error .goto_error

/-- The containers that the loop makes of the items. -/
def loop_containers (item : Nat → Option StdioItem) (slots : Nat) :
    Nat → Nat → Except Stop (List uv_stdio_container_t)
  | 0, _ => .ok []
  | n + 1, i => (item_container slots i (item i)).bind fun c =>
    (loop_containers item slots n (i + 1)).map (c :: ·)

/-- Those of the whole argument. -/
def Stdio.containers (stdio : Stdio) : Except Stop (List uv_stdio_container_t) :=
  loop_containers stdio.item (size_t (16 * stdio.length) / 16) stdio.length.toNat 0

theorem container_of_eq (s : StdIO) (t : State) :
    container_of s t = match container s with
      | some c => .ok c t
      | none => .error .crash t := by
  unfold container_of container
  by_cases hstream : s.flags &&& (UV_CREATE_PIPE ||| UV_INHERIT_STREAM) ≠ 0
  · rw [if_pos hstream, if_pos hstream]
    cases s.stream <;> rfl
  · rw [if_neg hstream, if_neg hstream]
    by_cases hfd : s.flags &&& UV_INHERIT_FD ≠ 0
    · rw [if_pos hfd, if_pos hfd]
      rfl
    · rw [if_neg hfd, if_neg hfd]
      rfl

/-- A crash, or the exception with everything else as it was. -/
def Stopped (s : State) (e : Stop) (t : State) : Prop :=
  e = .crash ∨ e = .goto_error ∧ ∃ exc, t = s.failing exc

theorem stdio_item.spec (slots i : Nat) (item : Option StdioItem) (s : State) :
    (∀ c, item_container slots i item = .ok c → stdio_item slots i item s = .ok c s) ∧
    (∀ e, item_container slots i item = .error e →
      ∃ t, stdio_item slots i item s = .error e t ∧ Stopped s e t) := by
  cases item with
  | none =>
    refine ⟨(fun _ h => nomatch h), fun e he => ?_⟩
    cases he
    exact ⟨_, rfl, .inr ⟨rfl, _, rfl⟩⟩
  | some item =>
    cases item with
    | other =>
      refine ⟨(fun _ h => nomatch h), fun e he => ?_⟩
      cases he
      exact ⟨_, (bind_of_ok (release_took (.ref .item) s)).trans rfl, .inr ⟨rfl, _, rfl⟩⟩
    | stdio o =>
      unfold item_container stdio_item
      dsimp only
      by_cases hi : i < slots ∧ i < INT_MAX
      · rw [if_pos hi, if_pos hi]
        have hof := container_of_eq o (s.took [.ref .item])
        cases hc : container o with
        | some c =>
          rw [hc] at hof
          refine ⟨fun c' h => ?_, (fun _ h => nomatch h)⟩
          obtain rfl := Except.ok.inj h
          refine (bind_of_ok (x := container_of o) hof).trans ?_
          exact bind_of_ok (release_took (.ref .item) s)
        | none =>
          rw [hc] at hof
          refine ⟨(fun _ h => nomatch h), fun e h => ?_⟩
          obtain rfl := Except.error.inj h
          exact ⟨_, bind_of_error (x := container_of o) hof, .inl rfl⟩
      · rw [if_neg hi, if_neg hi]
        refine ⟨(fun _ h => nomatch h), fun e h => ?_⟩
        obtain rfl := Except.error.inj h
        exact ⟨_, rfl, .inl rfl⟩

theorem stdio_loop.spec (item : Nat → Option StdioItem) (slots n i : Nat) (s : State) :
    (∀ cs, loop_containers item slots n i = .ok cs → stdio_loop item slots n i s = .ok cs s) ∧
    (∀ e, loop_containers item slots n i = .error e →
      ∃ t, stdio_loop item slots n i s = .error e t ∧ Stopped s e t) := by
  induction n generalizing i with
  | zero =>
    refine ⟨fun cs hcs => ?_, (fun _ h => nomatch h)⟩
    obtain rfl := Except.ok.inj hcs
    rfl
  | succ n ih =>
    obtain ⟨hitem, hnone⟩ := stdio_item.spec slots i (item i) s
    obtain ⟨hrest, hnorest⟩ := ih (i + 1)
    unfold loop_containers stdio_loop
    cases hc : item_container slots i (item i) with
    | error e =>
      refine ⟨(fun _ h => nomatch h), fun e' h => ?_⟩
      obtain rfl := Except.error.inj h
      obtain ⟨t, he, hstop⟩ := hnone e hc
      exact ⟨t, bind_of_error he, hstop⟩
    | ok c =>
      rw [bind_of_ok (hitem c hc)]
      cases hcs : loop_containers item slots n (i + 1) with
      | error e =>
        refine ⟨(fun _ h => nomatch h), fun e' h => ?_⟩
        obtain rfl := Except.error.inj h
        obtain ⟨t, he, hstop⟩ := hnorest e hcs
        exact ⟨t, bind_of_error he, hstop⟩
      | ok cs =>
        refine ⟨fun cs' h => ?_, (fun _ h => nomatch h)⟩
        obtain rfl := Except.ok.inj h
        exact bind_of_ok (hrest cs hcs)

/-- What comes of stdio: the block is not to be had, or it is lost, or it is in the options. -/
inductive StdioOutcome where
  | refused
  | lost (e : Stop)
  | built (stdio : Option (List uv_stdio_container_t))

variable (M) in

/-- What becomes of the argument `stdio`. -/
def stdio_outcome (stdio : Option Stdio) : StdioOutcome :=
  match stdio with
  | none => .built none
  | some stdio =>
    if allocates M .container (size_t (16 * stdio.length)) then
      match stdio.containers with
      | .ok cs => .built (some cs)
      | .error e => .lost e
    else .refused

/-- The containers and their number are written. -/
def State.with_stdio (cs : Option (List uv_stdio_container_t)) (s : State) : State :=
  { s with options := { s.options with stdio := cs, stdio_count := (cs.getD []).length } }

/-- What process_stdio does, by that outcome. -/
structure StdioSpec (stdio : Option Stdio) (s : State) : Prop where
  refused : stdio_outcome M stdio = .refused →
    ∃ e, process_stdio M stdio s = .error .goto_error (s.failing e)
  lost : ∀ e, stdio_outcome M stdio = .lost e → ∃ t, process_stdio M stdio s = .error e t ∧
    Stopped (s.took [.block .container]) e t
  built : ∀ cs, stdio_outcome M stdio = .built cs → process_stdio M stdio s =
    .ok () ((s.with_stdio cs).took (cs.toList.map fun _ => .block .container))

theorem process_stdio.spec (stdio : Option Stdio) (s : State) :
    StdioSpec (M := M) stdio s := by
  cases stdio with
  | none =>
    refine ⟨(fun h => nomatch h), (fun _ h => nomatch h), fun cs hcs => ?_⟩
    injection hcs with hcs
    rw [← hcs]
    rfl
  | some stdio =>
    have hmalloc := PyMem_Malloc_eq (M := M) .container (size_t (16 * stdio.length)) s
    have hrun : process_stdio M (some stdio) s = (do
        let containers ← stdio_containers stdio
          (allocates M .container (size_t (16 * stdio.length)))
        set_stdio (some containers) containers.length : Run Unit)
          (if allocates M .container (size_t (16 * stdio.length)) then
            s.took [.block .container] else s) := bind_of_ok hmalloc
    have hout : stdio_outcome M (some stdio) =
        if allocates M .container (size_t (16 * stdio.length)) then
          match stdio.containers with
          | .ok cs => .built (some cs)
          | .error e => .lost e
        else .refused := rfl
    cases hall : allocates M .container (size_t (16 * stdio.length)) with
    | false =>
      rw [hall] at hrun hout
      constructor
      · exact fun _ => ⟨.MemoryError, hrun⟩
      · intro e h
        rw [hout] at h
        cases h
      · intro cs h
        rw [hout] at h
        cases h
    | true =>
      rw [hall] at hrun hout
      obtain ⟨hbuilt, hlost⟩ := stdio_loop.spec stdio.item (size_t (16 * stdio.length) / 16)
        stdio.length.toNat 0 (s.took [.block .container])
      cases hcs : stdio.containers with
      | error e =>
        rw [hcs] at hout
        obtain ⟨t, he, hstop⟩ := hlost e hcs
        constructor
        · intro h
          rw [hout] at h
          cases h
        · intro e' h
          rw [hout] at h
          cases h
          exact ⟨t, hrun.trans (bind_of_error he), hstop⟩
        · intro cs h
          rw [hout] at h
          cases h
      | ok cs =>
        rw [hcs] at hout
        constructor
        · intro h
          rw [hout] at h
          cases h
        · intro e h
          rw [hout] at h
          cases h
        · intro cs' h
          rw [hout] at h
          injection h with h
          rw [← h]
          exact hrun.trans (bind_of_ok (hbuilt cs hcs))

/-! ## The whole call -/

theorem Held.of_acquire {L : Ledger Res} {r : Res} {s : State} (h : Held (L.acquire r) s) :
    ∃ rs, found s.options = some rs ∧ s = ({ s with ledger := acquireAll rs L } :
    State).took [r] := by
  obtain ⟨rs, hrs, hs⟩ := h
  refine ⟨rs, hrs, ?_⟩
  unfold State.took
  rw [acquireAll_cons, acquireAll_nil, ← acquireAll_acquire, ← hs]

theorem Held.took {L : Ledger Res} {s : State} (h : Held L s) (rs : List Res) :
    Held (acquireAll rs L) (s.took rs) := by
  obtain ⟨ss, hss, hs⟩ := h
  refine ⟨ss, hss, ?_⟩
  unfold State.took
  rw [hs, ← acquireAll_append, ← acquireAll_append]
  exact acquireAll_perm List.perm_append_comm L

/-- The state in which the options begin to be built. -/
def begun (vars : Vars) (s : State) : State :=
  { s with
    ledger := s.ledger.acquire (.ref .self)
    self := some ⟨false, none, none⟩
    options := { s.options with uid := vars.uid, gid := vars.gid, flags := vars.flags } }

theorem spawn_process_eq (vars : Vars) (s : State) :
    spawn_process M prior vars s = (do
      let ret ← tryCatch (attempt M prior vars) error_label
      cleanup
      return ret : Run Bool) (begun vars s) := rfl

/-- Without the object, and with `L`. -/
def State.given_up (L : Ledger Res) (t : State) : State :=
  { t with
    ledger := L
    released := t.self.map fun self => if self.initialized then .by_close else .at_once }

/-- The way out by the label error. -/
theorem spawn_process_of_error {vars : Vars} {L : Ledger Res} {s t : State}
    (h : attempt M prior vars (begun vars s) = .error .goto_error t)
    (hheld : Held (L.acquire (.ref .self)) t) :
    spawn_process M prior vars s = .ok false (t.given_up L) := by
  obtain ⟨rs, hrs, ht⟩ := hheld.of_acquire
  have hrelease : Py_DECREF .self t = .ok () { t with ledger := acquireAll rs L } := by
    conv_lhs => rw [ht]
    exact release_took (.ref .self) _
  have hself : Py_DECREF_self t = .ok () (t.given_up (acquireAll rs L)) := bind_of_ok hrelease
  have hlabel : error_label .goto_error t = .ok false (t.given_up (acquireAll rs L)) :=
    bind_of_ok hself
  have hclean := cleanup.spec (L := L) (s := t.given_up (acquireAll rs L)) ⟨rs, hrs, rfl⟩
  rw [spawn_process_eq, bind_of_ok ((tryCatch_of_error (f := error_label) h).trans hlabel),
    bind_of_ok hclean]
  rfl

theorem spawn_process_of_stop {vars : Vars} {s t : State} {e : Stop} (hstop : e ≠ .goto_error)
    (h : attempt M prior vars (begun vars s) = .error e t) :
    spawn_process M prior vars s = .error e t := by
  have hlabel : error_label e t = .error e t := by
    cases e with
    | goto_error => exact absurd rfl hstop
    | crash => rfl
    | aborted => rfl
  rw [spawn_process_eq]
  exact bind_of_error ((tryCatch_of_error (f := error_label) h).trans hlabel)

theorem spawn_process_of_ok {vars : Vars} {L : Ledger Res} {s t : State}
    (h : attempt M prior vars (begun vars s) = .ok true t) (hheld : Held L t) :
    spawn_process M prior vars s = .ok true { t with ledger := L } := by
  rw [spawn_process_eq, bind_of_ok (tryCatch_of_ok (f := error_label) h),
    bind_of_ok (cleanup.spec hheld)]
  rfl

/-- The options that uv_spawn is called with. -/
structure Passed (vars : Vars) (p : Prepared) (cs : Option (List uv_stdio_container_t))
    (o : uv_process_options_t) : Prop where
  args : ∃ v, o.args = some v ∧ scan v = some p.args
  file : o.file = some p.file
  cwd : o.cwd = p.cwd
  env : o.env.map scan = p.env.map some
  flags : o.flags = vars.flags
  uid : o.uid = vars.uid
  gid : o.gid = vars.gid
  stdio : o.stdio = cs
  stdio_count : o.stdio_count = (cs.getD []).length

/-- The call has failed, and given back everything. -/
structure Refused (L : Ledger Res) (t : State) (o : Option uv_process_options_t) : Prop where
  ledger : t.ledger = L
  pending : t.pending ≠ none
  passed : t.passed = o
  self : t.self = some ⟨o.isSome, none, none⟩
  released : t.released = some (if o.isSome then .by_close else .at_once)

/-- The references that a call leaves: the object to its caller, and to the exit callback. -/
def kept (vars : Vars) : List Res :=
  .ref .self :: ((vars.stdio.toList.map fun _ => .ref .stdio) ++ [.ref .callback, .ref .self])

/-- What a successful spawn leaves behind. -/
structure Returned (L : Ledger Res) (vars : Vars) (t : State) (o : uv_process_options_t) :
    Prop where
  ledger : t.ledger = acquireAll (kept vars) L
  pending : t.pending = none
  passed : t.passed = some o
  released : t.released = none
  self : ∃ c, vars.callback = .object c ∧ t.self = some ⟨true, some c, vars.stdio⟩

theorem unset_begun (vars : Vars) (L : Ledger Res) :
    Unset (begun vars (State.initial L)).options := ⟨rfl, rfl, rfl, rfl, rfl⟩

theorem spawn_process_overrun (prior : Prior) (vars : Vars)
    (h : args_filled M vars.arguments = some .overrun)
    (L : Ledger Res) : ∃ t, spawn_process M prior vars (State.initial L) = .error .crash t := by
  obtain ⟨t, ht⟩ := prepare.overrun prior h (begun vars (State.initial L))
  exact ⟨t, spawn_process_of_stop (by decide) (bind_of_error ht)⟩

theorem spawn_process_unprepared (vars : Vars) (h : prepared M prior vars = none)
    (hover : args_filled M vars.arguments ≠ some .overrun) (L : Ledger Res) :
    ∃ t, spawn_process M prior vars (State.initial L) = .ok false t ∧ Refused L t none := by
  obtain ⟨t, ht, hheld, hpending, huntouched, -⟩ :=
    (prepare.spec (M := M) prior (unset_begun vars L)).2 h hover
  refine ⟨_, spawn_process_of_error (bind_of_error ht) hheld, rfl, hpending,
    huntouched.passed, huntouched.self, ?_⟩
  unfold State.given_up
  rw [huntouched.self]
  rfl

/-- What the first four phases leave for the last one. -/
theorem attempt_of_prepared {vars : Vars} {p : Prepared} (h : prepared M prior vars = some p)
    (L : Ledger Res) : ∃ t, Held (L.acquire (.ref .self)) t ∧
      Loaded p (begun vars (State.initial L)).options t.options ∧
      Untouched (begun vars (State.initial L)) t ∧ t.pending = none ∧
      attempt M prior vars (begun vars (State.initial L)) =
        (do
          start M vars
          return true : Run Bool) t := by
  obtain ⟨t, ht, hheld, hloaded, huntouched, hpending⟩ :=
    (prepare.spec (M := M) prior (unset_begun vars L)).1 p h
  exact ⟨t, hheld, hloaded, huntouched, hpending, bind_of_ok ht⟩

theorem spawn_process_unallocated (vars : Vars) {p : Prepared}
    (h : prepared M prior vars = some p) (hout : stdio_outcome M vars.stdio = .refused)
    (L : Ledger Res) :
    ∃ t, spawn_process M prior vars (State.initial L) = .ok false t ∧ Refused L t none := by
  obtain ⟨t, hheld, -, huntouched, -, hattempt⟩ := attempt_of_prepared h L
  obtain ⟨e, he⟩ := (process_stdio.spec vars.stdio t).refused hout
  have hstart : start M vars t = .error .goto_error (t.failing e) := bind_of_error he
  rw [bind_of_error hstart] at hattempt
  refine ⟨_, spawn_process_of_error (t := t.failing e) hattempt hheld, rfl,
    Option.some_ne_none e, huntouched.passed, huntouched.self, ?_⟩
  unfold State.given_up State.failing
  rw [huntouched.self]
  rfl

/-- A block of containers that is not in the options yet is not found. -/
theorem spawn_process_lost (vars : Vars) {p : Prepared} {e : Stop}
    (h : prepared M prior vars = some p) (hout : stdio_outcome M vars.stdio = .lost e)
    (L : Ledger Res) :
    (e = .crash ∧ ∃ t, spawn_process M prior vars (State.initial L) = .error .crash t) ∨
      (e = .goto_error ∧ ∃ t, spawn_process M prior vars (State.initial L) = .ok false t ∧
        t.ledger = L.acquire (.block .container) ∧ t.passed = none ∧
        t.self = some ⟨false, none, none⟩ ∧ t.pending ≠ none) := by
  obtain ⟨t, hheld, -, huntouched, -, hattempt⟩ := attempt_of_prepared h L
  obtain ⟨u, hu, hstop⟩ := (process_stdio.spec vars.stdio t).lost e hout
  have hstart : start M vars t = .error e u := bind_of_error hu
  rw [bind_of_error hstart] at hattempt
  rcases hstop with rfl | ⟨rfl, exc, rfl⟩
  · exact .inl ⟨rfl, u, spawn_process_of_stop (by decide) hattempt⟩
  · have hlost : Held ((L.acquire (.block .container)).acquire (.ref .self))
        ((t.took [.block .container]).failing exc) := by
      rw [acquire_comm]
      exact hheld.took [.block .container]
    exact .inr ⟨rfl, _, spawn_process_of_error hattempt hlost, rfl, huntouched.passed,
      huntouched.self, Option.some_ne_none exc⟩

theorem Held.with_stdio {L : Ledger Res} {s : State} {cs : Option (List uv_stdio_container_t)}
    (h : Held L s) (hunset : s.options.stdio = none) :
    Held L ((s.with_stdio cs).took (cs.toList.map fun _ => .block .container)) := by
  refine h.take (cs.toList.map fun _ => .block .container) rfl fun rs hrs => ?_
  obtain ⟨args, env, hargs, henv, rfl⟩ := found_eq_some_iff.mp hrs
  refine ⟨_, found_eq_some_iff.mpr ⟨args, env, hargs, henv, rfl⟩, ?_⟩
  rw [hunset]
  apply List.perm_iff_count.mpr
  intro r
  simp only [State.took, State.with_stdio, Option.toList_none, List.map_nil, List.count_append,
    List.count_nil]
  omega

/-- The state in which uv_spawn is called. -/
def spawning (t : State) : State :=
  { t with
    self := t.self.map fun self => { self with initialized := true }, passed := some t.options }

/-- What uv_spawn returns decides. -/
theorem call_uv_spawn.spec (u : State) :
    (M.uv_spawn u.options = none → call_uv_spawn M u = .error .aborted (spawning u)) ∧
      ∀ err, M.uv_spawn u.options = some err →
        (err < 0 → call_uv_spawn M u =
          .error .goto_error ((spawning u).failing (.ProcessError err))) ∧
        (¬err < 0 → call_uv_spawn M u = .ok () (spawning u)) := by
  let v : State := { u with self := u.self.map fun self => { self with initialized := true } }
  have hself : set_self (fun self => { self with initialized := true }) u = .ok () v := rfl
  have hpassed : (modify fun s => { s with passed := some s.options } : Run PUnit) v =
      .ok () (spawning u) := rfl
  have hget : (get : Run State) (spawning u) = .ok (spawning u) (spawning u) := rfl
  have hoptions : (spawning u).options = u.options := rfl
  unfold call_uv_spawn
  rw [bind_of_ok hself, bind_of_ok hpassed, bind_of_ok hget, hoptions]
  constructor
  · intro hspawn
    rw [hspawn]
    rfl
  · intro err hspawn
    rw [hspawn]
    dsimp only
    constructor
    · intro herr
      rw [if_pos herr]
      rfl
    · intro herr
      rw [if_neg herr]
      rfl

/-- The state with what is stored into the object. -/
def stored (c : Callback) (vars : Vars) (t : State) : State :=
  { t.took (.ref .self :: ((vars.stdio.toList.map fun _ => .ref .stdio) ++ [.ref .callback])) with
    self := t.self.map fun self => { self with on_exit_cb := some c, stdio := vars.stdio } }

theorem store.spec {vars : Vars} {c : Callback} (hcb : vars.callback = .object c) {t : State}
    {self : Process} (hself : t.self = some self) : store vars t = .ok () (stored c vars t) := by
  have hinc : Py_INCREF .callback vars.callback t =
      .ok (some c) (t.took [.ref .callback]) := by
    rw [hcb]
    rfl
  unfold store
  rw [bind_of_ok hinc]
  unfold stored
  rw [hself]
  cases hstdio : vars.stdio with
  | none =>
    change EStateM.Result.ok () ({ t with ledger := _, self := (t.self.map _).map _ } : State) = _
    rw [hself]
    rfl
  | some stdio =>
    change EStateM.Result.ok () ({ t with ledger := _, self := (t.self.map _).map _ } : State) = _
    rw [hself]
    rfl

/-- uv_spawn is called with the strings and the containers, and what it returns decides. -/
theorem spawn_process_passed (vars : Vars) {p : Prepared} {c : Callback}
    {cs : Option (List uv_stdio_container_t)} (h : prepared M prior vars = some p)
    (hout : stdio_outcome M vars.stdio = .built cs) (hcb : vars.callback = .object c)
    (L : Ledger Res) :
    ∃ o, Passed vars p cs o ∧
      (M.uv_spawn o = none →
        ∃ t, spawn_process M prior vars (State.initial L) = .error .aborted t ∧
          t.passed = some o) ∧
      (∀ err, M.uv_spawn o = some err → err < 0 →
        ∃ t, spawn_process M prior vars (State.initial L) = .ok false t ∧
          Refused L t (some o) ∧ t.pending = some (.ProcessError err)) ∧
      (∀ err, M.uv_spawn o = some err → ¬err < 0 →
        ∃ t, spawn_process M prior vars (State.initial L) = .ok true t ∧
          Returned L vars t o) := by
  obtain ⟨t, hheld, hloaded, huntouched, hpending, hattempt⟩ := attempt_of_prepared h L
  have hstdio := (process_stdio.spec vars.stdio t).built cs hout
  let u := (t.with_stdio cs).took (cs.toList.map fun _ => .block .container)
  have hunset : t.options.stdio = none := hloaded.stdio
  have hheldu : Held (L.acquire (.ref .self)) u := hheld.with_stdio hunset
  have hself : t.self = some ⟨false, none, none⟩ := huntouched.self
  have hselfu : (spawning u).self = some ⟨true, none, none⟩ := by
    change t.self.map _ = _
    rw [hself]
    rfl
  refine ⟨u.options, ?_, ?_, ?_, ?_⟩
  · obtain ⟨hargs, hfile, hcwd, henv, hflags, huid, hgid, -⟩ := hloaded
    exact ⟨hargs, hfile, hcwd, henv, hflags, huid, hgid, rfl, rfl⟩
  · intro hspawn
    have hcall := (call_uv_spawn.spec u).1 hspawn
    have hstart : start M vars t = .error .aborted (spawning u) := by
      unfold start
      rw [bind_of_ok hstdio]
      exact bind_of_error hcall
    rw [bind_of_error hstart] at hattempt
    exact ⟨_, spawn_process_of_stop (by decide) hattempt, rfl⟩
  · intro err hspawn herr
    have hcall := ((call_uv_spawn.spec u).2 err hspawn).1 herr
    have hstart : start M vars t =
        .error .goto_error ((spawning u).failing (.ProcessError err)) := by
      unfold start
      rw [bind_of_ok hstdio]
      exact bind_of_error hcall
    rw [bind_of_error hstart] at hattempt
    refine ⟨_, spawn_process_of_error (L := L) hattempt hheldu,
      ⟨rfl, Option.some_ne_none _, rfl, hselfu, ?_⟩, rfl⟩
    change (spawning u).self.map _ = _
    rw [hselfu]
    rfl
  · intro err hspawn herr
    have hcall := ((call_uv_spawn.spec u).2 err hspawn).2 herr
    have hstart : start M vars t = .ok () (stored c vars (spawning u)) := by
      unfold start
      rw [bind_of_ok hstdio, bind_of_ok hcall]
      exact store.spec hcb hselfu
    rw [bind_of_ok hstart] at hattempt
    have hheld' : Held (acquireAll (kept vars) L) (stored c vars (spawning u)) := by
      have htook := hheldu.took (.ref .self :: ((vars.stdio.toList.map fun _ => .ref .stdio) ++
        [.ref .callback]))
      have hkept : acquireAll (.ref .self :: ((vars.stdio.toList.map fun _ => .ref .stdio) ++
          [.ref .callback])) (L.acquire (.ref .self)) = acquireAll (kept vars) L := by
        have hself : L.acquire (.ref .self) = acquireAll [.ref .self] L := rfl
        rw [hself, ← acquireAll_append]
        simp [kept]
      rw [hkept] at htook
      exact htook
    refine ⟨_, spawn_process_of_ok hattempt hheld', rfl, hpending, rfl, ?_, c, hcb, ?_⟩
    · exact huntouched.released
    · change (spawning u).self.map _ = _
      rw [hselfu]
      rfl

/-! ## The checks before -/

/-- The pointer to the callback: what memory had where the call has none. -/
def Call.callback (prior : Prior) (call : Call) : Pointer :=
  (call.exit_callback.map Pointer.object).getD prior.callback

/-- The variables of a call, whose callback is None where it has none. -/
def Call.vars (call : Call) : Option Vars :=
  PyArg_ParseTupleAndKeywords ⟨.object .None, fun _ => []⟩ call

theorem parse_eq (prior : Prior) (call : Call) : PyArg_ParseTupleAndKeywords prior call =
    call.vars.map fun vars => { vars with callback := call.callback prior } := by
  unfold Call.vars PyArg_ParseTupleAndKeywords
  cases call.loop with
  | false => rfl
  | true =>
    cases env_var call.env with
    | none => rfl
    | some env =>
      cases unsigned_var call.uid with
      | none => rfl
      | some uid =>
        cases unsigned_var call.gid with
        | none => rfl
        | some gid => cases int_var call.flags <;> rfl

/-- None or a callable. -/
def Callback.accepted : Callback → Bool
  | .other => false
  | _ => true

variable (M) in
/-- The call gets to build the options. -/
def Vars.accepted (vars : Vars) (callback : Callback) : Prop :=
  callback.accepted = true ∧ vars.arguments.supported = true ∧
    stdio_supported vars.stdio = true ∧ M.process_alloc = true

/-- What a failed spawn leaves behind: nothing but its exception. -/
structure Rejected (L : Ledger Res) (t : State) : Prop where
  ledger : t.ledger = L
  pending : t.pending ≠ none
  passed : t.passed = none
  self : t.self = none

theorem refuse.spec (e : Exc) (L : Ledger Res) :
    ∃ t, refuse e (State.initial L) = .ok false t ∧ Rejected L t :=
  ⟨_, rfl, rfl, Option.some_ne_none e, rfl, rfl⟩

theorem spawn_unparsed (prior : Prior) {call : Call} (h : call.vars = none) (L : Ledger Res) :
    ∃ t, Process_func_spawn M prior call (State.initial L) = .ok false t ∧ Rejected L t := by
  unfold Process_func_spawn
  rw [parse_eq, h]
  exact refuse.spec .raised L

variable {call : Call} {vars : Vars}

theorem spawn_parsed (h : call.vars = some vars) (s : State) :
    Process_func_spawn M prior call s = (do
      let callable ← None_or_callable (call.callback prior)
      spawn_checked M prior { vars with callback := call.callback prior } callable : Run Bool)
        s := by
  unfold Process_func_spawn
  rw [parse_eq, h]
  rfl

theorem spawn_wild (prior : Prior) (h : call.vars = some vars) (hcb : call.callback prior = .wild)
    (L : Ledger Res) :
    ∃ t, Process_func_spawn M prior call (State.initial L) = .error .crash t := by
  rw [spawn_parsed h, hcb]
  exact ⟨_, rfl⟩

theorem spawn_null (prior : Prior) (h : call.vars = some vars) (hcb : call.callback prior = .null)
    (L : Ledger Res) :
    ∃ t, Process_func_spawn M prior call (State.initial L) = .ok false t ∧ Rejected L t := by
  rw [spawn_parsed h, hcb]
  exact refuse.spec (.TypeError "a callable is required") L

theorem spawn_object {c : Callback} (h : call.vars = some vars)
    (hcb : call.callback prior = .object c) (s : State) :
    Process_func_spawn M prior call s =
      spawn_checked M prior { vars with callback := .object c } c.accepted s := by
  rw [spawn_parsed h, hcb]
  cases c <;> rfl

theorem spawn_accepted (prior : Prior) {c : Callback} (h : call.vars = some vars)
    (hcb : call.callback prior = .object c) (hacc : vars.accepted M c) (s : State) :
    Process_func_spawn M prior call s =
      spawn_process M prior { vars with callback := .object c } s := by
  obtain ⟨hc, hargs, hstdio, halloc⟩ := hacc
  rw [spawn_object h hcb, hc]
  unfold spawn_checked
  dsimp only
  rw [hargs, hstdio, halloc]
  rfl

theorem spawn_refused (prior : Prior) {c : Callback} (h : call.vars = some vars)
    (hcb : call.callback prior = .object c) (hacc : ¬vars.accepted M c) (L : Ledger Res) :
    ∃ t, Process_func_spawn M prior call (State.initial L) = .ok false t ∧ Rejected L t := by
  rw [spawn_object h hcb]
  unfold spawn_checked
  dsimp only
  split
  · exact refuse.spec _ L
  · split
    · exact refuse.spec _ L
    · split
      · exact refuse.spec _ L
      · split
        · exact refuse.spec _ L
        · rename_i hc hargs hstdio halloc
          exact absurd ⟨by simpa using hc, by simpa using hargs, by simpa using hstdio,
            by simpa using halloc⟩ hacc

theorem vars_stdio (h : call.vars = some vars) : vars.stdio = call.stdio := by
  unfold Call.vars PyArg_ParseTupleAndKeywords at h
  obtain ⟨_, -, h⟩ := Option.bind_eq_some_iff.mp h
  obtain ⟨_, -, h⟩ := Option.bind_eq_some_iff.mp h
  obtain ⟨_, -, h⟩ := Option.bind_eq_some_iff.mp h
  obtain ⟨_, -, h⟩ := Option.bind_eq_some_iff.mp h
  obtain ⟨_, -, h⟩ := Option.bind_eq_some_iff.mp h
  rw [← Option.some.inj h]

end pyuv.spawn
