-- The strings that Process.spawn passes to uv_spawn, and the environment that they give the
-- child. An empty dict is passed as no environment at all, which to libuv is the parent's.
import Pyuv.SpawnRuns

set_option linter.style.nameCheck false

namespace pyuv.spawn

open ends ledgers ledgers.Ledger cvectors

/-! ## What a call asks for -/

/-- The objects of which the arguments of the process are made. -/
def Arguments.objects : Arguments → List (Option PyObj)
  | .text t => [some (.text t)]
  | .sequence s => (List.range s.length.toNat).map s.item
  | .other => []

variable (M : Machine)

/-- The entry that the environment should have. -/
def wanted_entry (e : PyObj × PyObj) : Option (List UInt8) :=
  (encoding M e.1).bind fun key => (encoding M e.2).map (entry_text key)

/-- The environment that a call asks for. -/
def wanted_environment (env : Option EnvArg) (parent : List (List UInt8)) :
    List (Option (List UInt8)) :=
  match env with
  | none => parent.map some
  | some (.dict d) => d.entries.map (wanted_entry M)
  | some .other => []

/-- The environment that libuv gives the child: the parent's where there is NULL. -/
def child_environment (env : Option (List (Slot CString))) (parent : List (List UInt8)) :
    Option (List (List UInt8)) :=
  match env with
  | none => some parent
  | some v => (scan v).map (List.map CString.bytes)

/-- The file that should be executed. -/
def wanted_file (executable : PyObj) (argv : List CString) : Option (List UInt8) :=
  match executable with
  | .None => argv.head?.map CString.bytes
  | obj => encoding M obj

/-- The options say what the call asks for, without a NUL in any of the strings. -/
structure Passes (call : Call) (o : uv_process_options_t) : Prop where
  argv : ∃ ps, o.args.bind scan = some ps ∧ (∀ p ∈ ps, 0 ∉ p.bytes) ∧
    call.args.objects.map (fun x => x.bind (encoding M)) = ps.map fun p => some p.bytes
  file : ∃ ps p, o.args.bind scan = some ps ∧ o.file = some p ∧ 0 ∉ p.bytes ∧
    wanted_file M (call.executable.getD .None) ps = some p.bytes
  cwd : o.cwd.map CString.bytes = encoding M (call.cwd.getD .None) ∧
    ∀ p, o.cwd = some p → 0 ∉ p.bytes
  env : ∀ parent, ∃ child, child_environment o.env parent = some child ∧
    child.map some = wanted_environment M call.env parent ∧
    (call.env ≠ none → ∀ text ∈ child, 0 ∉ text)

/-- The call gets to uv_spawn, with the options `o`, and comes back from it or aborts in it. -/
def Reaches (prior : Prior) (call : Call) (L : Ledger Res) (o : uv_process_options_t) : Prop :=
  match Process_func_spawn M prior call (State.initial L) with
  | .ok _ t => t.passed = some o
  | .error e t => e = .aborted ∧ t.passed = some o

/-- There is all that is needed for uv_spawn to be called. -/
structure Ready (call : Call) (vars : Vars) : Prop where
  accepted : vars.accepted M (call.exit_callback.getD .None)
  prepared : ∀ prior, prepared M prior vars ≠ none
  stdio : ∃ cs, stdio_outcome M vars.stdio = .built cs

/-- No entry is longer than PyOS_snprintf allows. -/
def Dict.short (d : Dict) : Prop :=
  ∀ e ∈ d.entries, ∀ key value, encoded M e.1 = some key → encoded M e.2 = some value →
    key.length + value.length + 2 ≤ INT_MAX - 1

/-- The dict is not empty, and its entries are short enough to be printed. -/
def Dict.passable (d : Dict) : Prop := d.entries ≠ [] ∧ d.short M

variable {M} {prior : Prior} {call : Call} {vars : Vars}

/-! ## Lists of strings -/

theorem map_eq_of_map_some {α β γ : Type} {f : α → Option β} {g : α → Option γ} {h : β → γ}
    {xs : List α} {as : List β} (hxs : xs.map f = as.map some)
    (hfg : ∀ x ∈ xs, ∀ a, f x = some a → g x = some (h a)) :
    xs.map g = as.map fun a => some (h a) := by
  induction xs generalizing as with
  | nil =>
    cases as with
    | nil => rfl
    | cons a as => cases hxs
  | cons x xs ih =>
    cases as with
    | nil => cases hxs
    | cons a as =>
      rw [List.map_cons, List.map_cons, List.cons.injEq] at hxs
      rw [List.map_cons, List.map_cons, hfg x List.mem_cons_self a hxs.1,
        ih hxs.2 fun y hy => hfg y (List.mem_cons_of_mem _ hy)]

theorem mem_of_map_some {α β : Type} {f : α → Option β} {xs : List α} {as : List β}
    (hxs : xs.map f = as.map some) {a : β} (ha : a ∈ as) : ∃ x ∈ xs, f x = some a := by
  have hmem : some a ∈ xs.map f := by
    rw [hxs]
    exact List.mem_map_of_mem ha
  exact List.mem_map.mp hmem

theorem dup_bytes {out : Block} {obj : PyObj} {p : CString} (h : dup M out obj = some p) :
    encoding M obj = some p.bytes ∧ 0 ∉ p.bytes := by
  obtain ⟨data, henc, -, rfl⟩ := dup_eq_some_iff.mp h
  exact encoded_eq_some_iff.mp henc

theorem arg_bytes {i : Nat} {item : Option PyObj} {p : CString} (h : arg M i item = some p) :
    item.bind (encoding M) = some p.bytes ∧ 0 ∉ p.bytes := by
  obtain ⟨obj, rfl, hobj⟩ := Option.bind_eq_some_iff.mp h
  exact dup_bytes hobj

theorem args_filled_strings {arguments : Arguments} {as : List CString}
    (h : args_filled M arguments = some (.done as)) : (∀ p ∈ as, 0 ∉ p.bytes) ∧
      arguments.objects.map (fun x => x.bind (encoding M)) = as.map fun p => some p.bytes := by
  cases arguments with
  | text t =>
    unfold args_filled at h
    dsimp only at h
    split at h
    · obtain ⟨hxs, -⟩ := fill_eq_done_iff.mp (Option.some.inj h)
      have hmap : [some (PyObj.text t)].map (fun x => arg M 0 x) = as.map some := hxs
      constructor
      · intro p hp
        obtain ⟨x, -, hx⟩ := mem_of_map_some hmap hp
        exact (arg_bytes hx).2
      · exact map_eq_of_map_some hmap fun x _ a hx => (arg_bytes hx).1
    · cases h
  | sequence s =>
    unfold args_filled at h
    dsimp only at h
    split at h
    · cases h
    · split at h
      · obtain ⟨hxs, -⟩ := fill_eq_done_iff.mp (Option.some.inj h)
        constructor
        · intro p hp
          obtain ⟨i, -, hi⟩ := mem_of_map_some hxs hp
          exact (arg_bytes hi).2
        · unfold Arguments.objects
          rw [List.map_map]
          exact map_eq_of_map_some hxs fun i _ a hi => (arg_bytes hi).1
      · cases h
  | other => cases h

theorem file_string_bytes {as : List CString} (has : ∀ p ∈ as, 0 ∉ p.bytes)
    {executable : PyObj} {p : CString} (h : file_string M as executable = some p) :
    0 ∉ p.bytes ∧ wanted_file M executable as = some p.bytes := by
  have hdup : ∀ obj, dup M .file obj = some p →
      0 ∉ p.bytes ∧ encoding M obj = some p.bytes := fun obj hobj => (dup_bytes hobj).symm
  cases executable with
  | None =>
    cases as with
    | nil => cases h
    | cons a as =>
      have hnul : 0 ∉ a.bytes := has a List.mem_cons_self
      have hstring : (if allocates M .file (strlen a.bytes + 1) then
          some (⟨.file, a.bytes.take (strlen a.bytes)⟩ : CString) else none) = some p := h
      obtain ⟨-, hp⟩ := Option.ite_none_right_eq_some.mp hstring
      obtain rfl := Option.some.inj hp
      rw [take_strlen hnul]
      exact ⟨hnul, rfl⟩
  | text t => exact hdup (.text t) h
  | other => exact hdup .other h

theorem cwd_string_bytes {cwd : PyObj} {p : Option CString} (h : cwd_string M cwd = some p) :
    p.map CString.bytes = encoding M cwd ∧ ∀ q, p = some q → 0 ∉ q.bytes := by
  have hdup : ∀ obj, (dup M .cwd obj).map some = some p →
      p.map CString.bytes = encoding M obj ∧ ∀ q, p = some q → 0 ∉ q.bytes := by
    intro obj hobj
    obtain ⟨q, hq, rfl⟩ := Option.map_eq_some_iff.mp hobj
    obtain ⟨henc, hnul⟩ := dup_bytes hq
    refine ⟨henc.symm, fun q' hq' => ?_⟩
    rw [← Option.some.inj hq']
    exact hnul
  cases cwd with
  | None =>
    obtain rfl := Option.some.inj h
    exact ⟨rfl, (fun _ h => nomatch h)⟩
  | text t => exact hdup (.text t) h
  | other => exact hdup .other h

theorem entry_bytes {i : Nat} {key value : PyObj} {p : CString}
    (hfits : ∀ k v, encoded M key = some k → encoded M value = some v →
      k.length + v.length + 2 ≤ INT_MAX - 1)
    (h : entry M prior i key value = some p) :
    wanted_entry M (key, value) = some p.bytes ∧ 0 ∉ p.bytes := by
  obtain ⟨k, v, hkey, hvalue, -, rfl⟩ := entry_eq_some_iff.mp h
  have hsize := hfits k v hkey hvalue
  obtain ⟨hk, hknul⟩ := encoded_eq_some_iff.mp hkey
  obtain ⟨hv, hvnul⟩ := encoded_eq_some_iff.mp hvalue
  unfold PyOS_snprintf
  rw [if_pos hsize]
  unfold wanted_entry entry_text
  dsimp only
  rw [hk, hv]
  refine ⟨rfl, ?_⟩
  simp [hknul, hvnul]

theorem env_filled_strings {entries : List (PyObj × PyObj)} {es : List CString}
    (hfits : ∀ e ∈ entries, ∀ k v, encoded M e.1 = some k → encoded M e.2 = some v →
      k.length + v.length + 2 ≤ INT_MAX - 1)
    (h : env_filled M prior entries = some (.done es)) : (∀ p ∈ es, 0 ∉ p.bytes) ∧
      entries.map (wanted_entry M) = es.map fun p => some p.bytes := by
  unfold env_filled at h
  split at h
  · obtain ⟨hxs, -⟩ := fill_eq_done_iff.mp (Option.some.inj h)
    rw [List.mapIdx_eq_zipIdx_map] at hxs
    have hmem : ∀ x ∈ entries.zipIdx, x.1 ∈ entries := by
      intro x hx
      rw [← List.zipIdx_map_fst 0 entries]
      exact List.mem_map_of_mem hx
    constructor
    · intro p hp
      obtain ⟨x, hx, hxp⟩ := mem_of_map_some hxs hp
      exact (entry_bytes (hfits x.1 (hmem x hx)) hxp).2
    · have hmap := map_eq_of_map_some hxs (g := fun x => wanted_entry M x.1) (h := CString.bytes)
        fun x hx p hxp => (entry_bytes (hfits x.1 (hmem x hx)) hxp).1
      rw [← hmap]
      conv_lhs => rw [← List.zipIdx_map_fst 0 entries]
      rw [List.map_map]
      rfl
  · cases h

theorem prepared_eq_some {p : Prepared} (h : prepared M prior vars = some p) :
    args_filled M vars.arguments = some (.done p.args) ∧
      file_string M p.args vars.executable = some p.file ∧
      cwd_string M vars.cwd = some p.cwd ∧ env_strings M prior vars.env = some p.env := by
  unfold prepared at h
  split at h
  · rename_i as hargs
    obtain ⟨file, hfile, h⟩ := Option.bind_eq_some_iff.mp h
    obtain ⟨cwd, hcwd, h⟩ := Option.bind_eq_some_iff.mp h
    obtain ⟨env, henv, h⟩ := Option.bind_eq_some_iff.mp h
    obtain rfl := Option.some.inj h
    exact ⟨hargs, hfile, hcwd, henv⟩
  · cases h

theorem vars_eq (h : call.vars = some vars) : vars.arguments = call.args ∧
    vars.executable = call.executable.getD .None ∧ vars.cwd = call.cwd.getD .None ∧
    env_var call.env = some vars.env := by
  unfold Call.vars PyArg_ParseTupleAndKeywords at h
  obtain ⟨_, -, h⟩ := Option.bind_eq_some_iff.mp h
  obtain ⟨env, henv, h⟩ := Option.bind_eq_some_iff.mp h
  obtain ⟨_, -, h⟩ := Option.bind_eq_some_iff.mp h
  obtain ⟨_, -, h⟩ := Option.bind_eq_some_iff.mp h
  obtain ⟨_, -, h⟩ := Option.bind_eq_some_iff.mp h
  rw [← Option.some.inj h]
  exact ⟨rfl, rfl, rfl, henv⟩

theorem vars_ints (h : call.vars = some vars) : unsigned_var call.uid = some vars.uid ∧
    unsigned_var call.gid = some vars.gid ∧ int_var call.flags = some vars.flags := by
  unfold Call.vars PyArg_ParseTupleAndKeywords at h
  obtain ⟨_, -, h⟩ := Option.bind_eq_some_iff.mp h
  obtain ⟨_, -, h⟩ := Option.bind_eq_some_iff.mp h
  obtain ⟨uid, huid, h⟩ := Option.bind_eq_some_iff.mp h
  obtain ⟨gid, hgid, h⟩ := Option.bind_eq_some_iff.mp h
  obtain ⟨flags, hflags, h⟩ := Option.bind_eq_some_iff.mp h
  rw [← Option.some.inj h]
  exact ⟨huid, hgid, hflags⟩

/-! ## The calls that get to uv_spawn -/

theorem reaches_unique {L : Ledger Res} {o o' : uv_process_options_t}
    (h : Reaches M prior call L o) (h' : Reaches M prior call L o') : o = o' := by
  unfold Reaches at h h'
  split at h
  · rename_i hrun
    rw [hrun] at h'
    dsimp only at h'
    rw [h] at h'
    exact Option.some.inj h'
  · rename_i hrun
    rw [hrun] at h'
    obtain ⟨-, h⟩ := h
    obtain ⟨-, h'⟩ := h'
    rw [h] at h'
    exact Option.some.inj h'

theorem not_reaches_of_none {L : Ledger Res} {o : uv_process_options_t} {ret : Bool} {t : State}
    (hrun : Process_func_spawn M prior call (State.initial L) = .ok ret t)
    (hpassed : t.passed = none) : ¬Reaches M prior call L o := by
  unfold Reaches
  rw [hrun]
  dsimp only
  rw [hpassed]
  intro h
  cases h

theorem not_reaches_of_crash {L : Ledger Res} {o : uv_process_options_t}
    (hrun : ∃ t, Process_func_spawn M prior call (State.initial L) = .error .crash t) :
    ¬Reaches M prior call L o := by
  obtain ⟨t, ht⟩ := hrun
  unfold Reaches
  rw [ht]
  rintro ⟨h, -⟩
  cases h

/-- With everything there, uv_spawn is called with what was built. -/
theorem reaches_of_prepared {c : Callback} {p : Prepared}
    {cs : Option (List uv_stdio_container_t)} (hvars : call.vars = some vars)
    (hcb : call.callback prior = .object c) (hacc : vars.accepted M c)
    (hp : prepared M prior vars = some p) (hout : stdio_outcome M vars.stdio = .built cs)
    (L : Ledger Res) : ∃ o, Reaches M prior call L o ∧ Passed vars p cs o := by
  have hrun := spawn_accepted prior hvars hcb hacc (State.initial L)
  obtain ⟨o, hpassed, haborted, hfailed, hdone⟩ := spawn_process_passed
    { vars with callback := .object c } hp hout rfl L
  have hpassed' : Passed vars p cs o := by
    obtain ⟨hargs, hfile, hcwd, henv, hflags, huid, hgid, hstdio, hcount⟩ := hpassed
    exact ⟨hargs, hfile, hcwd, henv, hflags, huid, hgid, hstdio, hcount⟩
  refine ⟨o, ?_, hpassed'⟩
  unfold Reaches
  cases hspawn : M.uv_spawn o with
  | none =>
    obtain ⟨t, ht, ho⟩ := haborted hspawn
    rw [hrun, ht]
    exact ⟨rfl, ho⟩
  | some err =>
    by_cases herr : err < 0
    · obtain ⟨t, ht, hrefused, -⟩ := hfailed err hspawn herr
      rw [hrun, ht]
      exact hrefused.passed
    · obtain ⟨t, ht, hreturned⟩ := hdone err hspawn herr
      rw [hrun, ht]
      exact hreturned.passed

theorem aborts_of_prepared {c : Callback} {p : Prepared}
    {cs : Option (List uv_stdio_container_t)} (hvars : call.vars = some vars)
    (hcb : call.callback prior = .object c) (hacc : vars.accepted M c)
    (hp : prepared M prior vars = some p) (hout : stdio_outcome M vars.stdio = .built cs)
    (habort : ∀ o, M.uv_spawn o = none) (L : Ledger Res) :
    ∃ t, Process_func_spawn M prior call (State.initial L) = .error .aborted t := by
  have hrun := spawn_accepted prior hvars hcb hacc (State.initial L)
  obtain ⟨o, -, haborted, -⟩ := spawn_process_passed
    { vars with callback := .object c } hp hout rfl L
  obtain ⟨t, ht, -⟩ := haborted (habort o)
  exact ⟨t, hrun.trans ht⟩

/-- No other call gets there. -/
theorem ready_of_reaches {L : Ledger Res} {o : uv_process_options_t}
    (h : Reaches M prior call L o) : ∃ vars c p cs, call.vars = some vars ∧
      call.callback prior = .object c ∧ vars.accepted M c ∧ prepared M prior vars = some p ∧
      stdio_outcome M vars.stdio = .built cs ∧ Passed vars p cs o := by
  cases hvars : call.vars with
  | none =>
    obtain ⟨t, ht, hrejected⟩ := spawn_unparsed (M := M) prior hvars L
    exact absurd h (not_reaches_of_none ht hrejected.passed)
  | some vars =>
    cases hcb : call.callback prior with
    | null =>
      obtain ⟨t, ht, hrejected⟩ := spawn_null (M := M) prior hvars hcb L
      exact absurd h (not_reaches_of_none ht hrejected.passed)
    | wild => exact absurd h (not_reaches_of_crash (spawn_wild prior hvars hcb L))
    | object c =>
      by_cases hacc : vars.accepted M c
      · have hrun := spawn_accepted prior hvars hcb hacc (State.initial L)
        let vars' : Vars := { vars with callback := .object c }
        by_cases hover : args_filled M vars.arguments = some .overrun
        · obtain ⟨t, ht⟩ := spawn_process_overrun prior vars' hover L
          exact absurd h (not_reaches_of_crash ⟨t, hrun.trans ht⟩)
        · cases hp : prepared M prior vars with
          | none =>
            obtain ⟨t, ht, hrefused⟩ := spawn_process_unprepared vars' hp hover L
            exact absurd h (not_reaches_of_none (hrun.trans ht) hrefused.passed)
          | some p =>
            cases hout : stdio_outcome M vars.stdio with
            | refused =>
              obtain ⟨t, ht, hrefused⟩ := spawn_process_unallocated vars' hp hout L
              exact absurd h (not_reaches_of_none (hrun.trans ht) hrefused.passed)
            | lost e =>
              rcases spawn_process_lost vars' hp hout L with
                ⟨-, t, ht⟩ | ⟨-, t, ht, -, hnone, -⟩
              · exact absurd h (not_reaches_of_crash ⟨t, hrun.trans ht⟩)
              · exact absurd h (not_reaches_of_none (hrun.trans ht) hnone)
            | built cs =>
              obtain ⟨o', ho', hpassed⟩ := reaches_of_prepared hvars hcb hacc hp hout L
              rw [reaches_unique h ho']
              exact ⟨vars, c, p, cs, rfl, rfl, hacc, hp, hout, hpassed⟩
      · obtain ⟨t, ht, hrejected⟩ := spawn_refused prior hvars hcb hacc L
        exact absurd h (not_reaches_of_none ht hrejected.passed)

theorem ready_of_accepted {c : Callback} {p : Prepared} {cs : Option (List uv_stdio_container_t)}
    (hcb : call.callback prior = .object c) (hacc : vars.accepted M c)
    (hp : prepared M prior vars = some p) (hout : stdio_outcome M vars.stdio = .built cs) :
    Ready M call vars := by
  have hsome : ∀ c', call.exit_callback = some c' → c' = c := by
    intro c' hc'
    unfold Call.callback at hcb
    rw [hc'] at hcb
    injection hcb
  refine ⟨?_, fun prior' => ?_, cs, hout⟩
  · cases hexit : call.exit_callback with
    | none => exact ⟨rfl, hacc.2⟩
    | some c' =>
      rw [hsome c' hexit]
      exact hacc
  · rw [prepared_ne_none_iff prior' prior, hp]
    exact Option.some_ne_none p

/-! ## What uv_spawn gets -/

theorem passes_of_passable {p : Prepared} {cs : Option (List uv_stdio_container_t)}
    {o : uv_process_options_t} (hvars : call.vars = some vars)
    (hp : prepared M prior vars = some p) (ho : Passed vars p cs o)
    (hpassable : ∀ d, vars.env = some d → d.passable M) : Passes M call o := by
  obtain ⟨hargs, hfile, hcwd, henv⟩ := prepared_eq_some hp
  obtain ⟨hcallargs, hexe, hcallcwd, hcallenv⟩ := vars_eq hvars
  obtain ⟨v, hov, hscan⟩ := ho.args
  have hbind : o.args.bind scan = some p.args := by rw [hov, Option.bind_some, hscan]
  obtain ⟨hnul, hobjects⟩ := args_filled_strings hargs
  obtain ⟨hfilenul, hwanted⟩ := file_string_bytes hnul hfile
  obtain ⟨hcwdbytes, hcwdnul⟩ := cwd_string_bytes hcwd
  refine ⟨⟨p.args, hbind, hnul, ?_⟩, ⟨p.args, p.file, hbind, ho.file, hfilenul, ?_⟩, ⟨?_, ?_⟩, ?_⟩
  · rw [← hcallargs]
    exact hobjects
  · rw [← hexe]
    exact hwanted
  · rw [ho.cwd, ← hcallcwd]
    exact hcwdbytes
  · rw [ho.cwd]
    exact hcwdnul
  · intro parent
    have hoenv := ho.env
    cases hcall : call.env with
    | none =>
      rw [hcall] at hcallenv
      rw [← Option.some.inj hcallenv] at henv
      rw [← Option.some.inj henv] at hoenv
      rw [Option.map_eq_none_iff.mp hoenv]
      exact ⟨parent, rfl, rfl, fun h => absurd rfl h⟩
    | some e =>
      cases e with
      | other =>
        rw [hcall] at hcallenv
        cases hcallenv
      | dict d =>
        rw [hcall] at hcallenv
        have hd : vars.env = some d := (Option.some.inj hcallenv).symm
        obtain ⟨hne, hfits⟩ := hpassable d hd
        have hlen : d.entries.length > 0 := List.length_pos_of_ne_nil hne
        rw [hd] at henv
        unfold env_strings at henv
        dsimp only at henv
        rw [if_pos hlen] at henv
        split at henv
        · rename_i es hes
          rw [← Option.some.inj henv] at hoenv
          obtain ⟨w, hw, hwscan⟩ := Option.map_eq_some_iff.mp hoenv
          obtain ⟨hesnul, hentries⟩ := env_filled_strings (fun e he => hfits e he) hes
          refine ⟨es.map CString.bytes, ?_, ?_, fun _ text htext => ?_⟩
          · rw [hw]
            unfold child_environment
            dsimp only
            rw [hwscan]
            rfl
          · rw [List.map_map]
            exact hentries.symm
          · obtain ⟨q, hq, rfl⟩ := List.mem_map.mp htext
            exact hesnul q hq
        · cases henv

theorem dict_of_vars {d : Dict} (hvars : call.vars = some vars) (hd : vars.env = some d) :
    call.env = some (.dict d) := by
  obtain ⟨-, -, -, hcallenv⟩ := vars_eq hvars
  rw [hd] at hcallenv
  cases hcall : call.env with
  | none =>
    rw [hcall] at hcallenv
    cases hcallenv
  | some e =>
    cases e with
    | other =>
      rw [hcall] at hcallenv
      cases hcallenv
    | dict d' =>
      rw [hcall] at hcallenv
      rw [Option.some.inj (Option.some.inj hcallenv)]

theorem not_passes_of_empty {p : Prepared} {cs : Option (List uv_stdio_container_t)}
    {o : uv_process_options_t} {d : Dict} (hvars : call.vars = some vars)
    (hp : prepared M prior vars = some p) (ho : Passed vars p cs o) (hd : vars.env = some d)
    (hempty : d.entries = []) : ¬Passes M call o := by
  intro hpasses
  obtain ⟨-, -, -, henv⟩ := prepared_eq_some hp
  rw [hd] at henv
  have hnone : p.env = none := by
    unfold env_strings at henv
    dsimp only at henv
    rw [hempty] at henv
    exact (Option.some.inj henv).symm
  have hoenv := ho.env
  rw [hnone] at hoenv
  obtain ⟨child, hchild, hwanted, -⟩ := hpasses.env [[1]]
  rw [Option.map_eq_none_iff.mp hoenv] at hchild
  rw [← Option.some.inj hchild] at hwanted
  rw [dict_of_vars hvars hd] at hwanted
  unfold wanted_environment at hwanted
  dsimp only at hwanted
  rw [hempty] at hwanted
  cases hwanted

/-- An entry that is too long is whatever the block had before. -/
theorem long_entry {p : Prepared} {cs : Option (List uv_stdio_container_t)}
    {o : uv_process_options_t} {d : Dict} (hp : prepared M prior vars = some p)
    (ho : Passed vars p cs o) (hd : vars.env = some d) {i : Nat} {e : PyObj × PyObj}
    (he : d.entries[i]? = some e) {k v : List UInt8} (hk : encoded M e.1 = some k)
    (hv : encoded M e.2 = some v) (hlong : ¬k.length + v.length + 2 ≤ INT_MAX - 1) :
    ∃ w es q, o.env = some w ∧ scan w = some es ∧ es[i]? = some q ∧
      q.bytes = prior.block (.entry i) := by
  obtain ⟨-, -, -, henv⟩ := prepared_eq_some hp
  have hmem : e ∈ d.entries := List.mem_of_getElem? he
  rw [hd] at henv
  unfold env_strings at henv
  dsimp only at henv
  rw [if_pos (List.length_pos_of_mem hmem)] at henv
  split at henv
  · rename_i es hes
    have hoenv := ho.env
    rw [← Option.some.inj henv] at hoenv
    obtain ⟨w, hw, hwscan⟩ := Option.map_eq_some_iff.mp hoenv
    have hfill : d.entries.mapIdx (fun i e => entry M prior i e.1 e.2) = es.map some := by
      unfold env_filled at hes
      split at hes
      · exact (fill_eq_done_iff.mp (Option.some.inj hes)).1
      · cases hes
    have hget := congrArg (fun l => l[i]?) hfill
    simp only [List.getElem?_mapIdx, List.getElem?_map, he, Option.map_some] at hget
    cases hq : es[i]? with
    | none =>
      rw [hq] at hget
      cases hget
    | some q =>
      rw [hq] at hget
      obtain ⟨k', v', hk', hv', -, hqeq⟩ := entry_eq_some_iff.mp (Option.some.inj hget)
      rw [hk] at hk'
      rw [hv] at hv'
      obtain rfl := Option.some.inj hk'
      obtain rfl := Option.some.inj hv'
      refine ⟨w, es, q, hw, hwscan, hq, ?_⟩
      rw [hqeq]
      unfold PyOS_snprintf
      rw [if_neg hlong]
  · cases henv

theorem not_passes_of_long {p : Prepared} {cs : Option (List uv_stdio_container_t)}
    {o : uv_process_options_t} {d : Dict} (hprior : ∀ b, prior.block b = [])
    (hvars : call.vars = some vars) (hp : prepared M prior vars = some p)
    (ho : Passed vars p cs o) (hd : vars.env = some d) (hlong : ¬d.short M) :
    ¬Passes M call o := by
  unfold Dict.short at hlong
  push Not at hlong
  obtain ⟨e, he, k, v, hk, hv, hsize⟩ := hlong
  obtain ⟨i, hi, hie⟩ := List.mem_iff_getElem.mp he
  have hget : d.entries[i]? = some e := by rw [List.getElem?_eq_getElem hi, hie]
  obtain ⟨w, es, q, hw, hscan, hq, hbytes⟩ :=
    long_entry hp ho hd hget hk hv (not_le.mpr hsize)
  intro hpasses
  obtain ⟨child, hchild, hwanted, -⟩ := hpasses.env []
  have hchildeq : es.map CString.bytes = child := by
    rw [hw] at hchild
    unfold child_environment at hchild
    dsimp only at hchild
    rw [hscan] at hchild
    exact Option.some.inj hchild
  have hwget := congrArg (fun l => l[i]?) hwanted
  rw [← hchildeq, dict_of_vars hvars hd] at hwget
  simp only [wanted_environment, List.getElem?_map, hget, hq, Option.map_some] at hwget
  have htext : wanted_entry M e = some (entry_text k v) := by
    unfold wanted_entry
    rw [(encoded_eq_some_iff.mp hk).1, (encoded_eq_some_iff.mp hv).1]
    rfl
  rw [htext] at hwget
  have hnil : q.bytes = entry_text k v := Option.some.inj (Option.some.inj hwget)
  rw [hbytes, hprior] at hnil
  unfold entry_text at hnil
  have hlen := congrArg List.length hnil
  simp at hlen

/-- Which calls pass what they were asked for, whatever memory had before. -/
theorem spawn_passes_its_strings_iff (M : Machine) (call : Call) :
    (∀ prior L o, Reaches M prior call L o → Passes M call o) ↔
      ∀ vars, call.vars = some vars → Ready M call vars →
        ∀ d, vars.env = some d → d.passable M := by
  constructor
  · intro h vars hvars hready d hd
    let prior : Prior := ⟨.object .None, fun _ => []⟩
    have hcb : call.callback prior = .object (call.exit_callback.getD .None) := by
      unfold Call.callback
      cases call.exit_callback <;> rfl
    obtain ⟨p, hp⟩ := Option.ne_none_iff_exists'.mp (hready.prepared prior)
    obtain ⟨cs, hcs⟩ := hready.stdio
    obtain ⟨o, hreaches, ho⟩ := reaches_of_prepared hvars hcb hready.accepted hp hcs ⟨0, 0⟩
    have hpasses := h prior ⟨0, 0⟩ o hreaches
    constructor
    · intro hempty
      exact not_passes_of_empty hvars hp ho hd hempty hpasses
    · by_contra hlong
      exact not_passes_of_long (fun _ => rfl) hvars hp ho hd hlong hpasses
  · intro h prior L o hreaches
    obtain ⟨vars, c, p, cs, hvars, hcb, hacc, hp, hout, ho⟩ := ready_of_reaches hreaches
    apply passes_of_passable hvars hp ho
    exact h vars hvars (ready_of_accepted hcb hacc hp hout)

/-- An empty dict: the child has the environment of the parent. -/
theorem an_empty_env_is_inherited : ¬∀ (M : Machine) (prior : Prior) (call : Call)
    (L : Ledger Res) (o : uv_process_options_t), Reaches M prior call L o → Passes M call o := by
  let d : Dict := ⟨[], by decide⟩
  let call : Call := { Call.plain with env := some (.dict d) }
  let prior : Prior := ⟨.null, fun _ => []⟩
  let vars : Vars :=
    { arguments := Call.plain.args, executable := .None, env := some d, cwd := .None, uid := 0
      gid := 0, flags := 0, stdio := none, callback := .object .None }
  have hvars : call.vars = some vars := rfl
  have hacc : vars.accepted .willing .None := ⟨rfl, rfl, rfl, rfl⟩
  obtain ⟨p, hp⟩ : ∃ p, prepared .willing prior vars = some p := ⟨_, rfl⟩
  intro h
  obtain ⟨o, hreaches, ho⟩ := reaches_of_prepared hvars rfl hacc hp rfl ⟨0, 0⟩
  exact not_passes_of_empty hvars hp ho rfl rfl (h .willing prior call ⟨0, 0⟩ o hreaches)

end pyuv.spawn
