-- What the functions of the fs module do with a request: how far a call gets, what the completion
-- function makes of the request, and the references that are left.
import Pyuv.FsCalls

set_option linter.style.nameCheck false

namespace pyuv.fs_calls

open ends indicator fs_names
open fs_requests (uv_fs_t uv_dirent_t FsType PyVal FSRequest CallEnd callable_required)

variable {P : indicator.Python FSRequest} {mem : Memory}

/-! ## What a request is completed with -/

/-- FsNames has the completion function without the references to the request. -/
theorem process_eq (P : indicator.Python FSRequest) (mem : Memory) (req : uv_fs_t)
    (callback : Bool) :
    fs_names.pyuv__process_fs_req P mem req callback =
      (fill P mem req >>= fun done => deliver P callback done >>= fun _ => pure done) := by
  unfold fs_names.pyuv__process_fs_req fill
  by_cases hresult : req.result < 0
  · simp only [hresult, if_true, bind_assoc, pure_bind]
  · simp only [hresult, if_false, bind_assoc, map_eq_pure_bind, pure_bind]

/-- The names of a list that is complete are UTF-8. -/
def Listed (mem : Memory) (req : uv_fs_t) : Prop :=
  req.fs_type = .SCANDIR → mem.result_alloc = true → req.dirents.length ≤ mem.dirent_alloc →
    ∀ ent ∈ req.dirents, ∃ name, utf8.encode name = ent.name

/-- A name that is not leaves its exception, unless the list ends early. -/
theorem list_entries_pending (mem : Memory) (alloc : Nat) (ents : List uv_dirent_t)
    (s : Interp FSRequest) :
    ∃ t, list_entries P alloc ents s =
        .ok ((ents.take alloc).map (fs_requests.dirent_of mem.python)) t ∧
      (t.pending = none ↔ ents.length ≤ alloc →
        s.pending = none ∧ ∀ ent ∈ ents, utf8.decode ent.name ≠ none) := by
  induction ents generalizing alloc s with
  | nil =>
    refine ⟨s, ?_, ?_⟩
    · unfold list_entries
      rw [List.take_nil]
      rfl
    · simp
  | cons ent ents ih =>
    cases alloc with
    | zero => exact ⟨s.restore none, rfl, iff_of_true rfl (by simp)⟩
    | succ alloc =>
      obtain ⟨u, hu, hpending⟩ : ∃ u, Py_BuildValue_s P ent.name s = .ok (utf8.decode ent.name) u ∧
          (u.pending = none ↔ s.pending = none ∧ utf8.decode ent.name ≠ none) := by
        cases hdecode : utf8.decode ent.name with
        | some text => exact ⟨s, Py_BuildValue_s_eq hdecode s, by simp⟩
        | none =>
          refine ⟨refused P s, Py_BuildValue_s_null hdecode s, ?_⟩
          unfold refused Interp.restore
          simp
      obtain ⟨t, ht, hrest⟩ := ih alloc u
      refine ⟨t, ?_, ?_⟩
      · unfold list_entries
        rw [bind_of_ok hu, bind_of_ok ht]
        rfl
      · rw [hrest, hpending]
        simp only [List.length_cons, Nat.add_le_add_iff_right, List.mem_cons, forall_eq_or_imp]
        rw [and_assoc]

theorem or_None_pending {r : Option PyVal} {s t : Interp FSRequest} {v : PyVal}
    (hs : s.pending = none)
    (h : fs_names.or_None r s = .ok v t) : t.pending = none := by
  obtain ⟨u, hu, -, hpending⟩ := or_None.spec r s
  rw [hu] at h
  cases h
  exact hpending hs

/-- The exception of a target that is not UTF-8 is cleared. -/
theorem target_pending {req : uv_fs_t} {s t : Interp FSRequest} {v : PyVal} (hs : s.pending = none)
    (h : (build_s P req.ptr >>= fun r => fs_names.or_None r : Py FSRequest PyVal) s = .ok v t) :
    t.pending = none := by
  cases hptr : req.ptr with
  | none =>
    have hbuild : build_s P req.ptr s = .ok (some .None) s := by
      rw [hptr]
      rfl
    rw [bind_of_ok hbuild] at h
    exact or_None_pending hs h
  | some target =>
    cases hdecode : utf8.decode target with
    | some text =>
      have hbuild : build_s P req.ptr s = .ok (some (.str text)) s := by
        rw [hptr]
        exact bind_of_ok (Py_BuildValue_s_eq hdecode s)
      rw [bind_of_ok hbuild] at h
      exact or_None_pending hs h
    | none =>
      have hbuild : build_s P req.ptr s = .ok none (refused P s) := by
        rw [hptr]
        exact bind_of_ok (Py_BuildValue_s_null hdecode s)
      rw [bind_of_ok hbuild] at h
      cases h
      rfl

/-- Only scandir leaves an exception behind. -/
theorem process_result_clean {req : uv_fs_t} (hty : req.fs_type ≠ .SCANDIR)
    {s t : Interp FSRequest} {v : PyVal} (hs : s.pending = none)
    (h : process_result P mem req s = .ok v t) : t.pending = none := by
  unfold process_result at h
  cases hreq : req.fs_type <;> rw [hreq] at h
  case SCANDIR => exact absurd hreq hty
  case unknown => cases h
  case STAT | LSTAT | FSTAT | WRITE | OPEN | SENDFILE | READ => exact or_None_pending hs h
  case READLINK | REALPATH => exact target_pending hs h
  all_goals
    cases h
    exact hs

theorem process_result_pending (mem : Memory) {req : uv_fs_t} (hknown : req.fs_type ≠ .unknown)
    {s : Interp FSRequest} (hs : s.pending = none) :
    ∃ t, process_result P mem req s = .ok (fs_names.value mem req) t ∧
      (t.pending = none ↔ Listed mem req) := by
  obtain ⟨t, ht, -⟩ := process_result.spec (P := P) mem hknown s
  refine ⟨t, ht, ?_⟩
  unfold Listed
  by_cases hty : req.fs_type = .SCANDIR
  · have hrun : process_result P mem req s = (if mem.result_alloc then (do
        let entries ← list_entries P mem.dirent_alloc req.dirents
        return PyVal.dirents entries)
      else or_None none : Py FSRequest PyVal) s := by
      unfold process_result
      rw [hty]
    by_cases hmem : mem.result_alloc = true
    · obtain ⟨u, hu, hlisted⟩ :=
        list_entries_pending (P := P) mem mem.dirent_alloc req.dirents s
      rw [if_pos hmem, bind_of_ok hu, ht] at hrun
      injection hrun with _ htu
      rw [htu]
      simp only [hty, hmem, true_imp_iff]
      refine hlisted.trans (imp_congr_right fun _ => ?_)
      simp only [hs, true_and, decode_ne_none_iff]
    · rw [if_neg hmem, ht] at hrun
      injection hrun with _ htu
      rw [htu]
      exact iff_of_true rfl fun _ h => absurd h hmem
  · exact iff_of_true (process_result_clean hty hs ht) fun h => absurd h hty

/-- What a request is completed with. -/
def done_of (mem : Memory) (req : uv_fs_t) : FSRequest where
  path := fs_requests.build_s mem.python req.path
  result := if req.result < 0 then .None else fs_names.value mem req
  error := if req.result < 0 then .int req.result else .None

theorem fill_spec (mem : Memory) {req : uv_fs_t} (hknown : req.fs_type ≠ .unknown)
    (hpath : ∀ bytes, req.path = some bytes → ∃ text, utf8.encode text = bytes)
    {s : Interp FSRequest} (hs : s.pending = none) :
    ∃ t, fill P mem req s = .ok (done_of mem req) t ∧
      (t.pending = none ↔ (0 ≤ req.result → Listed mem req)) := by
  obtain ⟨u, hu, -, hpending⟩ := build_s.spec (P := P) mem req.path s
  have hupending : u.pending = none :=
    hpending hs fun bytes hbytes => decode_ne_none_iff.mpr (hpath bytes hbytes)
  unfold fill done_of
  rw [bind_of_ok hu]
  by_cases hresult : req.result < 0
  · refine ⟨u, ?_, iff_of_true hupending fun h => absurd hresult (not_lt.mpr h)⟩
    simp only [hresult, if_true]
    rfl
  · obtain ⟨t, ht, hlisted⟩ := process_result_pending (P := P) mem hknown hupending
    refine ⟨t, ?_, hlisted.trans ⟨fun h _ => h, fun h => h (not_lt.mp hresult)⟩⟩
    simp only [hresult, if_false]
    have hpair : (Prod.mk PyVal.None <$> process_result P mem req : Py FSRequest _) u =
        .ok (PyVal.None, fs_names.value mem req) t := bind_of_ok ht
    rw [bind_of_ok hpair]
    rfl

/-! ## What the functions do with a request -/

variable {s : State} {n : Nat}

/-- Code of the interpreter sees nothing of the requests. -/
theorem lift_of_ok {α : Type} {m : Py FSRequest α} {a : α} {t : Interp FSRequest}
    (h : m s.interp = .ok a t) : lift m s = .ok a { s with interp := t } := by
  unfold lift
  rw [h]

theorem lift_of_error {α : Type} {m : Py FSRequest α} {e : Stop} {t : Interp FSRequest}
    (h : m s.interp = .error e t) : lift m s = .error e { s with interp := t } := by
  unfold lift
  rw [h]

theorem Py_DECREF_eq (h : s.refs = n + 1) : Py_DECREF s = .ok () { s with refs := n } := by
  unfold Py_DECREF
  rw [h]

/-- A path is the UTF-8 of a Python string. -/
theorem path_of_convert {format : Format} {arg : Arg} {bytes : List UInt8}
    (h : format.convert arg = .ok (.path bytes)) : ∃ text, utf8.encode text = bytes := by
  cases format with
  | s =>
    cases arg with
    | str text =>
      unfold Format.convert at h
      dsimp only at h
      split at h
      · cases h
      · cases h
        exact ⟨text, rfl⟩
    | _ => cases h
  | view => cases arg <;> cases h
  | d => cases arg <;> cases h
  | int format target =>
    cases arg with
    | int m =>
      unfold Format.convert at h
      dsimp only at h
      split at h
      · cases h
      · cases h
    | _ => cases h

/-- A path that was parsed is a text. -/
theorem path_of_parsed {formats : List Format} {items : List Arg} {args : List CArg}
    (h : convert_all formats items = .ok args) :
    ∀ bytes, path_of args = some bytes → ∃ text, utf8.encode text = bytes := by
  intro bytes hbytes
  induction formats generalizing items args with
  | nil =>
    cases items with
    | nil =>
      cases h
      cases hbytes
    | cons arg rest => cases h
  | cons format formats ih =>
    cases items with
    | nil => cases h
    | cons arg rest =>
      unfold convert_all at h
      cases hv : format.convert arg with
      | error e =>
        rw [hv] at h
        cases h
      | ok v =>
        cases hvs : convert_all formats rest with
        | error e =>
          rw [hv, hvs] at h
          cases h
        | ok vs =>
          rw [hv, hvs] at h
          cases h
          cases v with
          | path b =>
            cases hbytes
            exact path_of_convert hv
          | view b => exact ih hvs hbytes
          | int m => exact ih hvs hbytes
          | double x => exact ih hvs hbytes

/-- A request as an operation submits it. -/
structure Submission (ty : FsType) (args : List CArg) : Prop where
  known : ty ≠ .unknown
  path : ∀ bytes, path_of args = some bytes → ∃ text, utf8.encode text = bytes

variable {ty : FsType} {args : List CArg} {E : Env}

theorem Env.err_eq (E : Env) : E.err = E.outcome.filled.result := E.outcome.fits.wrap

/-- What a request that was processed leaves. -/
theorem process_spec (P : indicator.Python FSRequest) (mem : Memory) (h : Submission ty args)
    (E : Env) (callback : Bool)
    (hs : s.interp.pending = none) :
    ∃ i, (i.pending = none ↔
        (0 ≤ E.outcome.filled.result → Listed mem (E.req ty args))) ∧
      pyuv__process_fs_req P mem (E.req ty args) callback s =
        (lift (deliver P callback (done_of mem (E.req ty args))) >>= fun _ => Py_DECREF)
          { s with interp := i, completed := some (done_of mem (E.req ty args)) } := by
  have hfill : ∃ i, fill P mem (E.req ty args) s.interp = .ok (done_of mem (E.req ty args)) i ∧
      (i.pending = none ↔ (0 ≤ (E.req ty args).result → Listed mem (E.req ty args))) :=
    fill_spec mem h.known h.path hs
  obtain ⟨i, hi, hpending⟩ := hfill
  refine ⟨i, hpending, ?_⟩
  unfold pyuv__process_fs_req
  rw [bind_of_ok (lift_of_ok hi)]
  rfl

/-- Without a callback. -/
theorem process_sync (P : indicator.Python FSRequest) (mem : Memory) (h : Submission ty args)
    (E : Env) (hs : s.interp.pending = none)
    (hrefs : s.refs = n + 1) :
    ∃ t, pyuv__process_fs_req P mem (E.req ty args) false s = .ok () t ∧ t.refs = n ∧
      t.requests = s.requests ∧ t.submitted = s.submitted ∧
      t.completed = some (done_of mem (E.req ty args)) ∧
      (t.interp.pending = none ↔
        (0 ≤ E.outcome.filled.result → Listed mem (E.req ty args))) := by
  obtain ⟨i, hpending, hrun⟩ := process_spec P mem h E false hs
  let filled : State := { s with interp := i, completed := some (done_of mem (E.req ty args)) }
  have hdelivered : lift (deliver P false (done_of mem (E.req ty args))) filled = .ok () filled :=
    rfl
  have hdropped : Py_DECREF filled = .ok () { filled with refs := n } := Py_DECREF_eq hrefs
  refine ⟨{ filled with refs := n }, ?_, rfl, rfl, rfl, rfl, hpending⟩
  rw [hrun, bind_of_ok hdelivered, hdropped]

/-- With a callback, which may end the process. -/
theorem process_async (P : indicator.Python FSRequest) (mem : Memory) (h : Submission ty args)
    (E : Env) (hs : s.interp.pending = none)
    (hrefs : s.refs = n + 1) :
    ∃ t, t.completed = some (done_of mem (E.req ty args)) ∧
      (pyuv__process_fs_req P mem (E.req ty args) true s = .ok () t ∧ t.refs = n ∨
        pyuv__process_fs_req P mem (E.req ty args) true s = .error .exited t) := by
  obtain ⟨i, -, hrun⟩ := process_spec P mem h E true hs
  rw [hrun]
  rcases call_back.spec (P := P) i ([done_of mem (E.req ty args)].map some) with
    ⟨u, hu, -⟩ | ⟨u, hu, -⟩
  · refine ⟨{ s with
      interp := u
      completed := some (done_of mem (E.req ty args))
      refs := n }, rfl, .inl ⟨?_, rfl⟩⟩
    rw [bind_of_ok (lift_of_ok hu)]
    exact Py_DECREF_eq hrefs
  · refine ⟨{ s with
      interp := u
      completed := some (done_of mem (E.req ty args)) }, rfl, .inr ?_⟩
    rw [bind_of_error (lift_of_error hu)]

theorem uv_fs_sync (E : Env) (ty : FsType) (args : List CArg) (s : State) :
    uv_fs E ty args false s =
      .ok E.outcome.filled.result { s with submitted := some (ty, args) } := by
  rw [← E.err_eq]
  rfl

theorem uv_fs_async (E : Env) (ty : FsType) (args : List CArg) (s : State) :
    uv_fs E ty args true s =
      .ok (if E.at_submission ∧ E.outcome.filled.result < 0 then E.outcome.filled.result else 0)
        { s with submitted := some (ty, args) } := by
  rw [← E.err_eq]
  unfold uv_fs
  by_cases h : E.at_submission = true ∧ E.err < 0
  · rw [if_pos h]
    rfl
  · rw [if_neg h]
    rfl

/-- libuv has an error for the call itself. -/
theorem submit_refused {async : Bool} {err : Int} {t : State} (hrefs : t.refs = n + 1)
    (hcall : uv_fs E ty args async s = .ok err t) (herr : err < 0) :
    submit P mem E ty args async s = .ok (.raised (.uv .FSError err)) { t with refs := n } := by
  unfold submit
  rw [bind_of_ok hcall]
  rw [if_pos herr, bind_of_ok (Py_DECREF_eq hrefs)]
  rfl

/-- The synchronous form of a call that succeeds. -/
theorem submit_sync (h : Submission ty args) (hs : s.interp.pending = none) (hrefs : s.refs = 1)
    (hresult : 0 ≤ E.outcome.filled.result) :
    ∃ t, submit P mem E ty args false s = .ok (.value (fs_names.value mem (E.req ty args))) t ∧
      t.refs = 0 ∧ t.requests = s.requests ∧
      (t.interp.pending = none ↔ Listed mem (E.req ty args)) := by
  let called : State := { s with submitted := some (ty, args), refs := 2 }
  have hcalled : called.refs = 1 + 1 := rfl
  obtain ⟨t, ht, htrefs, hrequests, -, hcompleted, hpending⟩ :=
    process_sync P mem h E (s := called) hs hcalled
  have hvalue : result_of t = .ok (fs_names.value mem (E.req ty args)) t := by
    have hget : (get : Run State) t = .ok t t := rfl
    unfold result_of
    rw [bind_of_ok hget, htrefs, hcompleted]
    change EStateM.Result.ok (done_of mem (E.req ty args)).result t = _
    have hreq : ¬(E.req ty args).result < 0 := not_lt.mpr hresult
    unfold done_of
    rw [if_neg hreq]
  refine ⟨{ t with refs := 0 }, ?_, rfl, hrequests, ?_⟩
  · unfold submit
    rw [bind_of_ok (uv_fs_sync E ty args s)]
    rw [if_neg (not_lt.mpr hresult)]
    have hincref : Py_INCREF { s with submitted := some (ty, args) } = .ok () called := by
      change EStateM.Result.ok () { s with submitted := some (ty, args), refs := s.refs + 1 } = _
      rw [hrefs]
    rw [bind_of_ok hincref]
    simp only [Bool.false_eq_true, if_false]
    rw [bind_of_ok ht, bind_of_ok hvalue, bind_of_ok (Py_DECREF_eq htrefs)]
    rfl
  · rw [hpending]
    exact ⟨fun hlisted => hlisted hresult, fun hlisted _ => hlisted⟩

/-- The other form of a call that libuv takes. -/
theorem submit_async (hrefs : s.refs = 1)
    (hno : ¬(E.at_submission = true ∧ E.outcome.filled.result < 0)) :
    submit P mem E ty args true s =
      .ok .request { s with submitted := some (ty, args), refs := 2 } := by
  have hcall := uv_fs_async E ty args s
  rw [if_neg hno] at hcall
  unfold submit
  rw [bind_of_ok hcall]
  rw [if_neg (by decide)]
  have hincref : Py_INCREF { s with submitted := some (ty, args) } =
      .ok () { s with submitted := some (ty, args), refs := 2 } := by
    change EStateM.Result.ok () { s with submitted := some (ty, args), refs := s.refs + 1 } = _
    rw [hrefs]
  rw [bind_of_ok hincref]
  rfl

/-! ## Where an operation gets to -/

/-- A state with so many requests and references to them, where nothing was submitted. -/
def State.after (requests refs : Nat) (i : Interp FSRequest) : State where
  interp := i
  requests := requests
  refs := refs
  submitted := none
  completed := none

/-- All but read and write have one body. -/
theorem FS_methods_cases (P : indicator.Python FSRequest) (mem : Memory) (op : Operation) :
    op = .read ∨ op = .write ∨ ∃ ty formats, FS_methods P mem op = fs_func P mem ty formats ∧
      ty ≠ .unknown ∧ (ty = .SCANDIR ↔ op = .scandir) ∧ (op = .scandir → formats = [.s]) := by
  cases op
  case read => exact .inl rfl
  case write => exact .inr (.inl rfl)
  case scandir => exact .inr (.inr ⟨_, _, rfl, by decide, by decide, fun _ => rfl⟩)
  all_goals exact .inr (.inr ⟨_, _, rfl, by decide, by decide, fun h => nomatch h⟩)

theorem with_request_error {e : PyErr} (h : E.request = .error e) (rest : Run CallEnd) (s : State) :
    with_request E rest s = .ok (.raised e) s := by
  unfold with_request
  rw [h]
  rfl

theorem with_request_ok (h : E.request = .ok ()) (rest : Run CallEnd) (i : Interp FSRequest) :
    with_request E rest (.after 0 0 i) = rest (.after 1 1 i) := by
  unfold with_request
  rw [h]
  rfl

/-- An operation raises before it gets to libuv, or it makes its request and submits it. -/
inductive Start (P : indicator.Python FSRequest) (mem : Memory) (E : Env) (op : Operation)
    (loop : Bool) (items : List Arg) : Prop where
  | raised (e : PyErr) (requests : Nat) (hone : requests ≤ 1)
    (hearly : op = .scandir → ∀ args,
      PyArg_ParseTupleAndKeywords [.s] ⟨loop, items, none⟩ = .ok args → E.request ≠ .ok ())
    (hrun : ∀ cb i, Args.callback_arg ⟨loop, items, cb⟩ ≠ .other →
      FS_methods P mem op E ⟨loop, items, cb⟩ (.after 0 0 i) =
        .ok (.raised e) (.after requests 0 i))
  | submitted (ty : FsType) (args : List CArg) (hsubmission : Submission ty args)
    (hty : ty = .SCANDIR ↔ op = .scandir)
    (hscandir : op = .scandir → E.request = .ok () ∧
      PyArg_ParseTupleAndKeywords [.s] ⟨loop, items, none⟩ = .ok args)
    (hrun : ∀ cb i, Args.callback_arg ⟨loop, items, cb⟩ ≠ .other →
      FS_methods P mem op E ⟨loop, items, cb⟩ (.after 0 0 i) =
        submit P mem E ty args (Args.callback_arg ⟨loop, items, cb⟩ ≠ .Py_None) (.after 1 1 i))

theorem submission_of_parsed {formats : List Format} {a : Args}
    (h : PyArg_ParseTupleAndKeywords formats a = .ok args) (hty : ty ≠ .unknown) :
    Submission ty args := by
  unfold PyArg_ParseTupleAndKeywords at h
  split at h
  · exact ⟨hty, path_of_parsed h⟩
  · cases h

/-- The arguments do not get past the parser. -/
theorem start_unparsed {formats : List Format} {op : Operation} {loop : Bool} {items : List Arg}
    {e : PyErr} (hparse : PyArg_ParseTupleAndKeywords formats ⟨loop, items, none⟩ = .error e)
    (hformats : op = .scandir → formats = [.s])
    (hfun : ∀ a s, PyArg_ParseTupleAndKeywords formats a = .error e →
      FS_methods P mem op E a s = .ok (.raised e) s) : Start P mem E op loop items := by
  apply Start.raised e 0 (Nat.zero_le 1)
  · intro hop args hargs
    rw [← hformats hop, hparse] at hargs
    cases hargs
  · intro cb i _
    exact hfun _ _ hparse

theorem fs_func_start {formats : List Format} {op : Operation} (hknown : ty ≠ .unknown)
    (heq : FS_methods P mem op = fs_func P mem ty formats) (hty : ty = .SCANDIR ↔ op = .scandir)
    (hformats : op = .scandir → formats = [.s]) (E : Env) (loop : Bool) (items : List Arg) :
    Start P mem E op loop items := by
  cases hparse : PyArg_ParseTupleAndKeywords formats ⟨loop, items, none⟩ with
  | error e =>
    apply start_unparsed hparse hformats
    intro a s ha
    rw [heq]
    unfold fs_func
    rw [ha]
    rfl
  | ok args =>
    have hfun : ∀ cb s, Args.callback_arg ⟨loop, items, cb⟩ ≠ .other →
        FS_methods P mem op E ⟨loop, items, cb⟩ s = with_request E
          (submit P mem E ty args (Args.callback_arg ⟨loop, items, cb⟩ ≠ .Py_None)) s := by
      intro cb s hcb
      have hparse' : PyArg_ParseTupleAndKeywords formats ⟨loop, items, cb⟩ = .ok args := hparse
      rw [heq]
      unfold fs_func
      rw [hparse']
      dsimp only
      rw [if_neg hcb]
    cases hrequest : E.request with
    | error e =>
      apply Start.raised e 0 (Nat.zero_le 1)
      · intro _ _ _ hok
        rw [hrequest] at hok
        cases hok
      · intro cb i hcb
        rw [hfun cb _ hcb, with_request_error hrequest]
    | ok u =>
      apply Start.submitted ty args (submission_of_parsed hparse hknown) hty
      · intro hop
        rw [hformats hop] at hparse
        exact ⟨hrequest, hparse⟩
      · intro cb i hcb
        rw [hfun cb _ hcb, with_request_ok hrequest]

theorem FS_func_read_start (P : indicator.Python FSRequest) (mem : Memory) (E : Env) (loop : Bool)
    (items : List Arg) : Start P mem E .read loop items := by
  have hother : Operation.read ≠ .scandir := by decide
  cases hparse : PyArg_ParseTupleAndKeywords [fd, a_length, an_offset] ⟨loop, items, none⟩ with
  | error e =>
    apply start_unparsed hparse (fun hop => absurd hop hother)
    intro a s ha
    change FS_func_read P mem E a s = _
    unfold FS_func_read
    rw [ha]
    rfl
  | ok args =>
    have hfun : ∀ cb s, Args.callback_arg ⟨loop, items, cb⟩ ≠ .other →
        FS_methods P mem .read E ⟨loop, items, cb⟩ s = with_request E (
          if E.malloc ∧ length_arg args ≤ integers.PY_SSIZE_T_MAX then
            submit P mem E .READ args (Args.callback_arg ⟨loop, items, cb⟩ ≠ .Py_None)
          else do
            Py_DECREF
            return .raised (.cpython .MemoryError)) s := by
      intro cb s hcb
      have hparse' : PyArg_ParseTupleAndKeywords [fd, a_length, an_offset] ⟨loop, items, cb⟩ =
        .ok args := hparse
      change FS_func_read P mem E ⟨loop, items, cb⟩ s = _
      unfold FS_func_read
      rw [hparse']
      dsimp only
      rw [if_neg hcb]
    cases hrequest : E.request with
    | error e =>
      apply Start.raised e 0 (Nat.zero_le 1) (fun hop => absurd hop hother)
      intro cb i hcb
      rw [hfun cb _ hcb, with_request_error hrequest]
    | ok u =>
      by_cases hmalloc : E.malloc ∧ length_arg args ≤ integers.PY_SSIZE_T_MAX
      · apply Start.submitted .READ args (submission_of_parsed hparse (by decide)) (by decide)
        · intro hop
          cases hop
        · intro cb i hcb
          rw [hfun cb _ hcb, with_request_ok hrequest, if_pos hmalloc]
      · apply Start.raised (.cpython .MemoryError) 1 (le_refl 1) (fun hop => absurd hop hother)
        intro cb i hcb
        rw [hfun cb _ hcb, with_request_ok hrequest, if_neg hmalloc]
        rfl

theorem FS_func_write_start (P : indicator.Python FSRequest) (mem : Memory) (E : Env) (loop : Bool)
    (items : List Arg) : Start P mem E .write loop items := by
  have hother : Operation.write ≠ .scandir := by decide
  cases hparse : PyArg_ParseTupleAndKeywords [fd, .view, an_offset] ⟨loop, items, none⟩ with
  | error e =>
    apply start_unparsed hparse (fun hop => absurd hop hother)
    intro a s ha
    change FS_func_write P mem E a s = _
    unfold FS_func_write
    rw [ha]
    rfl
  | ok args =>
    have hfun : ∀ cb s, Args.callback_arg ⟨loop, items, cb⟩ ≠ .other →
        FS_methods P mem .write E ⟨loop, items, cb⟩ s = with_request E
          (submit P mem E .WRITE args (Args.callback_arg ⟨loop, items, cb⟩ ≠ .Py_None)) s := by
      intro cb s hcb
      have hparse' : PyArg_ParseTupleAndKeywords [fd, .view, an_offset] ⟨loop, items, cb⟩ =
        .ok args := hparse
      change FS_func_write P mem E ⟨loop, items, cb⟩ s = _
      unfold FS_func_write
      rw [hparse']
      dsimp only
      rw [if_neg hcb]
    cases hrequest : E.request with
    | error e =>
      apply Start.raised e 0 (Nat.zero_le 1) (fun hop => absurd hop hother)
      intro cb i hcb
      rw [hfun cb _ hcb, with_request_error hrequest]
    | ok u =>
      apply Start.submitted .WRITE args (submission_of_parsed hparse (by decide)) (by decide)
      · intro hop
        cases hop
      · intro cb i hcb
        rw [hfun cb _ hcb, with_request_ok hrequest]

/-- How every one of the functions begins. -/
theorem start_spec (P : indicator.Python FSRequest) (mem : Memory) (E : Env) (op : Operation)
    (loop : Bool) (items : List Arg) : Start P mem E op loop items := by
  rcases FS_methods_cases P mem op with rfl | rfl | ⟨ty, formats, heq, hknown, hty, hformats⟩
  · exact FS_func_read_start P mem E loop items
  · exact FS_func_write_start P mem E loop items
  · exact fs_func_start hknown heq hty hformats E loop items

/-- A callback that is not callable. -/
theorem other_spec (P : indicator.Python FSRequest) (mem : Memory) (E : Env) (op : Operation)
    (loop : Bool) (items : List Arg) (i : Interp FSRequest) :
    ∃ e requests, requests ≤ 1 ∧
      FS_methods P mem op E ⟨loop, items, some .other⟩ (.after 0 0 i) =
        .ok (.raised e) (.after requests 0 i) := by
  rcases FS_methods_cases P mem op with rfl | rfl | ⟨ty, formats, heq, -⟩
  · change ∃ e requests, requests ≤ 1 ∧ FS_func_read P mem E ⟨loop, items, some .other⟩
      (.after 0 0 i) = .ok (.raised e) (.after requests 0 i)
    unfold FS_func_read
    cases PyArg_ParseTupleAndKeywords [fd, a_length, an_offset] ⟨loop, items, some .other⟩ with
    | error e => exact ⟨e, 0, Nat.zero_le 1, rfl⟩
    | ok args => exact ⟨callable_required, 0, Nat.zero_le 1, rfl⟩
  · change ∃ e requests, requests ≤ 1 ∧ FS_func_write P mem E ⟨loop, items, some .other⟩
      (.after 0 0 i) = .ok (.raised e) (.after requests 0 i)
    unfold FS_func_write
    cases PyArg_ParseTupleAndKeywords [fd, .view, an_offset] ⟨loop, items, some .other⟩ with
    | error e => exact ⟨e, 0, Nat.zero_le 1, rfl⟩
    | ok args =>
      cases hrequest : E.request with
      | error e => exact ⟨e, 0, Nat.zero_le 1, with_request_error hrequest _ _⟩
      | ok u => exact ⟨callable_required, 1, le_refl 1, with_request_ok hrequest _ i⟩
  · rw [heq]
    unfold fs_func
    cases PyArg_ParseTupleAndKeywords formats ⟨loop, items, some .other⟩ with
    | error e => exact ⟨e, 0, Nat.zero_le 1, rfl⟩
    | ok args => exact ⟨callable_required, 0, Nat.zero_le 1, rfl⟩

end pyuv.fs_calls
