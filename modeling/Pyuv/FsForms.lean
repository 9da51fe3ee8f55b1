-- The two forms of each fs operation, without and with a callback: the value that the one returns
-- is the one that the request of the other is completed with, and no request is kept.
import Pyuv.FsSubmissions

set_option linter.style.nameCheck false

namespace pyuv.fs_calls

open ends indicator fs_names
open fs_requests (uv_fs_t FsType PyVal FSRequest CallEnd)

/-! ## The contract -/

section

variable (P : indicator.Python FSRequest) (mem : Memory) (E : Env) (op : Operation) (loop : Bool)
  (items : List Arg)

/-- The call of an operation, from a state without requests. -/
def form (callback : Option CallbackArg) (i : Interp FSRequest) :
    EStateM.Result Stop State CallEnd :=
  FS_methods P mem op E ⟨loop, items, callback⟩ (.after 0 0 i)

/-- The end of the request that the asynchronous form gives its user, who has `users` references to
it then. -/
def completion (i j : Interp FSRequest) (users : Nat) : Option (EStateM.Result Stop State Unit) :=
  match form P mem E op loop items (some .callable) i with
  | .ok .request t => some (uv__fs_done P mem E { t with interp := j, refs := t.refs - 1 + users })
  | _ => none

/-- The state a run ends in, whichever way. -/
def last {α : Type} : EStateM.Result Stop State α → State
  | .ok _ t => t
  | .error _ t => t

/-- The request is completed with an error and a result. -/
def Completes (i j : Interp FSRequest) (users : Nat) (error result : PyVal) : Prop :=
  ∃ r done, completion P mem E op loop items i j users = some r ∧ (last r).completed = some done ∧
    done.error = error ∧ done.result = result

/-- A function that returns a value leaves nothing pending. -/
def Returns (callback : Option CallbackArg) (i : Interp FSRequest) (v : PyVal) : Prop :=
  ∃ t, form P mem E op loop items callback i = .ok (.value v) t ∧ t.interp.pending = none

/-- The call raises, before anything is submitted. -/
def Raises (callback : Option CallbackArg) (i : Interp FSRequest) (e : PyErr) : Prop :=
  ∃ t, form P mem E op loop items callback i = .ok (.raised e) t

/-- `omitted` is the callback of the synchronous form. -/
structure Agree (omitted : Option CallbackArg) (i j : Interp FSRequest) (users : Nat) : Prop where
  value : ∀ v, Returns P mem E op loop items omitted i v ↔
    Completes P mem E op loop items i j users .None v
  error : ∀ code, Raises P mem E op loop items omitted i (.uv .FSError code) ↔
    Raises P mem E op loop items (some .callable) i (.uv .FSError code) ∨
      ∃ result, Completes P mem E op loop items i j users (.int code) result
  handled : (∀ callback t, form P mem E op loop items callback i ≠ .error .crash t) ∧
    ∀ t, completion P mem E op loop items i j users ≠ some (.error .crash t)
  one_request : ∀ callback r t, form P mem E op loop items callback i = .ok r t →
    t.requests ≤ 1 ∧ (t.submitted ≠ none → t.requests = 1)
  released : ∀ callback r t, form P mem E op loop items callback i = .ok r t → r ≠ .request →
    t.refs = 0
  completed : ∀ t, completion P mem E op loop items i j users = some (.ok () t) → t.refs = users

/-- The names that scandir finds are UTF-8, where it has memory for the list of them. -/
def lists_names : Prop :=
  op = .scandir → ∀ args, PyArg_ParseTupleAndKeywords [.s] ⟨loop, items, none⟩ = .ok args →
    E.request = .ok () → 0 ≤ E.outcome.filled.result → mem.result_alloc = true →
    E.outcome.filled.dirents.length ≤ mem.dirent_alloc →
    ∀ ent ∈ E.outcome.filled.dirents, ∃ name, utf8.encode name = ent.name

end

/-! ## How the forms end -/

variable {P : indicator.Python FSRequest} {mem : Memory} {E : Env} {op : Operation} {loop : Bool}
  {items : List Arg} {ty : FsType} {args : List CArg} {i j : Interp FSRequest} {users : Nat}
  {omitted : Option CallbackArg}

/-- A submission ends without a reference to a request that it has not left with libuv. -/
theorem submit_ends (h : Submission ty args) (async : Bool) (hi : i.pending = none) :
    ∃ r t, submit P mem E ty args async (.after 1 1 i) = .ok r t ∧ t.requests = 1 ∧
      (r ≠ .request → t.refs = 0) := by
  cases async with
  | true =>
    by_cases hrefused : E.at_submission = true ∧ E.outcome.filled.result < 0
    · have hcall := uv_fs_async E ty args (.after 1 1 i)
      rw [if_pos hrefused] at hcall
      exact ⟨_, _, submit_refused rfl hcall hrefused.2, rfl, fun _ => rfl⟩
    · exact ⟨_, _, submit_async rfl hrefused, rfl, fun h => absurd rfl h⟩
  | false =>
    by_cases hresult : E.outcome.filled.result < 0
    · exact ⟨_, _, submit_refused rfl (uv_fs_sync E ty args _) hresult, rfl, fun _ => rfl⟩
    · obtain ⟨t, ht, hrefs, hrequests, -⟩ :=
        submit_sync (P := P) (s := .after 1 1 i) h hi rfl (not_lt.mp hresult)
      exact ⟨_, t, ht, hrequests, fun _ => hrefs⟩

theorem form_ends (P : indicator.Python FSRequest) (mem : Memory) (E : Env) (op : Operation)
    (loop : Bool) (items : List Arg) (callback : Option CallbackArg) (hi : i.pending = none) :
    ∃ r t, form P mem E op loop items callback i = .ok r t ∧ t.requests ≤ 1 ∧
      (t.submitted ≠ none → t.requests = 1) ∧ (r ≠ .request → t.refs = 0) := by
  unfold form
  by_cases hother : Args.callback_arg ⟨loop, items, callback⟩ = .other
  · have hcallback : callback = some .other := by
      cases callback with
      | none => cases hother
      | some c => exact congrArg some hother
    rw [hcallback]
    obtain ⟨e, requests, hone, hrun⟩ := other_spec P mem E op loop items i
    exact ⟨_, _, hrun, hone, fun h => absurd rfl h, fun _ => rfl⟩
  · cases start_spec P mem E op loop items with
    | raised e requests hone hearly hrun =>
      exact ⟨_, _, hrun callback i hother, hone, fun h => absurd rfl h, fun _ => rfl⟩
    | submitted ty args hsubmission hty hscandir hrun =>
      rw [hrun callback i hother]
      obtain ⟨r, t, ht, hrequests, hrefs⟩ := submit_ends hsubmission
        (Args.callback_arg ⟨loop, items, callback⟩ ≠ .Py_None) hi
      exact ⟨r, t, ht, hrequests.le, fun _ => hrequests, hrefs⟩

/-- A request that libuv has taken is completed, and is its user's alone. -/
theorem uv__fs_done_spec (P : indicator.Python FSRequest) (mem : Memory) (E : Env)
    (h : Submission ty args) (hj : j.pending = none) (users : Nat) (t : State)
    (ht : t.submitted = some (ty, args)) :
    ∃ u, u.completed = some (done_of mem (E.req ty args)) ∧
      (uv__fs_done P mem E { t with interp := j, refs := users + 1 } = .ok () u ∧ u.refs = users ∨
        uv__fs_done P mem E { t with interp := j, refs := users + 1 } = .error .exited u) := by
  have hrun : uv__fs_done P mem E { t with interp := j, refs := users + 1 } =
      pyuv__process_fs_req P mem (E.req ty args) true
        { t with interp := j, refs := users + 1 } := by
    have hget : (get : Run State) { t with interp := j, refs := users + 1 } =
        .ok { t with interp := j, refs := users + 1 } { t with interp := j, refs := users + 1 } :=
      rfl
    unfold uv__fs_done
    rw [bind_of_ok hget]
    dsimp only
    rw [ht]
  rw [hrun]
  exact process_async P mem h E hj rfl

/-- A call that raises is never completed. -/
theorem completion_of_raised {e : PyErr} {t : State}
    (h : form P mem E op loop items (some .callable) i = .ok (.raised e) t) :
    completion P mem E op loop items i j users = none := by
  unfold completion
  rw [h]

theorem not_completes_of_raised {e : PyErr} {t : State}
    (h : form P mem E op loop items (some .callable) i = .ok (.raised e) t) (error result : PyVal) :
    ¬ Completes P mem E op loop items i j users error result := by
  rintro ⟨r, done, hr, -⟩
  rw [completion_of_raised h] at hr
  cases hr

/-- The completion of a call that was taken. -/
theorem completion_of_request (h : Submission ty args) (hj : j.pending = none) (users : Nat)
    (hform : form P mem E op loop items (some .callable) i =
      .ok .request { State.after 1 1 i with submitted := some (ty, args), refs := 2 }) :
    ∃ r, completion P mem E op loop items i j users = some r ∧
      (last r).completed = some (done_of mem (E.req ty args)) ∧
      (∀ t, r = .ok () t → t.refs = users) ∧ ∀ t, r ≠ .error .crash t := by
  let taken : State := { State.after 1 1 i with submitted := some (ty, args), refs := 2 }
  have hcompletion : completion P mem E op loop items i j users =
      some (uv__fs_done P mem E { taken with interp := j, refs := users + 1 }) := by
    unfold completion
    rw [hform]
    have hrefs : 2 - 1 + users = users + 1 := Nat.add_comm 1 users
    dsimp only
    rw [hrefs]
  obtain ⟨u, hu, hend⟩ := uv__fs_done_spec P mem E h hj users taken rfl
  refine ⟨_, hcompletion, ?_⟩
  rcases hend with ⟨hok, hrefs⟩ | hexited
  · rw [hok]
    refine ⟨hu, ?_, ?_⟩
    · intro t ht
      cases ht
      exact hrefs
    · intro t ht
      cases ht
  · rw [hexited]
    refine ⟨hu, ?_, ?_⟩
    · intro t ht
      cases ht
    · intro t ht
      cases ht

theorem completes_iff_of_request (h : Submission ty args) (hj : j.pending = none) (users : Nat)
    (hform : form P mem E op loop items (some .callable) i =
      .ok .request { State.after 1 1 i with submitted := some (ty, args), refs := 2 })
    (error result : PyVal) :
    Completes P mem E op loop items i j users error result ↔
      (done_of mem (E.req ty args)).error = error ∧
        (done_of mem (E.req ty args)).result = result := by
  obtain ⟨r, hr, hdone, -⟩ := completion_of_request h hj users hform
  constructor
  · rintro ⟨r', done, hr', hdone', herror, hresult⟩
    rw [hr] at hr'
    cases hr'
    rw [hdone] at hdone'
    cases hdone'
    exact ⟨herror, hresult⟩
  · rintro ⟨herror, hresult⟩
    exact ⟨r, _, hr, hdone, herror, hresult⟩

theorem completion_ends (P : indicator.Python FSRequest) (mem : Memory) (E : Env) (op : Operation)
    (loop : Bool) (items : List Arg) (i : Interp FSRequest) (hj : j.pending = none) (users : Nat)
    (r : EStateM.Result Stop State Unit)
    (hr : completion P mem E op loop items i j users = some r) :
    (∀ t, r = .ok () t → t.refs = users) ∧ ∀ t, r ≠ .error .crash t := by
  have hcallable : Args.callback_arg ⟨loop, items, some .callable⟩ ≠ .other := by
    intro h
    cases h
  cases start_spec P mem E op loop items with
  | raised e requests hone hearly hrun =>
    rw [completion_of_raised (hrun (some .callable) i hcallable)] at hr
    cases hr
  | submitted ty args hsubmission hty hscandir hrun =>
    have hform : form P mem E op loop items (some .callable) i =
      submit P mem E ty args true (.after 1 1 i) := hrun (some .callable) i hcallable
    by_cases hrefused : E.at_submission = true ∧ E.outcome.filled.result < 0
    · have hcall := uv_fs_async E ty args (.after 1 1 i)
      rw [if_pos hrefused] at hcall
      rw [submit_refused rfl hcall hrefused.2] at hform
      rw [completion_of_raised hform] at hr
      cases hr
    · rw [submit_async rfl hrefused] at hform
      obtain ⟨r', hr', -, hrefs, hcrash⟩ := completion_of_request hsubmission hj users hform
      rw [hr'] at hr
      cases hr
      exact ⟨hrefs, hcrash⟩

/-! ## Which operations agree with themselves -/

/-- What does not depend on the outcome. -/
theorem agree_of (hi : i.pending = none) (hj : j.pending = none)
    (hvalue : ∀ v, Returns P mem E op loop items omitted i v ↔
      Completes P mem E op loop items i j users .None v)
    (herror : ∀ code, Raises P mem E op loop items omitted i (.uv .FSError code) ↔
      Raises P mem E op loop items (some .callable) i (.uv .FSError code) ∨
        ∃ result, Completes P mem E op loop items i j users (.int code) result) :
    Agree P mem E op loop items omitted i j users where
  value := hvalue
  error := herror
  handled := by
    constructor
    · intro callback t ht
      obtain ⟨r, u, hu, -⟩ := form_ends P mem E op loop items callback hi
      rw [hu] at ht
      cases ht
    · intro t ht
      exact (completion_ends P mem E op loop items i hj users _ ht).2 t rfl
  one_request := by
    intro callback r t ht
    obtain ⟨r', u, hu, hone, hsubmitted, -⟩ := form_ends P mem E op loop items callback hi
    rw [hu] at ht
    cases ht
    exact ⟨hone, hsubmitted⟩
  released := by
    intro callback r t ht hr
    obtain ⟨r', u, hu, -, -, hrefs⟩ := form_ends P mem E op loop items callback hi
    rw [hu] at ht
    cases ht
    exact hrefs hr
  completed := by
    intro t ht
    exact (completion_ends P mem E op loop items i hj users _ ht).1 t rfl

/-- Both forms raise. -/
theorem agree_of_raised {e : PyErr} {s t : State} (hi : i.pending = none) (hj : j.pending = none)
    (hsync : form P mem E op loop items omitted i = .ok (.raised e) s)
    (hasync : form P mem E op loop items (some .callable) i = .ok (.raised e) t) :
    Agree P mem E op loop items omitted i j users := by
  have hraises : ∀ cb u e', form P mem E op loop items cb i = .ok (.raised e) u →
      (Raises P mem E op loop items cb i e' ↔ e = e') := by
    intro cb u e' hu
    constructor
    · rintro ⟨w, hw⟩
      rw [hu] at hw
      cases hw
      rfl
    · rintro rfl
      exact ⟨u, hu⟩
  apply agree_of hi hj
  · intro v
    apply iff_of_false
    · rintro ⟨u, hu, -⟩
      rw [hsync] at hu
      cases hu
    · exact not_completes_of_raised hasync _ _
  · intro code
    rw [hraises _ _ _ hsync, hraises _ _ _ hasync]
    constructor
    · exact Or.inl
    · rintro (heq | ⟨result, hcompletes⟩)
      · exact heq
      · exact absurd hcompletes (not_completes_of_raised hasync _ _)

/-- The synchronous form raises, and the request of the other ends with the same error. -/
theorem agree_of_error (h : Submission ty args) (hi : i.pending = none) (hj : j.pending = none)
    {s : State} (hneg : E.outcome.filled.result < 0)
    (hsync : form P mem E op loop items omitted i =
      .ok (.raised (.uv .FSError E.outcome.filled.result)) s)
    (hasync : form P mem E op loop items (some .callable) i =
      .ok .request { State.after 1 1 i with submitted := some (ty, args), refs := 2 }) :
    Agree P mem E op loop items omitted i j users := by
  have hcompletes := completes_iff_of_request h hj users hasync
  have hdone : (done_of mem (E.req ty args)).error = .int E.outcome.filled.result := if_pos hneg
  apply agree_of hi hj
  · intro v
    rw [hcompletes, hdone]
    apply iff_of_false
    · rintro ⟨u, hu, -⟩
      rw [hsync] at hu
      cases hu
    · rintro ⟨herror, -⟩
      cases herror
  · intro code
    simp only [hcompletes, hdone]
    constructor
    · rintro ⟨u, hu⟩
      rw [hsync] at hu
      cases hu
      exact .inr ⟨_, rfl, rfl⟩
    · rintro (⟨u, hu⟩ | ⟨result, herror, -⟩)
      · rw [hasync] at hu
        cases hu
      · cases herror
        exact ⟨s, hsync⟩

/-- The synchronous form returns a value, and the request of the other ends with it. -/
theorem agree_iff_of_value (h : Submission ty args) (hi : i.pending = none) (hj : j.pending = none)
    {s : State} (hpos : 0 ≤ E.outcome.filled.result)
    (hsync : form P mem E op loop items omitted i =
      .ok (.value (fs_names.value mem (E.req ty args))) s)
    (hasync : form P mem E op loop items (some .callable) i =
      .ok .request { State.after 1 1 i with submitted := some (ty, args), refs := 2 }) :
    Agree P mem E op loop items omitted i j users ↔ s.interp.pending = none := by
  have hcompletes := completes_iff_of_request h hj users hasync
  have hreq : ¬(E.req ty args).result < 0 := not_lt.mpr hpos
  have herror : (done_of mem (E.req ty args)).error = .None := if_neg hreq
  have hresult : (done_of mem (E.req ty args)).result = fs_names.value mem (E.req ty args) :=
    if_neg hreq
  constructor
  · intro hagree
    have hboth : Completes P mem E op loop items i j users .None
        (fs_names.value mem (E.req ty args)) := (hcompletes _ _).mpr ⟨herror, hresult⟩
    obtain ⟨u, hu, hpending⟩ := (hagree.value _).mpr hboth
    rw [hsync] at hu
    cases hu
    exact hpending
  · intro hpending
    apply agree_of hi hj
    · intro v
      rw [hcompletes, herror, hresult]
      constructor
      · rintro ⟨u, hu, -⟩
        rw [hsync] at hu
        cases hu
        exact ⟨rfl, rfl⟩
      · rintro ⟨-, rfl⟩
        exact ⟨s, hsync, hpending⟩
    · intro code
      simp only [hcompletes, herror]
      apply iff_of_false
      · rintro ⟨u, hu⟩
        rw [hsync] at hu
        cases hu
      · rintro (⟨u, hu⟩ | ⟨result, hnone, -⟩)
        · rw [hasync] at hu
          cases hu
        · cases hnone

/-- Only scandir has a list that can be cut short. -/
theorem listed_iff_of_submitted (hty : ty = .SCANDIR ↔ op = .scandir)
    (hscandir : op = .scandir → E.request = .ok () ∧
      PyArg_ParseTupleAndKeywords [.s] ⟨loop, items, none⟩ = .ok args) :
    (0 ≤ E.outcome.filled.result → Listed mem (E.req ty args)) ↔
      lists_names mem E op loop items := by
  constructor
  · intro h hop args' hargs' hrequest hpos hmem hlen
    exact h hpos (hty.mpr hop) hmem hlen
  · intro h hpos hreq hmem hlen
    have hop := hty.mp hreq
    obtain ⟨hrequest, hargs⟩ := hscandir hop
    exact h hop args hargs hrequest hpos hmem hlen

/-- The forms of an operation agree, with one request that is kept by neither, unless scandir finds
a name that is not UTF-8. -/
theorem fs_forms_agree_iff (P : indicator.Python FSRequest) (mem : Memory) (E : Env)
    (op : Operation)
    (loop : Bool) (items : List Arg) :
    (∀ omitted i j users, Args.callback_arg ⟨loop, items, omitted⟩ = .Py_None → i.pending = none →
      j.pending = none → Agree P mem E op loop items omitted i j users) ↔
    lists_names mem E op loop items := by
  have hcallable : Args.callback_arg ⟨loop, items, some .callable⟩ ≠ .other := by
    intro h
    cases h
  have hplain : ∀ omitted, Args.callback_arg ⟨loop, items, omitted⟩ = .Py_None →
      Args.callback_arg ⟨loop, items, omitted⟩ ≠ .other := by
    intro omitted h
    rw [h]
    exact fun h => nomatch h
  cases start_spec P mem E op loop items with
  | raised e requests hone hearly hrun =>
    apply iff_of_true
    · intro omitted i j users homitted hi hj
      exact agree_of_raised hi hj (hrun omitted i (hplain omitted homitted))
        (hrun (some .callable) i hcallable)
    · intro hop args hargs hrequest
      exact absurd hrequest (hearly hop args hargs)
  | submitted ty args hsubmission hty hscandir hrun =>
    rw [← listed_iff_of_submitted hty hscandir]
    have hsync : ∀ omitted i, Args.callback_arg ⟨loop, items, omitted⟩ = .Py_None →
        form P mem E op loop items omitted i = submit P mem E ty args false (.after 1 1 i) := by
      intro omitted i homitted
      have hform := hrun omitted i (hplain omitted homitted)
      rw [homitted] at hform
      exact hform
    have hasync : ∀ i, form P mem E op loop items (some .callable) i =
        submit P mem E ty args true (.after 1 1 i) := fun i => hrun (some .callable) i hcallable
    by_cases hneg : E.outcome.filled.result < 0
    · refine iff_of_true ?_ fun hpos => absurd hneg (not_lt.mpr hpos)
      intro omitted i j users homitted hi hj
      have hraised := hsync omitted i homitted
      rw [submit_refused rfl (uv_fs_sync E ty args _) hneg] at hraised
      have hother := hasync i
      by_cases hrefused : E.at_submission = true
      · have hcall := uv_fs_async E ty args (.after 1 1 i)
        rw [if_pos ⟨hrefused, hneg⟩] at hcall
        rw [submit_refused rfl hcall hneg] at hother
        exact agree_of_raised hi hj hraised hother
      · rw [submit_async rfl fun h => hrefused h.1] at hother
        exact agree_of_error hsubmission hi hj hneg hraised hother
    · have hpos := not_lt.mp hneg
      have hagree : ∀ omitted i j users, Args.callback_arg ⟨loop, items, omitted⟩ = .Py_None →
          i.pending = none → j.pending = none →
          (Agree P mem E op loop items omitted i j users ↔ Listed mem (E.req ty args)) := by
        intro omitted i j users homitted hi hj
        obtain ⟨t, ht, -, -, hpending⟩ :=
          submit_sync (P := P) (s := .after 1 1 i) hsubmission hi rfl hpos
        have hother := hasync i
        rw [submit_async rfl fun h => hneg h.2] at hother
        rw [← hpending]
        exact agree_iff_of_value hsubmission hi hj hpos ((hsync omitted i homitted).trans ht) hother
      constructor
      · intro h _
        exact (hagree none ⟨none, fun _ => 0, [], []⟩ ⟨none, fun _ => 0, [], []⟩ 0 rfl rfl rfl).mp
          (h none _ _ 0 rfl rfl rfl)
      · intro h omitted i j users homitted hi hj
        exact (hagree omitted i j users homitted hi hj).mpr (h hpos)

/-- A directory with an entry of the byte 0xff: scandir(loop, "d") has a list, and the exception of
its name. The request of scandir(loop, "d", f) is completed with that list and no error. -/
theorem scandir_of_latin1_raises : ¬∀ (P : indicator.Python FSRequest) (mem : Memory) (E : Env)
    (op : Operation) (loop : Bool) (items : List Arg) (omitted : Option CallbackArg)
    (i j : Interp FSRequest) (users : Nat),
    Args.callback_arg ⟨loop, items, omitted⟩ = .Py_None → i.pending = none → j.pending = none →
      Agree P mem E op loop items omitted i j users := by
  let P : indicator.Python FSRequest :=
    { is_AttributeError _ := false, is_SystemExit _ := false, excepthook := .returned Py_None
      normalize := id, hook _ _ _ _ := .returned Py_None, callee _ _ := .returned Py_None
      decode_error := ⟨1, none, none⟩ }
  let mem : Memory := ⟨true, 1, false⟩
  let found : uv_fs_t :=
    { fs_type := .SCANDIR, result := 1, path := none
      statbuf := ⟨0, 0, 0, 0, 0, 0, 0, ⟨0, 0⟩, ⟨0, 0⟩, ⟨0, 0⟩, 0, 0, 0, 0, 0, ⟨0, 0⟩⟩
      ptr := none, dirents := [⟨[0xff], 1⟩], base := [] }
  let E : Env := ⟨.ok (), true, ⟨found, by decide⟩, false⟩
  let idle : Interp FSRequest := ⟨none, fun _ => 0, [], []⟩
  intro h
  have hagree := h P mem E .scandir true [.str ['d']] none idle idle 1 rfl rfl rfl
  have hlist : Completes P mem E .scandir true [.str ['d']] idle idle 1 .None
      (.dirents [(none, 1)]) := ⟨_, _, rfl, rfl, rfl, rfl⟩
  obtain ⟨t, ht, hpending⟩ := (hagree.value _).mpr hlist
  have hraised : ∃ u, form P mem E .scandir true [.str ['d']] none idle =
      .ok (.value (.dirents [(none, 1)])) u ∧ u.interp.pending = some ⟨1, none, none⟩ :=
    ⟨_, rfl, rfl⟩
  obtain ⟨u, hu, hu'⟩ := hraised
  rw [hu] at ht
  cases ht
  rw [hu'] at hpending
  cases hpending

end pyuv.fs_calls
