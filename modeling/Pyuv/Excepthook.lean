-- handle_uncaught_exception (src/common.c) in full: what is left in the error indicator, which
-- references are left, and what the user gets to see. And the hook that every loop has
-- (Loop_func_excepthook in src/loop.c).
import Pyuv.Indicator

set_option linter.style.nameCheck false

namespace pyuv.indicator

open ends

variable {V : Type} {P : Python V}

/-! ## What is to be reported -/

/-- The call of the hook, with None for what the normalised exception lacks. -/
def answer (P : Python V) (excepthook : Obj) (exc : Triple) : Answer :=
  let t := P.normalize exc
  P.hook excepthook t.type (t.value.getD Py_None) (t.tb.getD Py_None)

/-- The call of a hook with the normalized exception. -/
def hooked (P : Python V) (exc : Triple) (returned : Bool) : Report :=
  let t := P.normalize exc
  .hook t.type (t.value.getD Py_None) (t.tb.getD Py_None) returned

/-- The exception as the indicator gets it back from a hook that raises. -/
def given_back (P : Python V) (exc : Triple) : Triple :=
  let t := P.normalize exc
  ⟨t.type, some (t.value.getD Py_None), some (t.tb.getD Py_None)⟩

/-- How the excepthook of the loop takes an exception: it cannot be read, there is none, or it is
called and returns or raises. -/
inductive Asked where
  | unreadable (e : Triple)
  | missing
  | accepted
  | failed (e : Triple)
deriving DecidableEq

/-- What the attribute `excepthook` of the loop turns out to be. -/
def asked (P : Python V) (exc : Triple) : Asked :=
  match P.excepthook with
  | .raised e => if P.is_AttributeError e.type then .missing else .unreadable e
  | .returned excepthook =>
    if excepthook = Py_None then .missing
    else
      match answer P excepthook exc with
      | .raised e => .failed e
      | .returned _ => .accepted

/-- What the user sees on account of the hook itself, and not of the exception. -/
def hook_reports (P : Python V) (exc : Triple) : Asked → List Report
  | .unreadable e => [.stderr "Exception while getting excepthook\n", .printed e, .stderr "\n"]
  | .failed e =>
    [hooked P exc false, .stderr "Unhandled exception in excepthook\n", .printed e, .stderr "\n"]
  | _ => []

/-- The one report of the exception: to the hook that takes it, and else on stderr. -/
def exc_reports (P : Python V) (exc : Triple) : Asked → List Report
  | .accepted => [hooked P exc true]
  | .failed _ => [.stderr "Unhandled exception in callback\n", .printed (given_back P exc)]
  | _ => [.stderr "Unhandled exception in callback\n", .printed exc]

/-- All that is told of one exception, to the hook and on stderr. -/
def all_reports (P : Python V) (exc : Triple) : List Report :=
  hook_reports P exc (asked P exc) ++ exc_reports P exc (asked P exc)

/-- Something that is printed is a SystemExit. -/
def Exits (P : Python V) (exc : Triple) : Prop :=
  ∃ t, .printed t ∈ all_reports P exc ∧ P.is_SystemExit t.type = true

/-- Nothing is pending, the references of the exception that was pending are given up and no
others, and it has been reported. -/
structure Handled (P : Python V) (exc : Triple) (s t : Interp V) : Prop where
  pending : t.pending = none
  refs : ∀ p, t.refs p = s.refs p - exc.objs.count p
  calls : t.calls = s.calls
  reports : t.reports = s.reports ++ all_reports P exc

/-! ## The parts -/

/-- What C code owns besides the exception that is pending. -/
def Interp.owned (s : Interp V) (p : Obj) : Int :=
  s.refs p - (s.pending.elim [] Triple.objs).count p

/-- A part that ends with `t`, where `news` has been reported, `pending` is left and the
references `given_up` are no longer owned. -/
structure Leaves (s t : Interp V) (given_up : List Obj) (news : List Report)
    (pending : Option Triple) : Prop where
  owned : ∀ p, t.owned p = s.owned p - given_up.count p
  calls : t.calls = s.calls
  reports : t.reports = s.reports ++ news
  pending : t.pending = pending

/-- A NULL is passed as None, which is then held. -/
theorem or_None_eq (x : Option Obj) (s : Interp V) :
    or_None x s = .ok (x.getD Py_None) (s.take (if x.isSome then [] else [Py_None])) := by
  cases x with
  | none => rfl
  | some p =>
    have htake : s.take [] = s := by
      unfold Interp.take
      simp
    change EStateM.Result.ok p s = .ok p (s.take [])
    rw [htake]

/-- What is in the indicator is printed, with the line before it. -/
theorem write_print_ok {s : Interp V} {e : Triple} (text : String) (hpending : s.pending = some e)
    (h : P.is_SystemExit e.type ≠ true) :
    ∃ t, (PySys_WriteStderr text >>= fun _ => PyErr_PrintEx P) s = .ok () t ∧
      Leaves s t [] [.stderr text, .printed e] none := by
  have hprint := PyErr_PrintEx_ok (P := P) (s := s.report (.stderr text)) hpending h
  refine ⟨_, hprint, ?_, rfl, ?_, rfl⟩
  · intro p
    simp only [Interp.owned, Interp.restore, Interp.report, Interp.drop, hpending,
      Option.elim_none, Option.elim_some, List.count_nil]
  · change s.reports ++ [.stderr text] ++ [.printed e] = _
    rw [List.append_assoc]
    rfl

/-- Two parts of the function. -/
theorem Leaves.trans {s t u : Interp V} {ps qs : List Obj} {old news : List Report}
    {x y : Option Triple} (h : Leaves s t ps old x) (h' : Leaves t u qs news y) :
    Leaves s u (ps ++ qs) (old ++ news) y := by
  refine ⟨?_, h'.calls.trans h.calls, ?_, h'.pending⟩
  · intro p
    have hfst := h.owned p
    have hsnd := h'.owned p
    rw [List.count_append]
    omega
  · rw [h'.reports, h.reports, List.append_assoc]

/-- A new exception owns its three objects. -/
theorem leaves_raise (e : Triple) (s : Interp V) :
    Leaves s ((s.take e.objs).restore (some e)) [] [] (some e) := by
  refine ⟨?_, rfl, (List.append_nil _).symm, rfl⟩
  intro p
  simp only [Interp.owned, Interp.restore, Interp.take, Interp.drop, Option.elim_some,
    List.count_nil]
  omega

/-- A restored one gives them to the interpreter. -/
theorem leaves_restore (exc : Triple) (s : Interp V) :
    Leaves s (s.restore (some exc)) exc.objs [] (some exc) := by
  refine ⟨?_, rfl, (List.append_nil _).symm, rfl⟩
  intro p
  simp only [Interp.owned, Interp.restore, Interp.drop, Option.elim_some]

/-! ## The branches -/

/-- With no hook the exception goes on to the default report. -/
theorem no_excepthook_missing {exc e : Triple} (h : P.is_AttributeError e.type = true)
    (s : Interp V) :
    ∃ t, no_excepthook P exc e s = .ok false t ∧ Leaves s t exc.objs [] (some exc) := by
  unfold no_excepthook
  rw [if_pos h]
  exact ⟨_, rfl, (leaves_raise e s).trans (leaves_restore exc _)⟩

/-- A hook that cannot be read is reported first. -/
theorem no_excepthook_unreadable (exc : Triple) {e : Triple} (h : P.is_AttributeError e.type ≠ true)
    (s : Interp V) :
    (P.is_SystemExit e.type ≠ true →
      ∃ t, no_excepthook P exc e s = .ok true t ∧
        Leaves s t exc.objs [.stderr "Exception while getting excepthook\n", .printed e]
          (some exc)) ∧
    (P.is_SystemExit e.type = true → ∃ t, no_excepthook P exc e s = .error .exited t) := by
  let raised := (s.take e.objs).restore (some e)
  have hrun : no_excepthook P exc e s =
      ((PySys_WriteStderr "Exception while getting excepthook\n" >>= fun _ => PyErr_PrintEx P) >>=
        fun _ => PyErr_Restore exc >>= fun _ => pure true : Py V Bool) raised := by
    unfold no_excepthook
    rw [if_neg h]
    rfl
  rw [hrun]
  constructor
  · intro hexit
    obtain ⟨t, ht, hprinted⟩ := write_print_ok (P := P) (s := raised)
      "Exception while getting excepthook\n" rfl hexit
    refine ⟨t.restore (some exc), bind_of_ok ht, ?_⟩
    exact ((leaves_raise e s).trans hprinted).trans (leaves_restore exc t)
  · intro hexit
    exact ⟨_, bind_of_error (PyErr_PrintEx_exits (s := raised.report _) rfl hexit)⟩

/-- The arguments of the hook, of which the C code owns each once. -/
def hook_args (P : Python V) (exc : Triple) : List Obj :=
  let t := P.normalize exc
  [t.type, t.value.getD Py_None, t.tb.getD Py_None]

/-- The exception is made ready for the hook: what the indicator had is given up, and what the
hook gets is owned in its place. -/
def prepared (P : Python V) (exc : Triple) (s : Interp V) : Interp V :=
  let t := P.normalize exc
  (((s.take t.objs).drop exc.objs).take (if t.value.isSome then [] else [Py_None])).take
    (if t.tb.isSome then [] else [Py_None])

theorem prepared_refs (exc : Triple) (s : Interp V) (p : Obj) :
    (prepared P exc s).refs p = s.refs p - exc.objs.count p + (hook_args P exc).count p := by
  unfold prepared hook_args
  cases (P.normalize exc) with
  | mk type value tb =>
    cases value with
    | none =>
      cases tb with
      | none => simp [Interp.take, Interp.drop, Triple.objs, List.count_cons]; omega
      | some tb => simp [Interp.take, Interp.drop, Triple.objs, List.count_cons]; omega
    | some value =>
      cases tb with
      | none => simp [Interp.take, Interp.drop, Triple.objs, List.count_cons]; omega
      | some tb => simp [Interp.take, Interp.drop, Triple.objs, List.count_cons]; omega

/-- A hook that returns ends the matter. -/
theorem call_excepthook_returned {excepthook result : Obj} {exc : Triple}
    (h : answer P excepthook exc = .returned result) {s : Interp V} (hs : s.pending = none) :
    ∃ t, call_excepthook P excepthook exc s = .ok false t ∧
      Leaves s t exc.objs [hooked P exc true] none := by
  let ready := (prepared P exc s).report (hooked P exc true)
  have hrun : call_excepthook P excepthook exc s =
      .ok false (((ready.take [result]).drop (hook_args P exc)).drop [result]) := by
    change ((modify fun s => (s.take (P.normalize exc).objs).drop exc.objs : Py V PUnit) >>=
      fun _ => or_None (P.normalize exc).value >>= fun value =>
        or_None (P.normalize exc).tb >>= fun tb => _) s = _
    rw [bind_of_ok (rfl : (modify _ : Py V PUnit) s = .ok ⟨⟩ _), bind_of_ok (or_None_eq _ _),
      bind_of_ok (or_None_eq _ _)]
    unfold answer at h
    rw [h]
    rfl
  refine ⟨_, hrun, ?_, rfl, rfl, hs⟩
  intro p
  have hrefs := prepared_refs (P := P) exc s p
  change (prepared P exc s).refs p + [result].count p - (hook_args P exc).count p -
    [result].count p - (s.pending.elim [] Triple.objs).count p = _
  unfold Interp.owned
  omega

/-- One that raises is reported, unless that ends the process. -/
theorem call_excepthook_failed {excepthook : Obj} {exc e : Triple}
    (h : answer P excepthook exc = .raised e) (s : Interp V) :
    (P.is_SystemExit e.type ≠ true →
      ∃ t, call_excepthook P excepthook exc s = .ok true t ∧
        Leaves s t exc.objs [hooked P exc false, .stderr "Unhandled exception in excepthook\n",
          .printed e] (some (given_back P exc))) ∧
    (P.is_SystemExit e.type = true →
      ∃ t, call_excepthook P excepthook exc s = .error .exited t) := by
  let ready := (prepared P exc s).report (hooked P exc false)
  let raised := (ready.take e.objs).restore (some e)
  have hrun : call_excepthook P excepthook exc s =
      ((PySys_WriteStderr "Unhandled exception in excepthook\n" >>= fun _ => PyErr_PrintEx P) >>=
        fun _ => PyErr_Restore (given_back P exc) >>= fun _ => pure true : Py V Bool) raised := by
    change ((modify fun s => (s.take (P.normalize exc).objs).drop exc.objs : Py V PUnit) >>=
      fun _ => or_None (P.normalize exc).value >>= fun value =>
        or_None (P.normalize exc).tb >>= fun tb => _) s = _
    rw [bind_of_ok (rfl : (modify _ : Py V PUnit) s = .ok ⟨⟩ _), bind_of_ok (or_None_eq _ _),
      bind_of_ok (or_None_eq _ _)]
    unfold answer at h
    rw [h]
    rfl
  rw [hrun]
  constructor
  · intro hexit
    obtain ⟨t, ht, hprinted⟩ := write_print_ok (P := P) (s := raised)
      "Unhandled exception in excepthook\n" rfl hexit
    refine ⟨t.restore (some (given_back P exc)), bind_of_ok ht, ?_⟩
    have hready := ((leaves_raise e ready).trans hprinted).trans
      (leaves_restore (given_back P exc) t)
    refine ⟨?_, hready.calls, ?_, rfl⟩
    · intro p
      have howned := hready.owned p
      have hrefs := prepared_refs (P := P) exc s p
      change _ = (prepared P exc s).refs p - (s.pending.elim [] Triple.objs).count p -
        (hook_args P exc).count p at howned
      unfold Interp.owned at howned ⊢
      omega
    · rw [hready.reports]
      change s.reports ++ [hooked P exc false] ++ _ = _
      rw [List.append_assoc]
      rfl
  · intro hexit
    exact ⟨_, bind_of_error (PyErr_PrintEx_exits (s := raised.report _) rfl hexit)⟩

/-! ## The whole -/

/-- What the excepthook leaves pending. -/
def left_pending (P : Python V) (exc : Triple) : Asked → Option Triple
  | .accepted => none
  | .failed _ => some (given_back P exc)
  | _ => some exc

/-- The exception that is printed while the excepthook is asked. -/
def Asked.printed : Asked → Option Triple
  | .unreadable e => some e
  | .failed e => some e
  | _ => none

/-- The reports that come before the line between the two. -/
def asked_reports (P : Python V) (exc : Triple) : Asked → List Report
  | .unreadable e => [.stderr "Exception while getting excepthook\n", .printed e]
  | .failed e => [hooked P exc false, .stderr "Unhandled exception in excepthook\n", .printed e]
  | .accepted => [hooked P exc true]
  | .missing => []

/-- A reference that is held meanwhile makes no difference. -/
theorem Leaves.held {s t : Interp V} {ps qs : List Obj} {news : List Report} {x : Option Triple}
    (h : Leaves (s.take ps) t qs news x) : Leaves s (t.drop ps) qs news x := by
  refine ⟨?_, h.calls, h.reports, h.pending⟩
  intro p
  have howned := h.owned p
  change t.refs p - (t.pending.elim [] Triple.objs).count p =
    s.refs p + ps.count p - (s.pending.elim [] Triple.objs).count p - qs.count p at howned
  change t.refs p - ps.count p - (t.pending.elim [] Triple.objs).count p =
    s.refs p - (s.pending.elim [] Triple.objs).count p - qs.count p
  omega

/-- The three ends of it. -/
theorem ask_excepthook.spec (exc : Triple) {s : Interp V} (hs : s.pending = none) :
    ((∀ e ∈ (asked P exc).printed, P.is_SystemExit e.type ≠ true) →
      ∃ t, ask_excepthook P exc s = .ok (asked P exc).printed.isSome t ∧
        Leaves s t exc.objs (asked_reports P exc (asked P exc))
          (left_pending P exc (asked P exc))) ∧
    ((∃ e ∈ (asked P exc).printed, P.is_SystemExit e.type = true) →
      ∃ t, ask_excepthook P exc s = .error .exited t) := by
  unfold ask_excepthook asked
  cases hlookup : P.excepthook with
  | raised e =>
    dsimp only
    by_cases hmissing : P.is_AttributeError e.type = true
    · rw [if_pos hmissing]
      exact ⟨fun _ => no_excepthook_missing hmissing s, fun h => by simp [Asked.printed] at h⟩
    · rw [if_neg hmissing]
      obtain ⟨hok, hexit⟩ := no_excepthook_unreadable exc hmissing s
      exact ⟨fun h => hok (h e rfl), fun ⟨e', he', h⟩ => by cases he'; exact hexit h⟩
  | returned excepthook =>
    dsimp only
    rw [bind_of_ok (rfl : (modify _ : Py V PUnit) s = .ok ⟨⟩ _)]
    unfold use_excepthook
    by_cases hnone : excepthook = Py_None
    · rw [if_pos hnone, if_pos hnone]
      refine ⟨fun _ => ?_, fun h => by simp [Asked.printed] at h⟩
      exact ⟨_, rfl, (leaves_restore exc (s.take [excepthook])).held⟩
    · rw [if_neg hnone, if_neg hnone]
      cases hanswer : answer P excepthook exc with
      | returned result =>
        dsimp only
        obtain ⟨t, ht, hleaves⟩ := call_excepthook_returned hanswer
          (s := s.take [excepthook]) hs
        refine ⟨fun _ => ?_, fun h => by simp [Asked.printed] at h⟩
        exact ⟨_, bind_of_ok ht, hleaves.held⟩
      | raised e =>
        dsimp only
        obtain ⟨hok, hexit⟩ := call_excepthook_failed hanswer (s.take [excepthook])
        constructor
        · intro h
          obtain ⟨t, ht, hleaves⟩ := hok (h e rfl)
          exact ⟨_, bind_of_ok ht, hleaves.held⟩
        · rintro ⟨e', he', h⟩
          cases he'
          obtain ⟨t, ht⟩ := hexit h
          exact ⟨t, bind_of_error ht⟩

theorem newline_eq (b : Bool) (s : Interp V) :
    ∃ t, newline b s = .ok () t ∧
      Leaves s t [] (if b then [.stderr "\n"] else []) s.pending := by
  cases b with
  | false => exact ⟨s, rfl, fun p => by simp, rfl, (List.append_nil _).symm, rfl⟩
  | true => exact ⟨s.report (.stderr "\n"), rfl, fun p => by simp [Interp.owned, Interp.report],
      rfl, rfl, rfl⟩

/-- What was left pending is printed. -/
theorem print_pending.spec {s : Interp V} {t : Triple} (b : Bool) (hs : s.pending = some t) :
    (P.is_SystemExit t.type ≠ true →
      ∃ u, print_pending P b s = .ok () u ∧
        Leaves s u [] ((if b then [.stderr "\n"] else []) ++
          [.stderr "Unhandled exception in callback\n", .printed t]) none) ∧
    (P.is_SystemExit t.type = true → ∃ u, print_pending P b s = .error .exited u) := by
  have hrun : print_pending P b s =
      (if s.pending.isSome then
        newline b >>= fun _ =>
          PySys_WriteStderr "Unhandled exception in callback\n" >>= fun _ => PyErr_PrintEx P
        else pure () : Py V Unit) s := rfl
  obtain ⟨n, hn, hnewline⟩ := newline_eq b s
  have hpending : n.pending = some t := hnewline.pending.trans hs
  have hsome : s.pending.isSome = true := by rw [hs]; rfl
  rw [hrun, if_pos hsome, bind_of_ok hn]
  constructor
  · intro hexit
    obtain ⟨u, hu, hprinted⟩ := write_print_ok "Unhandled exception in callback\n" hpending hexit
    exact ⟨u, hu, hnewline.trans hprinted⟩
  · intro hexit
    exact ⟨_, PyErr_PrintEx_exits (s := n.report _) hpending hexit⟩

/-- The function is the asking, and then the report of what is still pending. -/
theorem handle_uncaught_exception_run (exc : Triple) (s : Interp V) :
    handle_uncaught_exception P { s with pending := some exc } =
      (ask_excepthook P exc >>= print_pending P) { s with pending := none } := rfl

/-- What is printed is what the hook or its lookup raised, and what is left pending. -/
theorem exits_iff (exc : Triple) :
    Exits P exc ↔ (∃ e ∈ (asked P exc).printed, P.is_SystemExit e.type = true) ∨
      ∃ t ∈ left_pending P exc (asked P exc), P.is_SystemExit t.type = true := by
  unfold Exits all_reports
  cases asked P exc <;>
    simp [hook_reports, exc_reports, Asked.printed, left_pending, hooked]

theorem all_reports_eq (exc : Triple) :
    all_reports P exc = asked_reports P exc (asked P exc) ++
      ((left_pending P exc (asked P exc)).elim [] fun t =>
        (if (asked P exc).printed.isSome then [.stderr "\n"] else []) ++
          [.stderr "Unhandled exception in callback\n", .printed t]) := by
  unfold all_reports
  cases asked P exc <;> rfl

theorem handle_uncaught_exception_ok {exc : Triple} (h : ¬Exits P exc) (s : Interp V) :
    ∃ t, handle_uncaught_exception P { s with pending := some exc } = .ok () t ∧
      Handled P exc s t := by
  rw [exits_iff, not_or] at h
  obtain ⟨hasked, hleft⟩ := h
  let fetched : Interp V := { s with pending := none }
  obtain ⟨t, ht, hask⟩ := (ask_excepthook.spec (P := P) exc (s := fetched) rfl).1
    fun e he hexit => hasked ⟨e, he, hexit⟩
  have hend : ∃ u, print_pending P (asked P exc).printed.isSome t = .ok () u ∧
      Leaves fetched u exc.objs (all_reports P exc) none := by
    rw [all_reports_eq]
    cases hpending : left_pending P exc (asked P exc) with
    | none =>
      have hnone : t.pending = none := hask.pending.trans hpending
      have hrun : print_pending P (asked P exc).printed.isSome t = .ok () t := by
        change (if t.pending.isSome then _ else pure () : Py V Unit) t = _
        rw [if_neg (by rw [hnone]; nofun)]
        rfl
      refine ⟨t, hrun, hask.owned, hask.calls, ?_, hnone⟩
      rw [hask.reports]
      exact congrArg _ (List.append_nil _).symm
    | some x =>
      obtain ⟨u, hu, hprint⟩ := (print_pending.spec (P := P) (asked P exc).printed.isSome
        (hask.pending.trans hpending)).1 fun hexit => hleft ⟨x, hpending, hexit⟩
      have hboth := hask.trans hprint
      rw [List.append_nil] at hboth
      exact ⟨u, hu, hboth⟩
  obtain ⟨u, hu, hleaves⟩ := hend
  refine ⟨u, ?_, hleaves.pending, ?_, hleaves.calls, ?_⟩
  · rw [handle_uncaught_exception_run, bind_of_ok ht, hu]
  · intro p
    have howned := hleaves.owned p
    unfold Interp.owned at howned
    rw [hleaves.pending] at howned
    simpa [fetched] using howned
  · exact hleaves.reports

theorem handle_uncaught_exception_exits {exc : Triple} (h : Exits P exc) (s : Interp V) :
    ∃ t, handle_uncaught_exception P { s with pending := some exc } = .error .exited t := by
  rw [exits_iff] at h
  have hspec := ask_excepthook.spec (P := P) exc (s := { s with pending := none }) rfl
  rw [handle_uncaught_exception_run]
  by_cases hasked : ∃ e ∈ (asked P exc).printed, P.is_SystemExit e.type = true
  · obtain ⟨t, ht⟩ := hspec.2 hasked
    exact ⟨t, bind_of_error ht⟩
  · obtain ⟨x, hx, hexit⟩ := h.resolve_left hasked
    obtain ⟨t, ht, hask⟩ := hspec.1 fun e he hexit => hasked ⟨e, he, hexit⟩
    obtain ⟨u, hu⟩ := (print_pending.spec (P := P) (asked P exc).printed.isSome
      (hask.pending.trans hx)).2 hexit
    exact ⟨u, by rw [bind_of_ok ht, hu]⟩

/-! ## The hook that every loop has -/

/-- Loop.excepthook (src/loop.c). -/
def Loop_func_excepthook (P : Python V) (exc value tb : Obj) : Py V Obj := do
  modify (Interp.take [exc, value, tb])
  PyErr_Restore ⟨exc, some value, some tb⟩
  PySys_WriteStderr "Unhandled exception in callback\n"
  PyErr_PrintEx P
  PyErr_Clear
  modify (Interp.take [Py_None])
  return Py_None

/-- It reports like handle_uncaught_exception does by itself, and its result is all that it
owns in the end. -/
theorem Loop_func_excepthook.spec (exc value tb : Obj) (s : Interp V) :
    (P.is_SystemExit exc ≠ true →
      ∃ t, Loop_func_excepthook P exc value tb s = .ok Py_None t ∧
        Leaves s (t.drop [Py_None]) [] (exc_reports P ⟨exc, some value, some tb⟩ .missing) none) ∧
    (P.is_SystemExit exc = true →
      ∃ t, Loop_func_excepthook P exc value tb s = .error .exited t) := by
  let restored := (s.take [exc, value, tb]).restore (some ⟨exc, some value, some tb⟩)
  have hrun : Loop_func_excepthook P exc value tb s =
      ((PySys_WriteStderr "Unhandled exception in callback\n" >>= fun _ => PyErr_PrintEx P) >>=
        fun _ => PyErr_Clear >>= fun _ => modify (Interp.take [Py_None]) >>= fun _ =>
          pure Py_None : Py V Obj) restored := rfl
  rw [hrun]
  constructor
  · intro hexit
    obtain ⟨t, ht, hprint⟩ := write_print_ok (P := P) (s := restored)
      "Unhandled exception in callback\n" rfl hexit
    refine ⟨(t.restore none).take [Py_None], bind_of_ok ht, ?_, hprint.calls, hprint.reports, rfl⟩
    intro p
    have hraise := (leaves_raise ⟨exc, some value, some tb⟩ s).owned p
    have howned := hprint.owned p
    change t.refs p - (t.pending.elim [] Triple.objs).count p + [Py_None].count p -
      [Py_None].count p - 0 = s.owned p - 0
    change t.owned p = restored.owned p - 0 at howned
    change restored.owned p = s.owned p - 0 at hraise
    unfold Interp.owned at howned hraise ⊢
    omega
  · intro hexit
    exact ⟨_, bind_of_error (PyErr_PrintEx_exits (s := restored.report _) rfl hexit)⟩

/-! ## Callback after callback -/

/-- Callbacks that are called in turn, each with what Python code does at its time. -/
def run : List (Python V × List (Option V)) → Py V Unit
  | [] => pure ()
  | (P, args) :: turns => do
    call_back P args
    run turns

/-- A callback leaves the references as they were. -/
theorem call_back_refs {args : List (Option V)} {s t : Interp V} (hs : s.pending = none)
    (h : call_back P args s = .ok () t) : t.refs = s.refs := by
  unfold call_back at h
  cases hanswer : P.callee (given args) s.pending with
  | returned result =>
    rw [bind_of_ok (call_function_returned hanswer)] at h
    cases h
    funext p
    exact Int.add_sub_cancel _ _
  | raised e =>
    rw [bind_of_ok (call_function_raised hanswer)] at h
    let raised := ((s.called args).take e.objs).restore (some e)
    by_cases hexit : Exits P e
    · obtain ⟨u, hu⟩ := handle_uncaught_exception_exits hexit raised
      cases h.symm.trans hu
    · obtain ⟨u, hu, hhandled⟩ := handle_uncaught_exception_ok hexit raised
      cases h.symm.trans hu
      funext p
      rw [hhandled.refs]
      change s.refs p + e.objs.count p - (s.pending.elim [] Triple.objs).count p -
        e.objs.count p = s.refs p
      rw [hs]
      simp

/-- Whatever callbacks and hooks do, every callback begins with nothing pending, and no
reference is left behind. -/
theorem run.spec (turns : List (Python V × List (Option V))) {s : Interp V}
    (hs : s.pending = none) :
    (∃ t, run turns s = .ok () t ∧ t.pending = none ∧ t.refs = s.refs ∧
      t.calls = s.calls ++ turns.map fun turn => ⟨given turn.2, none⟩) ∨
    ∃ t n, run turns s = .error .exited t ∧
      t.calls = s.calls ++ (turns.take n).map fun turn => ⟨given turn.2, none⟩ := by
  induction turns generalizing s with
  | nil => exact .inl ⟨s, rfl, hs, rfl, (List.append_nil _).symm⟩
  | cons turn turns ih =>
    obtain ⟨P, args⟩ := turn
    unfold run
    rcases call_back.spec (P := P) s args with ⟨t, ht, hcalls, hpending⟩ | ⟨t, ht, hcalls⟩
    · rw [hs] at hcalls
      rw [bind_of_ok ht]
      rcases ih (hpending hs) with ⟨u, hu, hnone, hrefs, hcalls'⟩ | ⟨u, n, hu, hcalls'⟩
      · refine .inl ⟨u, hu, hnone, hrefs.trans (call_back_refs hs ht), ?_⟩
        rw [hcalls', hcalls, List.append_assoc]
        rfl
      · refine .inr ⟨u, n + 1, hu, ?_⟩
        rw [hcalls', hcalls, List.append_assoc]
        rfl
    · rw [hs] at hcalls
      exact .inr ⟨t, 1, bind_of_error ht, hcalls⟩

/-! ## The two together -/

/-- The exception of a callback is handled, unless what is printed is a SystemExit, which ends
the process; and callbacks that are called in turn never meet an exception of another one. -/
theorem exceptions_end_with_their_callback (P : Python V) (exc : Triple) (s : Interp V)
    (turns : List (Python V × List (Option V))) :
    ((∃ t, handle_uncaught_exception P { s with pending := some exc } = .ok () t ∧
      Handled P exc s t) ↔ ¬Exits P exc) ∧
    ((∃ t, run turns { s with pending := none } = .ok () t ∧ t.pending = none ∧
      t.refs = s.refs ∧ t.calls = s.calls ++ turns.map fun turn => ⟨given turn.2, none⟩) ∨
    ∃ t n, run turns { s with pending := none } = .error .exited t ∧
      t.calls = s.calls ++ (turns.take n).map fun turn => ⟨given turn.2, none⟩) := by
  refine ⟨?_, run.spec turns rfl⟩
  constructor
  · rintro ⟨t, ht, _⟩ hexit
    obtain ⟨u, hu⟩ := handle_uncaught_exception_exits hexit s
    cases ht.symm.trans hu
  · intro hexit
    exact handle_uncaught_exception_ok hexit s

/-- A loop whose excepthook calls sys.exit. SystemExit is the object 2. -/
def quitting : Python Obj where
  is_AttributeError _ := false
  is_SystemExit p := p == 2
  excepthook := .returned 1
  normalize := id
  hook _ _ _ _ := .raised ⟨2, none, none⟩
  callee _ _ := .returned Py_None
  decode_error := ⟨3, none, none⟩

/-- The exception that is pending is no SystemExit, and it is never reported. -/
theorem hook_that_quits_ends_the_process :
    ¬∀ (P : Python Obj) (exc : Triple) (s : Interp Obj), P.is_SystemExit exc.type = false →
      ∃ t, handle_uncaught_exception P { s with pending := some exc } = .ok () t ∧
        Handled P exc s t := by
  intro h
  obtain ⟨t, ht, _⟩ := h quitting ⟨4, none, none⟩ ⟨none, fun _ => 0, [], []⟩ rfl
  cases ht

end pyuv.indicator
