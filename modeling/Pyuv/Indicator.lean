-- The error indicator of the interpreter as C code sees it: the exceptions that calls of Python
-- leave in it, and handle_uncaught_exception (src/common.c), which empties it again.
import Pyuv.Lib.Ends
import Pyuv.Lib.Utf8
import Mathlib.Data.List.Count
import Mathlib.Data.List.ReduceOption

set_option linter.style.nameCheck false

namespace pyuv.indicator

open ends

/-! ## The interpreter -/

/-- An object by its address. None is 0. -/
abbrev Obj := Nat

def Py_None : Obj := 0

/-- An exception as PyErr_Fetch gives it. Only the type is always there. -/
structure Triple where
  type : Obj
  value : Option Obj
  tb : Option Obj
deriving DecidableEq, Repr

/-- The objects of an exception, each with a reference. -/
def Triple.objs (t : Triple) : List Obj := t.type :: (t.value.toList ++ t.tb.toList)

/-- What the user gets to see of an exception. -/
inductive Report where
  | stderr (text : String)
  | printed (t : Triple)
  | hook (exc value tb : Obj) (returned : Bool)
deriving DecidableEq, Repr

/-- A call of a callback: its arguments, and what the indicator has when it begins. -/
structure Call (V : Type) where
  args : List V
  pending : Option Triple
deriving DecidableEq, Repr

/-- What the interpreter knows of exceptions, calls and reports. -/
structure Interp (V : Type) where
  -- the error indicator
  pending : Option Triple
  -- the references that C code owns, those of the indicator among them
  refs : Obj → Int
  calls : List (Call V)
  reports : List Report

/-- A failed ASSERT or a NULL that is followed; and the end of the process by SystemExit. -/
inductive Stop where
  | crash
  | exited
deriving DecidableEq, Repr

/-- Code that runs with the interpreter, and may crash or end the process. -/
abbrev Py (V : Type) := EStateM Stop (Interp V)

/-- What Python code comes back with. -/
inductive Answer where
  | returned (result : Obj)
  | raised (t : Triple)
deriving DecidableEq, Repr

/-- What Python code does when it is asked. `excepthook` is the attribute of the loop, and
`decode_error` what a text that is not UTF-8 raises. -/
structure Python (V : Type) where
  is_AttributeError : Obj → Bool
  is_SystemExit : Obj → Bool
  excepthook : Answer
  normalize : Triple → Triple
  hook : Obj → Obj → Obj → Obj → Answer
  callee : List V → Option Triple → Answer
  decode_error : Triple

variable {V : Type}

namespace Interp

/-- A reference to each of the objects. -/
def take (ps : List Obj) (s : Interp V) : Interp V :=
  { s with refs := fun p => s.refs p + ps.count p }

/-- One reference less to each of them. -/
def drop (ps : List Obj) (s : Interp V) : Interp V :=
  { s with refs := fun p => s.refs p - ps.count p }

/-- Something is told about an exception. -/
def report (r : Report) (s : Interp V) : Interp V := { s with reports := s.reports ++ [r] }

/-- What was in the indicator is released. -/
def restore (t : Option Triple) (s : Interp V) : Interp V :=
  { s.drop (s.pending.elim [] Triple.objs) with pending := t }

end Interp

/-! ## The C API -/

/-- The exception leaves the indicator, and its references are the caller's. -/
def PyErr_Fetch : Py V (Option Triple) := do
  let s ← get
  set { s with pending := none }
  return s.pending

/-- The exception comes into the indicator, with the references of the caller. -/
def PyErr_Restore (t : Triple) : Py V Unit := modify (Interp.restore (some t))

/-- The exception is forgotten. -/
def PyErr_Clear : Py V Unit := modify (Interp.restore none)

/-- An exception that is raised anew. -/
def raise (t : Triple) : Py V Unit := modify fun s => (s.take t.objs).restore (some t)

/-- A text on stderr. -/
def PySys_WriteStderr (text : String) : Py V Unit := modify (Interp.report (.stderr text))

/-- Nothing is printed where there is no exception, and SystemExit ends the process. -/
def PyErr_PrintEx (P : Python V) : Py V Unit := do
  let s ← get
  match s.pending with
  | none => pure ()
  | some t =>
    if P.is_SystemExit t.type then throw .exited
    else modify fun s => (s.report (.printed t)).restore none

/-! ## handle_uncaught_exception -/

/-- The line that is written after an exception of the hook. -/
def newline (exc_in_hook : Bool) : Py V Unit :=
  if exc_in_hook then PySys_WriteStderr "\n" else pure ()

/-- The exception is printed where it is still pending. -/
def print_pending (P : Python V) (exc_in_hook : Bool) : Py V Unit := do
  let s ← get
  if s.pending.isSome then do
    newline exc_in_hook
    PySys_WriteStderr "Unhandled exception in callback\n"
    PyErr_PrintEx P
  else pure ()

/-- The branch where the attribute is not there, or cannot be read. -/
def no_excepthook (P : Python V) (exc e : Triple) : Py V Bool := do
  raise e
  if P.is_AttributeError e.type then do
    PyErr_Restore exc
    return false
  else do
    PySys_WriteStderr "Exception while getting excepthook\n"
    PyErr_PrintEx P
    PyErr_Restore exc
    return true

/-- PYUV_SET_NONE for what is missing. -/
def or_None (x : Option Obj) : Py V Obj :=
  match x with
  | some p => pure p
  | none => do
    modify (Interp.take [Py_None])
    return Py_None

/-- The branch where there is one to call. -/
def call_excepthook (P : Python V) (excepthook : Obj) (exc : Triple) : Py V Bool := do
  let t := P.normalize exc
  modify fun s => (s.take t.objs).drop exc.objs
  let value ← or_None t.value
  let tb ← or_None t.tb
  match P.hook excepthook t.type value tb with
  | .raised e => do
    modify (Interp.report (.hook t.type value tb false))
    raise e
    PySys_WriteStderr "Unhandled exception in excepthook\n"
    PyErr_PrintEx P
    PyErr_Restore ⟨t.type, some value, some tb⟩
    return true
  | .returned result => do
    modify (Interp.report (.hook t.type value tb true))
    modify (Interp.take [result])
    modify (Interp.drop [t.type, value, tb])
    modify (Interp.drop [result])
    return false

/-- None is no hook: the exception goes to stderr. -/
def use_excepthook (P : Python V) (excepthook : Obj) (exc : Triple) : Py V Bool :=
  if excepthook = Py_None then do
    PyErr_Restore exc
    return false
  else call_excepthook P excepthook exc

/-- The three branches. The result is whether the hook has failed. -/
def ask_excepthook (P : Python V) (exc : Triple) : Py V Bool :=
  match P.excepthook with
  | .raised e => no_excepthook P exc e
  | .returned excepthook => do
    modify (Interp.take [excepthook])
    let exc_in_hook ← use_excepthook P excepthook exc
    modify (Interp.drop [excepthook])
    return exc_in_hook

/-- An exception that a callback has raised is given to the hook of the loop, or printed. -/
def handle_uncaught_exception (P : Python V) : Py V Unit := do
  match ← PyErr_Fetch with
  | none => throw .crash
  | some exc => do
    let exc_in_hook ← ask_excepthook P exc
    print_pending P exc_in_hook

/-- Py_BuildValue("s", bytes) -/
def Py_BuildValue_s (P : Python V) (bytes : List UInt8) : Py V (Option (List Char)) :=
  match utf8.decode bytes with
  | some text => pure (some text)
  | none => do
    raise P.decode_error
    return none

/-- A release of NULL is a crash. -/
def Py_DECREF {α : Type} (x : Option α) : Py V Unit :=
  match x with
  | some _ => pure ()
  | none => throw .crash

/-- What PyObject_CallFunctionObjArgs passes on: NULL ends the list. -/
def given (args : List (Option V)) : List V := (args.takeWhile Option.isSome).reduceOption

/-- PyObject_CallFunctionObjArgs with a callback. -/
def call_function (P : Python V) (args : List (Option V)) : Py V (Option Obj) := do
  let s ← get
  modify fun s => { s with calls := s.calls ++ [Call.mk (given args) s.pending] }
  match P.callee (given args) s.pending with
  | .returned result => do
    modify (Interp.take [result])
    return some result
  | .raised t => do
    raise t
    return none

/-- The call of a callback with what follows it everywhere. -/
def call_back (P : Python V) (args : List (Option V)) : Py V Unit := do
  let result ← call_function P args
  match result with
  | none => handle_uncaught_exception P
  | some result => modify (Interp.drop [result])

/-! ## What is left pending -/

variable {P : Python V} {α β : Type}

/-- It calls no callback, and only SystemExit stops it. -/
def Quiet (m : Py V α) : Prop :=
  Ends (fun _ => True) (fun s _ t => t.calls = s.calls)
    (fun s e t => e = .exited ∧ t.calls = s.calls) m

/-- Besides, nothing is pending afterwards. -/
def Clears (m : Py V α) : Prop :=
  Ends (fun _ => True) (fun s _ t => t.pending = none ∧ t.calls = s.calls)
    (fun s e t => e = .exited ∧ t.calls = s.calls) m

/-- Code that calls nothing of the user's, in a row. -/
theorem Quiet.bind {x : Py V α} {f : α → Py V β} (hx : Quiet x) (hf : ∀ a, Quiet (f a)) :
    Quiet (x >>= f) := by
  apply Ends.bind hx hf
  · exact fun _ _ _ _ _ => trivial
  · exact fun _ _ _ _ _ _ h₁ h₂ => h₂.trans h₁
  · exact fun _ _ _ _ h => h
  · exact fun _ _ _ _ _ _ h₁ h₂ => ⟨h₂.1, h₂.2.trans h₁⟩

theorem Quiet.clears {x : Py V α} {f : α → Py V β} (hx : Quiet x) (hf : ∀ a, Clears (f a)) :
    Clears (x >>= f) := by
  apply Ends.bind hx hf
  · exact fun _ _ _ _ _ => trivial
  · exact fun _ _ _ _ _ _ h₁ h₂ => ⟨h₂.1, h₂.2.trans h₁⟩
  · exact fun _ _ _ _ h => h
  · exact fun _ _ _ _ _ _ h₁ h₂ => ⟨h₂.1, h₂.2.trans h₁⟩

theorem quiet_pure {a : α} : Quiet (pure a : Py V α) := Ends.pure fun _ _ => rfl

theorem quiet_modify {f : Interp V → Interp V} (h : ∀ s, (f s).calls = s.calls) :
    Quiet (modify f : Py V PUnit) := Ends.modify fun s _ => h s

theorem quiet_get : Quiet (get : Py V (Interp V)) := fun _ _ => rfl

theorem quiet_ite {c : Prop} [Decidable c] {x y : Py V α} (hx : Quiet x) (hy : Quiet y) :
    Quiet (if c then x else y) :=
  Ends.ite (fun _ => hx) (fun _ => hy)

theorem quiet_exit : Quiet (throw .exited : Py V α) := Ends.throw fun _ _ => ⟨rfl, rfl⟩

theorem quiet_restore {t : Option Triple} :
    Quiet (modify (Interp.restore t) : Py V PUnit) := quiet_modify fun _ => rfl

theorem quiet_raise {t : Triple} : Quiet (raise t : Py V Unit) := quiet_modify fun _ => rfl

theorem quiet_take {ps : List Obj} : Quiet (modify (Interp.take ps) : Py V PUnit) :=
  quiet_modify fun _ => rfl

theorem quiet_drop {ps : List Obj} : Quiet (modify (Interp.drop ps) : Py V PUnit) :=
  quiet_modify fun _ => rfl

theorem quiet_report {r : Report} : Quiet (modify (Interp.report r) : Py V PUnit) :=
  quiet_modify fun _ => rfl

theorem quiet_PyErr_PrintEx : Quiet (PyErr_PrintEx P) := by
  apply Quiet.bind quiet_get
  intro s
  split
  · exact quiet_pure
  · exact quiet_ite quiet_exit (quiet_modify fun _ => rfl)

theorem quiet_or_None {x : Option Obj} : Quiet (or_None x : Py V Obj) := by
  cases x with
  | some p => exact quiet_pure
  | none => exact quiet_take.bind fun _ => quiet_pure

/-- A pending exception is printed and cleared, unless it ends the process. -/
theorem PyErr_PrintEx_run {s : Interp V} {t : Triple} (hpending : s.pending = some t) :
    PyErr_PrintEx P s =
      (if P.is_SystemExit t.type then throw .exited
        else modify fun s => (s.report (.printed t)).restore none : Py V Unit) s := by
  change (match s.pending with
    | none => pure ()
    | some t =>
      if P.is_SystemExit t.type then throw .exited
      else modify fun s => (s.report (.printed t)).restore none : Py V Unit) s = _
  rw [hpending]

theorem PyErr_PrintEx_ok {s : Interp V} {t : Triple} (hpending : s.pending = some t)
    (h : P.is_SystemExit t.type ≠ true) :
    PyErr_PrintEx P s = .ok () ((s.report (.printed t)).restore none) := by
  rw [PyErr_PrintEx_run hpending, if_neg h]
  rfl

theorem PyErr_PrintEx_exits {s : Interp V} {t : Triple} (hpending : s.pending = some t)
    (h : P.is_SystemExit t.type = true) : PyErr_PrintEx P s = .error .exited s := by
  rw [PyErr_PrintEx_run hpending, if_pos h]
  rfl

/-- PyErr_PrintEx clears what is pending and calls nothing, or the process ends. -/
theorem PyErr_PrintEx.spec {s : Interp V} :
    (∃ t, PyErr_PrintEx P s = .ok () t ∧ t.pending = none ∧ t.calls = s.calls) ∨
      PyErr_PrintEx P s = .error .exited s := by
  cases hpending : s.pending with
  | none =>
    left
    refine ⟨s, ?_, hpending, rfl⟩
    change (match s.pending with
      | none => pure ()
      | some t => _ : Py V Unit) s = _
    rw [hpending]
    rfl
  | some t =>
    by_cases hexit : P.is_SystemExit t.type = true
    · exact .inr (PyErr_PrintEx_exits hpending hexit)
    · exact .inl ⟨_, PyErr_PrintEx_ok hpending hexit, rfl, rfl⟩

theorem clears_PyErr_PrintEx : Clears (PyErr_PrintEx P) := by
  intro s _
  rcases PyErr_PrintEx.spec (P := P) (s := s) with ⟨t, ht, hpending, hcalls⟩ | hexit
  · rw [ht]
    exact ⟨hpending, hcalls⟩
  · rw [hexit]
    exact ⟨rfl, rfl⟩

/-- Where nothing is pending, nothing is done; and else it is printed. -/
theorem clears_print_pending {exc_in_hook : Bool} : Clears (print_pending P exc_in_hook) := by
  intro s _
  let print : Py V Unit := do
    newline exc_in_hook
    PySys_WriteStderr "Unhandled exception in callback\n"
    PyErr_PrintEx P
  have hrun : print_pending P exc_in_hook s =
      (if s.pending.isSome then print else pure () : Py V Unit) s := rfl
  rw [hrun]
  by_cases hsome : s.pending.isSome = true
  · rw [if_pos hsome]
    have hprint : Clears print := by
      apply Quiet.clears (quiet_ite quiet_report quiet_pure)
      intro _
      exact quiet_report.clears fun _ => clears_PyErr_PrintEx
    exact hprint s trivial
  · rw [if_neg hsome]
    exact ⟨by simpa using hsome, rfl⟩

theorem quiet_no_excepthook {exc e : Triple} : Quiet (no_excepthook P exc e) := by
  apply quiet_raise.bind
  intro _
  apply quiet_ite
  · exact quiet_restore.bind fun _ => quiet_pure
  · apply quiet_report.bind
    intro _
    apply quiet_PyErr_PrintEx.bind
    intro _
    exact quiet_restore.bind fun _ => quiet_pure

theorem quiet_call_excepthook {excepthook : Obj} {exc : Triple} :
    Quiet (call_excepthook P excepthook exc) := by
  refine Quiet.bind (quiet_modify ?_) ?_
  · exact fun _ => rfl
  intro _
  apply quiet_or_None.bind
  intro value
  apply quiet_or_None.bind
  intro tb
  split
  · apply quiet_report.bind
    intro _
    apply quiet_raise.bind
    intro _
    apply quiet_report.bind
    intro _
    apply quiet_PyErr_PrintEx.bind
    intro _
    exact quiet_restore.bind fun _ => quiet_pure
  · apply quiet_report.bind
    intro _
    apply quiet_take.bind
    intro _
    apply quiet_drop.bind
    intro _
    exact quiet_drop.bind fun _ => quiet_pure

theorem quiet_ask_excepthook {exc : Triple} : Quiet (ask_excepthook P exc) := by
  unfold ask_excepthook
  split
  · exact quiet_no_excepthook
  · apply quiet_take.bind
    intro _
    apply Quiet.bind
    · exact quiet_ite (quiet_restore.bind fun _ => quiet_pure) quiet_call_excepthook
    · exact fun _ => quiet_drop.bind fun _ => quiet_pure

/-- Whatever the hook does, nothing is pending afterwards. -/
theorem handle_uncaught_exception.spec {s : Interp V} (h : s.pending ≠ none) :
    (∃ t, handle_uncaught_exception P s = .ok () t ∧ t.pending = none ∧ t.calls = s.calls) ∨
      ∃ t, handle_uncaught_exception P s = .error .exited t ∧ t.calls = s.calls := by
  obtain ⟨exc, hexc⟩ := Option.ne_none_iff_exists'.mp h
  have hrun : handle_uncaught_exception P s =
      (ask_excepthook P exc >>= print_pending P) { s with pending := none } := by
    change (match s.pending with
      | none => throw .crash
      | some exc => ask_excepthook P exc >>= print_pending P : Py V Unit) _ = _
    rw [hexc]
  have hclears : Clears (ask_excepthook P exc >>= print_pending P) :=
    quiet_ask_excepthook.clears fun _ => clears_print_pending
  rw [hrun]
  cases hend : (ask_excepthook P exc >>= print_pending P) { s with pending := none } with
  | ok u t => exact .inl ⟨t, rfl, hclears.ok (s := { s with pending := none }) trivial hend⟩
  | error e t =>
    obtain ⟨hexit, hcalls⟩ := hclears.error (s := { s with pending := none }) trivial hend
    rw [hexit]
    exact .inr ⟨t, rfl, hcalls⟩

/-- The exception for a text that is not UTF-8 is pending. -/
def refused (P : Python V) (s : Interp V) : Interp V :=
  (s.take P.decode_error.objs).restore (some P.decode_error)

theorem Py_BuildValue_s_eq {bytes : List UInt8} {text : List Char}
    (h : utf8.decode bytes = some text) (s : Interp V) :
    Py_BuildValue_s P bytes s = .ok (some text) s := by
  unfold Py_BuildValue_s
  rw [h]
  rfl

/-- Bytes that are no UTF-8 leave an exception and give NULL. -/
theorem Py_BuildValue_s_null {bytes : List UInt8} (h : utf8.decode bytes = none)
    (s : Interp V) : Py_BuildValue_s P bytes s = .ok none (refused P s) := by
  unfold Py_BuildValue_s
  rw [h]
  rfl

theorem given_map_some (args : List V) : given (args.map some) = args := by
  unfold given
  induction args with
  | nil => rfl
  | cons arg args ih =>
    rw [List.map_cons, List.takeWhile_cons_of_pos rfl, List.reduceOption_cons_of_some, ih]

/-- The call has begun. -/
def Interp.called (args : List (Option V)) (s : Interp V) : Interp V :=
  { s with calls := s.calls ++ [Call.mk (given args) s.pending] }

/-- The callee sees the exception that is pending. -/
theorem call_function_run (s : Interp V) (args : List (Option V)) :
    call_function P args s = (match P.callee (given args) s.pending with
      | .returned result => modify (Interp.take [result]) >>= fun _ => pure (some result)
      | .raised t => raise t >>= fun _ => pure none : Py V (Option Obj)) (s.called args) := rfl

theorem call_function_returned {s : Interp V} {args : List (Option V)} {result : Obj}
    (h : P.callee (given args) s.pending = .returned result) :
    call_function P args s = .ok (some result) ((s.called args).take [result]) := by
  rw [call_function_run, h]
  rfl

theorem call_function_raised {s : Interp V} {args : List (Option V)} {e : Triple}
    (h : P.callee (given args) s.pending = .raised e) :
    call_function P args s =
      .ok none (((s.called args).take e.objs).restore (some e)) := by
  rw [call_function_run, h]
  rfl

/-- A callback is called once, and leaves nothing pending where nothing was. -/
theorem call_back.spec (s : Interp V) (args : List (Option V)) :
    (∃ t, call_back P args s = .ok () t ∧ t.calls = s.calls ++ [⟨given args, s.pending⟩] ∧
      (s.pending = none → t.pending = none)) ∨
    ∃ t, call_back P args s = .error .exited t ∧
      t.calls = s.calls ++ [⟨given args, s.pending⟩] := by
  unfold call_back
  cases hanswer : P.callee (given args) s.pending with
  | returned result =>
    rw [bind_of_ok (call_function_returned hanswer)]
    left
    exact ⟨((s.called args).take [result]).drop [result], rfl, rfl, id⟩
  | raised e =>
    rw [bind_of_ok (call_function_raised hanswer)]
    rcases handle_uncaught_exception.spec (P := P)
      (s := ((s.called args).take e.objs).restore (some e)) (by simp [Interp.restore]) with
      ⟨t, ht, hpending, hcalls⟩ | ⟨t, ht, hcalls⟩
    · exact .inl ⟨t, ht, hcalls, fun _ => hpending⟩
    · exact .inr ⟨t, ht, hcalls⟩

end pyuv.indicator
