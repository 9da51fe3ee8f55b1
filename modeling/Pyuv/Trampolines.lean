-- The C functions that libuv calls on a handle, and the references that they own while they
-- call Python: src/poll.c, signal.c, fs.c, timer.c, idle.c, check.c, prepare.c, async.c,
-- stream.c, tcp.c, pipe.c, abstract.c, udp.c, process.c, util.c and handle.c.
import Pyuv.Lib.Runs
import Pyuv.PyObjects
import Mathlib.Algebra.BigOperators.Group.Multiset.Basic
import Mathlib.Algebra.Order.Group.Multiset

set_option linter.style.nameCheck false

namespace pyuv.trampolines

/-! ## What a trampoline does -/

/-- The local variables for the objects that a trampoline creates. `arg` is one that is
created in the list of the arguments, and has no variable. -/
inductive Local where
  | address_tuple | arg | curr_stat_data | data | error | errorno | prev_stat_data
  | py_errorno | py_events | py_exit_status | py_filename | py_term_signal
deriving DecidableEq, Repr

/-- What such a variable holds, NULL where the object could not be created. -/
inductive Value where
  | NULL
  | Py_None
  | int (n : Int)
  | str
  | bytes (len : Int)
  | stat
  | tuple
deriving DecidableEq, Repr

/-- The objects that are owned for the call of Python, the arguments of it after `self`, with
none where no callback is set, and the releases at the end. -/
structure Trampoline where
  owns : List (Local × Value)
  calls : Option (List Local)
  releases : List Local
deriving DecidableEq, Repr

/-- The callback is given the handle alone, or there is none. -/
def self_alone (callback : Bool) : Trampoline := ⟨[], if callback then some [] else none, []⟩

/-- py_errorno, for a status that is an error where it is not 0. -/
def status_or_None (status : Int) : Value := if status ≠ 0 then .int status else .Py_None

/-- The same for a status that is an error below 0. -/
def error_or_None (status : Int) : Value := if status < 0 then .int status else .Py_None

/-- A callback that is given the error alone. -/
def errorno_alone (value : Value) : Trampoline :=
  ⟨[(.py_errorno, value)], some [.py_errorno], [.py_errorno]⟩

/-! ## The trampolines

None is an assertion of the function that fails. -/

def pyuv__timer_cb : Trampoline := self_alone true
def pyuv__idle_cb : Trampoline := self_alone true
def pyuv__check_cb : Trampoline := self_alone true
def pyuv__prepare_cb : Trampoline := self_alone true
def pyuv__async_cb (callback : Bool) : Trampoline := self_alone callback
def pyuv__handle_close_cb (callback : Bool) : Trampoline := self_alone callback

/-- Neither of the two is released. -/
def pyuv__poll_cb (status events : Int) : Trampoline where
  owns :=
    if status = 0 then [(.py_events, .int events), (.py_errorno, .Py_None)]
    else [(.py_events, .Py_None), (.py_errorno, .int status)]
  calls := some [.py_events, .py_errorno]
  releases := []

/-- The signal number is never released. -/
def pyuv__signal_cb (signum : Int) : Trampoline where
  owns := [(.arg, .int signum)]
  calls := some [.arg]
  releases := []

/-- A file name of libuv, in UTF-8 or not. -/
inductive Filename where
  | utf8
  | other
deriving DecidableEq, Repr

/-- The format "s" on a file name. -/
def Py_BuildValue_s : Filename → Value
  | .utf8 => .str
  | .other => .NULL

/-- What the callback of an FSEvent is given. -/
def pyuv__fsevent_cb (filename : Option Filename) (events status : Int) : Trampoline where
  owns :=
    [(.py_filename, filename.elim .Py_None Py_BuildValue_s), (.errorno, error_or_None status),
      (.py_events, .int events)]
  calls := some [.py_filename, .py_events, .errorno]
  releases := [.py_events, .py_filename, .errorno]

/-- `alloc_prev` and `alloc_curr` are whether there is memory for the two. -/
def pyuv__fspoll_cb (status : Int) (alloc_prev alloc_curr : Bool) : Trampoline where
  owns :=
    if status < 0 then
      [(.errorno, .int status), (.prev_stat_data, .Py_None), (.curr_stat_data, .Py_None)]
    else
      [(.errorno, .Py_None), (.prev_stat_data, if alloc_prev then .stat else .Py_None),
        (.curr_stat_data, if alloc_curr then .stat else .Py_None)]
  calls := some [.prev_stat_data, .curr_stat_data, .errorno]
  releases := []

def pyuv__tcp_listen_cb (status : Int) : Trampoline := errorno_alone (status_or_None status)
def pyuv__pipe_listen_cb (status : Int) : Trampoline := errorno_alone (status_or_None status)
def pyuv__tcp_connect_cb (status : Int) : Trampoline := errorno_alone (status_or_None status)
def pyuv__pipe_connect_cb (status : Int) : Trampoline := errorno_alone (status_or_None status)

/-- The timer of an abstract connect, which always tells of success. -/
def pyuv__pipe_connect_abstract_cb : Trampoline where
  owns := [(.error, .Py_None)]
  calls := some [.error]
  releases := [.error]

/-- The data or the error of a read. -/
def pyuv__stream_read_cb (nread : Int) : Trampoline where
  owns :=
    if 0 ≤ nread then [(.data, .bytes nread), (.py_errorno, .Py_None)]
    else [(.data, .Py_None), (.py_errorno, .int nread)]
  calls := some [.data, .py_errorno]
  releases := [.data, .py_errorno]

/-- A completion that looks at its status only where there is a callback. -/
def completion (status : Int) (callback : Bool) : Trampoline :=
  if callback then errorno_alone (error_or_None status) else self_alone false

def pyuv__stream_write_cb (status : Int) (callback : Bool) : Trampoline :=
  completion status callback
def pyuv__stream_shutdown_cb (status : Int) (callback : Bool) : Trampoline :=
  completion status callback
def pyuv__udp_send_cb (status : Int) (callback : Bool) : Trampoline := completion status callback

/-- `addr` is none for NULL, or whether makesockaddr knows its family. The number for `flags`
is created in the call. -/
def pyuv__udp_recv_cd (nread : Int) (addr : Option Bool) (flags : Nat) : Option Trampoline :=
  if flags ≠ 0 then none
  else if nread = 0 ∧ addr = none then some (self_alone false)
  else
    let calls := some [.address_tuple, .arg, .data, .py_errorno]
    let releases := [.address_tuple, .data, .py_errorno]
    if 0 ≤ nread then
      addr.map fun known =>
        ⟨[(.address_tuple, if known then .tuple else .Py_None), (.data, .bytes nread),
          (.py_errorno, .Py_None), (.arg, .int flags)], calls, releases⟩
    else
      some ⟨[(.address_tuple, .Py_None), (.data, .Py_None), (.py_errorno, .int nread),
        (.arg, .int flags)], calls, releases⟩

/-- The two are released where there is a callback. -/
def pyuv__process_exit_cb (exit_status term_signal : Int) (callback : Bool) : Trampoline where
  owns := [(.py_exit_status, .int exit_status), (.py_term_signal, .int term_signal)]
  calls := if callback then some [.py_exit_status, .py_term_signal] else none
  releases := if callback then [.py_exit_status, .py_term_signal] else []

def UV_READABLE : Int := 1

/-- A SignalChecker calls no function of the user, and asserts that it may read. -/
def pyuv__check_signals (status events : Int) : Option Trampoline :=
  if status = 0 ∧ events ≠ UV_READABLE then none else some (self_alone false)

/-- A call of libuv, with its arguments and with whether the handle or the request has a
callback where that is looked at. -/
inductive Delivery where
  | timer | idle | check | prepare
  | async (callback : Bool)
  | close (callback : Bool)
  | poll (status events : Int)
  | signal (signum : Int)
  | fsevent (filename : Option Filename) (events status : Int)
  | fspoll (status : Int) (alloc_prev alloc_curr : Bool)
  | tcp_listen (status : Int)
  | pipe_listen (status : Int)
  | tcp_connect (status : Int)
  | pipe_connect (status : Int)
  | pipe_connect_abstract
  | stream_read (nread : Int)
  | stream_write (status : Int) (callback : Bool)
  | stream_shutdown (status : Int) (callback : Bool)
  | udp_send (status : Int) (callback : Bool)
  | udp_recv (nread : Int) (addr : Option Bool) (flags : Nat)
  | process_exit (exit_status term_signal : Int) (callback : Bool)
  | check_signals (status events : Int)
deriving DecidableEq, Repr

/-- The trampoline of each delivery, none where an ASSERT of it fails. -/
def Delivery.trampoline : Delivery → Option Trampoline
  | .timer => some pyuv__timer_cb
  | .idle => some pyuv__idle_cb
  | .check => some pyuv__check_cb
  | .prepare => some pyuv__prepare_cb
  | .async callback => some (pyuv__async_cb callback)
  | .close callback => some (pyuv__handle_close_cb callback)
  | .poll status events => some (pyuv__poll_cb status events)
  | .signal signum => some (pyuv__signal_cb signum)
  | .fsevent filename events status => some (pyuv__fsevent_cb filename events status)
  | .fspoll status alloc_prev alloc_curr => some (pyuv__fspoll_cb status alloc_prev alloc_curr)
  | .tcp_listen status => some (pyuv__tcp_listen_cb status)
  | .pipe_listen status => some (pyuv__pipe_listen_cb status)
  | .tcp_connect status => some (pyuv__tcp_connect_cb status)
  | .pipe_connect status => some (pyuv__pipe_connect_cb status)
  | .pipe_connect_abstract => some pyuv__pipe_connect_abstract_cb
  | .stream_read nread => some (pyuv__stream_read_cb nread)
  | .stream_write status callback => some (pyuv__stream_write_cb status callback)
  | .stream_shutdown status callback => some (pyuv__stream_shutdown_cb status callback)
  | .udp_send status callback => some (pyuv__udp_send_cb status callback)
  | .udp_recv nread addr flags => pyuv__udp_recv_cd nread addr flags
  | .process_exit exit_status term_signal callback =>
    some (pyuv__process_exit_cb exit_status term_signal callback)
  | .check_signals status events => pyuv__check_signals status events

/-! ## References -/

/-- None, or what the delivery of that number created for a variable, or got as the result. -/
inductive Obj where
  | Py_None
  | temp (id : Nat) (x : Local)
  | result (id : Nat)
deriving DecidableEq, Repr

/-- The object behind a value, None among them. -/
def Value.obj? (id : Nat) (x : Local) : Value → Option Obj
  | .NULL => none
  | .Py_None => some .Py_None
  | _ => some (.temp id x)

/-- The references that the trampoline owns while it calls Python. -/
def Trampoline.owned (id : Nat) (t : Trampoline) : Multiset Obj :=
  (t.owns.filterMap fun p => p.2.obj? id p.1 : List Obj)

/-- What the trampoline releases, none for a Py_DECREF of NULL. -/
def Trampoline.released (id : Nat) (t : Trampoline) : List (Option Obj) :=
  t.releases.map fun x => (t.owns.lookup x).bind (Value.obj? id x)

/-- The result of the callback: it raises, or returns None or an object. -/
inductive Result where
  | NULL
  | Py_None
  | obj
deriving DecidableEq, Repr

/-- The reference that comes back from Python. -/
def Result.owned (id : Nat) : Result → Multiset Obj
  | .NULL => 0
  | .Py_None => {.Py_None}
  | .obj => {.result id}

/-! ## The deliveries

A callback can do what it likes: to the handles, which says what is delivered next and with
which callback, and to the loop, which may deliver more before the callback returns. -/

/-- A trampoline whose Python callback runs. -/
structure Frame where
  id : Nat
  delivery : Delivery
  trampoline : Trampoline
  of_delivery : delivery.trampoline = some trampoline

/-- What the trampolines hold, and those of them that run. -/
structure St where
  next : Nat
  -- the references that the trampolines have taken and not given back
  held : Multiset Obj
  frames : List Frame
  crashed : Bool

/-- Nothing was delivered. -/
def start : St := ⟨0, 0, [], false⟩

/-- Py_XDECREF of the result, and the releases. -/
def finish (s : St) (id : Nat) (t : Trampoline) (result : Result) : St :=
  if none ∈ t.released id then { s with crashed := true }
  else
    { s with
      held := s.held + result.owned id - result.owned id - ((t.released id).filterMap fun o => o :
        List Obj) }

/-- A delivery, or the end of the innermost callback. -/
inductive Act where
  | deliver (d : Delivery)
  -- the innermost callback returns or raises
  | ret (result : Result)

/-- One of them, where it is possible. -/
def step (s : St) : Act → Option St
  | .deliver d =>
    if s.crashed then none
    else
      match h : d.trampoline with
      | none => some { s with crashed := true }
      | some t =>
        let u := { s with next := s.next + 1, held := s.held + t.owned s.next }
        if t.calls.isSome then some { u with frames := ⟨s.next, d, t, h⟩ :: s.frames }
        else some (finish u s.next t .NULL)
  | .ret result =>
    if s.crashed then none
    else
      match s.frames with
      | f :: rest => some (finish { s with frames := rest } f.id f.trampoline result)
      | [] => none

/-! ## The contract -/

/-- The references of the trampolines that run. -/
def in_flight (frames : List Frame) : Multiset Obj :=
  (frames.map fun f => f.trampoline.owned f.id).sum

/-- Nothing is held for the deliveries that are done, however many there were. -/
structure Contract (s : St) : Prop where
  held : s.held = in_flight s.frames
  running : s.crashed = false

/-- The delivery is not cleaned up after, or ends the process. -/
def Delivery.leaks : Delivery → Prop
  | .poll _ _ | .signal _ | .fspoll _ _ _ => True
  | .fsevent filename _ _ => filename = some .other
  | .udp_recv nread addr flags => ¬(nread = 0 ∧ addr = none ∧ flags = 0)
  | .process_exit _ _ callback => callback = false
  | .check_signals status events => status = 0 ∧ events ≠ UV_READABLE
  | _ => False

/-- The delivery whose trampoline comes to its end in the step. -/
def Act.completes (s : St) : Act → Option Delivery
  | .deliver d =>
    if d.trampoline.any fun t => t.calls.isSome then none else some d
  | .ret _ => s.frames.head?.map Frame.delivery

/-! ## Which trampolines are tidy -/

/-- Each object is created, and released once. -/
structure Trampoline.Tidy (t : Trampoline) : Prop where
  names : (t.owns.map Prod.fst).Nodup
  releases : t.releases.Perm (t.owns.map Prod.fst)
  created : ∀ p ∈ t.owns, p.2 ≠ .NULL

section

variable {t : Trampoline} {id : Nat} {x : Local} {v : Value}

theorem obj_eq_none : v.obj? id x = none ↔ v = .NULL := by
  cases v <;> simp [Value.obj?]

theorem lookup_of_mem {owns : List (Local × Value)} (hnames : (owns.map Prod.fst).Nodup)
    (hmem : (x, v) ∈ owns) : owns.lookup x = some v := by
  induction owns with
  | nil => cases hmem
  | cons p owns ih =>
    obtain ⟨y, w⟩ := p
    rw [List.map_cons, List.nodup_cons] at hnames
    rcases List.mem_cons.mp hmem with heq | hrest
    · cases heq
      rw [List.lookup_cons_self]
    · have hne : (x == y) = false := by
        rw [beq_eq_false_iff_ne]
        rintro rfl
        exact hnames.1 (List.mem_map.mpr ⟨(x, v), hrest, rfl⟩)
      rw [List.lookup_cons, hne]
      exact ih hnames.2 hrest

/-- A tidy trampoline releases what it owns. -/
theorem Trampoline.Tidy.released (ht : t.Tidy) (id : Nat) :
    none ∉ t.released id ∧ ((t.released id).filterMap fun o => o : List Obj) = t.owned id := by
  have hobj : ∀ p ∈ t.owns, (t.owns.lookup p.1).bind (Value.obj? id p.1) = p.2.obj? id p.1 := by
    intro p hp
    rw [lookup_of_mem ht.names hp]
    rfl
  have hnames : (t.owns.map Prod.fst).map (fun x => (t.owns.lookup x).bind (Value.obj? id x)) =
      t.owns.map fun p => p.2.obj? id p.1 := by
    rw [List.map_map]
    exact List.map_congr_left hobj
  have hperm : (t.released id).Perm (t.owns.map fun p => p.2.obj? id p.1) := by
    rw [← hnames]
    exact ht.releases.map _
  constructor
  · intro hnone
    obtain ⟨p, hp, hnull⟩ := List.mem_map.mp (hperm.mem_iff.mp hnone)
    exact ht.created p hp (obj_eq_none.mp hnull)
  · unfold Trampoline.owned
    rw [Multiset.coe_eq_coe]
    have hfilter := hperm.filterMap fun o => o
    rwa [List.filterMap_map] at hfilter

theorem card_owned (hcreated : ∀ p ∈ t.owns, p.2 ≠ .NULL) :
    (t.owned id).card = t.owns.length := by
  unfold Trampoline.owned
  rw [Multiset.coe_card, List.length_filterMap_eq_countP, List.countP_eq_length]
  intro p hp
  rw [Option.isSome_iff_ne_none, Ne, obj_eq_none]
  exact hcreated p hp

theorem self_alone_tidy (callback : Bool) : (self_alone callback).Tidy :=
  ⟨List.nodup_nil, List.Perm.refl [], fun p hp => by cases hp⟩

theorem errorno_alone_tidy (hv : v ≠ .NULL) : (errorno_alone v).Tidy := by
  refine ⟨List.nodup_singleton _, List.Perm.refl _, fun p hp => ?_⟩
  rw [List.mem_singleton.mp hp]
  exact hv

theorem status_or_None_ne (status : Int) : status_or_None status ≠ .NULL := by
  unfold status_or_None
  split <;> simp

theorem error_or_None_ne (status : Int) : error_or_None status ≠ .NULL := by
  unfold error_or_None
  split <;> simp

theorem completion_tidy (status : Int) (callback : Bool) : (completion status callback).Tidy := by
  unfold completion
  split
  · exact errorno_alone_tidy (error_or_None_ne status)
  · exact self_alone_tidy false

theorem fsevent_tidy {filename : Option Filename} {events status : Int}
    (hname : filename ≠ some .other) : (pyuv__fsevent_cb filename events status).Tidy := by
  refine ⟨by simp [pyuv__fsevent_cb], ?_, ?_⟩
  · change ([Local.py_events] ++ [Local.py_filename, Local.errorno]).Perm
      ([Local.py_filename, Local.errorno] ++ [Local.py_events])
    exact List.perm_append_comm
  · intro p hp
    simp only [pyuv__fsevent_cb, List.mem_cons, List.not_mem_nil, or_false] at hp
    rcases hp with rfl | rfl | rfl
    · cases filename with
      | none => simp
      | some filename =>
        cases filename with
        | utf8 => simp [Py_BuildValue_s]
        | other => exact absurd rfl hname
    · exact error_or_None_ne status
    · simp

theorem stream_read_tidy (nread : Int) : (pyuv__stream_read_cb nread).Tidy := by
  unfold pyuv__stream_read_cb
  split
  · exact ⟨by simp, List.Perm.refl _, by simp⟩
  · exact ⟨by simp, List.Perm.refl _, by simp⟩

/-- More is owned than is released, or something released is not there. -/
def Trampoline.Leaks (id : Nat) (t : Trampoline) : Prop :=
  none ∈ t.released id ∨ t.releases.length < (t.owned id).card

theorem leaks_of_length (hcreated : ∀ p ∈ t.owns, p.2 ≠ .NULL)
    (hlen : t.releases.length < t.owns.length) : t.Leaks id := by
  right
  rwa [card_owned hcreated]

theorem poll_leaks (status events : Int) : (pyuv__poll_cb status events).Leaks id := by
  unfold pyuv__poll_cb
  split
  · exact leaks_of_length (by simp) (by simp)
  · exact leaks_of_length (by simp) (by simp)

theorem signal_leaks (signum : Int) : (pyuv__signal_cb signum).Leaks id :=
  leaks_of_length (by simp [pyuv__signal_cb]) (by simp [pyuv__signal_cb])

theorem fspoll_leaks (status : Int) (alloc_prev alloc_curr : Bool) :
    (pyuv__fspoll_cb status alloc_prev alloc_curr).Leaks id := by
  unfold pyuv__fspoll_cb
  split
  · exact leaks_of_length (by simp) (by simp)
  · cases alloc_prev <;> cases alloc_curr <;> exact leaks_of_length (by simp) (by simp)

theorem fsevent_leaks (events status : Int) :
    (pyuv__fsevent_cb (some .other) events status).Leaks id := by
  left
  simp [Trampoline.released, pyuv__fsevent_cb, Py_BuildValue_s, Value.obj?, List.lookup_cons]

theorem udp_recv_leaks (id : Nat) {nread : Int} {addr : Option Bool} {flags : Nat}
    (ht : pyuv__udp_recv_cd nread addr flags = some t) :
    (¬(nread = 0 ∧ addr = none ∧ flags = 0) → t.Leaks id) ∧
    ((nread = 0 ∧ addr = none ∧ flags = 0) → t.Tidy) := by
  unfold pyuv__udp_recv_cd at ht
  split at ht
  · cases ht
  · rename_i hflags
    rw [not_not] at hflags
    split at ht
    · rename_i hagain
      cases ht
      exact ⟨fun hnot => absurd ⟨hagain.1, hagain.2, hflags⟩ hnot, fun _ => self_alone_tidy false⟩
    · rename_i hdata
      refine ⟨fun _ => ?_, fun hagain => absurd ⟨hagain.1, hagain.2.1⟩ hdata⟩
      dsimp only at ht
      split at ht
      · rw [Option.map_eq_some_iff] at ht
        obtain ⟨known, -, rfl⟩ := ht
        cases known <;> exact leaks_of_length (by simp) (by simp)
      · cases ht
        exact leaks_of_length (by simp) (by simp)

theorem process_exit_leaks (exit_status term_signal : Int) :
    (pyuv__process_exit_cb exit_status term_signal false).Leaks id :=
  leaks_of_length (by simp [pyuv__process_exit_cb]) (by simp [pyuv__process_exit_cb])

theorem process_exit_tidy (exit_status term_signal : Int) :
    (pyuv__process_exit_cb exit_status term_signal true).Tidy :=
  ⟨by simp [pyuv__process_exit_cb], List.Perm.refl _, by simp [pyuv__process_exit_cb]⟩

/-- A trampoline that does not leak is tidy. -/
theorem tidy_or_leaks {d : Delivery} (id : Nat) (ht : d.trampoline = some t) :
    (¬d.leaks → t.Tidy) ∧ (d.leaks → t.Leaks id) := by
  have htidy : t.Tidy → ¬d.leaks → (¬d.leaks → t.Tidy) ∧ (d.leaks → t.Leaks id) :=
    fun h hnot => ⟨fun _ => h, fun hleaks => absurd hleaks hnot⟩
  have hleaks : t.Leaks id → d.leaks → (¬d.leaks → t.Tidy) ∧ (d.leaks → t.Leaks id) :=
    fun h hleaks => ⟨fun hnot => absurd hleaks hnot, fun _ => h⟩
  cases d with
  | timer =>
    cases ht
    exact htidy (self_alone_tidy true) not_false
  | idle =>
    cases ht
    exact htidy (self_alone_tidy true) not_false
  | check =>
    cases ht
    exact htidy (self_alone_tidy true) not_false
  | prepare =>
    cases ht
    exact htidy (self_alone_tidy true) not_false
  | async callback =>
    cases ht
    exact htidy (self_alone_tidy callback) not_false
  | close callback =>
    cases ht
    exact htidy (self_alone_tidy callback) not_false
  | poll status events =>
    cases ht
    exact hleaks (poll_leaks status events) trivial
  | signal signum =>
    cases ht
    exact hleaks (signal_leaks signum) trivial
  | fsevent filename events status =>
    cases ht
    by_cases hname : filename = some .other
    · subst hname
      exact hleaks (fsevent_leaks events status) rfl
    · exact htidy (fsevent_tidy hname) hname
  | fspoll status alloc_prev alloc_curr =>
    cases ht
    exact hleaks (fspoll_leaks status alloc_prev alloc_curr) trivial
  | tcp_listen status =>
    cases ht
    exact htidy (errorno_alone_tidy (status_or_None_ne status)) not_false
  | pipe_listen status =>
    cases ht
    exact htidy (errorno_alone_tidy (status_or_None_ne status)) not_false
  | tcp_connect status =>
    cases ht
    exact htidy (errorno_alone_tidy (status_or_None_ne status)) not_false
  | pipe_connect status =>
    cases ht
    exact htidy (errorno_alone_tidy (status_or_None_ne status)) not_false
  | pipe_connect_abstract =>
    cases ht
    exact htidy ⟨by simp [pyuv__pipe_connect_abstract_cb], List.Perm.refl _,
      by simp [pyuv__pipe_connect_abstract_cb]⟩ not_false
  | stream_read nread =>
    cases ht
    exact htidy (stream_read_tidy nread) not_false
  | stream_write status callback =>
    cases ht
    exact htidy (completion_tidy status callback) not_false
  | stream_shutdown status callback =>
    cases ht
    exact htidy (completion_tidy status callback) not_false
  | udp_send status callback =>
    cases ht
    exact htidy (completion_tidy status callback) not_false
  | udp_recv nread addr flags =>
    obtain ⟨hbad, hgood⟩ := udp_recv_leaks id ht
    exact ⟨fun hnot => hgood (not_not.mp hnot), hbad⟩
  | process_exit exit_status term_signal callback =>
    cases ht
    cases callback with
    | true => exact htidy (process_exit_tidy exit_status term_signal) (by simp [Delivery.leaks])
    | false => exact hleaks (process_exit_leaks exit_status term_signal) rfl
  | check_signals status events =>
    have ht' : pyuv__check_signals status events = some t := ht
    unfold pyuv__check_signals at ht'
    split at ht'
    · cases ht'
    · rename_i hok
      cases ht'
      exact htidy (self_alone_tidy false) hok

/-! ## The runs -/

/-- A trampoline that comes to its end, with the others as they were. -/
theorem finish_contract_iff {s : St} {d : Delivery} (id : Nat) (result : Result)
    (hheld : s.held = in_flight s.frames + t.owned id) (hrunning : s.crashed = false)
    (ht : d.trampoline = some t) : Contract (finish s id t result) ↔ ¬d.leaks := by
  obtain ⟨htidy, hleaks⟩ := tidy_or_leaks id ht
  unfold finish
  constructor
  · intro hc hd
    rcases hleaks hd with hnull | hlen
    · rw [if_pos hnull] at hc
      exact absurd hc.running (by simp)
    · split at hc
      · exact absurd hc.running (by simp)
      · have hsame := hc.held
        dsimp only at hsame
        rw [Multiset.add_sub_cancel_right, hheld] at hsame
        have hle :=
          Multiset.card_le_card (Multiset.le_sub_add (s := in_flight s.frames + t.owned id)
          (t := ((t.released id).filterMap fun o => o : List Obj)))
        have hreleased : ((t.released id).filterMap fun o => o).length ≤ t.releases.length := by
          refine le_trans (List.length_filterMap_le _ _) ?_
          unfold Trampoline.released
          rw [List.length_map]
        rw [hsame, Multiset.card_add, Multiset.card_add, Multiset.coe_card] at hle
        omega
  · intro hnot
    obtain ⟨hsome, hreleased⟩ := (htidy hnot).released id
    rw [if_neg hsome]
    refine ⟨?_, hrunning⟩
    dsimp only
    rw [hreleased, Multiset.add_sub_cancel_right, hheld, Multiset.add_sub_cancel_right]

theorem in_flight_cons (f : Frame) (frames : List Frame) :
    in_flight (f :: frames) = in_flight frames + f.trampoline.owned f.id := by
  unfold in_flight
  rw [List.map_cons, List.sum_cons, add_comm]

/-- Only what comes to its end in the step matters. -/
theorem step_contract_iff {s u : St} {a : Act} (hc : Contract s) (hstep : step s a = some u) :
    Contract u ↔ ∀ d, a.completes s = some d → ¬d.leaks := by
  unfold step at hstep
  cases a with
  | deliver d =>
    dsimp only at hstep
    rw [if_neg (by simp [hc.running])] at hstep
    unfold Act.completes
    dsimp only
    split at hstep
    · rename_i hnone
      cases hstep
      rw [hnone]
      refine iff_of_false (fun hcontract => absurd hcontract.running (by simp)) fun hall => ?_
      apply hall d rfl
      -- an assertion fails only where the delivery counts as one that leaks
      cases d with
      | udp_recv nread addr flags =>
        rintro ⟨rfl, rfl, rfl⟩
        cases hnone
      | check_signals status events =>
        have hnone' : pyuv__check_signals status events = none := hnone
        unfold pyuv__check_signals at hnone'
        split at hnone'
        · rename_i hassert
          exact hassert
        · cases hnone'
      | _ => cases hnone
    · rename_i t ht
      rw [ht, Option.any_some]
      split at hstep
      · rename_i hcalls
        cases hstep
        rw [if_pos hcalls]
        refine iff_of_true ⟨?_, hc.running⟩ (fun d hd => by cases hd)
        dsimp only
        rw [in_flight_cons, hc.held]
      · rename_i hcalls
        cases hstep
        rw [if_neg hcalls]
        have hfinish := finish_contract_iff s.next .NULL (d := d) (t := t)
          (s := { s with next := s.next + 1, held := s.held + t.owned s.next })
          (by dsimp only; rw [hc.held]) hc.running ht
        rw [hfinish]
        exact ⟨fun hnot d' hd' => Option.some.inj hd' ▸ hnot, fun hall => hall d rfl⟩
  | ret result =>
    dsimp only at hstep
    rw [if_neg (by simp [hc.running])] at hstep
    split at hstep
    · rename_i f rest hframes
      cases hstep
      unfold Act.completes
      dsimp only
      rw [hframes, List.head?_cons, Option.map_some]
      have hheld : s.held = in_flight rest + f.trampoline.owned f.id := by
        rw [hc.held, hframes, in_flight_cons]
      rw [finish_contract_iff (s := { s with frames := rest }) f.id result hheld hc.running
        f.of_delivery]
      exact ⟨fun hnot d hd => Option.some.inj hd ▸ hnot, fun hall => hall f.delivery rfl⟩
    · cases hstep

end

/-- After any number of deliveries nothing is held but by the trampolines that still run, in
exactly those runs in which no delivery that comes to its end leaks. -/
theorem deliveries_leave_no_references_iff (as : List Act) :
    runs.Always step Contract start as ↔
      runs.Meets step (fun s a => ∀ d, a.completes s = some d → ¬d.leaks) start as := by
  refine runs.always_iff_meets (I := Contract) ?_ ?_ as ⟨rfl, rfl⟩ ⟨rfl, rfl⟩
  · intro s a u hc hok hstep
    exact (step_contract_iff hc hstep).mpr hok
  · intro s a u hc hstep
    exact step_contract_iff hc hstep

/-- One readable event of a Poll, and its callback returns None. -/
theorem a_poll_event_leaves_two_references :
    ¬∀ as : List Act, runs.Always step Contract start as := by
  intro hclaim
  let as : List Act := [.deliver (.poll 0 1), .ret .Py_None]
  have hlast := runs.always_iff_exec.mp (hclaim as) as _ (List.prefix_refl as) rfl
  have hcard := congrArg Multiset.card hlast.held
  exact absurd hcard (by decide)

end pyuv.trampolines
