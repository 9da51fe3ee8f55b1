-- Pipe.connect under its two names (src/pipe.c, src/abstract.c): an ordinary name goes through
-- a connect request of libuv (deps/libuv/src/unix/pipe.c, stream.c), an abstract one is
-- connected at once and reported by a timer of the extension's own.
import Pyuv.Lib.Runs
import Pyuv.Lib.Tickets
import Pyuv.Handle

set_option linter.style.nameCheck false

namespace pyuv.pipe_connect

open handle (Ret)
open tickets

/-! ## The state -/

/-- A connect callback that runs. `destroy` is one that libuv calls while it finishes the
close of the pipe. -/
structure Running where
  id : Nat
  destroy : Bool
deriving DecidableEq, Repr

/-- A call of the connect callback: the status it was given, with 0 for None, the outcome of
the connect, and whether the pipe had been asked to close. -/
structure Report where
  id : Nat
  status : Int
  outcome : Int
  closing : Bool
deriving DecidableEq, Repr

/-- An initialized pipe. The calls of connect that go through are numbered. -/
structure St where
  -- the pipe has a descriptor
  fd : Bool
  closing : Bool
  -- uv__finish_close has begun, and pyuv__handle_close_cb has set `loop` to None
  destroying : Bool
  closed : Bool
  next : Nat
  connect_req : Option Nat
  delayed_error : Int
  -- the timers of the abstract names that are not due yet
  timers : List Nat
  running : List Running
  -- the references that connect has taken to the pipe and to its callbacks
  self_refs : Nat
  callback_refs : Nat
  reports : List Report
  -- what was raised after an attempt to connect
  raised : List PyErr
  -- the callbacks whose exception went to the excepthook of the loop, or did not
  hooked : List Nat
  unhooked : List Nat
deriving DecidableEq, Repr

/-- A pipe on which nothing was called. -/
def start : St where
  fd := false
  closing := false
  destroying := false
  closed := false
  next := 0
  connect_req := none
  delayed_error := 0
  timers := []
  running := []
  self_refs := 0
  callback_refs := 0
  reports := []
  raised := []
  hooked := []
  unhooked := []

/-! ## The calls -/

def UV_EINPROGRESS : Int := -115

/-- PyErr_NoMemory -/
def no_memory : PyErr := .cpython .MemoryError

/-- The references of a call that has gone through. -/
def submit (s : St) : St :=
  { s with
    next := s.next + 1, self_refs := s.self_refs + 1, callback_refs := s.callback_refs + 1 }

/-- `sock` is the error of uv__socket and `conn` that of connect(2), or 0. The request is
stored in the one place for it, whatever was there. -/
def uv_pipe_connect (s : St) (sock conn : Int) : St :=
  let new_sock := !s.fd
  if new_sock ∧ sock < 0 then { s with delayed_error := sock, connect_req := some s.next }
  else
    let s := { s with fd := true }
    { s with
      delayed_error := if conn = UV_EINPROGRESS then 0 else conn, connect_req := some s.next }

/-- `nonblock` is the error of uv__nonblock, or 0. -/
def uv_pipe_open (s : St) (nonblock : Int) : Int × St :=
  if nonblock < 0 then (nonblock, s)
  else if s.fd then (UV_EBUSY, s)
  else (0, { s with fd := true })

/-- An exception where the callback should be told. -/
def raise_outcome (s : St) (e : PyErr) :
    Ret × St := (.raise e, { s with raised := s.raised ++ [e] })

/-- The socket is made and connected by hand, and a timer is started for the callback. -/
def Pipe_func_connect_abstract (s : St) (sock conn nonblock : Int) (alloc : Bool) : Ret × St :=
  if sock < 0 then raise_outcome s (.uv .PipeError sock)
  else if conn < 0 then raise_outcome s (.uv .PipeError conn)
  else
    let (err, s) := uv_pipe_open s nonblock
    if err < 0 then raise_outcome s (.uv .PipeError err)
    else if !alloc then raise_outcome s no_memory
    else (.ok, { submit s with timers := s.timers ++ [s.next] })

/-- The name as far as it matters: it is not empty and begins with a null byte, or not. -/
inductive Name where
  | ordinary
  | abstract
deriving DecidableEq, Repr

/-- The method by the kind of its name. -/
def Pipe_func_connect (s : St) (name : Name) (callback : CallbackArg) (sock conn nonblock : Int)
    (alloc : Bool) : Ret × St :=
  if s.closing then (.raise .handle_closed, s)
  else if callback ≠ .callable then (.raise (.text .TypeError "a callable is required"), s)
  else
    match name with
    | .abstract => Pipe_func_connect_abstract s sock conn nonblock alloc
    | .ordinary =>
      if !alloc then (.raise no_memory, s) else (.ok, submit (uv_pipe_connect s sock conn))

/-- The stream gives up its descriptor at once. -/
def Handle_func_close (s : St) : Ret × St :=
  if s.closing then (.raise .handle_closed, s) else (.ok, { s with closing := true, fd := false })

/-! ## The callbacks -/

/-- The call of the connect callback of request `id`. -/
def call_back (s : St) (id : Nat) (status outcome : Int) (destroy : Bool) : St :=
  { s with
    reports := s.reports ++ [⟨id, status, outcome, s.closing⟩]
    running := ⟨id, destroy⟩ :: s.running }

/-- uv__stream_connect. `os` is the error of the socket, or 0. -/
def uv__stream_connect (s : St) (id : Nat) (os : Int) : St :=
  let error := if s.delayed_error ≠ 0 then s.delayed_error else os
  if error = UV_EINPROGRESS then { s with delayed_error := 0 }
  else call_back { s with delayed_error := 0, connect_req := none } id error error false

/-- The rest of pyuv__pipe_connect_cb and pyuv__pipe_connect_abstract_cb. The hook is looked
up on the `loop` of the pipe. -/
def callback_returns (s : St) (id : Nat) (raises : Bool) : St :=
  let s :=
    if raises then
      if s.closed then { s with unhooked := s.unhooked ++ [id] }
      else { s with hooked := s.hooked ++ [id] }
    else s
  { s with callback_refs := s.callback_refs - 1, self_refs := s.self_refs - 1 }

/-! ## The steps -/

/-- The calls of the program, the steps of the loop, and the returns of the callbacks. -/
inductive Act where
  | connect (name : Name) (callback : CallbackArg) (sock conn nonblock : Int) (alloc : Bool)
  | close
  -- another method gives the pipe a descriptor
  | got_fd
  -- libuv: the descriptor is ready or an error waits, a timer is due, the close is finished
  | connected (os : Int)
  | timer
  | destroy
  | finish
  -- the innermost connect callback returns, or raises
  | ret (raises : Bool)

/-- What the system answers: 0 or an error. -/
def Act.possible : Act → Bool
  | .connect _ _ sock conn nonblock _ => sock ≤ 0 ∧ conn ≤ 0 ∧ nonblock ≤ 0
  | .connected os => os ≤ 0
  | _ => true

/-- One act, where the pipe and its requests allow it. -/
def run (s : St) : Act → Option St
  | .connect name callback sock conn nonblock alloc =>
    some (Pipe_func_connect s name callback sock conn nonblock alloc).2
  | .close => some (Handle_func_close s).2
  | .got_fd => if s.closing then none else some { s with fd := true }
  | .connected os =>
    match s.connect_req with
    | some id => if s.closing then none else some (uv__stream_connect s id os)
    | none => none
  | .timer =>
    -- the callback is told of no error in any case
    match s.timers with
    | id :: rest => some (call_back { s with timers := rest } id 0 0 false)
    | [] => none
  | .destroy =>
    if s.closing ∧ s.destroying = false then
      match s.connect_req with
      | some id =>
        some (call_back { s with destroying := true, connect_req := none } id UV_ECANCELED
          s.delayed_error true)
      | none => some { s with destroying := true }
    else none
  | .finish =>
    -- the callback of a connect that the close has cancelled has returned
    if s.destroying ∧ s.closed = false ∧ ∀ r ∈ s.running, r.destroy = false then
      some { s with closed := true }
    else none
  | .ret raises =>
    match s.running with
    | r :: rest => some (callback_returns { s with running := rest } r.id raises)
    | [] => none

/-- One act, where the arguments are such as the system can give. -/
def step (s : St) (a : Act) : Option St := if a.possible then run s a else none

/-! ## The contract -/

/-- The connects whose callback is still to come. -/
def pending (s : St) : Multiset Nat :=
  ((s.timers ++ s.connect_req.toList : List Nat) : Multiset Nat)

/-- The connects whose callback was called. -/
def reported (s : St) : Multiset Nat := (s.reports.map Report.id : List Nat)

/-- A pipe that was closed first reports that, any other one the outcome. -/
def Report.right (r : Report) : Prop := r.status = if r.closing then UV_ECANCELED else r.outcome

/-- A step of the loop that nothing but time stands in the way of. -/
def Act.of_loop : Act → Bool
  | .connected _ | .timer | .destroy => true
  | _ => false

/-- What a connect promises, under either name. -/
structure Contract (s : St) : Prop where
  -- each call waits for its callback or has had it, once, and does not wait for ever
  once : Tally s.next (reported s) (pending s)
  due : ∀ id ∈ pending s, ∃ as t, (∀ a ∈ as, Act.of_loop a = true) ∧
    runs.exec step s as = some t ∧ id ∈ reported t
  right : ∀ r ∈ s.reports, r.right
  not_raised : s.raised = []
  hooked : s.unhooked = []
  -- whatever the name, the references of those that wait or run
  references : s.self_refs = (pending s).card + s.running.length ∧
    s.callback_refs = (pending s).card + s.running.length

/-- What each step must not meet. -/
def Act.breaks (s : St) : Act → Prop
  | .connect .abstract callback sock conn nonblock alloc =>
    s.closing = false ∧ callback = .callable ∧
      (sock < 0 ∨ conn < 0 ∨ nonblock < 0 ∨ s.fd = true ∨ alloc = false)
  | .connect .ordinary callback _ _ _ alloc =>
    s.closing = false ∧ callback = .callable ∧ alloc = true ∧ s.connect_req ≠ none
  | .timer => s.closing = true
  | .ret raises => raises = true ∧ s.closed = true
  | _ => False

/-! ## What each step keeps -/

/-- The contract, but for the end of waiting, with what closing has come to. -/
structure Inv (s : St) : Prop where
  once : Tally s.next (reported s) (pending s)
  right : ∀ r ∈ s.reports, r.right
  not_raised : s.raised = []
  hooked : s.unhooked = []
  references : s.self_refs = (pending s).card + s.running.length ∧
    s.callback_refs = (pending s).card + s.running.length
  destroyed : s.destroying = true → s.closing = true ∧ s.connect_req = none

theorem start_inv : Inv start :=
  ⟨rfl, fun _ h => (nomatch h), rfl, rfl, ⟨rfl, rfl⟩, fun h => (nomatch h)⟩

section

variable {s t : St} {id : Nat}

theorem reported_call_back (s : St) (id : Nat) (status outcome : Int) (destroy : Bool) :
    reported (call_back s id status outcome destroy) = reported s + {id} := by
  unfold reported call_back
  rw [List.map_append, ← Multiset.coe_add]
  rfl

/-- A call that waits for its callback in a timer, or in libuv. -/
theorem mem_pending : id ∈ pending s ↔ id ∈ s.timers ∨ s.connect_req = some id := by
  unfold pending
  rw [Multiset.mem_coe, List.mem_append, Option.mem_toList]

/-- The callback of a waiting call is called, with the right status. -/
theorem call_back_inv {status outcome : Int} {destroy : Bool} (hi : Inv s)
    (hpending : pending s = pending t + {id})
    (hsame : t.next = s.next ∧ t.reports = s.reports ∧ t.raised = s.raised ∧
      t.unhooked = s.unhooked ∧ t.running = s.running ∧ t.self_refs = s.self_refs ∧
      t.callback_refs = s.callback_refs)
    (hright : status = if t.closing then UV_ECANCELED else outcome)
    (hdestroyed : t.destroying = true → t.closing = true ∧ t.connect_req = none) :
    Inv (call_back t id status outcome destroy) := by
  obtain ⟨hnext, hreports, hraised, hunhooked, hrunning, hself, hcallback⟩ := hsame
  have hcard : (pending s).card = (pending t).card + 1 := by
    rw [hpending, Multiset.card_add, Multiset.card_singleton]
  have hwaiting : pending (call_back t id status outcome destroy) = pending t := rfl
  refine ⟨?_, ?_, hraised.trans hi.not_raised, hunhooked.trans hi.hooked, ?_, hdestroyed⟩
  · rw [hwaiting, reported_call_back]
    have honce := hi.once
    rw [hpending] at honce
    have hsame : reported t = reported s := by
      unfold reported
      rw [hreports]
    rw [hsame]
    exact hnext ▸ honce.serve
  · intro r hr
    rcases List.mem_append.mp hr with hold | hnew
    · exact hi.right r (hreports ▸ hold)
    · rw [List.mem_singleton.mp hnew]
      exact hright
  · obtain ⟨hs, hc⟩ := hi.references
    rw [hwaiting]
    have hlength : (call_back t id status outcome destroy).running.length =
        s.running.length + 1 := by
      rw [← hrunning]
      rfl
    have hself' : (call_back t id status outcome destroy).self_refs = s.self_refs := hself
    have hcallback' : (call_back t id status outcome destroy).callback_refs = s.callback_refs :=
      hcallback
    omega

theorem connected_inv (hi : Inv s) (hreq : s.connect_req = some id) (hopen : s.closing = false)
    (os : Int) : Inv (uv__stream_connect s id os) := by
  unfold uv__stream_connect
  dsimp only
  generalize (if s.delayed_error ≠ 0 then s.delayed_error else os) = error
  split
  · exact ⟨hi.once, hi.right, hi.not_raised, hi.hooked, hi.references, hi.destroyed⟩
  · refine call_back_inv hi ?_ ⟨rfl, rfl, rfl, rfl, rfl, rfl, rfl⟩ ?_ ?_
    · unfold pending
      rw [hreq, ← Multiset.coe_add]
      simp
    · dsimp only
      rw [hopen]
      rfl
    · intro hdestroying
      exact ⟨(hi.destroyed hdestroying).1, rfl⟩

theorem timer_inv {rest : List Nat} (hi : Inv s) (htimers : s.timers = id :: rest)
    (hopen : s.closing = false) : Inv (call_back { s with timers := rest } id 0 0 false) := by
  refine call_back_inv hi ?_ ⟨rfl, rfl, rfl, rfl, rfl, rfl, rfl⟩ ?_ hi.destroyed
  · unfold pending
    rw [htimers, List.cons_append, ← Multiset.cons_coe, add_comm, Multiset.singleton_add]
  · dsimp only
    rw [hopen]
    rfl

theorem destroy_inv (hi : Inv s) (hclosing : s.closing = true) (hreq : s.connect_req = some id) :
    Inv (call_back { s with destroying := true, connect_req := none } id UV_ECANCELED
      s.delayed_error true) := by
  refine call_back_inv hi ?_ ⟨rfl, rfl, rfl, rfl, rfl, rfl, rfl⟩ ?_ fun _ => ⟨hclosing, rfl⟩
  · unfold pending
    rw [hreq, ← Multiset.coe_add]
    simp
  · dsimp only
    rw [hclosing]
    rfl

theorem returns_inv {r : Running} {rest : List Running} {raises : Bool} (hi : Inv s)
    (hrunning : s.running = r :: rest) (hok : ¬(raises = true ∧ s.closed = true)) :
    Inv (callback_returns { s with running := rest } r.id raises) := by
  obtain ⟨hself, hcallback⟩ := hi.references
  rw [hrunning, List.length_cons] at hself hcallback
  have hgiven : ∀ hooks : List Nat, Inv { s with
      running := rest, hooked := hooks, callback_refs := s.callback_refs - 1
      self_refs := s.self_refs - 1 } := by
    intro hooks
    refine ⟨hi.once, hi.right, hi.not_raised, hi.hooked, ⟨?_, ?_⟩, hi.destroyed⟩
    · have hsame : pending { s with
          running := rest, hooked := hooks, callback_refs := s.callback_refs - 1
          self_refs := s.self_refs - 1 } = pending s := rfl
      dsimp only
      rw [hsame]
      omega
    · have hsame : pending { s with
          running := rest, hooked := hooks, callback_refs := s.callback_refs - 1
          self_refs := s.self_refs - 1 } = pending s := rfl
      dsimp only
      rw [hsame]
      omega
  unfold callback_returns
  dsimp only
  split
  · rename_i hraises
    have hopen : s.closed = false := by
      by_contra hclosed
      exact hok ⟨hraises, by simpa using hclosed⟩
    rw [if_neg (by simp [hopen])]
    exact hgiven _
  · exact hgiven _

theorem submit_inv (hi : Inv s) (hpending : pending t = pending s + {s.next})
    (hsame : t.next = s.next + 1 ∧ t.reports = s.reports ∧ t.raised = s.raised ∧
      t.unhooked = s.unhooked ∧ t.running = s.running ∧ t.self_refs = s.self_refs + 1 ∧
      t.callback_refs = s.callback_refs + 1)
    (hdestroyed : t.destroying = true → t.closing = true ∧ t.connect_req = none) : Inv t := by
  obtain ⟨hnext, hreports, hraised, hunhooked, hrunning, hself, hcallback⟩ := hsame
  obtain ⟨hs, hc⟩ := hi.references
  refine ⟨?_, ?_, hraised.trans hi.not_raised, hunhooked.trans hi.hooked, ?_, hdestroyed⟩
  · have hsame : reported t = reported s := by
      unfold reported
      rw [hreports]
    rw [hsame, hnext, hpending]
    exact hi.once.issue
  · rw [hreports]
    exact hi.right
  · rw [hpending, Multiset.card_add, Multiset.card_singleton, hrunning, hself, hcallback]
    omega

/-! ## The steps -/

theorem abstract_spec (sock conn nonblock : Int) (alloc : Bool) (hi : Inv s) :
    (¬(sock < 0 ∨ conn < 0 ∨ nonblock < 0 ∨ s.fd = true ∨ alloc = false) →
      Inv (Pipe_func_connect_abstract s sock conn nonblock alloc).2) ∧
    ((sock < 0 ∨ conn < 0 ∨ nonblock < 0 ∨ s.fd = true ∨ alloc = false) →
      (Pipe_func_connect_abstract s sock conn nonblock alloc).2.raised ≠ []) := by
  have hraised : ∀ (u : St) (e : PyErr), (raise_outcome u e).2.raised ≠ [] := by
    intro u e
    exact List.append_ne_nil_of_right_ne_nil u.raised (List.cons_ne_nil e [])
  unfold Pipe_func_connect_abstract
  by_cases hsock : sock < 0
  · rw [if_pos hsock]
    exact ⟨fun hok => absurd (Or.inl hsock) hok, fun _ => hraised _ _⟩
  rw [if_neg hsock]
  by_cases hconn : conn < 0
  · rw [if_pos hconn]
    exact ⟨fun hok => absurd (Or.inr (Or.inl hconn)) hok, fun _ => hraised _ _⟩
  rw [if_neg hconn]
  unfold uv_pipe_open
  by_cases hnonblock : nonblock < 0
  · rw [if_pos hnonblock]
    dsimp only
    rw [if_pos hnonblock]
    exact ⟨fun hok => absurd (Or.inr (Or.inr (Or.inl hnonblock))) hok, fun _ => hraised _ _⟩
  rw [if_neg hnonblock]
  by_cases hfd : s.fd = true
  · rw [if_pos hfd]
    exact ⟨fun hok => absurd (by simp [hfd]) hok, fun _ => hraised _ _⟩
  rw [if_neg hfd]
  dsimp only
  rw [if_neg (by simp)]
  by_cases halloc : alloc = false
  · rw [if_pos (by simp [halloc])]
    exact ⟨fun hok => absurd (by simp [halloc]) hok, fun _ => hraised _ _⟩
  rw [if_neg (by simpa using halloc)]
  refine ⟨fun _ => ?_, fun hfails => ?_⟩
  · refine submit_inv hi ?_ ⟨rfl, rfl, rfl, rfl, rfl, rfl, rfl⟩ hi.destroyed
    change ((((s.timers ++ [s.next]) ++ s.connect_req.toList : List Nat)) : Multiset Nat) =
      ((s.timers ++ s.connect_req.toList : List Nat) : Multiset Nat) + {s.next}
    rw [← Multiset.coe_add, ← Multiset.coe_add, ← Multiset.coe_add, Multiset.coe_singleton,
      add_right_comm]
  · simp [hsock, hconn, hnonblock, hfd, halloc] at hfails

/-- uv_pipe_connect leaves the request in its place, whatever becomes of the connect. -/
theorem uv_pipe_connect_spec (s : St) (sock conn : Int) :
    (uv_pipe_connect s sock conn).connect_req = some s.next ∧
    ∃ fd delayed_error, uv_pipe_connect s sock conn =
      { s with fd := fd, delayed_error := delayed_error, connect_req := some s.next } := by
  unfold uv_pipe_connect
  dsimp only
  split
  · exact ⟨rfl, s.fd, sock, rfl⟩
  · exact ⟨rfl, true, _, rfl⟩

theorem ordinary_spec (sock conn : Int) (hi : Inv s) (hopen : s.closing = false) :
    (s.connect_req = none → Inv (submit (uv_pipe_connect s sock conn))) ∧
    (s.connect_req ≠ none → ¬Inv (submit (uv_pipe_connect s sock conn))) := by
  obtain ⟨-, fd, delayed_error, heq⟩ := uv_pipe_connect_spec s sock conn
  rw [heq]
  have hpending : ∀ r : Option Nat, pending { s with connect_req := r } =
      ((s.timers : List Nat) : Multiset Nat) + (r.toList : List Nat) := by
    intro r
    unfold pending
    rw [← Multiset.coe_add]
  constructor
  · intro hnone
    refine submit_inv hi ?_ ⟨rfl, rfl, rfl, rfl, rfl, rfl, rfl⟩ fun hdestroying => ?_
    · change pending { s with connect_req := some s.next } = pending s + {s.next}
      have hbefore : pending s = ((s.timers : List Nat) : Multiset Nat) := by
        unfold pending
        rw [hnone, Option.toList_none, List.append_nil]
      rw [hpending, hbefore]
      rfl
    · have hclosing := (hi.destroyed hdestroying).1
      rw [hopen] at hclosing
      cases hclosing
  · intro hsome hinv
    -- one more call, and as many that wait or have been told
    obtain ⟨id, hid⟩ := Option.ne_none_iff_exists'.mp hsome
    have hcard := hi.once.card
    have hcard' : (reported s).card + (pending { s with connect_req := some s.next }).card =
        s.next + 1 := hinv.once.card
    have hsame : (pending s).card = (pending { s with connect_req := some s.next }).card := by
      have hbefore : pending s = pending { s with connect_req := some id } := by
        unfold pending
        rw [hid]
      rw [hbefore, hpending, hpending, Multiset.card_add, Multiset.card_add]
      rfl
    omega

/-! ## What waits is reported in the end -/

theorem exec_timers (n : Nat) : ∀ s : St, n ≤ s.timers.length →
    ∃ t, runs.exec step s (List.replicate n .timer) = some t ∧
      reported t = reported s + ((s.timers.take n : List Nat) : Multiset Nat) := by
  induction n with
  | zero => exact fun s _ => ⟨s, rfl, by simp⟩
  | succ n ih =>
    intro s hlen
    obtain ⟨id, rest, htimers⟩ := List.exists_cons_of_ne_nil
      (List.ne_nil_of_length_pos (l := s.timers) (by omega))
    rw [htimers, List.length_cons] at hlen
    have hstep : step s .timer = some (call_back { s with timers := rest } id 0 0 false) := by
      unfold step run
      rw [htimers]
      rfl
    obtain ⟨t, ht, hreported⟩ := ih (call_back { s with timers := rest } id 0 0 false)
      (by change n ≤ rest.length; omega)
    refine ⟨t, ?_, ?_⟩
    · rw [List.replicate_succ]
      unfold runs.exec
      rw [hstep]
      exact ht
    · have hafter : (call_back { s with timers := rest } id 0 0 false).timers = rest := rfl
      have hbefore : reported { s with timers := rest } = reported s := rfl
      rw [hreported, reported_call_back, hafter, hbefore, htimers, List.take_succ_cons,
        ← Multiset.cons_coe, add_assoc, Multiset.singleton_add]

theorem connected_reports (hreq : s.connect_req = some id) (hopen : s.closing = false)
    (herror : s.delayed_error ≠ UV_EINPROGRESS) :
    ∃ t, step s (.connected 0) = some t ∧ id ∈ reported t := by
  refine ⟨uv__stream_connect s id 0, ?_, ?_⟩
  · unfold step run
    rw [hreq, hopen]
    rfl
  · unfold uv__stream_connect
    dsimp only
    have hother : (if s.delayed_error ≠ 0 then s.delayed_error else 0) ≠ UV_EINPROGRESS := by
      split
      · exact herror
      · decide
    rw [if_neg hother, reported_call_back]
    exact Multiset.mem_add.mpr (Or.inr (Multiset.mem_singleton_self id))

theorem Inv.due (hi : Inv s) (hid : id ∈ pending s) :
    ∃ as t, (∀ a ∈ as, Act.of_loop a = true) ∧ runs.exec step s as = some t ∧
      id ∈ reported t := by
  rcases mem_pending.mp hid with htimer | hreq
  · obtain ⟨t, ht, hreported⟩ := exec_timers s.timers.length s (Nat.le_refl _)
    refine ⟨_, t, fun a ha => ?_, ht, ?_⟩
    · rw [List.eq_of_mem_replicate ha]
      rfl
    · rw [hreported, List.take_length]
      exact Multiset.mem_add.mpr (Or.inr htimer)
  · by_cases hclosing : s.closing = true
    · have hdestroying : s.destroying = false := by
        by_contra hnot
        have hnone := (hi.destroyed (by simpa using hnot)).2
        rw [hreq] at hnone
        cases hnone
      refine ⟨[.destroy], call_back { s with destroying := true, connect_req := none } id
        UV_ECANCELED s.delayed_error true, by simp [Act.of_loop], ?_, ?_⟩
      · simp [runs.exec, step, run, Act.possible, hreq, hclosing, hdestroying]
      · rw [reported_call_back]
        exact Multiset.mem_add.mpr (Or.inr (Multiset.mem_singleton_self id))
    · rw [Bool.not_eq_true] at hclosing
      by_cases herror : s.delayed_error = UV_EINPROGRESS
      · -- the socket has been waiting: libuv asks once more
        have hstep : step s (.connected 0) = some { s with delayed_error := 0 } := by
          unfold step run uv__stream_connect
          rw [hreq, hclosing, herror]
          rfl
        have hzero : (0 : Int) ≠ UV_EINPROGRESS := by decide
        obtain ⟨t, ht, hmem⟩ := connected_reports (s := { s with delayed_error := 0 }) hreq hclosing
          hzero
        refine ⟨[.connected 0, .connected 0], t, by simp [Act.of_loop], ?_, hmem⟩
        unfold runs.exec runs.exec
        rw [hstep, Option.bind_some, ht]
        rfl
      · obtain ⟨t, ht, hmem⟩ := connected_reports hreq hclosing herror
        refine ⟨[.connected 0], t, by simp [Act.of_loop], ?_, hmem⟩
        unfold runs.exec
        rw [ht]
        rfl

theorem Inv.contract (hi : Inv s) : Contract s :=
  ⟨hi.once, fun _ => hi.due, hi.right, hi.not_raised, hi.hooked, hi.references⟩

/-- The step from `s` to `t` keeps the invariant, or breaks the contract. -/
def Settles (s : St) (a : Act) (t : St) : Prop :=
  (¬a.breaks s → Inv t) ∧ (a.breaks s → ¬Contract t)

theorem Settles.of_inv {a : Act} (ht : Inv t) (hnot : ¬a.breaks s) : Settles s a t :=
  ⟨fun _ => ht, fun hbreaks => absurd hbreaks hnot⟩

/-- A second connect request over the first. -/
theorem ordinary_settles {sock conn nonblock : Int} {callback : CallbackArg} (hi : Inv s)
    (hopen : s.closing = false) (hcallable : callback = .callable) :
    Settles s (.connect .ordinary callback sock conn nonblock true)
      (submit (uv_pipe_connect s sock conn)) := by
  obtain ⟨hfree, hlost⟩ := ordinary_spec sock conn hi hopen
  constructor
  · intro hnot
    apply hfree
    by_contra hsome
    exact hnot ⟨hopen, hcallable, rfl, hsome⟩
  · rintro ⟨-, -, -, hsome⟩ hc
    refine hlost hsome ⟨hc.once, hc.right, hc.not_raised, hc.hooked, hc.references, ?_⟩
    intro hdestroying
    obtain ⟨-, fd, delayed_error, heq⟩ := uv_pipe_connect_spec s sock conn
    rw [heq] at hdestroying
    have hcontra := (hi.destroyed hdestroying).1
    rw [hopen] at hcontra
    cases hcontra

theorem connect_settles (name : Name) (callback : CallbackArg) (sock conn nonblock : Int)
    (alloc : Bool) (hi : Inv s) :
    Settles s (.connect name callback sock conn nonblock alloc)
      (Pipe_func_connect s name callback sock conn nonblock alloc).2 := by
  unfold Pipe_func_connect
  by_cases hclosing : s.closing = true
  · rw [if_pos hclosing]
    apply Settles.of_inv hi
    cases name <;> simp [Act.breaks, hclosing]
  rw [if_neg hclosing]
  rw [Bool.not_eq_true] at hclosing
  by_cases hcallable : callback = .callable
  · rw [if_neg (by simp [hcallable])]
    cases name with
    | abstract =>
      obtain ⟨hok, hfails⟩ := abstract_spec sock conn nonblock alloc hi
      refine ⟨fun hnot => hok fun hbad => hnot ⟨hclosing, hcallable, hbad⟩, ?_⟩
      rintro ⟨-, -, hbad⟩ hc
      exact hfails hbad hc.not_raised
    | ordinary =>
      cases alloc with
      | true => exact ordinary_settles hi hclosing hcallable
      | false => exact Settles.of_inv hi fun hbreaks => absurd hbreaks.2.2.1 (by decide)
  · rw [if_pos hcallable]
    apply Settles.of_inv hi
    cases name <;> simp [Act.breaks, hcallable]

theorem close_inv (hi : Inv s) : Inv (Handle_func_close s).2 := by
  unfold Handle_func_close
  split
  · exact hi
  · exact ⟨hi.once, hi.right, hi.not_raised, hi.hooked, hi.references,
      fun hdestroying => ⟨rfl, (hi.destroyed hdestroying).2⟩⟩

/-- The timer of an abstract connect has no ear for a close. -/
theorem timer_settles {rest : List Nat} (hi : Inv s) (htimers : s.timers = id :: rest) :
    Settles s .timer (call_back { s with timers := rest } id 0 0 false) := by
  refine ⟨fun hopen => timer_inv hi htimers (by simpa [Act.breaks] using hopen), ?_⟩
  intro hbreaks hc
  have hclosing : s.closing = true := hbreaks
  have hwrong := hc.right ⟨id, 0, 0, s.closing⟩
    (List.mem_append.mpr (Or.inr (List.mem_singleton.mpr rfl)))
  unfold Report.right at hwrong
  dsimp only at hwrong
  rw [if_pos hclosing] at hwrong
  exact absurd hwrong (by decide)

/-- The hook of a loop that the close has set to None is not called. -/
theorem return_settles {r : Running} {rest : List Running} {raises : Bool} (hi : Inv s)
    (hrunning : s.running = r :: rest) :
    Settles s (.ret raises) (callback_returns { s with running := rest } r.id raises) := by
  refine ⟨fun hok => returns_inv hi hrunning hok, ?_⟩
  rintro ⟨hraises, hclosed⟩ hc
  have hnone := hc.hooked
  unfold callback_returns at hnone
  dsimp only at hnone
  rw [if_pos hraises, if_pos hclosed] at hnone
  exact List.append_ne_nil_of_right_ne_nil s.unhooked (List.cons_ne_nil r.id []) hnone

theorem step_spec {a : Act} (hi : Inv s) (hstep : step s a = some t) : Settles s a t := by
  unfold step at hstep
  split at hstep
  rotate_left
  · cases hstep
  cases a with
  | connect name callback sock conn nonblock alloc =>
    cases hstep
    exact connect_settles name callback sock conn nonblock alloc hi
  | close =>
    cases hstep
    exact Settles.of_inv (close_inv hi) id
  | got_fd =>
    unfold run at hstep
    dsimp only at hstep
    split at hstep
    · cases hstep
    · cases hstep
      exact Settles.of_inv
        ⟨hi.once, hi.right, hi.not_raised, hi.hooked, hi.references, hi.destroyed⟩ id
  | connected os =>
    unfold run at hstep
    dsimp only at hstep
    split at hstep
    · rename_i id hreq
      split at hstep
      · cases hstep
      · rename_i hopen
        cases hstep
        exact Settles.of_inv (connected_inv hi hreq (by simpa using hopen) os)
          fun hbreaks => hbreaks
    · cases hstep
  | timer =>
    unfold run at hstep
    dsimp only at hstep
    split at hstep
    · rename_i id rest htimers
      cases hstep
      exact timer_settles hi htimers
    · cases hstep
  | destroy =>
    unfold run at hstep
    dsimp only at hstep
    split at hstep
    · rename_i hclosing
      split at hstep
      · rename_i id hreq
        cases hstep
        exact Settles.of_inv (destroy_inv hi hclosing.1 hreq) fun hbreaks => hbreaks
      · rename_i hreq
        cases hstep
        exact Settles.of_inv ⟨hi.once, hi.right, hi.not_raised, hi.hooked, hi.references,
          fun _ => ⟨hclosing.1, hreq⟩⟩ fun hbreaks => hbreaks
    · cases hstep
  | finish =>
    unfold run at hstep
    dsimp only at hstep
    split at hstep
    · cases hstep
      exact Settles.of_inv
        ⟨hi.once, hi.right, hi.not_raised, hi.hooked, hi.references, hi.destroyed⟩ id
    · cases hstep
  | ret raises =>
    unfold run at hstep
    dsimp only at hstep
    split at hstep
    · rename_i r rest hrunning
      cases hstep
      exact return_settles hi hrunning
    · cases hstep

end

/-- The two names have one contract in exactly those runs in which no abstract connect fails,
no pipe is closed before its abstract connect is reported, no connect is made over another
one, and no callback raises after the close is finished. -/
theorem connect_has_one_contract_iff (as : List Act) :
    runs.Always step Contract start as ↔
      runs.Meets step (fun s a => ¬a.breaks s) start as := by
  refine runs.always_iff_meets (I := Inv) ?_ ?_ as start_inv start_inv.contract
  · intro s a t hi hnot hstep
    exact (step_spec hi hstep).1 hnot
  · intro s a t hi hstep
    constructor
    · intro hc hbreaks
      exact (step_spec hi hstep).2 hbreaks hc
    · intro hnot
      exact ((step_spec hi hstep).1 hnot).contract

/-- An abstract connect that goes through, and a close before the timer is due: the callback
is told of no error. -/
theorem a_closed_pipe_reports_success :
    ¬∀ as : List Act, runs.Always step Contract start as := by
  intro hclaim
  let as : List Act := [.connect .abstract .callable 0 0 0 true, .close, .timer]
  have hlast := runs.always_iff_exec.mp (hclaim as) as _ (List.prefix_refl as) rfl
  have hright := hlast.right ⟨0, 0, 0, true⟩ (List.mem_singleton.mpr rfl)
  exact absurd hright (by unfold Report.right; decide)

end pyuv.pipe_connect
