-- The statuses that libuv answers with, and the exceptions that the methods of the handles make of
-- them: of the calls of a method the last one that has a negative status is raised as the exception
-- of the handle's type, and no other exception of libuv's is.
import Pyuv.MethodRefs

set_option linter.style.nameCheck false

namespace pyuv.methods

open ends
open addr_tuples (PyObj)

/-! ## The contract -/

/-- The exception class of error.c for each type of handle. -/
def PyClass.exception : PyClass → ExcType
  | .Async => .AsyncError
  | .Timer => .TimerError
  | .Prepare => .PrepareError
  | .Idle => .IdleError
  | .Check => .CheckError
  | .Signal => .SignalError
  | .SignalChecker => .UVError
  | .TCP => .TCPError
  | .Pipe => .PipeError
  | .TTY => .TTYError
  | .UDP => .UDPError
  | .Poll => .PollError
  | .Process => .ProcessError
  | .FSEvent => .FSEventError
  | .FSPoll => .FSPollError
  | _ => .HandleError

/-- The type that has a method in its table. -/
def Method.cls : Method → PyClass
  | .Handle_close _ | .Handle_set_ref _ | .Handle_set_dict _ => .Handle
  | .Async_send => .Async
  | .Timer_start _ | .Timer_stop | .Timer_again | .Timer_set_repeat _ => .Timer
  | .Prepare_start _ | .Prepare_stop => .Prepare
  | .Idle_start _ | .Idle_stop => .Idle
  | .Check_start _ | .Check_stop => .Check
  | .Signal_start _ | .Signal_stop => .Signal
  | .SignalChecker_start | .SignalChecker_stop => .SignalChecker
  | .Poll_start _ | .Poll_stop | .Poll_fileno => .Poll
  | .FSEvent_start _ | .FSEvent_stop => .FSEvent
  | .FSPoll_start _ | .FSPoll_stop => .FSPoll
  | .Stream_shutdown _ | .Stream_start_read _ | .Stream_stop_read | .Stream_try_write _
  | .Stream_write _ | .Stream_fileno | .Stream_set_blocking _ => .Stream
  | .TCP_bind _ | .TCP_listen _ | .TCP_accept _ | .TCP_connect _ | .TCP_getsockname
  | .TCP_getpeername | .TCP_nodelay _ | .TCP_keepalive _ | .TCP_simultaneous_accepts _
  | .TCP_open _ | .TCP_set_sndbuf _ | .TCP_set_rcvbuf _ => .TCP
  | .Pipe_bind _ | .Pipe_listen _ | .Pipe_accept _ | .Pipe_connect _ | .Pipe_open _
  | .Pipe_pending_instances _ | .Pipe_pending_handle_type | .Pipe_write _ | .Pipe_getsockname
  | .Pipe_getpeername | .Pipe_set_sndbuf _ | .Pipe_set_rcvbuf _ => .Pipe
  | .TTY_set_mode _ | .TTY_reset_mode | .TTY_get_winsize => .TTY
  | .UDP_bind _ | .UDP_start_recv _ | .UDP_stop_recv | .UDP_try_send _ | .UDP_send _
  | .UDP_set_membership _ | .UDP_set_multicast_interface _ | .UDP_getsockname
  | .UDP_set_multicast_ttl _ | .UDP_set_broadcast _ | .UDP_set_multicast_loop _
  | .UDP_set_ttl _ | .UDP_open _ | .UDP_fileno | .UDP_set_sndbuf _ | .UDP_set_rcvbuf _ => .UDP
  | .Process_spawn _ | .Process_kill _ | .Process_close _
  | .Process_disable_stdio_inheritance => .Process
  | .Barrier_wait => .Barrier
  | .Mutex_lock | .Mutex_unlock | .Mutex_trylock => .Mutex
  | .RWLock_rdlock | .RWLock_rdunlock | .RWLock_tryrdlock
  | .RWLock_wrlock | .RWLock_wrunlock | .RWLock_trywrlock => .RWLock
  | .Condition_signal | .Condition_broadcast | .Condition_wait _
  | .Condition_timedwait _ => .Condition
  | .Semaphore_post | .Semaphore_wait | .Semaphore_trywait => .Semaphore

/-- The same type, or one that is made from it. -/
def PyClass.derives (c base : PyClass) : Bool :=
  c = base ∨ base = .Handle ∧ c.is_handle ∨ base = .Stream ∧ c.is_stream

/-- The descriptors of CPython look at the type of `self`. -/
def Method.Bound (m : Method) (w : World) (self : Ptr) : Prop :=
  m.on_class = false → (w.objs self).cls.derives m.cls = true

/-- The exception of the handle's type. -/
def Method.exception (m : Method) (w : World) (self : Ptr) : ExcType :=
  if m.on_class then m.cls.exception else (w.objs self).cls.exception

/-- The object that a method makes. -/
def Method.made (E : Env) : Method → List Ptr
  | .Process_spawn _ => [E.fresh]
  | _ => []

/-- A new object is none of the arguments. -/
def Method.Fresh (E : Env) : Method → Prop
  | .Process_spawn (.ok a) => E.fresh ∉ a.loop :: a.streams
  | _ => True

/-- A call that gives a status: it comes back where none of its handles is NULL. -/
def Answered (objs : Ptr → Obj) (c : UvCall) : Prop :=
  c.fn.has_status = true ∧ ∀ p ∈ c.handles, (objs p).cls.is_base = false

/-- The calls between two states. -/
def called (w t : World) : List UvCall := t.calls.drop w.calls.length

/-- What the statuses are for. The exception `X` has the code of each that is negative, it has no
other code, and whatever is raised, the objects are as they were. -/
structure Reports (E : Env) (w : World) (obj : Ptr) (m : Method) : Prop where
  reported : ∀ c ∈ called w (last (m.exec E obj w)),
    Answered (last (m.exec E obj w)).objs c →
      ((∃ t, m.exec E obj w = .error (.raised (.uv (m.exception w obj) (E.status c.fn))) t) ↔
        E.status c.fn < 0)
  genuine : ∀ X r t, m.exec E obj w = .error (.raised (.uv X r)) t →
    X = m.exception w obj ∧
      ∃ c ∈ called w t, Answered t.objs c ∧ E.status c.fn = r ∧ r < 0
  restored : ∀ e t, m.exec E obj w = .error (.raised e) t →
    ∀ p ∉ m.made E, t.sides p = w.sides p ∧ t.refs p = w.refs p

/-- An abstract name is connected to, and the timer that is to say so is set up. -/
structure Timed (E : Env) (w : World) (obj callback : Ptr) : Prop where
  usable : Usable w obj
  callable : E.callable callback = true
  socket : 0 ≤ E.status .socket
  connect : 0 ≤ E.status .connect
  opened : 0 ≤ E.status .uv_pipe_open
  allocated : E.malloc .connect_req = true
  timer : 0 ≤ E.status .uv_timer_init

/-- A spawn that libuv gives a status for. -/
def Asked (E : Env) (w : World) (a : SpawnArgs) : Prop :=
  a.reaches E ∧
    ∀ streams, spawn_options E a = .ok streams → ∀ p ∈ streams, (w.objs p).cls.is_base = false

/-- Which calls report: all, but for those of two methods that do not look at the status, those
of a connect that has given its references away, and those of a spawn that libuv refuses, whose
process holds the loop until it is closed. -/
def Method.heeded (E : Env) (w : World) (self : Ptr) : Method → Prop
  | .UDP_open (.ok _) => Usable w self → 0 ≤ E.status .uv_udp_open
  | .TTY_reset_mode => 0 ≤ E.status .uv_tty_reset_mode
  | .Pipe_connect (.ok (.abstract, callback)) =>
    Timed E w self callback → 0 ≤ E.status .uv_timer_start
  | .Process_spawn (.ok a) => Asked E w a → 0 ≤ E.status .uv_spawn
  | _ => True

variable {E : Env} {O : Ptr → Obj} {X : ExcType} {s t w : World} {self q : Ptr} {fn : UvFn}
  {hs : List Ptr} {exc : Exc} {err : Int} {α β : Type} {bad : Int → Prop} {back : Int}
  {good : World → World → Prop}

/-! ## What is told of the statuses -/

/-- No status is negative. -/
def Fine (E : Env) (O : Ptr → Obj) (cs : List UvCall) : Prop :=
  ∀ c ∈ cs, Answered O c → 0 ≤ E.status c.fn

/-- How a program stops after the calls `cs`: with the exception `X` for the only status that is
negative, or for another reason. -/
def Told (E : Env) (O : Ptr → Obj) (X : ExcType) (cs : List UvCall) : Stop → Prop
  | .raised (.uv Y r) =>
    Y = X ∧ r < 0 ∧ (∃ c ∈ cs, Answered O c ∧ E.status c.fn = r) ∧
      ∀ c ∈ cs, Answered O c → E.status c.fn < 0 → E.status c.fn = r
  | _ => Fine E O cs

/-- The objects are those of `O`, as far as a close does not change them. -/
def Alike (O : Ptr → Obj) (s : World) : Prop :=
  ∀ p, (s.objs p).cls = (O p).cls ∧ (s.objs p).initialized = (O p).initialized ∧
    (s.objs p).type = (O p).type

/-- A program tells of the statuses of its calls. -/
def Tells (E : Env) (O : Ptr → Obj) (X : ExcType) (x : C α) : Prop :=
  Ends (Alike O) (fun s _ t => Alike O t ∧ ∃ cs, t.calls = s.calls ++ cs ∧ Fine E O cs)
    (fun s e t => Alike O t ∧ ∃ cs, t.calls = s.calls ++ cs ∧ Told E O X cs e) x

/-- A program that raises the exception for a status, and calls nothing. -/
def Raises (O : Ptr → Obj) (X : ExcType) (err : Int) (x : C α) : Prop :=
  ∀ s, Alike O s → ∃ t, x s = .error (.raised (.uv X err)) t ∧ Alike O t ∧ t.calls = s.calls

/-- An exception of a method is the one of the handle's type. -/
def Fits (O : Ptr → Obj) (self : Ptr) (X : ExcType) : Exc → Prop
  | .type t => t = X
  | .stream => (O self).initialized = true → stream_exc (O self).type = some X

theorem fine_nil : Fine E O [] := by
  intro c hc
  cases hc

/-- One list of calls after the other. -/
theorem fine_append {cs cs' : List UvCall} (h : Fine E O cs) (h' : Fine E O cs') :
    Fine E O (cs ++ cs') := by
  intro c hc
  rcases List.mem_append.mp hc with hc | hc
  · exact h c hc
  · exact h' c hc

/-- An exception that is no libuv error needs no failed call. -/
theorem told_of_fine {cs : List UvCall} {e : Stop} (h : Fine E O cs)
    (he : ∀ Y r, e ≠ .raised (.uv Y r)) : Told E O X cs e := by
  cases e with
  | crash => exact h
  | raised e =>
    cases e with
    | uv Y r => exact absurd rfl (he Y r)
    | text type msg => exact h
    | cpython type => exact h

theorem fine_of_told {cs : List UvCall} {e : Stop} (h : Told E O X cs e)
    (he : ∀ Y r, e ≠ .raised (.uv Y r)) : Fine E O cs := by
  cases e with
  | crash => exact h
  | raised e =>
    cases e with
    | uv Y r => exact absurd rfl (he Y r)
    | text type msg => exact h
    | cpython type => exact h

/-- Only the last call is told of. -/
theorem told_append {cs cs' : List UvCall} {e : Stop} (h : Fine E O cs) (h' : Told E O X cs' e) :
    Told E O X (cs ++ cs') e := by
  by_cases he : ∃ Y r, e = .raised (.uv Y r)
  · obtain ⟨Y, r, rfl⟩ := he
    obtain ⟨hY, hr, ⟨c, hc, hstatus⟩, hothers⟩ := h'
    refine ⟨hY, hr, ⟨c, List.mem_append_right cs hc, hstatus⟩, ?_⟩
    intro d hd hanswered hneg
    rcases List.mem_append.mp hd with hd | hd
    · exact absurd (h d hd hanswered) (by omega)
    · exact hothers d hd hanswered hneg
  · have hne : ∀ Y r, e ≠ .raised (.uv Y r) := fun Y r h => he ⟨Y, r, h⟩
    exact told_of_fine (fine_append h (fine_of_told h' hne)) hne

/-- A sequence, if the first part does not swallow an error. -/
theorem Tells.bind {x : C α} {f : α → C β} (hx : Tells E O X x) (hf : ∀ a, Tells E O X (f a)) :
    Tells E O X (x >>= f) := by
  apply Ends.bind hx hf
  · intro s a t _ h
    exact h.1
  · rintro s a t b u _ ⟨-, cs, hcs, hfine⟩ ⟨halike, cs', hcs', hfine'⟩
    refine ⟨halike, cs ++ cs', ?_, fine_append hfine hfine'⟩
    rw [hcs', hcs, List.append_assoc]
  · intro s e t _ h
    exact h
  · rintro s a t e u _ ⟨-, cs, hcs, hfine⟩ ⟨halike, cs', hcs', htold⟩
    refine ⟨halike, cs ++ cs', ?_, told_append hfine htold⟩
    rw [hcs', hcs, List.append_assoc]

theorem tells_pure {a : α} : Tells E O X (pure a : C α) :=
  Ends.pure fun _ hs => ⟨hs, [], (List.append_nil _).symm, fine_nil⟩

/-- A stop that is no libuv error. -/
theorem tells_throw {e : Stop} (he : ∀ Y r, e ≠ .raised (.uv Y r)) :
    Tells E O X (throw e : C α) :=
  Ends.throw fun _ hs => ⟨hs, [], (List.append_nil _).symm, told_of_fine fine_nil he⟩

theorem tells_crash : Tells E O X (throw .crash : C α) := tells_throw fun _ _ h => nomatch h

/-- An exception that is none. -/
theorem tells_raise {e : PyErr} (he : ∀ Y r, e ≠ .uv Y r) : Tells E O X (raise e : C α) :=
  tells_throw fun Y r h => he Y r (Stop.raised.inj h)

theorem tells_ite {c : Prop} [Decidable c] {x y : C α} (hx : Tells E O X x)
    (hy : Tells E O X y) : Tells E O X (if c then x else y) :=
  Ends.ite (fun _ => hx) (fun _ => hy)

theorem tells_get : Tells E O X (get : C World) :=
  fun _ hs => ⟨hs, [], (List.append_nil _).symm, fine_nil⟩

/-- A write that is no call. -/
theorem tells_modify {f : World → World} (hobjs : ∀ w, (f w).objs = w.objs)
    (hcalls : ∀ w, (f w).calls = w.calls) : Tells E O X (modify f : C PUnit) := by
  apply Ends.modify
  intro s hs
  refine ⟨fun p => by rw [hobjs]; exact hs p, [], ?_, fine_nil⟩
  rw [hcalls, List.append_nil]

theorem tells_take {l : List Ptr} : Tells E O X (modify (World.take l) : C Unit) :=
  tells_modify (fun _ => rfl) (fun _ => rfl)

theorem tells_drop {l : List Ptr} : Tells E O X (modify (World.drop l) : C Unit) :=
  tells_modify (fun _ => rfl) (fun _ => rfl)

theorem tells_put {slot : Slot} {value : Option Ptr} :
    Tells E O X (modify (World.put self slot value) : C Unit) :=
  tells_modify (fun _ => rfl) (fun _ => rfl)

theorem tells_set_slot {slot : Slot} {value : Option Ptr} :
    Tells E O X (modify (World.set_slot self slot value) : C Unit) :=
  tells_modify (fun _ => rfl) (fun _ => rfl)

/-- A failed check of the arguments. -/
theorem tells_check {v : Except PyErr α} (h : Plain v) : Tells E O X (check v) := by
  cases v with
  | ok a => exact tells_pure
  | error e => exact tells_raise (h e rfl).2

theorem tells_deref {p : Ptr} : Tells E O X (deref p) := by
  intro s hs
  unfold deref
  split <;> rename_i heq <;> split at heq <;> cases heq
  · exact ⟨hs, [], (List.append_nil _).symm, fine_nil⟩
  · exact ⟨hs, [], (List.append_nil _).symm, fine_nil⟩

/-- An object of a base type has no libuv struct. -/
theorem uv_crash (h : (hs.any fun p => (s.objs p).cls.is_base) = true) :
    uv E fn hs s = .error .crash (s.log ⟨fn, hs⟩) := if_pos h

/-- Otherwise the call is logged and its status is returned. -/
theorem uv_answer (h : ∀ p ∈ hs, (s.objs p).cls.is_base = false) :
    uv E fn hs s = .ok (E.status fn) ((s.use hs).log ⟨fn, hs⟩) := by
  apply if_neg
  intro hany
  obtain ⟨p, hp, hp'⟩ := List.any_eq_true.mp hany
  rw [h p hp] at hp'
  cases hp'

/-- The call of libuv, and what follows on each of the two kinds of status. -/
theorem tells_uv {f : Int → C α}
    (hf : (fn.has_status = true → 0 ≤ E.status fn) → Tells E O X (f (E.status fn)))
    (hneg : fn.has_status = true → E.status fn < 0 → Raises O X (E.status fn) (f (E.status fn))) :
    Tells E O X (uv E fn hs >>= f) := by
  intro s hs'
  by_cases hbase : (hs.any fun p => (s.objs p).cls.is_base) = true
  · rw [bind_of_error (uv_crash hbase)]
    refine ⟨hs', [⟨fn, hs⟩], rfl, ?_⟩
    intro c hc hanswered
    obtain rfl := List.mem_singleton.mp hc
    obtain ⟨p, hp, hp'⟩ := List.any_eq_true.mp hbase
    rw [(hs' p).1, hanswered.2 p hp] at hp'
    cases hp'
  · have hnone : ∀ p ∈ hs, (s.objs p).cls.is_base = false := by
      simpa [List.any_eq_true] using hbase
    rw [bind_of_ok (uv_answer hnone)]
    have halike : Alike O ((s.use hs).log ⟨fn, hs⟩) := hs'
    have hlogged : ((s.use hs).log ⟨fn, hs⟩).calls = s.calls ++ [⟨fn, hs⟩] := rfl
    by_cases hstatus : fn.has_status = true → 0 ≤ E.status fn
    · have hfine : Fine E O [⟨fn, hs⟩] := by
        intro c hc hanswered
        obtain rfl := List.mem_singleton.mp hc
        exact hstatus hanswered.1
      have hends := hf hstatus _ halike
      split at hends
      · obtain ⟨hu, cs, hcs, hfine'⟩ := hends
        refine ⟨hu, [⟨fn, hs⟩] ++ cs, ?_, fine_append hfine hfine'⟩
        rw [hcs, hlogged, List.append_assoc]
      · obtain ⟨hu, cs, hcs, htold⟩ := hends
        refine ⟨hu, [⟨fn, hs⟩] ++ cs, ?_, told_append hfine htold⟩
        rw [hcs, hlogged, List.append_assoc]
    · have hhas : fn.has_status = true := by
        by_contra h
        exact hstatus fun h' => absurd h' h
      have hlt : E.status fn < 0 := by
        by_contra h
        exact hstatus fun _ => by omega
      obtain ⟨u, hu, hu', hcalls⟩ := hneg hhas hlt _ halike
      rw [hu]
      refine ⟨hu', [⟨fn, hs⟩], ?_, rfl, hlt, ?_, ?_⟩
      · rw [hcalls, hlogged]
      · refine ⟨⟨fn, hs⟩, List.mem_singleton_self _, ⟨hhas, fun p hp => ?_⟩, rfl⟩
        rw [← (hs' p).1]
        exact hnone p hp
      · intro c hc _ _
        obtain rfl := List.mem_singleton.mp hc
        rfl

/-- A call whose status is not looked at must not fail. -/
theorem tells_call (h : fn.has_status = true → 0 ≤ E.status fn) : Tells E O X (call E fn hs) := by
  apply tells_uv
  · intro _
    exact tells_pure
  · intro hhas hlt
    exact absurd (h hhas) (by omega)

/-! ## The exception of a negative status -/

/-- What comes after an exception is not run. -/
theorem Raises.bind {x : C α} {f : α → C β} (h : Raises O X err x) : Raises O X err (x >>= f) := by
  intro s hs
  obtain ⟨t, ht, halike⟩ := h s hs
  exact ⟨t, bind_of_error ht, halike⟩

theorem raises_raise : Raises O X err (raise (.uv X err) : C α) :=
  fun s hs => ⟨s, rfl, hs, rfl⟩

theorem raises_drop {l : List Ptr} {x : C α} (h : Raises O X err x) :
    Raises O X err (modify (World.drop l) >>= fun _ => x) := by
  intro s hs
  obtain ⟨t, ht, halike, hcalls⟩ := h (s.drop l) hs
  exact ⟨t, ht, halike, hcalls⟩

/-- The exception of the type of the object. -/
theorem raises_uv_error {f : PyErr → C α} (hinit : (O self).initialized = true)
    (hexc : Fits O self X exc) (hf : Raises O X err (f (.uv X err))) :
    Raises O X err (uv_error self err exc >>= f) := by
  intro s hs
  have hrun : uv_error self err exc s = .ok (.uv X err) s := by
    cases exc with
    | type t =>
      cases hexc
      rfl
    | stream =>
      obtain ⟨-, hinit', htype⟩ := hs self
      unfold uv_error
      dsimp only
      rw [bind_of_ok (deref_eq (hinit'.trans hinit)), htype, hexc hinit]
      rfl
  rw [bind_of_ok hrun]
  exact hf s hs

/-- A negative status is raised. -/
theorem raises_if_negative (hinit : (O self).initialized = true) (hexc : Fits O self X exc)
    (herr : err < 0) : Raises O X err (raise_if_negative self exc err) := by
  unfold raise_if_negative
  rw [if_pos herr]
  exact raises_uv_error hinit hexc raises_raise

theorem raise_if_negative_of_nonneg (herr : 0 ≤ err) :
    raise_if_negative self exc err = pure () := by
  unfold raise_if_negative
  exact if_neg (by omega)

/-- The call of libuv whose status is raised, and what follows when all is well. -/
theorem tells_checked {rest : Unit → C α} (hfn : fn.has_status = true)
    (hinit : (O self).initialized = true) (hexc : Fits O self X exc)
    (hrest : Tells E O X (rest ())) :
    Tells E O X (uv E fn hs >>= fun err => raise_if_negative self exc err >>= rest) := by
  apply tells_uv
  · intro hstatus
    rw [raise_if_negative_of_nonneg (hstatus hfn)]
    exact hrest
  · intro _ hlt
    exact (raises_if_negative hinit hexc hlt).bind

/-- A call whose status decides. -/
theorem tells_last (hfn : fn.has_status = true) (hinit : (O self).initialized = true)
    (hexc : Fits O self X exc) :
    Tells E O X (uv E fn hs >>= fun err => raise_if_negative self exc err) := by
  apply tells_uv
  · intro hstatus
    rw [raise_if_negative_of_nonneg (hstatus hfn)]
    exact tells_pure
  · intro _ hlt
    exact raises_if_negative hinit hexc hlt

/-! ## The macros -/

/-- What is behind a guard may use it. -/
theorem tells_initialized {f : Unit → C α} (hf : (O self).initialized = true → Tells E O X (f ())) :
    Tells E O X (RAISE_IF_NOT_INITIALIZED self >>= f) := by
  intro s hs
  cases hinit : (s.objs self).initialized with
  | true =>
    rw [bind_of_ok (initialized_eq hinit)]
    exact hf ((hs self).2.1 ▸ hinit) s hs
  | false =>
    rw [bind_of_error (not_initialized_eq hinit)]
    exact ⟨hs, [], (List.append_nil _).symm, fine_nil⟩

theorem tells_guards {f : Unit → C α} (hf : (O self).initialized = true → Tells E O X (f ())) :
    Tells E O X (handle_guards self >>= f) := by
  intro s hs
  cases hinit : (s.objs self).initialized with
  | false =>
    rw [bind_of_error (guards_uninitialized hinit)]
    exact ⟨hs, [], (List.append_nil _).symm, fine_nil⟩
  | true =>
    cases hclosing : (s.objs self).closing with
    | true =>
      rw [bind_of_error (guards_closed hinit hclosing)]
      exact ⟨hs, [], (List.append_nil _).symm, fine_nil⟩
    | false =>
      rw [bind_of_ok (guards_usable ⟨hinit, hclosing⟩)]
      exact hf ((hs self).2.1 ▸ hinit) s hs

/-! ## The shapes of the methods -/

section Shapes

variable (hexc : Fits O self X exc)
include hexc

theorem tells_func_start {slot : Slot} {args : Except PyErr Ptr} (hfn : fn.has_status = true)
    (hargs : Plain args) : Tells E O X (func_start E self slot fn exc args) := by
  apply tells_guards
  intro hinit
  apply (tells_check hargs).bind
  intro callback
  apply tells_checked hfn hinit hexc
  apply tells_put.bind
  intro _
  apply tells_modify <;> intro w <;> split <;> rfl

/-- The functions that methods share. -/
theorem tells_func_stop {slot : Option Slot} (hfn : fn.has_status = true) :
    Tells E O X (func_stop E self fn exc slot) := by
  apply tells_guards
  intro hinit
  apply tells_checked hfn hinit hexc
  apply Tells.bind
  · cases slot with
    | none => exact tells_pure
    | some slot => exact tells_put
  · intro _
    apply tells_modify <;> intro w <;> split <;> rfl

theorem tells_func_call {args : Except PyErr α} (hfn : fn.has_status = true) (hargs : Plain args) :
    Tells E O X (func_call E self fn exc args) := by
  apply tells_guards
  intro hinit
  apply (tells_check hargs).bind
  intro _
  exact tells_last hfn hinit hexc

/-- A request that libuv refuses raises its status. -/
theorem tells_submit {taken : List Ptr} (hfn : fn.has_status = true)
    (hinit : (O self).initialized = true) : Tells E O X (submit E self fn hs exc taken) := by
  apply tells_uv
  · intro hstatus
    rw [if_neg (by have := hstatus hfn; omega)]
    exact tells_take
  · intro _ hlt
    rw [if_pos hlt]
    exact raises_uv_error hinit hexc (raises_drop raises_raise)

theorem tells_submit_data {callback : Ptr} {views : List Ptr} (hfn : fn.has_status = true)
    (hinit : (O self).initialized = true) :
    Tells E O X (submit_data E self fn hs exc callback views) := by
  apply tells_take.bind
  intro _
  have hrest : ∀ type : UvType, Tells E O X (if type = .UV_NAMED_PIPE then
      submit E self fn (self :: hs) exc (callback :: hs ++ views) else throw .crash) :=
    fun _ => tells_ite (tells_submit hexc hfn hinit) tells_crash
  apply tells_ite
  · exact tells_pure.bind hrest
  · exact (tells_deref.bind fun _ => tells_pure).bind hrest

theorem tells_submit_any {callback : Ptr} {data : Data} (hfn : fn.has_status = true)
    (hinit : (O self).initialized = true) :
    Tells E O X (submit_any E self fn hs exc callback data) := by
  cases data with
  | other => exact tells_raise (by intro _ _ h; cases h)
  | exporter view =>
    apply (tells_check plain_check_malloc).bind
    intro _
    refine (tells_check ?_).bind fun _ => ?_
    · cases E.no_buffer view with
      | some t => exact plain_error plain_cpython
      | none => exact plain_ok
    · exact tells_take.bind fun _ => tells_submit_data hexc hfn hinit
  | sequence fast items =>
    apply (tells_check plain_parse).bind
    intro items
    apply tells_take.bind
    intro _
    cases hbad : bad_sequence E items with
    | some e => exact tells_drop.bind fun _ => tells_raise (plain_bad_sequence hbad).2
    | none =>
      have hviews : ∀ done, Tells E O X (fill_views E fast done items) := by
        clear hbad
        induction items with
        | nil => exact fun _ => tells_pure
        | cons item items ih =>
          intro done
          unfold fill_views
          cases E.no_buffer item with
          | some t => exact tells_drop.bind fun _ => tells_raise (by intro _ _ h; cases h)
          | none => exact tells_take.bind fun _ => ih _
      exact (hviews []).bind fun _ => tells_submit_data hexc hfn hinit

theorem tells_func_try {args : Args (Except PyErr Unit × Ptr)} (hfn : fn.has_status = true)
    (hargs : ∀ addr data, args = .ok (addr, data) → Plain addr) :
    Tells E O X (func_try E self fn exc args) := by
  apply tells_guards
  intro hinit
  cases args with
  | error t => exact tells_raise fun _ _ h => nomatch h
  | ok a =>
    obtain ⟨addr, data⟩ := a
    rw [parse_ok, check_ok_bind]
    apply tells_take.bind
    intro _
    cases addr with
    | error e =>
      exact tells_drop.bind fun _ => tells_raise (hargs _ data rfl e rfl).2
    | ok _ =>
      apply tells_uv
      · intro hstatus
        rw [if_neg (by have := hstatus hfn; omega)]
        exact tells_drop
      · intro _ hlt
        rw [if_pos hlt]
        exact raises_uv_error hinit hexc (raises_drop raises_raise)

end Shapes

/-- The status of a method that returns nothing is not looked at. -/
theorem tells_func_void {args : Except PyErr α} (hargs : Plain args)
    (hstatus : fn.has_status = true → 0 ≤ E.status fn) :
    Tells E O X (func_void E self fn args) := by
  apply tells_guards
  intro _
  apply (tells_check hargs).bind
  intro _
  exact tells_call hstatus

/-- A setter has one guard, and its exception is written into it. -/
theorem tells_attr_set {t : ExcType} {value : Except PyErr α} (hfn : fn.has_status = true)
    (hvalue : Plain value) (hexc : Fits O self X (.type t)) :
    Tells E O X (attr_set E self fn t value) := by
  apply tells_initialized
  intro hinit
  apply (tells_check hvalue).bind
  intro _
  exact tells_last hfn hinit hexc

theorem tells_carried {p : Ptr} {wrong_type wrong_class : String} :
    Tells E O X (carried p wrong_type wrong_class) := by
  apply tells_get.bind
  intro w
  apply tells_ite
  · apply tells_deref.bind
    intro o
    exact tells_check (plain_ite plain_ok (plain_error (plain_text (by decide))))
  · exact tells_check (plain_ite plain_ok (plain_error (plain_text (by decide))))

theorem tells_uv_close : Tells E O X (uv_close E self) := by
  apply (tells_call fun h => absurd h (by decide)).bind
  intro _
  apply Ends.modify
  intro s hs
  refine ⟨fun p => ?_, [], (List.append_nil _).symm, fine_nil⟩
  unfold set_closing
  dsimp only
  rw [Function.update_apply]
  split
  · rename_i heq
    rw [heq]
    exact hs self
  · exact hs p

/-! ## The methods one by one -/

theorem tells_Handle_func_close {args : Args Ptr} :
    Tells E O X (Handle_func_close E self args) := by
  apply tells_guards
  intro _
  apply Tells.bind
  · apply tells_check
    exact plain_bind plain_parse fun _ => plain_bind plain_callable_or_None fun _ => plain_ok
  · intro callback
    apply tells_take.bind
    intro _
    apply tells_set_slot.bind
    intro _
    exact tells_take.bind fun _ => tells_uv_close

theorem tells_Process_func_close {args : Args Ptr} :
    Tells E O X (Process_func_close E self args) := by
  apply tells_get.bind
  intro w
  apply Tells.bind
  · exact tells_check (plain_ite plain_ok (plain_error (plain_text (by decide))))
  · exact fun _ => tells_Handle_func_close

theorem tells_Handle_ref_set {val : Args Int} : Tells E O X (Handle_ref_set E self val) := by
  apply (tells_check plain_parse).bind
  intro ref
  exact tells_ite (tells_call fun h => absurd h (by decide)) (tells_call fun h =>
    absurd h (by decide))

theorem tells_Handle_dict_set {val : Option Ptr} : Tells E O X (Handle_dict_set E self val) := by
  apply Tells.bind
  · apply tells_check
    cases val with
    | none => exact plain_error (plain_text (by decide))
    | some val => exact plain_ite plain_ok (plain_error (plain_text (by decide)))
  · exact fun _ => tells_put

theorem tells_Timer_repeat_set {value : Option (Args ℚ)} :
    Tells E O X (Timer_repeat_set E self value) := by
  apply tells_initialized
  intro _
  apply (tells_check (plain_bind plain_new_value fun _ => plain_not_negative)).bind
  intro _
  exact tells_call fun h => absurd h (by decide)

theorem plain_timer_args {args : Args (Ptr × ℚ × ℚ)} : Plain (timer_args E args) :=
  plain_bind plain_parse fun _ => plain_bind plain_a_callable fun _ =>
    plain_bind plain_not_negative fun _ => plain_bind plain_not_negative fun _ => plain_ok

theorem plain_fspoll_args {args : Args (Ptr × ℚ)} : Plain (fspoll_args E args) :=
  plain_bind plain_parse fun _ => plain_bind plain_a_callable fun _ =>
    plain_bind plain_not_negative fun _ => plain_ok

theorem plain_listen_args {args : Args (Ptr × Int)} : Plain (listen_args E args) := by
  apply plain_bind plain_parse
  rintro ⟨callback, backlog⟩
  apply plain_ite
  · apply plain_bind (plain_error (plain_text (by decide)))
    exact fun _ => plain_bind plain_a_callable fun _ => plain_ok
  · exact plain_bind plain_a_callable fun _ => plain_ok

/-- The poll handle of a SignalChecker raises UVError. -/
theorem tells_SignalChecker_func_start (hexc : Fits O self X (.type .UVError)) :
    Tells E O X (SignalChecker_func_start E self) := by
  apply tells_guards
  intro hinit
  apply tells_checked rfl hinit hexc
  apply tells_modify <;> intro w <;> split <;> rfl

theorem tells_func_listen {t : ExcType} {args : Args (Ptr × Int)} (hexc : Fits O self X (.type t)) :
    Tells E O X (func_listen E self t args) := by
  apply tells_guards
  intro hinit
  apply (tells_check plain_listen_args).bind
  intro callback
  apply tells_checked rfl hinit hexc
  exact tells_put

/-- The exception of a stream is chosen by its type. -/
theorem tells_Stream_func_shutdown {args : Args Ptr} (hexc : Fits O self X .stream) :
    Tells E O X (Stream_func_shutdown E self args) := by
  apply tells_guards
  intro hinit
  apply (tells_check plain_parse).bind
  intro callback
  apply (tells_check plain_check_malloc).bind
  intro _
  apply tells_take.bind
  intro _
  exact tells_submit hexc rfl hinit

theorem tells_Stream_func_write {args : Args (Data × Ptr)} (hexc : Fits O self X .stream) :
    Tells E O X (Stream_func_write E self args) := by
  apply tells_guards
  intro hinit
  apply (tells_check plain_request_args).bind
  intro a
  exact tells_submit_any hexc rfl hinit

theorem tells_Pipe_func_write {args : Args ((Data × Ptr) × Option Ptr)}
    (hexc : Fits O self X .stream) :
    Tells E O X (Pipe_func_write E self args) := by
  apply tells_guards
  intro hinit
  apply (tells_check plain_parse).bind
  rintro ⟨a, send_handle⟩
  apply (tells_check plain_request_args).bind
  intro b
  cases send_handle with
  | none => exact tells_submit_any hexc rfl hinit
  | some p => exact tells_carried.bind fun _ => tells_submit_any hexc rfl hinit

theorem tells_UDP_func_send {args : Args (PyObj × Data × Ptr)}
    (hexc : Fits O self X (.type .UDPError)) :
    Tells E O X (UDP_func_send E self args) := by
  apply tells_guards
  intro hinit
  apply Tells.bind
  · apply tells_check
    exact plain_bind plain_parse fun _ => plain_bind plain_request_args fun _ =>
      plain_bind plain_address fun _ => plain_ok
  · exact fun _ => tells_submit_any hexc rfl hinit

theorem tells_TCP_func_accept {args : Args Ptr} (hexc : Fits O self X (.type .TCPError)) :
    Tells E O X (TCP_func_accept E self args) := by
  apply tells_guards
  intro hinit
  apply (tells_check plain_parse).bind
  intro client
  apply tells_get.bind
  intro w
  apply Tells.bind
  · exact tells_check (plain_ite plain_ok (plain_error (plain_text (by decide))))
  · exact fun _ => tells_last rfl hinit hexc

theorem tells_TCP_func_connect {args : Args (PyObj × Ptr)}
    (hexc : Fits O self X (.type .TCPError)) :
    Tells E O X (TCP_func_connect E self args) := by
  apply tells_guards
  intro hinit
  apply Tells.bind
  · apply tells_check
    exact plain_bind plain_parse fun _ => plain_bind plain_a_callable fun _ =>
      plain_bind plain_address fun _ => plain_ok
  · intro callback
    apply tells_take.bind
    intro _
    apply Tells.bind
    · exact tells_ite tells_pure (tells_drop.bind fun _ => tells_raise plain_no_memory.2)
    · exact fun _ => tells_submit hexc rfl hinit

/-- One of the calls of a Pipe that are made in a row. -/
theorem tells_checked_call (hexc : Fits O self X (.type .PipeError))
    (hinit : (O self).initialized = true)
    (hfn : fn.has_status = true) : Tells E O X (checked_call E fn self hs) := by
  exact tells_last hfn hinit hexc

theorem tells_Pipe_func_bind {args : Args Name} (hexc : Fits O self X (.type .PipeError)) :
    Tells E O X (Pipe_func_bind E self args) := by
  apply tells_guards
  intro hinit
  apply (tells_check plain_parse).bind
  intro name
  cases name with
  | ordinary => exact tells_checked_call hexc hinit rfl
  | abstract =>
    apply (tells_checked_call hexc hinit rfl).bind
    intro _
    apply (tells_checked_call hexc hinit rfl).bind
    intro _
    exact tells_checked_call hexc hinit rfl

theorem tells_Pipe_func_accept {args : Args Ptr} (hexc : Fits O self X (.type .PipeError)) :
    Tells E O X (Pipe_func_accept E self args) := by
  apply tells_guards
  intro hinit
  apply (tells_check plain_parse).bind
  intro client
  apply tells_carried.bind
  intro _
  exact tells_last rfl hinit hexc

theorem tells_Pipe_func_connect {args : Args (Name × Ptr)}
    (hexc : Fits O self X (.type .PipeError)) :
    Tells E O X (Pipe_func_connect E self args) := by
  apply tells_guards
  intro hinit
  apply Tells.bind
  · apply tells_check
    exact plain_bind plain_parse fun _ => plain_bind plain_a_callable fun _ => plain_ok
  · rintro ⟨name, callback⟩
    cases name with
    | ordinary =>
      apply tells_take.bind
      intro _
      apply Tells.bind
      · exact tells_ite tells_pure (tells_drop.bind fun _ => tells_raise plain_no_memory.2)
      · intro _
        apply (tells_call fun h => absurd h (by decide)).bind
        exact fun _ => tells_take
    | abstract =>
      apply (tells_checked_call hexc hinit rfl).bind
      intro _
      apply (tells_checked_call hexc hinit rfl).bind
      intro _
      apply (tells_checked_call hexc hinit rfl).bind
      intro _
      apply (tells_check plain_check_malloc).bind
      intro _
      apply (tells_checked_call hexc hinit rfl).bind
      intro _
      apply tells_take.bind
      intro _
      exact tells_checked_call hexc hinit rfl

/-! ## All but spawn -/

/-- No class but Handle and Stream has others below it. -/
theorem derives_eq {c base : PyClass} (h : c.derives base = true) (hbase : base.is_base = false) :
    c = base := by
  have hne : base ≠ .Handle ∧ base ≠ .Stream := by simpa [PyClass.is_base] using hbase
  simpa [PyClass.derives, hne] using h

/-- The type of a stream names the exception of its class. -/
theorem stream_exc_of_class {c : PyClass} (hstream : c.is_stream = true)
    (hbase : c.is_base = false) : stream_exc c.uv_type = some c.exception := by
  cases c with
  | TCP | Pipe | TTY => rfl
  | Stream => cases hbase
  | _ => cases hstream

/-- The type of a stream that is initialized is one of those that RAISE_STREAM_EXCEPTION knows. -/
theorem stream_fits (hstream : (O self).cls.is_stream = true) (hX : X = (O self).cls.exception) :
    Fits O self X .stream := by
  intro hinit
  have hbase := (O self).concrete hinit
  rw [(O self).typed hinit, hX]
  exact stream_exc_of_class hstream hbase

variable {m : Method}

theorem own_exception {t : ExcType} (hbound : m.Bound w self) (hclass : m.on_class = false)
    (hbase : m.cls.is_base = false) (ht : m.cls.exception = t) :
    Fits w.objs self (m.exception w self) (.type t) := by
  have hcls := derives_eq (hbound hclass) hbase
  unfold Method.exception
  rw [hclass, hcls]
  exact ht.symm

theorem stream_exception (hbound : m.Bound w self) (hclass : m.on_class = false)
    (hstream : ∀ c : PyClass, c.derives m.cls = true → c.is_stream = true) :
    Fits w.objs self (m.exception w self) .stream := by
  apply stream_fits (hstream _ (hbound hclass))
  unfold Method.exception
  rw [hclass]
  rfl

/-- Nothing but streams derives from Stream. -/
theorem derives_stream {c : PyClass} (h : c.derives .Stream = true) : c.is_stream = true := by
  cases c with
  | Stream | TCP | Pipe | TTY => rfl
  | _ => cases h

theorem derives_pipe {c : PyClass} (h : c.derives .Pipe = true) : c.is_stream = true := by
  rw [derives_eq h rfl]
  rfl

/-- The methods but spawn, and those two that do not look at the status where it is not negative. -/
theorem tells_exec (hthread : m.of_thread = false) (hbound : m.Bound w self)
    (hspawn : ∀ args, m ≠ .Process_spawn args)
    (hopen : ∀ args, m = .UDP_open args → 0 ≤ E.status .uv_udp_open)
    (hreset : m = .TTY_reset_mode → 0 ≤ E.status .uv_tty_reset_mode) :
    Tells E w.objs (m.exception w self) (m.exec E self) := by
  cases m with
  | Handle_close args => exact tells_Handle_func_close
  | Process_close args => exact tells_Process_func_close
  | Handle_set_ref val => exact tells_Handle_ref_set
  | Handle_set_dict val => exact tells_Handle_dict_set
  | Timer_set_repeat value => exact tells_Timer_repeat_set
  | Process_spawn args => exact absurd rfl (hspawn args)
  | UDP_open args => exact tells_func_void plain_parse fun _ => hopen args rfl
  | TTY_reset_mode => exact tells_call fun _ => hreset rfl
  | Process_disable_stdio_inheritance => exact tells_call fun h => absurd h (by decide)
  | Pipe_pending_instances args => exact tells_func_void plain_parse fun h => absurd h (by decide)
  | Pipe_pending_handle_type => exact tells_func_void plain_ok fun h => absurd h (by decide)
  | SignalChecker_start =>
    exact tells_SignalChecker_func_start (own_exception hbound rfl rfl rfl)
  | TCP_listen args =>
    exact tells_func_listen (own_exception hbound rfl rfl rfl)
  | Pipe_listen args =>
    exact tells_func_listen (own_exception hbound rfl rfl rfl)
  | TCP_accept args =>
    exact tells_TCP_func_accept (own_exception hbound rfl rfl rfl)
  | TCP_connect args =>
    exact tells_TCP_func_connect (own_exception hbound rfl rfl rfl)
  | Pipe_bind args =>
    exact tells_Pipe_func_bind (own_exception hbound rfl rfl rfl)
  | Pipe_accept args =>
    exact tells_Pipe_func_accept (own_exception hbound rfl rfl rfl)
  | Pipe_connect args =>
    exact tells_Pipe_func_connect (own_exception hbound rfl rfl rfl)
  | UDP_send args =>
    exact tells_UDP_func_send (own_exception hbound rfl rfl rfl)
  | Pipe_write args =>
    exact tells_Pipe_func_write (stream_exception hbound rfl fun _ => derives_pipe)
  | Stream_shutdown args =>
    exact tells_Stream_func_shutdown (stream_exception hbound rfl fun _ => derives_stream)
  | Stream_write args =>
    exact tells_Stream_func_write (stream_exception hbound rfl fun _ => derives_stream)
  | Stream_start_read args =>
    exact tells_func_start (stream_exception hbound rfl fun _ =>
      derives_stream) rfl plain_start_args
  | Stream_stop_read =>
    exact tells_func_stop (stream_exception hbound rfl fun _ => derives_stream) rfl
  | Stream_try_write args =>
    apply tells_func_try (stream_exception hbound rfl fun _ => derives_stream) rfl
    intro addr data h
    cases args with
    | error t => cases h
    | ok view =>
      cases h
      exact plain_ok
  | Stream_fileno =>
    exact tells_func_call (stream_exception hbound rfl fun _ => derives_stream) rfl plain_ok
  | Stream_set_blocking args =>
    exact tells_func_call (stream_exception hbound rfl fun _ => derives_stream) rfl plain_parse
  | UDP_try_send args =>
    apply tells_func_try (own_exception hbound rfl rfl rfl) rfl
    intro addr data h
    cases args with
    | error t => cases h
    | ok a =>
      cases h
      exact plain_address
  | Timer_start args =>
    exact tells_func_start (own_exception hbound rfl rfl rfl) rfl plain_timer_args
  | FSPoll_start args =>
    exact tells_func_start (own_exception hbound rfl rfl rfl) rfl plain_fspoll_args
  | Prepare_start _ | Idle_start _ | Check_start _ | Signal_start _ | Poll_start _
  | FSEvent_start _ | UDP_start_recv _ =>
    exact tells_func_start (own_exception hbound rfl rfl rfl) rfl plain_start_args
  | Timer_stop | Prepare_stop | Idle_stop | Check_stop | Signal_stop | SignalChecker_stop
  | Poll_stop | FSEvent_stop | FSPoll_stop | UDP_stop_recv =>
    exact tells_func_stop (own_exception hbound rfl rfl rfl) rfl
  | TCP_set_sndbuf _ | TCP_set_rcvbuf _ | Pipe_set_sndbuf _ | Pipe_set_rcvbuf _
  | UDP_set_sndbuf _ | UDP_set_rcvbuf _ =>
    exact tells_attr_set rfl plain_new_value (own_exception hbound rfl rfl rfl)
  | TCP_bind _ | UDP_bind _ =>
    exact tells_func_call (own_exception hbound rfl rfl rfl) rfl plain_address_args
  | UDP_set_multicast_ttl _ | UDP_set_ttl _ =>
    exact tells_func_call (own_exception hbound rfl rfl rfl) rfl plain_ttl_args
  | Async_send | Timer_again | Poll_fileno | TCP_getsockname | TCP_getpeername | Pipe_getsockname
  | Pipe_getpeername | TTY_get_winsize | UDP_getsockname | UDP_fileno =>
    exact tells_func_call (own_exception hbound rfl rfl rfl) rfl plain_ok
  | TCP_nodelay _ | TCP_keepalive _ | TCP_simultaneous_accepts _ | TCP_open _ | Pipe_open _
  | TTY_set_mode _ | UDP_set_membership _ | UDP_set_multicast_interface _ | UDP_set_broadcast _
  | UDP_set_multicast_loop _ | Process_kill _ =>
    exact tells_func_call (own_exception hbound rfl rfl rfl) rfl plain_parse
  | _ => cases hthread

/-! ## What is told is what is raised -/

theorem alike_refl : Alike w.objs w := fun _ => ⟨rfl, rfl, rfl⟩

/-- Which calls give a status is told by the classes of the objects. -/
theorem answered_iff (h : Alike O t) {c : UvCall} : Answered t.objs c ↔ Answered O c := by
  unfold Answered
  simp only [(h _).1]

/-- The calls of a run are those that the log has grown by. -/
theorem called_eq {cs : List UvCall} (h : t.calls = w.calls ++ cs) : called w t = cs := by
  unfold called
  rw [h, List.drop_left]

theorem fine_called {cs : List UvCall} (halike : Alike O t) (hcs : t.calls = w.calls ++ cs)
    (hfine : Fine E O cs) : Fine E t.objs (called w t) := by
  rw [called_eq hcs]
  intro c hc hanswered
  exact hfine c hc ((answered_iff halike).mp hanswered)

/-- A call that ends in no exception of libuv's, and has no status that is negative. -/
theorem reports_of_fine {r : EStateM.Result Stop World Unit} (hx : m.exec E self w = r)
    (hr : ∀ Y n t, r ≠ .error (.raised (.uv Y n)) t)
    (hfine : Fine E (last r).objs (called w (last r)))
    (hrestored : ∀ e t, r = .error (.raised e) t →
      ∀ p ∉ m.made E, t.sides p = w.sides p ∧ t.refs p = w.refs p) : Reports E w self m := by
  refine ⟨?_, ?_, ?_⟩
  · rw [hx]
    intro c hc hanswered
    have hpos := hfine c hc hanswered
    refine iff_of_false ?_ (by omega)
    rintro ⟨t, ht⟩
    exact hr _ _ t ht
  · intro Y n t ht
    exact absurd (hx.symm.trans ht) (hr Y n t)
  · intro e t ht
    exact hrestored e t (hx.symm.trans ht)

/-- A method that stops before libuv has given it a status. -/
theorem reports_of_refused {e : PyErr} (hx : m.exec E self w = .error (.raised e) t)
    (he : ∀ Y r, e ≠ .uv Y r) (hcalls : t.calls = w.calls)
    (hrestored : ∀ p ∉ m.made E, t.sides p = w.sides p ∧ t.refs p = w.refs p) :
    Reports E w self m := by
  apply reports_of_fine hx
  · intro Y n u h
    cases h
    exact he Y n rfl
  · rw [last, called_eq (hcalls.trans (List.append_nil _).symm)]
    exact fine_nil
  · intro e' u h
    cases h
    exact hrestored

/-- What is left to show of a method: what it tells, and what it gives back. -/
theorem reports_of_tells (htells : Tells E w.objs (m.exception w self) (m.exec E self))
    (hrestored : ∀ e t, m.exec E self w = .error (.raised e) t →
      ∀ p ∉ m.made E, t.sides p = w.sides p ∧ t.refs p = w.refs p) : Reports E w self m := by
  cases hx : m.exec E self w with
  | ok a t =>
    obtain ⟨halike, cs, hcs, hfine⟩ := htells.ok alike_refl hx
    exact reports_of_fine hx (fun _ _ _ h => nomatch h) (fine_called halike hcs hfine)
      (fun _ _ h => nomatch h)
  | error e t =>
    obtain ⟨halike, cs, hcs, htold⟩ := htells.error alike_refl hx
    by_cases he : ∃ Y r, e = .raised (.uv Y r)
    · obtain ⟨Y, r, rfl⟩ := he
      obtain ⟨rfl, hneg, ⟨c, hc, hanswered, hstatus⟩, hothers⟩ := htold
      refine ⟨?_, ?_, hrestored⟩
      · rw [hx, last, called_eq hcs]
        intro d hd hanswered'
        have hd' := (answered_iff halike).mp hanswered'
        constructor
        · rintro ⟨t', ht'⟩
          cases ht'
          exact hneg
        · intro hlt
          rw [hothers d hd hd' hlt]
          exact ⟨t, rfl⟩
      · intro Y' r' t' ht'
        rw [hx] at ht'
        cases ht'
        refine ⟨rfl, c, ?_, (answered_iff halike).mpr hanswered, hstatus, hneg⟩
        rw [called_eq hcs]
        exact hc
    · have hne : ∀ Y r, e ≠ .raised (.uv Y r) := fun Y r h => he ⟨Y, r, h⟩
      apply reports_of_fine hx _ (fine_called halike hcs (fine_of_told htold hne))
      · intro e' u h
        exact hrestored e' u (hx.trans h)
      · intro Y n u h
        cases h
        exact hne Y n rfl

end pyuv.methods
