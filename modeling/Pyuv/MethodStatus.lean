-- What a method of a handle leaves behind when libuv has answered with a negative status: the
-- exception of the handle's type, and the fields and the reference counts as they were. It does so
-- but for two methods that do not look at the status, a connect that has given its references away
-- and a spawn, whose process holds the loop.
import Pyuv.MethodTells

set_option linter.style.nameCheck false

namespace pyuv.methods

open ends
open addr_tuples (PyObj)

variable {E : Env} {O : Ptr → Obj} {X : ExcType} {s t w : World} {self q : Ptr} {fn : UvFn}
  {hs : List Ptr} {exc : Exc} {err : Int} {α β : Type} {bad : Int → Prop} {back : Int}
  {good : World → World → Prop} {m : Method}

/-! ## What is given back before an exception -/

/-- A program that raises nothing. -/
def Calm (x : C α) : Prop :=
  Ends (fun _ => True) (fun _ _ _ => True) (fun _ e _ => e = .crash) x

/-- Programs in a row that raise nothing. -/
theorem Calm.bind {x : C α} {f : α → C β} (hx : Calm x) (hf : ∀ a, Calm (f a)) : Calm (x >>= f) :=
  Ends.bind hx hf (fun _ _ _ _ _ => trivial) (fun _ _ _ _ _ _ _ _ => trivial)
    (fun _ _ _ _ h => h) (fun _ _ _ _ _ _ _ h => h)

/-- A write raises nothing. -/
theorem calm_modify {f : World → World} : Calm (modify f : C PUnit) :=
  Ends.modify fun _ _ => trivial

theorem calm_call : Calm (call E fn hs) := by
  intro s _
  by_cases hbase : (hs.any fun p => (s.objs p).cls.is_base) = true
  · rw [call, bind_of_error (uv_crash hbase)]
  · rw [call, bind_of_ok (uv_answer (by simpa [List.any_eq_true] using hbase))]
    trivial

/-- There is nothing to give back for. -/
theorem Calm.owes {x : C α} (h : Calm x) : Owes q bad back (fun _ _ => True) x :=
  Ends.mono h (fun _ hs => hs) (fun _ _ _ _ _ => trivial) (fun _ _ _ _ he => .inl he)

theorem owes_Handle_func_close {args : Args Ptr} (hbad : bad 0) :
    Owes q bad 0 (fun _ _ => True) (Handle_func_close E self args) := by
  apply (owes_guards hbad).quiet
  intro _
  apply (owes_check hbad).quiet
  intro callback
  apply Calm.owes
  apply calm_modify.bind
  intro _
  apply calm_modify.bind
  intro _
  apply calm_modify.bind
  intro _
  exact calm_call.bind fun _ => calm_modify

theorem owes_Process_func_close {args : Args Ptr} (hbad : bad 0) :
    Owes q bad 0 (fun _ _ => True) (Process_func_close E self args) := by
  apply owes_get.quiet
  intro w
  apply (owes_check hbad).quiet
  intro _
  exact owes_Handle_func_close hbad

theorem owes_Handle_dict_set {val : Option Ptr} (hbad : bad 0) :
    Owes q bad 0 (fun _ _ => True) (Handle_dict_set E self val) :=
  (owes_check hbad).quiet fun _ => calm_modify.owes

theorem owes_func_start {slot : Slot} {args : Except PyErr Ptr} (hbad : bad 0) :
    Owes q bad 0 (fun _ _ => True) (func_start E self slot fn exc args) := by
  apply (owes_guards hbad).quiet
  intro _
  apply (owes_check hbad).quiet
  intro callback
  apply owes_uv.quiet
  intro err
  apply (owes_raise_if_negative hbad).quiet
  intro _
  exact (calm_modify.bind fun _ => calm_modify).owes

theorem owes_func_stop {slot : Option Slot} (hbad : bad 0) :
    Owes q bad 0 (fun _ _ => True) (func_stop E self fn exc slot) := by
  apply owes_guarded_call hbad
  apply Calm.owes
  cases slot with
  | none => exact calm_modify
  | some slot => exact calm_modify.bind fun _ => calm_modify

theorem owes_func_listen {t : ExcType} {args : Args (Ptr × Int)} (hbad : bad 0) :
    Owes q bad 0 (fun _ _ => True) (func_listen E self t args) := by
  apply (owes_guards hbad).quiet
  intro _
  apply (owes_check hbad).quiet
  intro callback
  apply owes_uv.quiet
  intro err
  apply (owes_raise_if_negative hbad).quiet
  intro _
  exact calm_modify.owes

/-- All but spawn, and a connect to an abstract name. -/
theorem owes_exec (hbad : bad 0) (hspawn : ∀ args, m ≠ .Process_spawn args)
    (hconnect : ∀ callback, m ≠ .Pipe_connect (.ok (.abstract, callback))) :
    Owes q bad 0 (fun _ _ => True) (m.exec E self) := by
  have hkept : ∀ {x : C Unit}, Owes q bad 0 (Has q 0) x → Owes q bad 0 (fun _ _ => True) x :=
    fun h => h.mono fun _ _ _ => trivial
  have hgained : ∀ {x : C Unit}, Owes q bad 0 (Gains q) x → Owes q bad 0 (fun _ _ => True) x :=
    fun h => h.mono fun _ _ _ => trivial
  cases m with
  | Handle_close args => exact owes_Handle_func_close hbad
  | Process_close args => exact owes_Process_func_close hbad
  | Handle_set_dict val => exact owes_Handle_dict_set hbad
  | Handle_set_ref val =>
    exact (owes_check hbad).quiet fun ref => owes_ite calm_call.owes calm_call.owes
  | Process_spawn args => exact absurd rfl (hspawn args)
  | Pipe_connect args =>
    exact hgained
      (owes_Pipe_func_connect hbad (.inr fun callback h => hconnect callback (by rw [h])))
  | SignalChecker_start => exact owes_guarded_call hbad calm_modify.owes
  | Timer_start _ | Prepare_start _ | Idle_start _ | Check_start _ | Signal_start _
  | Poll_start _ | FSEvent_start _ | FSPoll_start _ | Stream_start_read _ | UDP_start_recv _ =>
    exact owes_func_start hbad
  | Timer_stop | Prepare_stop | Idle_stop | Check_stop | Signal_stop | SignalChecker_stop
  | Poll_stop | FSEvent_stop | FSPoll_stop | Stream_stop_read | UDP_stop_recv =>
    exact owes_func_stop hbad
  | TCP_listen _ | Pipe_listen _ => exact owes_func_listen hbad
  | Stream_shutdown args => exact hgained (owes_Stream_func_shutdown hbad)
  | Stream_write args => exact hgained (owes_Stream_func_write hbad)
  | UDP_send args => exact hgained (owes_UDP_func_send hbad)
  | TCP_connect args => exact hgained (owes_TCP_func_connect hbad)
  | Pipe_write args => exact hgained (owes_Pipe_func_write hbad)
  | Stream_try_write _ | UDP_try_send _ => exact hgained (owes_func_try hbad)
  | Condition_wait _ | Condition_timedwait _ => exact hgained (owes_func_cond_wait hbad)
  | Pipe_bind args => exact hkept (owes_Pipe_func_bind hbad)
  | TCP_accept args => exact hkept (owes_TCP_func_accept hbad)
  | Pipe_accept args => exact hkept (owes_Pipe_func_accept hbad)
  | Timer_set_repeat value => exact hkept (owes_Timer_repeat_set hbad)
  | TTY_reset_mode | Process_disable_stdio_inheritance => exact calm_call.owes
  | Pipe_pending_instances _ | Pipe_pending_handle_type | UDP_open _ =>
    exact hkept (owes_func_void hbad)
  | TCP_set_sndbuf _ | TCP_set_rcvbuf _ | Pipe_set_sndbuf _ | Pipe_set_rcvbuf _
  | UDP_set_sndbuf _ | UDP_set_rcvbuf _ => exact hkept (owes_attr_set hbad)
  | Barrier_wait | Mutex_lock | Mutex_unlock | Mutex_trylock | RWLock_rdlock | RWLock_rdunlock
  | RWLock_tryrdlock | RWLock_wrlock | RWLock_wrunlock | RWLock_trywrlock | Condition_signal
  | Condition_broadcast | Semaphore_post | Semaphore_wait | Semaphore_trywait =>
    exact hkept (owes_func_sync hbad)
  | _ => exact hkept (owes_func_call hbad)

/-- Where nothing is owed, everything is as it was. -/
theorem restored_of_owes {x : C Unit} {e : PyErr}
    (h : ∀ q, Owes q (· = 0) 0 (fun _ _ => True) x) (hx : x w = .error (.raised e) t) (p : Ptr) :
    t.sides p = w.sides p ∧ t.refs p = w.refs p := by
  rcases (h p).error trivial hx with hcrash | ⟨hsides, hrefs⟩
  · cases hcrash
  · have hzero : t.refs p - w.refs p + 0 = 0 := hrefs
    exact ⟨by rw [hsides], by omega⟩

/-- All but spawn and a connect to an abstract name, and those two that do not look at the status
where it is not negative. -/
theorem reports_exec (hthread : m.of_thread = false) (hbound : m.Bound w self)
    (hspawn : ∀ args, m ≠ .Process_spawn args)
    (hconnect : ∀ callback, m ≠ .Pipe_connect (.ok (.abstract, callback)))
    (hopen : ∀ args, m = .UDP_open args → 0 ≤ E.status .uv_udp_open)
    (hreset : m = .TTY_reset_mode → 0 ≤ E.status .uv_tty_reset_mode) : Reports E w self m := by
  apply reports_of_tells (tells_exec hthread hbound hspawn hopen hreset)
  intro e t hx p _
  have howes : ∀ q, Owes q (· = 0) 0 (fun _ _ => True) (m.exec E self) :=
    fun q => owes_exec rfl hspawn hconnect
  exact restored_of_owes howes hx p

/-! ## The two methods that do not look at the status -/

/-- A call that comes back and raises nothing is one whose status must not be negative. -/
theorem not_reports_of_ok {c : UvCall} (hx : m.exec E self w = .ok () t)
    (hc : c ∈ called w t) (hanswered : Answered t.objs c) (hneg : E.status c.fn < 0) :
    ¬Reports E w self m := by
  intro h
  have hreported := h.reported
  rw [hx] at hreported
  obtain ⟨u, hu⟩ := (hreported c hc hanswered).mpr hneg
  cases hu

theorem not_initialized_plain : ∀ Y r, PyErr.not_initialized ≠ .uv Y r := fun _ _ h => nomatch h

theorem handle_closed_plain : ∀ Y r, PyErr.handle_closed ≠ .uv Y r := fun _ _ h => nomatch h

/-- The methods of a handle that cannot be used. -/
theorem reports_of_unusable {f : Unit → C Unit} (hexec : m.exec E self = handle_guards self >>= f)
    (hself : ¬Usable w self) : Reports E w self m := by
  have hsame : ∀ p ∉ m.made E, w.sides p = w.sides p ∧ w.refs p = w.refs p := fun _ _ => ⟨rfl, rfl⟩
  cases hinit : (w.objs self).initialized with
  | false =>
    have hrun : m.exec E self w = .error (.raised .not_initialized) w := by
      rw [hexec]
      exact bind_of_error (guards_uninitialized hinit)
    exact reports_of_refused hrun not_initialized_plain rfl hsame
  | true =>
    have hclosing : (w.objs self).closing = true := by simpa [Usable, hinit] using hself
    have hrun : m.exec E self w = .error (.raised .handle_closed) w := by
      rw [hexec]
      exact bind_of_error (guards_closed hinit hclosing)
    exact reports_of_refused hrun handle_closed_plain rfl hsame

theorem reports_UDP_open_iff {args : Args Int} (hbound : (Method.UDP_open args).Bound w self) :
    Reports E w self (.UDP_open args) ↔ (Method.UDP_open args).heeded E w self := by
  by_cases hself : Usable w self
  · cases args with
    | error t =>
      refine iff_of_true ?_ trivial
      have hrun : (Method.UDP_open (.error t)).exec E self w = .error (.raised (.cpython t)) w :=
        bind_of_ok (guards_usable hself)
      exact reports_of_refused hrun (fun _ _ h => nomatch h) rfl fun _ _ => ⟨rfl, rfl⟩
    | ok fd =>
      by_cases hstatus : 0 ≤ E.status .uv_udp_open
      · refine iff_of_true ?_ fun _ => hstatus
        apply reports_exec rfl hbound
        · simp
        · simp
        · exact fun _ _ => hstatus
        · simp
      · refine iff_of_false ?_ fun h => hstatus (h hself)
        have hrun : (Method.UDP_open (.ok fd)).exec E self w =
            .ok () (w.log ⟨.uv_udp_open, [self]⟩) := by
          change (handle_guards self >>= fun _ => call E .uv_udp_open [self]) w = _
          rw [bind_of_ok (guards_usable hself), call, bind_of_ok (uv_usable hself _)]
          rfl
        apply not_reports_of_ok (c := ⟨.uv_udp_open, [self]⟩) hrun
        · rw [called_eq rfl]
          exact List.mem_singleton_self _
        · refine ⟨rfl, fun p hp => ?_⟩
          rw [List.mem_singleton.mp hp]
          exact (w.objs self).concrete hself.1
        · exact not_le.mp hstatus
  · refine iff_of_true (reports_of_unusable rfl hself) ?_
    cases args with
    | error t => trivial
    | ok fd => exact fun h => absurd h hself

theorem reports_TTY_reset_mode_iff :
    Reports E w self .TTY_reset_mode ↔ (Method.TTY_reset_mode).heeded E w self := by
  by_cases hstatus : 0 ≤ E.status .uv_tty_reset_mode
  · refine iff_of_true ?_ hstatus
    apply reports_exec rfl
    · intro h
      cases h
    · simp
    · simp
    · simp
    · exact fun _ => hstatus
  · refine iff_of_false ?_ hstatus
    have hrun : (Method.TTY_reset_mode).exec E self w =
        .ok () ((w.use []).log ⟨.uv_tty_reset_mode, []⟩) := rfl
    apply not_reports_of_ok (c := ⟨.uv_tty_reset_mode, []⟩) hrun
    · rw [called_eq rfl]
      exact List.mem_singleton_self _
    · exact ⟨rfl, fun p hp => nomatch hp⟩
    · exact not_le.mp hstatus

/-! ## The connect to an abstract name -/

/-- The timer does not start. -/
def Late (E : Env) : Prop :=
  (0 ≤ E.status .socket ∧ 0 ≤ E.status .connect ∧ 0 ≤ E.status .uv_pipe_open) ∧
    E.malloc .connect_req = true ∧ 0 ≤ E.status .uv_timer_init ∧ E.status .uv_timer_start < 0

theorem checked_call_ok (hbase : ∀ p ∈ hs, (s.objs p).cls.is_base = false)
    (hstatus : 0 ≤ E.status fn) :
    checked_call E fn self hs s = .ok () ((s.use hs).log ⟨fn, hs⟩) := by
  unfold checked_call
  rw [bind_of_ok (uv_answer hbase), raise_if_negative_of_nonneg hstatus]
  rfl

theorem checked_then {rest : Unit → C α} (hbase : ∀ p ∈ hs, (s.objs p).cls.is_base = false)
    (hstatus : 0 ≤ E.status fn) : ∃ t, t.objs = s.objs ∧ t.refs = s.refs ∧
      (checked_call E fn self hs >>= rest) s = rest () t :=
  ⟨(s.use hs).log ⟨fn, hs⟩, rfl, rfl, bind_of_ok (checked_call_ok hbase hstatus)⟩

theorem checked_call_error (hbase : ∀ p ∈ hs, (s.objs p).cls.is_base = false)
    (hstatus : E.status fn < 0) : checked_call E fn self hs s =
      .error (.raised (.uv .PipeError (E.status fn))) ((s.use hs).log ⟨fn, hs⟩) := by
  unfold checked_call raise_if_negative
  rw [bind_of_ok (uv_answer hbase), if_pos hstatus]
  rfl

/-- What follows a call runs only where its status is not negative. -/
theorem owes_checked {rest : Unit → C α} (hbad : bad 0)
    (hrest : 0 ≤ E.status fn → Owes q bad 0 (fun _ _ => True) (rest ())) :
    Owes q bad 0 (fun _ _ => True) (checked_call E fn self hs >>= rest) := by
  by_cases hstatus : 0 ≤ E.status fn
  · exact (owes_checked_call hbad).quiet fun _ => hrest hstatus
  · intro s _
    have hneg : E.status fn < 0 := not_le.mp hstatus
    by_cases hbase : (hs.any fun p => (s.objs p).cls.is_base) = true
    · have hcall : checked_call E fn self hs s = .error .crash (s.log ⟨fn, hs⟩) :=
        bind_of_error (uv_crash hbase)
      rw [bind_of_error hcall]
      exact .inl rfl
    · have hnone : ∀ p ∈ hs, (s.objs p).cls.is_base = false := by
        simpa [List.any_eq_true] using hbase
      rw [bind_of_error (checked_call_error hnone hneg)]
      refine .inr ⟨rfl, ?_⟩
      have hrefs : ((s.use hs).log ⟨fn, hs⟩).refs q = s.refs q := rfl
      rwa [hrefs, sub_self, add_zero]

/-- A connect to an abstract name gives back what it took before it raises, unless the timer does
not start. -/
theorem owes_connect_abstract {callback : Ptr} :
    Owes q (fun d => d = 0 ∨ Late E) 0 (fun _ _ => True)
      (Pipe_func_connect_abstract E self callback) := by
  have hbad : (0 : Int) = 0 ∨ Late E := .inl rfl
  apply owes_checked hbad
  intro hsocket
  apply owes_checked hbad
  intro hconnect
  apply owes_checked hbad
  intro hopened
  apply owes_check_bind hbad
  intro _ hok
  have hmalloc : E.malloc .connect_req = true := by
    by_contra h
    unfold check_malloc at hok
    rw [if_neg h] at hok
    cases hok
  apply owes_checked hbad
  intro htimer
  by_cases hstart : 0 ≤ E.status .uv_timer_start
  · have hcalm : Calm (checked_call E .uv_timer_start self []) := by
      intro s _
      rw [checked_call_ok (by simp) hstart]
      trivial
    exact (calm_modify.bind fun _ => hcalm).owes
  · have hlate : Late E := ⟨⟨hsocket, hconnect, hopened⟩, hmalloc, htimer, not_le.mp hstart⟩
    intro s _
    have htaken : (modify (World.take [self, callback]) : C Unit) s =
        .ok () (s.take [self, callback]) := rfl
    rw [bind_of_ok htaken, checked_call_error (by simp) (not_le.mp hstart)]
    exact .inr ⟨rfl, .inr hlate⟩

/-- The guards and the callback, and then the name. -/
theorem connect_abstract_run {callback : Ptr} (hself : Usable w self) :
    (Method.Pipe_connect (.ok (.abstract, callback))).exec E self w =
      (if E.callable callback = true then Pipe_func_connect_abstract E self callback
        else raise (.text .TypeError "a callable is required")) w := by
  change (handle_guards self >>= fun _ => _) w = _
  rw [bind_of_ok (guards_usable hself)]
  change (check (a_callable E callback >>= fun _ => .ok (Name.abstract, callback)) >>= _) w = _
  unfold a_callable
  by_cases hcallable : E.callable callback = true
  · rw [if_pos hcallable, if_pos hcallable]
    rfl
  · rw [if_neg hcallable, if_neg hcallable]
    rfl

/-- The references for the timer stay. -/
theorem connect_abstract_late {callback : Ptr} (hself : Usable w self) (hlate : Late E) :
    ∃ e t, Pipe_func_connect_abstract E self callback w = .error (.raised e) t ∧
      w.refs self < t.refs self := by
  obtain ⟨⟨hsocket, hconnect, hopened⟩, hmalloc, htimer, hstart⟩ := hlate
  have hbase : ∀ p ∈ [self], (w.objs p).cls.is_base = false := by
    intro p hp
    rw [List.mem_singleton.mp hp]
    exact (w.objs self).concrete hself.1
  unfold Pipe_func_connect_abstract check_malloc
  have hnone : ∀ (v : World), ∀ p ∈ ([] : List Ptr), (v.objs p).cls.is_base = false := by simp
  obtain ⟨w₁, hobjs₁, hrefs₁, hrun₁⟩ := checked_then (hnone w) hsocket
  obtain ⟨w₂, hobjs₂, hrefs₂, hrun₂⟩ := checked_then (hnone w₁) hconnect
  rw [hrun₁, hrun₂]
  have hbase₂ : ∀ p ∈ [self], (w₂.objs p).cls.is_base = false := by
    rw [hobjs₂, hobjs₁]
    exact hbase
  obtain ⟨w₃, -, hrefs₃, hrun₃⟩ := checked_then hbase₂ hopened
  obtain ⟨w₄, -, hrefs₄, hrun₄⟩ := checked_then (hnone w₃) htimer
  have htaken : (modify (World.take [self, callback]) : C Unit) w₄ =
      .ok () (w₄.take [self, callback]) := rfl
  rw [hrun₃, if_pos hmalloc, check_ok_bind, hrun₄, bind_of_ok htaken]
  refine ⟨_, _, checked_call_error (hnone _) hstart, ?_⟩
  have hpos : 0 < [self, callback].count self := List.count_pos_iff.mpr List.mem_cons_self
  change w.refs self < w₄.refs self + [self, callback].count self
  rw [hrefs₄, hrefs₃, hrefs₂, hrefs₁]
  omega

/-- Where the timer of an abstract connect does not start, its references are gone. -/
theorem reports_Pipe_connect_iff {args : Args (Name × Ptr)}
    (hbound : (Method.Pipe_connect args).Bound w self) :
    Reports E w self (.Pipe_connect args) ↔ (Method.Pipe_connect args).heeded E w self := by
  by_cases habstract : ∃ callback, args = .ok (.abstract, callback)
  · obtain ⟨callback, rfl⟩ := habstract
    by_cases hself : Usable w self
    · by_cases hlate : E.callable callback = true ∧ Late E
      · obtain ⟨hcallable, hlate⟩ := hlate
        obtain ⟨⟨hsocket, hconnect, hopened⟩, hmalloc, htimer, hstart⟩ := id hlate
        refine iff_of_false (fun h => ?_) fun h => ?_
        · obtain ⟨e, t, hrun, hlt⟩ := connect_abstract_late hself hlate
          have hexec : (Method.Pipe_connect (.ok (.abstract, callback))).exec E self w =
              .error (.raised e) t := by
            rw [connect_abstract_run hself, if_pos hcallable]
            exact hrun
          have hrefs := (h.restored e t hexec self (by simp [Method.made])).2
          omega
        · have hpos := h ⟨hself, hcallable, hsocket, hconnect, hopened, hmalloc, htimer⟩
          omega
      · refine iff_of_true ?_ fun ht => ?_
        · apply reports_of_tells
          · apply tells_exec rfl hbound <;> simp
          · intro e t hx p _
            rw [connect_abstract_run hself] at hx
            split at hx
            · have hend : ∀ q, t.sides = w.sides ∧ t.refs q = w.refs q := by
                intro q
                rcases (owes_connect_abstract (q := q)).error trivial hx with hcrash
                  | ⟨hsides, hrefs⟩
                · cases hcrash
                · rcases hrefs with hzero | hlate'
                  · exact ⟨hsides, by omega⟩
                  · exact absurd ⟨‹_›, hlate'⟩ hlate
              exact ⟨by rw [(hend p).1], (hend p).2⟩
            · cases hx
              exact ⟨rfl, rfl⟩
        · by_contra hneg
          exact hlate ⟨ht.callable, ⟨ht.socket, ht.connect, ht.opened⟩, ht.allocated, ht.timer,
            not_le.mp hneg⟩
    · exact iff_of_true (reports_of_unusable rfl hself) fun ht => absurd ht.usable hself
  · refine iff_of_true ?_ ?_
    · apply reports_exec rfl hbound
      · simp
      · intro callback h
        cases h
        exact habstract ⟨callback, rfl⟩
      · simp
      · simp
    · cases args with
      | error t => trivial
      | ok a =>
        obtain ⟨name, callback⟩ := a
        cases name with
        | ordinary => trivial
        | abstract => exact absurd ⟨callback, rfl⟩ habstract

/-! ## The spawn -/

variable {a : SpawnArgs} {streams : List Ptr}

/-- The world in which uv_spawn is called. -/
def spawning (E : Env) (a : SpawnArgs) (w : World) : World :=
  set_obj E.fresh started_process (made_process E a w)

/-- The object of a spawn that goes on. -/
theorem spawning_obj : (spawning E a w).objs E.fresh = started_process := Function.update_self _ _ _

theorem spawning_objs {p : Ptr} (hp : p ≠ E.fresh) : (spawning E a w).objs p = w.objs p := by
  have hset : (spawning E a w).objs p = (made_process E a w).objs p := Function.update_of_ne hp _ _
  rw [hset]
  exact Function.update_of_ne hp _ _

/-- The process that did not start is closed, and everything else is as it was. -/
theorem zombie_run {e : PyErr} (hobj : s.objs self = started_process) :
    ∃ t, (Handle_tp_dealloc E self >>= fun _ => (raise e : C Unit)) s = .error (.raised e) t ∧
      t.objs self = { s.objs self with closing := true } ∧ ∀ q ≠ self, t.refs q = s.refs q := by
  have hrun : Handle_tp_dealloc E self s = (uv_close E self >>= fun _ => Py_INCREF self) s := by
    change (if (s.objs self).initialized ∧ !(s.objs self).closing then _ else _ : C Unit) s = _
    rw [hobj]
    rfl
  have hbase : ∀ p ∈ [self], (s.objs p).cls.is_base = false := by
    intro p hp
    rw [List.mem_singleton.mp hp, hobj]
    rfl
  let asked := (s.use [self]).log ⟨.uv_close, [self]⟩
  have hcall : call E .uv_close [self] s = .ok () asked := bind_of_ok (uv_answer hbase)
  have hclose : uv_close E self s = .ok () (set_closing self asked) := bind_of_ok hcall
  refine ⟨(set_closing self asked).take [self], ?_, Function.update_self _ _ _, ?_⟩
  · rw [bind_congr_at hrun]
    have hkept : (uv_close E self >>= fun _ => Py_INCREF self) s =
        .ok () ((set_closing self asked).take [self]) := bind_of_ok hclose
    rw [bind_of_ok hkept]
    rfl
  · intro q hq
    have hcount : [self].count q = 0 := List.count_eq_zero.mpr (by simpa using hq)
    change s.refs q + ([self].count q : Int) = s.refs q
    rw [hcount]
    omega

/-- A spawn that libuv refuses leaves the loop with the process. -/
theorem spawn_refused_by_uv (hfresh : E.fresh ∉ a.loop :: a.streams) (hasked : Asked E w a)
    (hneg : E.status .uv_spawn < 0) :
    ∃ e t, Process_func_spawn E (.ok a) w = .error (.raised e) t ∧
    t.refs a.loop ≠ w.refs a.loop := by
  obtain ⟨hreaches, hnone⟩ := hasked
  obtain ⟨streams, hstreams, hrun⟩ := spawn_started hreaches w
  have hbase : ∀ p ∈ E.fresh :: streams, ((spawning E a w).objs p).cls.is_base = false := by
    intro p hp
    by_cases hnew : p = E.fresh
    · rw [hnew, spawning_obj]
      rfl
    · rw [spawning_objs hnew]
      exact hnone streams hstreams p ((List.mem_cons.mp hp).resolve_left hnew)
  let asked := ((spawning E a w).use (E.fresh :: streams)).log ⟨.uv_spawn, E.fresh :: streams⟩
  have hobj : (asked.drop [E.fresh]).objs E.fresh = started_process := spawning_obj
  obtain ⟨t, ht, -, hrefs⟩ :=
    zombie_run (E := E) (e := .uv .ProcessError (E.status .uv_spawn)) hobj
  refine ⟨.uv .ProcessError (E.status .uv_spawn), t, ?_, ?_⟩
  · rw [hrun]
    have huv : uv E .uv_spawn (E.fresh :: streams) (spawning E a w) =
        .ok (E.status .uv_spawn) asked := uv_answer hbase
    have hspawned : spawn_process E E.fresh a streams (made_process E a w) =
        spawned E E.fresh a (E.status .uv_spawn) asked := bind_of_ok huv
    rw [hspawned]
    unfold spawned
    rw [if_pos hneg]
    exact ht
  · have hloop : a.loop ≠ E.fresh := fun h => hfresh (by rw [← h]; exact List.mem_cons_self)
    have hself : [E.fresh].count a.loop = 0 := List.count_eq_zero.mpr (by simpa using hloop)
    have hcount : [a.loop].count a.loop = 1 := by simp
    rw [hrefs _ hloop]
    change (made_process E a w).refs a.loop - ([E.fresh].count a.loop : Int) ≠ w.refs a.loop
    rw [made_process_refs hloop, hself, hcount]
    omega

/-- Bad arguments are reported before anything is called. -/
theorem reports_spawn_refused (hreaches : ¬a.reaches E) :
    Reports E w self (.Process_spawn (.ok a)) := by
  obtain ⟨e, t, hrun, hplain, hapart⟩ := spawn_refused hreaches w
  have hexec : (Method.Process_spawn (.ok a)).exec E self w = .error (.raised e) t := hrun
  apply reports_of_refused hexec hplain.2 hapart.calls
  intro p hp
  have hne : p ≠ E.fresh := fun h => hp (by rw [h]; exact List.mem_singleton_self _)
  exact ⟨hapart.sides p hne, hapart.refs p hne⟩

/-- Where libuv gives no status, or one that is not negative, nothing is raised. -/
theorem reports_spawn_started (hreaches : a.reaches E)
    (hstatus : (∀ streams, spawn_options E a = .ok streams →
        ∀ p ∈ streams, ((spawning E a w).objs p).cls.is_base = false) → 0 ≤ E.status .uv_spawn) :
    Reports E w self (.Process_spawn (.ok a)) := by
  obtain ⟨streams, hstreams, hrun⟩ := spawn_started hreaches w
  have hexec : (Method.Process_spawn (.ok a)).exec E self w =
      (uv E .uv_spawn (E.fresh :: streams) >>= fun err => spawned E E.fresh a err)
        (spawning E a w) := hrun
  by_cases hbase : ((E.fresh :: streams).any fun p => ((spawning E a w).objs p).cls.is_base) = true
  · rw [bind_of_error (uv_crash hbase)] at hexec
    apply reports_of_fine hexec (by intro _ _ _ h; cases h) _ (by intro _ _ h; cases h)
    intro c hc hanswered
    rw [last, called_eq (w := w) rfl] at hc
    obtain rfl := List.mem_singleton.mp hc
    obtain ⟨p, hp, hp'⟩ := List.any_eq_true.mp hbase
    have hnone : ((spawning E a w).objs p).cls.is_base = false := hanswered.2 p hp
    rw [hnone] at hp'
    cases hp'
  · have hnone : ∀ p ∈ E.fresh :: streams, ((spawning E a w).objs p).cls.is_base = false := by
      simpa [List.any_eq_true] using hbase
    have hpos : 0 ≤ E.status .uv_spawn := by
      apply hstatus
      intro streams' hstreams' p hp
      rw [hstreams] at hstreams'
      cases hstreams'
      exact hnone p (List.mem_cons_of_mem _ hp)
    rw [bind_of_ok (uv_answer hnone)] at hexec
    unfold spawned at hexec
    rw [if_neg (by omega)] at hexec
    have hfine : ∀ v : World, v.calls = w.calls ++ [⟨.uv_spawn, E.fresh :: streams⟩] →
        Fine E v.objs (called w v) := by
      intro v hv c hc _
      rw [called_eq hv] at hc
      rw [List.mem_singleton.mp hc]
      exact hpos
    exact reports_of_fine hexec (by intro _ _ _ h; cases h) (hfine _ rfl) (by intro _ _ h; cases h)

/-- A spawn that libuv refuses leaves a reference to the loop behind. -/
theorem reports_Process_spawn_iff {args : Args SpawnArgs}
    (hfresh : (Method.Process_spawn args).Fresh E) :
    Reports E w self (.Process_spawn args) ↔ (Method.Process_spawn args).heeded E w self := by
  cases args with
  | error t =>
    refine iff_of_true ?_ trivial
    have hrun : (Method.Process_spawn (.error t)).exec E self w = .error (.raised (.cpython t)) w :=
      rfl
    exact reports_of_refused hrun (fun _ _ h => nomatch h) rfl fun _ _ => ⟨rfl, rfl⟩
  | ok a =>
    have hstreams : ∀ streams, spawn_options E a = .ok streams →
        ∀ p ∈ streams, (spawning E a w).objs p = w.objs p := by
      intro streams h p hp
      apply spawning_objs
      intro hnew
      apply hfresh
      rw [← hnew]
      exact List.mem_cons_of_mem _ (spawn_options_streams h p hp)
    by_cases hreaches : a.reaches E
    · by_cases hrefused : Asked E w a ∧ E.status .uv_spawn < 0
      · refine iff_of_false (fun h => ?_) fun h => ?_
        · obtain ⟨e, t, hrun, hne⟩ := spawn_refused_by_uv hfresh hrefused.1 hrefused.2
          have hloop : a.loop ∉ (Method.Process_spawn (.ok a)).made E := by
            intro hloop
            apply hfresh
            rw [← List.mem_singleton.mp hloop]
            exact List.mem_cons_self
          exact hne (h.restored e t hrun a.loop hloop).2
        · have hpos := h hrefused.1
          omega
      · refine iff_of_true (reports_spawn_started hreaches fun hnone => ?_) fun hasked => ?_
        · by_contra hneg
          refine hrefused ⟨⟨hreaches, fun streams h p hp => ?_⟩, not_le.mp hneg⟩
          rw [← hstreams streams h p hp]
          exact hnone streams h p hp
        · by_contra hneg
          exact hrefused ⟨hasked, not_le.mp hneg⟩
    · exact iff_of_true (reports_spawn_refused hreaches) fun hasked => absurd hasked.1 hreaches

/-! ## The contract of the statuses -/

/-- The methods with a body of their own one by one, and all others from `reports_exec`. -/
theorem reports_iff_heeded (hhandle : m.of_thread = false) (hbound : m.Bound w self)
    (hfresh : m.Fresh E) : Reports E w self m ↔ m.heeded E w self := by
  by_cases hopen : ∃ args, m = .UDP_open args
  · obtain ⟨args, rfl⟩ := hopen
    exact reports_UDP_open_iff hbound
  by_cases hreset : m = .TTY_reset_mode
  · subst hreset
    exact reports_TTY_reset_mode_iff
  by_cases hconnect : ∃ args, m = .Pipe_connect args
  · obtain ⟨args, rfl⟩ := hconnect
    exact reports_Pipe_connect_iff hbound
  by_cases hspawn : ∃ args, m = .Process_spawn args
  · obtain ⟨args, rfl⟩ := hspawn
    exact reports_Process_spawn_iff hfresh
  refine iff_of_true ?_ ?_
  · apply reports_exec hhandle hbound
    · exact fun args h => hspawn ⟨args, h⟩
    · exact fun callback h => hconnect ⟨_, h⟩
    · exact fun args h => absurd ⟨args, h⟩ hopen
    · exact fun h => absurd h hreset
  · cases m with
    | UDP_open args => exact absurd ⟨args, rfl⟩ hopen
    | TTY_reset_mode => exact absurd rfl hreset
    | Pipe_connect args => exact absurd ⟨args, rfl⟩ hconnect
    | Process_spawn args => exact absurd ⟨args, rfl⟩ hspawn
    | _ => trivial

/-- A method reports what libuv answers just where its status is heeded. -/
theorem statuses_are_reported_iff (E : Env) (w : World) (self : Ptr) (m : Method)
    (hhandle : m.of_thread = false) (hbound : m.Bound w self) (hfresh : m.Fresh E) :
    Reports E w self m ↔ m.heeded E w self :=
  reports_iff_heeded hhandle hbound hfresh

/-- A UDP handle that was initialized. -/
def an_udp : Obj where
  cls := .UDP
  initialized := true
  type := .UV_UDP
  closing := false
  typed := by decide
  concrete := by decide
  other := by decide

theorem statuses_are_reported_iff_open :
    Reports (willing fun _ => 0) (World.of an_udp) 1 (.UDP_open (.ok 7)) :=
  (statuses_are_reported_iff (willing fun _ => 0) (World.of an_udp) 1 (.UDP_open (.ok 7)) rfl
    (fun _ => rfl) trivial).mpr fun _ => Int.le_refl 0

/-! ## Whatever libuv answers -/

/-- The same world, but for what libuv answers. -/
def Env.answering (E : Env) (status : UvFn → Int) : Env := { E with status := status }

/-- What libuv may answer: uv_timer_start refuses only a callback that is NULL, which is never
passed. -/
def Possible (status : UvFn → Int) : Prop := 0 ≤ status .uv_timer_start

/-- The calls whose status can get lost: those of the two methods that do not look at it, and a
spawn that comes to libuv. -/
def Method.loses (E : Env) (w : World) (self : Ptr) : Method → Prop
  | .UDP_open (.ok _) => Usable w self
  | .TTY_reset_mode => True
  | .Process_spawn (.ok a) => Asked E w a
  | _ => False

/-- One function fails, and all else goes well. -/
def failing (fn : UvFn) : UvFn → Int := fun f => if f = fn then -9 else 0

theorem failing_lt {fn : UvFn} : failing fn fn < 0 := by
  rw [failing, if_pos rfl]
  decide

theorem failing_possible {fn : UvFn} (hfn : .uv_timer_start ≠ fn) : Possible (failing fn) := by
  rw [Possible, failing, if_neg hfn]

/-- An answer that is lost is lost where nothing else fails. -/
theorem heeded_whatever_iff :
    (∀ status, Possible status → m.heeded (E.answering status) w self) ↔ ¬m.loses E w self := by
  have hlost : ∀ fn : UvFn, ¬0 ≤ failing fn fn := fun fn => not_le.mpr failing_lt
  cases m with
  | UDP_open args =>
    cases args with
    | error t => exact iff_of_true (fun _ _ => trivial) id
    | ok fd =>
      refine ⟨fun h husable => ?_, fun hkeeps _ _ husable => absurd husable hkeeps⟩
      exact hlost .uv_udp_open (h (failing .uv_udp_open) (failing_possible (by decide)) husable)
  | TTY_reset_mode =>
    refine ⟨fun h _ => ?_, fun hkeeps => absurd trivial hkeeps⟩
    exact hlost .uv_tty_reset_mode (h (failing .uv_tty_reset_mode) (failing_possible (by decide)))
  | Pipe_connect args =>
    match args with
    | .error t => exact iff_of_true (fun _ _ => trivial) id
    | .ok (.ordinary, callback) => exact iff_of_true (fun _ _ => trivial) id
    | .ok (.abstract, callback) => exact iff_of_true (fun _ hpossible _ => hpossible) id
  | Process_spawn args =>
    cases args with
    | error t => exact iff_of_true (fun _ _ => trivial) id
    | ok a =>
      refine ⟨fun h hasked => ?_, fun hkeeps _ _ hasked => absurd hasked hkeeps⟩
      exact hlost .uv_spawn (h (failing .uv_spawn) (failing_possible (by decide)) hasked)
  | _ => exact iff_of_true (fun _ _ => trivial) id

/-- Which calls report every status that libuv may answer with. -/
theorem every_status_is_reported_iff (E : Env) (w : World) (self : Ptr) (m : Method)
    (hhandle : m.of_thread = false) (hbound : m.Bound w self) (hfresh : m.Fresh E) :
    (∀ status, Possible status → Reports (E.answering status) w self m) ↔ ¬m.loses E w self := by
  have hreports : ∀ status, Reports (E.answering status) w self m ↔
      m.heeded (E.answering status) w self := by
    intro status
    exact reports_iff_heeded hhandle hbound hfresh
  exact (forall_congr' fun status => imp_congr_right fun _ => hreports status).trans
    heeded_whatever_iff

theorem every_status_is_reported_iff_stop :
    Reports ((willing fun _ => 0).answering (failing .uv_udp_recv_stop)) (World.of an_udp) 1
      .UDP_stop_recv :=
  (every_status_is_reported_iff (willing fun _ => 0) (World.of an_udp) 1 .UDP_stop_recv rfl
    (fun _ => rfl) trivial).mpr id _ (failing_possible (by decide))

/-- EBADF of uv_udp_open. -/
theorem a_failed_open_is_not_reported :
    ¬Reports (willing fun _ => -9) (World.of an_udp) 1 (.UDP_open (.ok 7)) := by
  intro h
  have hheeded := (reports_UDP_open_iff fun _ => rfl).mp h
  exact absurd (hheeded ⟨rfl, rfl⟩) (by decide)

end pyuv.methods
