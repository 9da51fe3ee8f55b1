-- Every request of a stream or a UDP socket is called back once, over every run, but
-- where a second connect of a pipe takes the slot of the first, and where a connect to
-- an abstract address outlives its pipe.
import Pyuv.Lib.Runs
import Pyuv.StreamRequests
import Mathlib.Tactic.Abel

set_option linter.style.nameCheck false

namespace pyuv.stream_requests

open handle watchers

/-! ## What is promised -/

/-- Submitted requests whose completion callback has not been called. -/
def outstanding (s : SockSt) : Nat := s.next - s.called.length

/-- The references of the extension are the flag's, those of the outstanding requests
and the close's, next to the user's and those that running callbacks hold. Each request
is called back once, and after the close nothing is left. -/
structure Settled (s : SockSt) : Prop where
  refs : s.core.refcnt =
    s.core.user + held s.core.frames + s.core.pyref.toNat + s.core.close_ref + outstanding s
  once : (called_ids s).Nodup
  recorded : ∀ i, i < s.next → i ∈ called_ids s ∨ i ∈ recorded s
  cancelled : ∀ o, o ∈ s.called → o.late = true → o.status = UV_ECANCELED
  callback_refs : s.callback_refs = outstanding s + s.running.length
  contexts : s.contexts = outstanding s + s.running.length + s.closing_timers
  after_close : s.core.finishes = 1 →
    outstanding s = 0 ∧ s.core.refcnt = s.core.user + held s.core.frames

/-- The step loses no request: a pipe connects when its slot is free, and a connect to
an abstract address is called back before its pipe is asked to close. -/
def KeepsRequests (s : SockSt) : Act → Prop
  | .Pipe_connect callback alloc =>
    check_open s.core = none → callback = .callable → alloc = true → s.connect_req = none
  | .abstract_timer => s.core.closing = false
  | .finish_close => ¬asks s.core → s.abstract_timers = []
  | .base .ret => s.core.frames.head? = some .close_cb → s.abstract_timers = []
  | _ => True

/-! ## The invariant -/

/-- Each request is recorded once or was called back once, and what is held for it is counted. -/
structure ReqInv (s : SockSt) : Prop where
  core : Inv (recorded s).card s.core
  no_check : .check_signals ∉ s.core.frames
  exit_ref : s.core.exit_ref = false
  tally : tickets.Tally s.next (called_ids s) (recorded s)
  late_called : ∀ o, o ∈ s.called → o.late = true → o.status = UV_ECANCELED
  late_completed : ∀ o, o ∈ s.write_completed_queue → o.late = true → o.status = UV_ECANCELED
  callback_refs : s.callback_refs = (recorded s).card + s.running.length
  contexts : s.contexts = (recorded s).card + s.running.length + s.closing_timers
  closed : s.core.closed = true → s.connect_req = none ∧ s.shutdown_req = none ∧
    s.write_queue = [] ∧ s.write_completed_queue = []
  finished : s.core.finishes = 1 → s.abstract_timers = []

section

variable {kind : Kind} {s t : SockSt}

@[simp]
theorem ids_nil : ids [] = 0 := rfl

@[simp]
theorem ids_cons (r : Req) (rs : List Req) : ids (r :: rs) = {r.id} + ids rs := rfl

@[simp]
theorem ids_append (rs qs : List Req) : ids (rs ++ qs) = ids rs + ids qs := by
  simp [ids]

@[simp]
theorem card_ids (rs : List Req) : (ids rs).card = rs.length := by
  simp [ids]

theorem new_inv (finalizer : Finalizer) : ReqInv (new finalizer) where
  core := fresh_inv finalizer
  no_check := List.not_mem_nil
  exit_ref := rfl
  tally := tickets.Tally.empty
  late_called := fun o ho => by cases ho
  late_completed := fun o ho => by cases ho
  callback_refs := rfl
  contexts := rfl
  closed := fun hclosed => by cases hclosed
  finished := fun hfin => by cases hfin

theorem ReqInv.outstanding_eq (hi : ReqInv s) : outstanding s = (recorded s).card := by
  have hcard := hi.tally.card
  simp only [called_ids, card_ids, List.length_map] at hcard
  simp only [outstanding]
  omega

theorem ReqInv.closed_of_finished (hi : ReqInv s) (hfin : s.core.finishes = 1) :
    s.core.closed = true := by
  have hle := hi.core.finish_once
  cases hc : s.core.closed
  · simp [hc, hfin] at hle
  · rfl

theorem ReqInv.settled (hi : ReqInv s) : Settled s where
  refs := by
    have hrefs := hi.core.refs
    simp only [Handle.owned, hi.exit_ref, Bool.toNat_false] at hrefs
    rw [hi.outstanding_eq]
    omega
  once := hi.tally.served_once
  recorded i hlt := hi.tally.served_or_waiting hlt
  cancelled := hi.late_called
  callback_refs := by rw [hi.outstanding_eq, hi.callback_refs]
  contexts := by rw [hi.outstanding_eq, hi.contexts]
  after_close hfin := by
    obtain ⟨hconnect, hshutdown, hwrites, hcompleted⟩ := hi.closed (hi.closed_of_finished hfin)
    have hnone : recorded s = 0 := by
      simp [stream_requests.recorded, hconnect, hshutdown, hwrites, hcompleted, hi.finished hfin]
    have hrefs := hi.core.refs
    simp [Handle.owned, Handle.close_ref, hi.exit_ref, hnone, hfin, hi.core.finish_pyref hfin]
      at hrefs
    exact ⟨by rw [hi.outstanding_eq, hnone, Multiset.card_zero], hrefs⟩

/-! ## A request is submitted -/

/-- The request waits in a place of its own. -/
theorem ReqInv.submitted (hi : ReqInv s) (hpos : 0 < s.core.refcnt) (hopen : s.core.closed = false)
    (hcore : t.core = Py_INCREF s.core) (hnext : t.next = s.next + 1)
    (hrec : recorded t = recorded s + {s.next}) (hcalled : t.called = s.called)
    (hcompleted : t.write_completed_queue = s.write_completed_queue)
    (hrunning : t.running = s.running) (htimers : t.closing_timers = s.closing_timers)
    (hcontexts : t.contexts = s.contexts + 1)
    (hcallbacks : t.callback_refs = s.callback_refs + 1) : ReqInv t := by
  have hkept := Py_INCREF.kept s.core
  rw [← hcore] at hkept
  have hcard : (recorded t).card = (recorded s).card + 1 := by
    rw [hrec, Multiset.card_add, Multiset.card_singleton]
  refine
    { core := ?_, no_check := ?_, exit_ref := hkept.exit_ref.trans hi.exit_ref, tally := ?_,
      late_called := ?_, late_completed := ?_, callback_refs := ?_, contexts := ?_, closed := ?_,
      finished := ?_ }
  · rw [hcard, hcore]
    exact Py_INCREF.spec hi.core hpos
  · rw [hcore, Py_INCREF_frames]
    exact hi.no_check
  · have htally := hi.tally.issue
    rwa [hnext, hrec, called_ids, hcalled]
  · rw [hcalled]
    exact hi.late_called
  · rw [hcompleted]
    exact hi.late_completed
  · rw [hcallbacks, hi.callback_refs, hcard, hrunning]
    omega
  · rw [hcontexts, hi.contexts, hcard, hrunning, htimers]
    omega
  · intro hclosed
    rw [hkept.closed, hopen] at hclosed
    cases hclosed
  · intro hfin
    have hle := hi.core.finish_once
    rw [hkept.finishes] at hfin
    simp [hopen, hfin] at hle

theorem returned_eq_some {r : Ret × SockSt} (h : returned r = some t) : r.2 = t := by
  obtain ⟨ret, u⟩ := r
  cases ret with
  | abort => cases h
  | ok => exact Option.some.inj h
  | raise err => exact Option.some.inj h

/-- The checks in front of a submission, whichever they are, find the handle open. -/
theorem open_of_checks {h : Handle} {e : Option PyErr} (hnone : (check_open h <|> e) = none) :
    check_open h = none := by
  cases hcheck : check_open h
  · rfl
  · simp [hcheck] at hnone

theorem closed_of_check {h : Handle} (hopen : check_open h = none) : h.closed = false :=
  (check_open_eq_none_iff.mp hopen).2.2

theorem TCP_func_connect_inv (hi : ReqInv s) (hpos : 0 < s.core.refcnt) (callback : CallbackArg)
    (bad_addr : Option PyErr) (alloc : Bool) (os : Int) :
    ReqInv (TCP_func_connect s callback bad_addr alloc os).2 := by
  unfold TCP_func_connect
  split
  · exact hi
  · rename_i hnone
    have hopen := closed_of_check (open_of_checks hnone)
    split
    · exact hi
    · cases hslot : s.connect_req with
      | some r => exact hi
      | none =>
        have hrec : recorded { submit s with connect_req := some ⟨s.next, true⟩ } =
            recorded s + {s.next} := by
          simp only [recorded, submit, SockSt.set_core, hslot, Option.toList, ids_cons, ids_nil]
          abel
        simp only [Option.isSome_none, Bool.false_eq_true, if_false]
        split
        · exact hi
        · exact hi.submitted hpos hopen rfl rfl hrec rfl rfl rfl rfl rfl rfl

theorem Pipe_func_connect_inv (hi : ReqInv s) (hpos : 0 < s.core.refcnt) (callback : CallbackArg)
    (alloc : Bool) (hkeeps : KeepsRequests s (.Pipe_connect callback alloc)) :
    ReqInv (Pipe_func_connect s callback alloc).2 := by
  unfold Pipe_func_connect
  split
  · exact hi
  · rename_i hnone
    have hchecked := open_of_checks hnone
    split
    · exact hi
    · rename_i halloc
      have hcallable : callback = .callable := by
        by_contra hother
        simp [hchecked, callable_required, hother] at hnone
      have hfree : s.connect_req = none := hkeeps hchecked hcallable (by simpa using halloc)
      have hrec : recorded { submit s with connect_req := some ⟨s.next, true⟩ } =
          recorded s + {s.next} := by
        simp only [recorded, submit, SockSt.set_core, hfree, Option.toList, ids_cons, ids_nil]
        abel
      exact hi.submitted hpos (closed_of_check hchecked) rfl rfl hrec rfl rfl rfl rfl rfl rfl

theorem Pipe_func_connect_abstract_inv (hi : ReqInv s) (hpos : 0 < s.core.refcnt)
    (callback : CallbackArg) (os : Int) (alloc : Bool) :
    ReqInv (Pipe_func_connect_abstract s callback os alloc).2 := by
  unfold Pipe_func_connect_abstract
  split
  · exact hi
  · rename_i hnone
    have hopen := closed_of_check (open_of_checks hnone)
    split
    · exact hi
    · split
      · exact hi
      · have hrec : recorded { submit s with
            abstract_timers := s.abstract_timers ++ [⟨s.next, true⟩] } =
            recorded s + {s.next} := by
          simp only [recorded, submit, SockSt.set_core, ids_append, ids_cons, ids_nil]
          abel
        exact hi.submitted hpos hopen rfl rfl hrec rfl rfl rfl rfl rfl rfl

theorem Stream_func_shutdown_inv (hi : ReqInv s) (hpos : 0 < s.core.refcnt)
    (callback : CallbackArg) (alloc : Bool) (os : Int) :
    ReqInv (Stream_func_shutdown kind s callback alloc os).2 := by
  unfold Stream_func_shutdown
  split
  · exact hi
  · rename_i hchecked
    split
    · exact hi
    · split
      · exact hi
      · cases hslot : s.shutdown_req with
        | some r => exact hi
        | none =>
          have hrec : recorded { submit s with
              shutdown_req := some ⟨s.next, decide (callback ≠ .Py_None)⟩ } =
              recorded s + {s.next} := by
            simp only [recorded, submit, SockSt.set_core, hslot, Option.toList, ids_cons, ids_nil]
            abel
          simp only [Option.isSome_none, Bool.false_eq_true, if_false]
          split
          · exact hi
          · exact hi.submitted hpos (closed_of_check hchecked) rfl rfl hrec rfl rfl rfl rfl rfl rfl

theorem func_write_inv (hi : ReqInv s) (hpos : 0 < s.core.refcnt) (callback : CallbackArg)
    (bad_data : Option PyErr) (os : Int) : ReqInv (func_write kind s callback bad_data os).2 := by
  unfold func_write
  split
  · exact hi
  · rename_i hnone
    have hopen := closed_of_check (open_of_checks hnone)
    split
    · exact hi
    · have hrec : recorded { submit s with
          write_queue := s.write_queue ++ [⟨s.next, decide (callback = .callable)⟩] } =
          recorded s + {s.next} := by
        simp only [recorded, submit, SockSt.set_core, ids_append, ids_cons, ids_nil]
        abel
      exact hi.submitted hpos hopen rfl rfl hrec rfl rfl rfl rfl rfl rfl

/-! ## A request is called back -/

theorem callback_end_core (s : SockSt) (abstract : Bool) :
    (callback_end s abstract).core = Py_DECREF s.core := by
  cases abstract <;> rfl

/-- The parts of the state that the end of a completion callback leaves alone. -/
theorem callback_end_rest (s : SockSt) (abstract : Bool) :
    (callback_end s abstract).next = s.next ∧ (callback_end s abstract).called = s.called ∧
    recorded (callback_end s abstract) = recorded s ∧
    (callback_end s abstract).write_completed_queue = s.write_completed_queue ∧
    (callback_end s abstract).connect_req = s.connect_req ∧
    (callback_end s abstract).shutdown_req = s.shutdown_req ∧
    (callback_end s abstract).write_queue = s.write_queue ∧
    (callback_end s abstract).abstract_timers = s.abstract_timers ∧
    (callback_end s abstract).running = s.running := by
  cases abstract <;> exact ⟨rfl, rfl, rfl, rfl, rfl, rfl, rfl, rfl, rfl⟩

/-- A state in which one callback has run and not yet given back what its request held:
that is one reference, one context and one callback more than the invariant has. -/
structure Ending (s : SockSt) : Prop where
  core : Inv ((recorded s).card + 1) s.core
  no_check : .check_signals ∉ s.core.frames
  exit_ref : s.core.exit_ref = false
  tally : tickets.Tally s.next (called_ids s) (recorded s)
  late_called : ∀ o, o ∈ s.called → o.late = true → o.status = UV_ECANCELED
  late_completed : ∀ o, o ∈ s.write_completed_queue → o.late = true → o.status = UV_ECANCELED
  callback_refs : s.callback_refs = (recorded s).card + s.running.length + 1
  contexts : s.contexts = (recorded s).card + s.running.length + s.closing_timers + 1
  closed : s.core.closed = true → s.connect_req = none ∧ s.shutdown_req = none ∧
    s.write_queue = [] ∧ s.write_completed_queue = []
  finished : s.core.finishes = 1 → s.abstract_timers = []

theorem Ending.callback_end (hi : Ending s) (abstract : Bool) :
    ReqInv (callback_end s abstract) := by
  obtain ⟨hnext, hcalled, hrec, hcompleted, hconnect, hshutdown, hwrites, htimers, hrunning⟩ :=
    callback_end_rest s abstract
  have hcore := callback_end_core s abstract
  have hkept := Py_DECREF.kept s.core
  refine
    { core := ?_, no_check := ?_, exit_ref := ?_, tally := ?_, late_called := ?_,
      late_completed := ?_, callback_refs := ?_, contexts := ?_, closed := ?_, finished := ?_ }
  · rw [hrec, hcore]
    exact Py_DECREF.spec hi.core
  · rw [hcore]
    intro hmem
    exact hi.no_check ((hkept.frames _ hmem).resolve_right (by decide))
  · rw [hcore, hkept.exit_ref, hi.exit_ref]
  · rw [hnext, hrec, called_ids, hcalled]
    exact hi.tally
  · rw [hcalled]
    exact hi.late_called
  · rw [hcompleted]
    exact hi.late_completed
  · have hrefs := hi.callback_refs
    rw [hrec, hrunning]
    cases abstract <;> simp only [stream_requests.callback_end, SockSt.set_core] <;> simp <;> omega
  · have hcontexts := hi.contexts
    rw [hrec, hrunning]
    cases abstract <;> simp only [stream_requests.callback_end, SockSt.set_core] <;> simp <;> omega
  · rw [hcore, hkept.closed, hconnect, hshutdown, hwrites, hcompleted]
    exact hi.closed
  · rw [hcore, hkept.finishes, htimers]
    exact hi.finished

/-- `s` is `u` with the outcome of a request that waited there taken out. -/
theorem ReqInv.called_back {u : SockSt} {o : Outcome} (hi : ReqInv u) (abstract : Bool)
    (hbase : s.base = u.base) (hrec : recorded u = recorded s + {o.req.id})
    (hnext : s.next = u.next) (hcalled : s.called = u.called)
    (hcompleted : ∀ p, p ∈ s.write_completed_queue → p ∈ u.write_completed_queue)
    (hrunning : s.running = u.running) (htimers : s.closing_timers = u.closing_timers)
    (hcontexts : s.contexts = u.contexts) (hcallbacks : s.callback_refs = u.callback_refs)
    (hclosed : u.core.closed = true → s.connect_req = none ∧ s.shutdown_req = none ∧
      s.write_queue = [] ∧ s.write_completed_queue = [])
    (hfinished : u.core.finishes = 1 → s.abstract_timers = [])
    (hlate : o.late = true → o.status = UV_ECANCELED) : ReqInv (call_back s abstract o) := by
  have hcore : s.core = u.core := congrArg watchers.St.core hbase
  have hcard : (recorded u).card = (recorded s).card + 1 := by
    rw [hrec, Multiset.card_add, Multiset.card_singleton]
  have hinv : Inv ((recorded s).card + 1) s.core := by
    rw [← hcard, hcore]
    exact hi.core
  have htally : tickets.Tally s.next (called_ids s + {o.req.id}) (recorded s) := by
    have hold := hi.tally
    rw [hrec] at hold
    rw [hnext, called_ids, hcalled]
    exact hold.serve
  have hids : called_ids { s with called := s.called ++ [o] } = called_ids s + {o.req.id} := by
    simp [called_ids]
  have hlate_called : ∀ p, p ∈ s.called ++ [o] → p.late = true → p.status = UV_ECANCELED := by
    intro p hp
    rcases List.mem_append.mp hp with hp | hp
    · exact hi.late_called p (hcalled ▸ hp)
    · rw [List.mem_singleton.mp hp]
      exact hlate
  have hrefs := hi.callback_refs
  have hctx := hi.contexts
  rw [← hcallbacks, hcard, ← hrunning] at hrefs
  rw [← hcontexts, hcard, ← hrunning, ← htimers] at hctx
  unfold call_back
  dsimp only
  split
  · refine
      { core := Inv.push_frame (f := .request) hinv (by decide) (by decide),
        no_check := ?_, exit_ref := hcore ▸ hi.exit_ref, tally := hids ▸ htally,
        late_called := hlate_called,
        late_completed := fun p hp => hi.late_completed p (hcompleted p hp),
        callback_refs := ?_, contexts := ?_, closed := ?_, finished := ?_ }
    · intro hmem
      rcases List.mem_cons.mp hmem with heq | hmem
      · cases heq
      · exact hi.no_check (hcore ▸ hmem)
    · change s.callback_refs = (recorded s).card + (s.running.length + 1)
      omega
    · change s.contexts = (recorded s).card + (s.running.length + 1) + s.closing_timers
      omega
    · intro hd
      exact hclosed (hcore ▸ hd)
    · intro hfin
      exact hfinished (hcore ▸ hfin)
  · apply Ending.callback_end
    refine
      { core := hinv, no_check := hcore ▸ hi.no_check, exit_ref := hcore ▸ hi.exit_ref,
        tally := hids ▸ htally, late_called := hlate_called,
        late_completed := fun p hp => hi.late_completed p (hcompleted p hp),
        callback_refs := ?_, contexts := ?_, closed := ?_, finished := ?_ }
    · change s.callback_refs = (recorded s).card + s.running.length + 1
      omega
    · change s.contexts = (recorded s).card + s.running.length + s.closing_timers + 1
      omega
    · intro hd
      exact hclosed (hcore ▸ hd)
    · intro hfin
      exact hfinished (hcore ▸ hfin)

/-! ## The steps -/

/-- A step of the handle leaves the requests alone. Where it ends the close callback, the
abstract connects have to be through. -/
theorem base_inv {a : watchers.Act} {b : watchers.St} (hi : ReqInv s)
    (hprocess : kind ≠ .Process) (hchecker : kind ≠ .SignalChecker)
    (hfinish : a ≠ .finish_close) (hkeeps : ends_close_cb s.base a → s.abstract_timers = [])
    (hstep : watchers.step kind s.base a = some b) : ReqInv { s with base := b } := by
  obtain ⟨hcore, hnone⟩ := step_keeps hchecker hi.core hi.no_check hstep
  have hexit := step_exit_ref hprocess hi.exit_ref hstep
  have hrest : (b.core.closed = true → s.core.closed = true) ∧
      (b.core.finishes = 1 → s.abstract_timers = []) := by
    by_cases hends : ends_close_cb s.base a
    · refine ⟨fun _ => ?_, fun _ => hkeeps hends⟩
      -- the close callback runs after the handle is closed
      have hmem : .close_cb ∈ s.core.frames := List.mem_of_mem_head? hends.2
      have hcount := List.count_pos_iff.mpr hmem
      have hframe := hi.core.close_frame
      cases hc : s.core.closed
      · simp [hc] at hframe
        omega
      · rfl
    · have hapart := step_apart hprocess hfinish hends hstep
      exact ⟨fun hc => hapart.closed ▸ hc, fun hfin => hi.finished (hapart.finishes ▸ hfin)⟩
  exact
    { core := hcore, no_check := hnone, exit_ref := hexit, tally := hi.tally,
      late_called := hi.late_called, late_completed := hi.late_completed,
      callback_refs := hi.callback_refs, contexts := hi.contexts,
      closed := fun hc => hi.closed (hrest.1 hc), finished := hrest.2 }

/-- An outcome is late on a closing handle only. -/
theorem late_of_open {r : Req} {status : Int} (hopen : s.core.closing = false)
    (hlate : (outcome s r status).late = true) : status = UV_ECANCELED := by
  simp [outcome, hopen] at hlate

theorem finish_inv (hi : ReqInv s) (hclosing : s.core.closing = true)
    (hopen : s.core.closed = false) (hconnect : s.connect_req = none) (hwrites : s.write_queue = [])
    (hcompleted : s.write_completed_queue = []) (hshutdown : s.shutdown_req = none)
    (hkeeps : ¬asks s.core → s.abstract_timers = []) :
    ReqInv (s.set_core (uv__finish_close s.core)) := by
  refine
    { core := uv__finish_close.spec hi.core hclosing hopen, no_check := ?_, exit_ref := ?_,
      tally := hi.tally, late_called := hi.late_called, late_completed := hi.late_completed,
      callback_refs := hi.callback_refs, contexts := hi.contexts,
      closed := fun _ => ⟨hconnect, hshutdown, hwrites, hcompleted⟩, finished := ?_ }
  · intro hmem
    exact hi.no_check ((uv__finish_close_frames hmem).resolve_right (by decide))
  · exact (uv__finish_close_exit_ref s.core).trans hi.exit_ref
  · intro hfin
    apply hkeeps
    intro hasks
    have hle := hi.core.finish_once
    have hsame : s.core.finishes = 1 := (uv__finish_close_asks hasks).symm.trans hfin
    simp [hopen, hsame] at hle

/-! ## The steps of libuv -/

/-- The request of a connect is taken out of its slot and called back. -/
theorem connect_called_back (hi : ReqInv s) {r : Req} {status : Int}
    (hslot : s.connect_req = some r)
    (hlate : (outcome s r status).late = true → status = UV_ECANCELED) :
    ReqInv (call_back { s with connect_req := none } false (outcome s r status)) := by
  have hrec : recorded s = recorded { s with connect_req := none } + {r.id} := by
    simp only [recorded, hslot, Option.toList, ids_cons, ids_nil]
    abel
  exact hi.called_back false rfl hrec rfl rfl (fun _ => id) rfl rfl rfl rfl
    (fun hc => ⟨rfl, (hi.closed hc).2⟩) hi.finished hlate

theorem shutdown_called_back (hi : ReqInv s) {r : Req} {status : Int}
    (hslot : s.shutdown_req = some r)
    (hlate : (outcome s r status).late = true → status = UV_ECANCELED) :
    ReqInv (call_back { s with shutdown_req := none } false (outcome s r status)) := by
  have hrec : recorded s = recorded { s with shutdown_req := none } + {r.id} := by
    simp only [recorded, hslot, Option.toList, ids_cons, ids_nil]
    abel
  exact hi.called_back false rfl hrec rfl rfl (fun _ => id) rfl rfl rfl rfl
    (fun hc => ⟨(hi.closed hc).1, rfl, (hi.closed hc).2.2⟩) hi.finished hlate

/-- The first requests of the write queue go to the queue of those that are done. -/
theorem writes_completed (hi : ReqInv s) {rs : List Req} {os : List Outcome}
    (hqueue : s.write_queue = os.map Outcome.req ++ rs)
    (hlate : ∀ o ∈ os, o.late = true → o.status = UV_ECANCELED) :
    ReqInv { s with
      write_queue := rs, write_completed_queue := s.write_completed_queue ++ os } := by
  have hrec : recorded { s with
      write_queue := rs, write_completed_queue := s.write_completed_queue ++ os } =
      recorded s := by
    simp only [recorded, hqueue, List.map_append, ids_append]
    abel
  refine
    { hi with
      core := hrec ▸ hi.core, tally := hrec ▸ hi.tally, late_completed := ?_,
      callback_refs := hrec ▸ hi.callback_refs, contexts := hrec ▸ hi.contexts, closed := ?_ }
  · intro o ho
    exact (List.mem_append.mp ho).elim (hi.late_completed o) (hlate o)
  · intro hc
    obtain ⟨hconnect, hshutdown, hwrites, hcompleted⟩ := hi.closed hc
    obtain ⟨hos, hrs⟩ := List.append_eq_nil_iff.mp (hqueue.symm.trans hwrites)
    exact ⟨hconnect, hshutdown, hrs, by rw [hcompleted, List.map_eq_nil_iff.mp hos]; rfl⟩

theorem write_called_back (hi : ReqInv s) {o : Outcome} {os : List Outcome}
    (hqueue : s.write_completed_queue = o :: os) :
    ReqInv (call_back { s with write_completed_queue := os } false o) := by
  have hrec : recorded s = recorded { s with write_completed_queue := os } + {o.req.id} := by
    simp only [recorded, hqueue, List.map_cons, ids_cons]
    abel
  have hmem : ∀ p, p ∈ os → p ∈ s.write_completed_queue := by
    intro p hp
    rw [hqueue]
    exact List.mem_cons_of_mem o hp
  have hlate := hi.late_completed o (by rw [hqueue]; exact List.mem_cons_self)
  refine hi.called_back false rfl hrec rfl rfl hmem rfl rfl rfl rfl ?_ hi.finished hlate
  intro hc
  have hempty := (hi.closed hc).2.2.2
  rw [hqueue] at hempty
  cases hempty

/-- The timer of a connect to an abstract address. -/
theorem timer_called_back (hi : ReqInv s) {r : Req} {rs : List Req}
    (hqueue : s.abstract_timers = r :: rs) (hopen : s.core.closing = false) :
    ReqInv (call_back { s with abstract_timers := rs } true (outcome s r 0)) := by
  have hrec : recorded s = recorded { s with abstract_timers := rs } + {r.id} := by
    simp only [recorded, hqueue, ids_cons]
    abel
  refine hi.called_back true rfl hrec rfl rfl (fun _ => id) rfl rfl rfl rfl hi.closed ?_
    (late_of_open hopen)
  intro hfin
  have hempty := hi.finished hfin
  rw [hqueue] at hempty
  cases hempty

theorem timer_closed_inv (hi : ReqInv s) (hpos : 0 < s.closing_timers) :
    ReqInv { s with closing_timers := s.closing_timers - 1, contexts := s.contexts - 1 } := by
  have hcontexts := hi.contexts
  refine { hi with contexts := ?_ }
  change s.contexts - 1 = (recorded s).card + s.running.length + (s.closing_timers - 1)
  omega

/-- A completion callback gets back from Python. -/
theorem return_inv (hi : ReqInv s) {fs : List Frame} {abstract : Bool} {rest : List Bool}
    (hframes : s.core.frames = .request :: fs) (hrunning : s.running = abstract :: rest) :
    ReqInv (callback_end { s.set_core { s.core with frames := fs } with running := rest }
      abstract) := by
  have hpop := hi.core.pop_frame hframes
  have hrefs := hi.callback_refs
  have hcontexts := hi.contexts
  rw [hrunning, List.length_cons] at hrefs hcontexts
  apply Ending.callback_end
  refine
    { core := hpop, no_check := ?_, exit_ref := hi.exit_ref, tally := hi.tally,
      late_called := hi.late_called, late_completed := hi.late_completed,
      callback_refs := ?_, contexts := ?_, closed := hi.closed, finished := hi.finished }
  · intro hmem
    exact hi.no_check (hframes ▸ List.mem_cons_of_mem _ hmem)
  · change s.callback_refs = (recorded s).card + rest.length + 1
    omega
  · change s.contexts = (recorded s).card + rest.length + s.closing_timers + 1
    omega

theorem step_inv {a : Act} (hprocess : kind ≠ .Process) (hchecker : kind ≠ .SignalChecker)
    (hi : ReqInv s) (hkeeps : KeepsRequests s a) (hstep : step kind s a = some t) : ReqInv t := by
  cases a with
  | base a =>
    simp only [step, Option.ite_none_right_eq_some, Option.map_eq_some_iff] at hstep
    obtain ⟨hbase, b, hb, rfl⟩ := hstep
    simp only [is_base, decide_eq_true_eq] at hbase
    apply base_inv hi hprocess hchecker hbase.1 _ hb
    rintro ⟨rfl, hhead⟩
    exact hkeeps hhead
  | TCP_connect callback bad_addr alloc os =>
    simp only [step, Option.ite_none_right_eq_some] at hstep
    rw [← returned_eq_some hstep.2]
    exact TCP_func_connect_inv hi (Inv.pos_of_usable hi.core hstep.1.1) callback bad_addr alloc os
  | Pipe_connect callback alloc =>
    simp only [step, Option.ite_none_right_eq_some] at hstep
    rw [← returned_eq_some hstep.2]
    exact Pipe_func_connect_inv hi (Inv.pos_of_usable hi.core hstep.1.1) callback alloc hkeeps
  | connect_abstract callback os alloc =>
    simp only [step, Option.ite_none_right_eq_some] at hstep
    rw [← returned_eq_some hstep.2]
    exact Pipe_func_connect_abstract_inv hi (Inv.pos_of_usable hi.core hstep.1.1) callback os alloc
  | shutdown callback alloc os =>
    simp only [step, Option.ite_none_right_eq_some] at hstep
    rw [← returned_eq_some hstep.2]
    exact Stream_func_shutdown_inv hi (Inv.pos_of_usable hi.core hstep.1.1) callback alloc os
  | write callback bad_data os =>
    simp only [step, Option.ite_none_right_eq_some] at hstep
    rw [← returned_eq_some hstep.2]
    exact func_write_inv hi (Inv.pos_of_usable hi.core hstep.1.1) callback bad_data os
  | connect_done status =>
    simp only [step] at hstep
    split at hstep
    · rename_i r hslot
      simp only [Option.ite_none_left_eq_some, Bool.not_eq_true, Option.some.injEq] at hstep
      obtain ⟨hopen, rfl⟩ := hstep
      exact connect_called_back hi hslot (late_of_open hopen)
    · cases hstep
  | write_done status =>
    simp only [step] at hstep
    split at hstep
    · rename_i r rs hqueue
      simp only [Option.ite_none_left_eq_some, Bool.not_eq_true, Option.some.injEq] at hstep
      obtain ⟨hopen, rfl⟩ := hstep
      have hlate : ∀ o ∈ [outcome s r status], o.late = true → o.status = UV_ECANCELED := by
        intro o ho
        rw [List.mem_singleton.mp ho]
        exact late_of_open hopen
      exact writes_completed hi hqueue hlate
    · cases hstep
  | shutdown_done status =>
    simp only [step] at hstep
    split at hstep
    · rename_i r hslot
      simp only [Option.ite_none_left_eq_some, Option.some.injEq, not_or, Bool.not_eq_true] at hstep
      obtain ⟨⟨hopen, -⟩, rfl⟩ := hstep
      exact shutdown_called_back hi hslot (late_of_open hopen)
    · cases hstep
  | run_completed =>
    simp only [step] at hstep
    split at hstep
    · rename_i o os hqueue
      cases hstep
      exact write_called_back hi hqueue
    · cases hstep
  | abstract_timer =>
    simp only [step] at hstep
    split at hstep
    · rename_i r rs hqueue
      cases hstep
      exact timer_called_back hi hqueue hkeeps
    · cases hstep
  | timer_closed =>
    simp only [step, Option.ite_none_right_eq_some, Option.some.injEq] at hstep
    obtain ⟨hpos, rfl⟩ := hstep
    exact timer_closed_inv hi hpos
  | destroy =>
    simp only [step, Option.ite_none_right_eq_some, Option.some.injEq] at hstep
    obtain ⟨-, rfl⟩ := hstep
    exact { hi with }
  | destroy_connect =>
    simp only [step] at hstep
    split at hstep
    · rename_i r hslot
      simp only [Option.ite_none_right_eq_some, Option.some.injEq] at hstep
      obtain ⟨-, rfl⟩ := hstep
      exact connect_called_back hi hslot (fun _ => rfl)
    · cases hstep
  | destroy_writes =>
    simp only [step, Option.ite_none_right_eq_some, Option.some.injEq] at hstep
    obtain ⟨-, rfl⟩ := hstep
    apply writes_completed hi
    · simp [Function.comp_def, outcome]
    · intro o ho _
      obtain ⟨r, -, rfl⟩ := List.mem_map.mp ho
      rfl
  | destroy_shutdown =>
    simp only [step] at hstep
    split at hstep
    · rename_i r hslot
      simp only [Option.ite_none_right_eq_some, Option.some.injEq] at hstep
      obtain ⟨-, rfl⟩ := hstep
      exact shutdown_called_back hi hslot (fun _ => rfl)
    · cases hstep
  | finish_close =>
    simp only [step, Option.ite_none_right_eq_some, Option.some.injEq] at hstep
    obtain ⟨⟨-, hclosing, hopen, hconnect, hwrites, hcompleted, hshutdown⟩, rfl⟩ := hstep
    exact finish_inv hi hclosing hopen hconnect hwrites hcompleted hshutdown hkeeps
  | ret =>
    simp only [step] at hstep
    split at hstep
    · rename_i fs abstract rest hframes hrunning
      cases hstep
      exact return_inv hi hframes hrunning
    · cases hstep

/-! ## The steps that lose a request -/

/-- A request that is neither called back nor recorded is lost. -/
theorem not_settled_of_lost {i : Nat} (hnext : i < t.next) (hcalled : i ∉ called_ids t)
    (hrec : i ∉ recorded t) : ¬Settled t := by
  intro hsettled
  rcases hsettled.recorded i hnext with h | h
  · exact hcalled h
  · exact hrec h

/-- The second connect takes the slot, and the first one is lost. -/
theorem Pipe_func_connect_lost (hi : ReqInv s) {callback : CallbackArg} {alloc : Bool}
    (hbreaks : ¬KeepsRequests s (.Pipe_connect callback alloc)) :
    ¬Settled (Pipe_func_connect s callback alloc).2 := by
  simp only [KeepsRequests, Classical.not_imp] at hbreaks
  obtain ⟨hopen, rfl, rfl, hslot⟩ := hbreaks
  obtain ⟨r, hr⟩ := Option.ne_none_iff_exists'.mp hslot
  have hrec : recorded s = recorded { s with connect_req := none } + {r.id} := by
    simp only [recorded, hr, Option.toList, ids_cons, ids_nil]
    abel
  have htally := hi.tally
  rw [hrec] at htally
  obtain ⟨hnext, hcalled, hwaiting⟩ := htally.lost
  have hconnect : Pipe_func_connect s .callable true =
      (.ok, { submit s with connect_req := some ⟨s.next, true⟩ }) := by
    simp [Pipe_func_connect, hopen, callable_required]
  rw [hconnect]
  apply not_settled_of_lost (i := r.id)
  · change r.id < s.next + 1
    omega
  · exact hcalled
  · intro hmem
    have hafter : recorded { submit s with connect_req := some ⟨s.next, true⟩ } =
        recorded { s with connect_req := none } + {s.next} := by
      simp only [recorded, submit, SockSt.set_core, Option.toList, ids_cons, ids_nil]
      abel
    rw [hafter] at hmem
    rcases Multiset.mem_add.mp hmem with h | h
    · exact hwaiting h
    · have heq := Multiset.mem_singleton.mp h
      omega

theorem call_back_called (s : SockSt) (abstract : Bool) (o : Outcome) :
    (call_back s abstract o).called = s.called ++ [o] := by
  unfold call_back
  dsimp only
  split
  · rfl
  · exact (callback_end_rest _ abstract).2.1

/-- After the close, an abstract connect that is not through is left. -/
theorem not_settled_of_left (t : SockSt) (hi : ReqInv s) (hleft : s.abstract_timers ≠ [])
    (hcalled : t.called = s.called) (hnext : t.next = s.next) (hfin : t.core.finishes = 1) :
    ¬Settled t := by
  intro hsettled
  have hnone := (hsettled.after_close hfin).1
  have heq := hi.outstanding_eq
  have hpos : 0 < s.abstract_timers.length := List.length_pos_iff.mpr hleft
  simp only [outstanding, hcalled, hnext] at hnone heq
  simp only [recorded, Multiset.card_add, card_ids] at heq
  omega

theorem base_left {a : watchers.Act} {b : watchers.St} (hi : ReqInv s)
    (hends : ends_close_cb s.base a) (hleft : s.abstract_timers ≠ [])
    (hstep : watchers.step kind s.base a = some b) : ¬Settled { s with base := b } := by
  apply not_settled_of_left { s with base := b } hi hleft rfl rfl
  obtain ⟨rfl, hhead⟩ := hends
  have hmem : .close_cb ∈ s.core.frames := List.mem_of_mem_head? hhead
  have hcount := List.count_pos_iff.mpr hmem
  have hfin : s.core.finishes = 0 := by
    have hframe := hi.core.close_frame
    by_contra hne
    simp [hne] at hframe
    omega
  simp only [watchers.step] at hstep
  split at hstep
  · cases hstep
  · rename_i f fs hf
    have hcb : f = .close_cb := by simpa [hf] using hhead
    subst hcb
    cases hstep
    exact (pyuv__handle_close_cb_end_finishes _).trans (congrArg (· + 1) hfin)

theorem settled_iff_of_step {a : Act} (hprocess : kind ≠ .Process)
    (hchecker : kind ≠ .SignalChecker) (hi : ReqInv s) (hstep : step kind s a = some t) :
    Settled t ↔ KeepsRequests s a := by
  refine ⟨fun hsettled => ?_, fun hkeeps =>
    (step_inv hprocess hchecker hi hkeeps hstep).settled⟩
  by_contra hbreaks
  cases a with
  | Pipe_connect callback alloc =>
    simp only [step, Option.ite_none_right_eq_some] at hstep
    rw [← returned_eq_some hstep.2] at hsettled
    exact Pipe_func_connect_lost hi hbreaks hsettled
  | abstract_timer =>
    simp only [step] at hstep
    split at hstep
    · rename_i r rs hqueue
      cases hstep
      have hclosing : s.core.closing = true := by simpa [KeepsRequests] using hbreaks
      have hstatus := hsettled.cancelled (outcome s r 0)
        (by simp [call_back_called]) (by simpa [outcome] using hclosing)
      simp [outcome, UV_ECANCELED] at hstatus
    · cases hstep
  | finish_close =>
    simp only [step, Option.ite_none_right_eq_some, Option.some.injEq] at hstep
    obtain ⟨⟨-, hclosing, hopen, -⟩, rfl⟩ := hstep
    simp only [KeepsRequests, Classical.not_imp] at hbreaks
    obtain ⟨hasks, hleft⟩ := hbreaks
    have hfin : s.core.finishes = 0 := by simpa [hopen] using hi.core.finish_once
    have hover : (uv__finish_close s.core).finishes = 1 :=
      (uv__finish_close_finishes hi.core hclosing hasks).trans (congrArg (· + 1) hfin)
    exact not_settled_of_left (s.set_core (uv__finish_close s.core)) hi hleft rfl rfl hover hsettled
  | base a =>
    simp only [step, Option.ite_none_right_eq_some, Option.map_eq_some_iff] at hstep
    obtain ⟨-, b, hb, rfl⟩ := hstep
    cases a with
    | ret =>
      simp only [KeepsRequests, Classical.not_imp] at hbreaks
      exact base_left hi ⟨rfl, hbreaks.1⟩ hbreaks.2 hb hsettled
    | _ => exact hbreaks trivial
  | _ => exact hbreaks trivial

/-- The types with requests. -/
def has_requests (kind : Kind) : Prop := kind.stream = true ∨ kind = .UDP

/-- A run keeps the promises if and only if each step does: no pipe connects while its
slot is taken, and no connect to an abstract address is called back, or left, after the
close. -/
theorem requests_are_settled_iff (hkind : has_requests kind) (finalizer : Finalizer)
    (as : List Act) :
    runs.Always (step kind) Settled (new finalizer) as ↔
    runs.Meets (step kind) KeepsRequests (new finalizer) as := by
  have hprocess : kind ≠ .Process := by
    rintro rfl
    rcases hkind with h | h <;> cases h
  have hchecker : kind ≠ .SignalChecker := by
    rintro rfl
    rcases hkind with h | h <;> cases h
  exact runs.always_iff_meets
    (fun s a t hi hkeeps hstep => step_inv hprocess hchecker hi hkeeps hstep)
    (fun s a t hi hstep => settled_iff_of_step hprocess hchecker hi hstep)
    as (new_inv finalizer) (new_inv finalizer).settled

end

/-- A TCP handle that is closed with a connect and a write under way. -/
def closed_while_connecting : List Act :=
  [.base (.tp_init .Py_None 0), .TCP_connect .callable none true 0, .write .Py_None none 0,
    .base (.call (.close .Py_None)), .destroy, .destroy_connect, .ret, .destroy_writes,
    .run_completed, .finish_close]

theorem a_closed_tcp_is_settled :
    runs.Always (step .TCP) Settled (new .none) closed_while_connecting :=
  (requests_are_settled_iff (Or.inl rfl) .none closed_while_connecting).mpr
    (.cons rfl trivial <| .cons rfl trivial <| .cons rfl trivial <| .cons rfl trivial <|
      .cons rfl trivial <| .cons rfl trivial <| .cons rfl trivial <| .cons rfl trivial <|
      .cons rfl trivial <| .cons rfl (fun _ => rfl) trivial)

/-- A pipe that connects twice, is connected, and closed. -/
def connected_twice : List Act :=
  [.base (.tp_init .Py_None 0), .Pipe_connect .callable true, .Pipe_connect .callable true,
    .connect_done 0, .ret, .base (.call (.close .Py_None)), .base .decref, .destroy, .finish_close]

/-- The callback of the first connect is never called, and the pipe is never freed. -/
theorem a_pipe_that_connects_twice_leaks :
    ∃ s, runs.exec (step .Pipe) (new .none) connected_twice = some s ∧
      s.core.user = 0 ∧ s.core.finishes = 1 ∧ s.core.refcnt = 1 ∧ s.called.length = 1 ∧
      s.next = 2 ∧ recorded s = 0 ∧
      ¬runs.Always (step .Pipe) Settled (new .none) connected_twice := by
  refine ⟨_, rfl, rfl, rfl, rfl, rfl, rfl, rfl, fun h => ?_⟩
  have hlast := runs.always_iff_exec.mp h connected_twice _ (List.prefix_refl _) rfl
  exact absurd (hlast.after_close rfl).1 (by decide)

end pyuv.stream_requests
