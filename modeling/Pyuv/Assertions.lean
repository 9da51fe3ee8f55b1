-- The assertions of the functions of libuv that the methods of TCP, Pipe, TTY and Poll and the
-- loop call, and what these functions keep. Nothing in the extension checks the descriptor of a
-- stream, its type, the loop of a client, the events of a Poll or the other users of a descriptor,
-- or that a stream that listens does nothing else.
import Pyuv.Lib.Asserts
import Pyuv.StreamLoop

set_option linter.style.nameCheck false

namespace pyuv.stream_io

open asserts slots watchers
open handle (Ret)

/-! ## The condition -/

/-- The guards of the methods let the handle through. -/
def is_open (s : St) (h : Nat) : Prop :=
  (∃ l, (s.io h).loop = some l) ∧ (s.io h).closing = false

/-- Without the events nothing is left to watch for, and the descriptor is entered for
another watcher of the loop. -/
def displaced (s : St) (h : Nat) (ev : Events) : Prop :=
  (s.io h).pevents.without ev = no_events ∧ ∃ l fd v, (s.io h).loop = some l ∧
    (s.io h).fd = some fd ∧ (s.loops l).slot fd = some v ∧ v ≠ .handle h

/-- Some descriptor is one of those of stdio, which were closed. -/
def has_stdio (fds : List Nat) : Prop := ∃ fd ∈ fds, fd ≤ STDERR_FILENO

/-- The system has refused the bytes for good. -/
def WriteResult.fails : WriteResult → Prop
  | .wrote _ => False
  | .error _ => True

/-- The first request fails, or the handle that it sends was closed. -/
def first_fails (s : St) (queue : List Req) (result : WriteResult) : Prop :=
  ∃ req ∈ queue.head?, result.fails ∨ ∃ k, req.send_handle = some k ∧ (s.io k).closing = true

/-- The first request sends a handle without a descriptor: one whose __init__ was called again. -/
def first_unsendable (s : St) (queue : List Req) : Prop :=
  ∃ req ∈ queue.head?, ∃ k, req.send_handle = some k ∧ (s.io k).closing = false ∧
    uv__handle_fd (s.io k) = none

/-- What a write of the first request asserts: its handle has a descriptor, and that of the stream
is not in other hands. -/
def first_asserts (s : St) (h : Nat) (queue : List Req) (result : WriteResult) : Prop :=
  first_unsendable s queue ∨ first_fails s queue result ∧ displaced s h POLLOUT

/-- uv_write2 accepts the request. -/
def accepted (s : St) (h : Nat) (send_handle : Option Nat) (alloc : Bool) : Prop :=
  (s.io h).fd ≠ none ∧ (send_handle ≠ none → (s.io h).kind = .Pipe ∧ (s.io h).ipc = true) ∧
    (∀ k, send_handle = some k → uv__handle_fd (s.io k) ≠ none) ∧ alloc = true

/-- The descriptor of another watcher, or a blocking TTY that has yet to report an error. -/
def write_asserts (s : St) (h : Nat) (req : Req) (result : WriteResult) : Prop :=
  (s.io h).connect_req = false ∧
    ((s.io h).write_queue_size = 0 ∧ first_asserts s h ((s.io h).write_queue ++ [req]) result ∨
      (s.io h).write_queue_size ≠ 0 ∧ (s.io h).blocking = true)

/-- A TCP handle refuses its options. -/
def options_fail (w : Io) (os : Int) : Prop :=
  w.kind = .TCP ∧ (w.nodelay = true ∨ w.keepalive = true) ∧ os < 0

/-- A new socket is closed again, and it has a descriptor of stdio. -/
def closes_socket (w : Io) (sock : Except Int Nat) (os : Int) : Prop :=
  w.fd = none ∧ options_fail w os ∧ ∃ fd, sock = .ok fd ∧ fd ≤ STDERR_FILENO

/-- The client does not take the descriptor. -/
def not_opened (c : Io) (fd : Nat) (os : Int) : Prop :=
  if c.kind = .UDP then c.fd ≠ none ∨ os < 0
  else c.fd ≠ none ∧ c.fd ≠ some fd ∨ options_fail c os

/-- The client is of a type that the method takes, and of another loop, or does not take a
descriptor of stdio. -/
def accept_asserts (s : St) (h : Nat) (client : Obj) (os : Int) : Prop :=
  (if (s.io h).kind = .TCP then bad_TCP_client s client else bad_Pipe_client s client) = none ∧
    ∃ k, client = .handle k ∧ ((s.io h).uv_loop ≠ (s.io k).uv_loop ∨
      ∃ fd, (s.io h).accepted_fd = some fd ∧ fd ≤ STDERR_FILENO ∧ (s.io k).kind ≠ .TTY ∧
        not_opened (s.io k) fd os)

/-- The calls that an assertion of libuv stands against, by method. -/
def Call.misuse (s : St) (h : Nat) : Call → Prop
  -- a stream that was not opened
  | .start_read callback => callback = .callable ∧ (s.io h).fd = none
  | .stop_read => (s.io h).reading = true ∧ displaced s h POLLIN
  -- a TTY, or a stream whose opening has failed
  | .shutdown => (s.io h).kind = .TTY ∨ (s.io h).writable = true ∧ (s.io h).shut = false ∧
      (s.io h).shutting = false ∧ (s.io h).fd = none
  | .write data callback send_handle alloc result =>
    (callback ≠ .other ∧ bad_send_handle s send_handle = none ∧ data.error = none) ∧
      accepted s h send_handle.id? alloc ∧
      write_asserts s h ⟨data.bufs.sum, send_handle.id?⟩ result
  | .try_write size alloc result =>
    accepted s h none alloc ∧ (s.io h).connect_req = false ∧ (s.io h).write_queue_size = 0 ∧
      (first_asserts s h ((s.io h).write_queue ++ [⟨size, none⟩]) result ∨
        (s.io h).pevents.pollout = false ∧ displaced s h POLLOUT)
  | .listen callback backlog sock opened _ =>
    (int_required backlog = none ∧ 0 ≤ backlog ∧ callback = .callable) ∧
      (s.io h).kind = .TCP ∧ (s.io h).delayed_error = 0 ∧ closes_socket (s.io h) sock opened
  | .connect callback sock opened _ _ =>
    callback = .callable ∧ (s.io h).kind = .TCP ∧ (s.io h).connect_req = false ∧
      closes_socket (s.io h) sock opened
  | .bind refused sock opened os _ =>
    if (s.io h).kind = .TCP then refused = false ∧ closes_socket (s.io h) sock opened
    else (s.io h).fd = none ∧ os < 0 ∧ ∃ fd, sock = .ok fd ∧ fd ≤ STDERR_FILENO
  | .accept client os => accept_asserts s h client os
  | .poll_start events callback =>
    int_required events = none ∧ callback = .callable ∧
      ((events < 0 ∨ 7 < events) ∨ displaced s h all_events)
  | .poll_stop => displaced s h all_events
  | .close callback => callback ≠ .other ∧
      (displaced s h all_events ∨ (s.io h).kind ≠ .Poll ∧ has_stdio (to_close (s.io h)))
  | _ => False

/-- The system does not watch the descriptor for the loop. -/
def EpollCtl.refuses (w : Io) : EpollCtl → Prop
  | .done => False
  | .eexist modified => w.events ≠ no_events ∨ modified = false
  | .error => True

/-- The events of the loop that an assertion of libuv stands against. -/
def Event.misuse (s : St) (h : Nat) : Event → Prop
  | .io_poll ctl => ctl.refuses (s.io h)
  -- the watcher of a stream that was closed, or of one that listens
  | .polled r => (s.io h).kind.stream = true ∧ ((s.io h).closing = true ∨
      (s.io h).listening = true ∧
        ((r.seen (s.io h)).pollin = false ∨ (s.io h).accepted_fd ≠ none))
  | .run_pending => (s.io h).kind.stream = true ∧
      ((s.io h).closing = true ∨ (s.io h).listening = true)
  | .accept_round result => (s.io h).accepted_fd ≠ none ∨
      ∃ closed, result = .error closed ∧ has_stdio closed
  | .connected os =>
    let error := if (s.io h).delayed_error ≠ 0 then (s.io h).delayed_error else os
    error ≠ UV_EINPROGRESS ∧ (error < 0 ∨ (s.io h).write_queue = []) ∧ displaced s h POLLOUT
  | .writable result => first_asserts s h (s.io h).write_queue result
  | .drained _ => displaced s h POLLOUT
  | .read_error | .eof | .not_accepted => displaced s h POLLIN
  | .after_read ended => ended = false ∧ (s.io h).reading = true ∧ displaced s h POLLIN
  | .received fd alloc =>
    (s.io h).accepted_fd ≠ none ∧ alloc = false ∧ fd ≤ STDERR_FILENO
  -- a closed handle that was given a descriptor again
  | .finish_close => ((s.io h).kind.stream = true ∨ (s.io h).kind = .UDP) ∧
      uv__io_active (s.io h) = true ∨ (s.io h).kind = .UDP ∧ (s.io h).fd ≠ none
  | _ => False

/-- The condition on a step, for the handle of the step as it was before. -/
def misuse (s : St) : Act → Prop
  | .call h c => is_open s h ∧ c.misuse s h
  | .event h ev => ev.misuse s h
  | _ => False

/-! ## The invariant -/

/-- What holds of each handle in a run without misuse. -/
structure Good (w : Io) : Prop where
  fd : ∀ fd, w.fd = some fd → fd < INT_MAX
  accepted : ∀ fd, w.accepted_fd = some fd → fd < INT_MAX ∧ w.fd ≠ none
  queued_fds : ∀ fd ∈ w.queued_fds, fd < INT_MAX
  size : w.write_queue_size = (w.write_queue.map Req.left).sum + w.failed.sum
  poll : w.kind = .Poll → w.loop ≠ none → w.fd ≠ none
  listening : w.listening = true → w.kind.stream = true
  reading : w.reading = true → w.fd ≠ none
  pevents : w.fd = none → w.pevents = no_events
  queued : w.queued = true → w.pevents ≠ no_events
  pending : w.pending = true → w.fd = none → w.connect_req = true ∨ w.closing = true
  connect_req : w.connect_req = true → w.closing = false → w.fd = none →
    w.delayed_error ≠ 0 ∧ w.delayed_error ≠ UV_EINPROGRESS
  connects : w.connect_req = true → w.kind = .TCP ∨ w.kind = .Pipe

/-- The watchers of the loops are counted, and each loop has one of its own. -/
structure Tables (s : St) : Prop where
  counted : ∀ l, (s.loops l).Counted
  own : ∀ l, ∃ fd, (s.loops l).slot fd = some .loop_own
  running : s.aborted = false

/-- Every handle is good, and the tables of watchers are in order. -/
structure Inv (s : St) : Prop where
  io : ∀ h, Good (s.io h)
  tables : Tables s

section

variable {s t : St} {h j k l fd : Nat} {ev : Events} {v w : Io}

/-- What was stored is read. -/
@[simp]
theorem set_io (s : St) (h : Nat) (w : Io) : (s.set h w).io h = w := Function.update_self ..

theorem set_io_of_ne (hjh : j ≠ h) : (s.set h w).io j = s.io j := Function.update_of_ne hjh _ _

@[simp]
theorem set_loops (s : St) (h : Nat) (w : Io) : (s.set h w).loops = s.loops := rfl

@[simp]
theorem set_set (s : St) (h : Nat) (v w : Io) : (s.set h v).set h w = s.set h w := by
  unfold St.set
  dsimp only
  rw [Function.update_idem]

/-- Only the queue entry of the watcher is changed. -/
@[simp]
theorem feed_set (s : St) (h : Nat) (w : Io) :
    uv__io_feed (s.set h w) h = s.set h { w with pending := true } := by
  unfold uv__io_feed
  rw [set_set, set_io]

/-- The tables are no field of a handle. -/
theorem Tables.set (ht : Tables s) (h : Nat) (w : Io) : Tables (s.set h w) :=
  ⟨ht.counted, ht.own, ht.running⟩

/-- Another state of one handle, if it is a good one. -/
theorem Inv.set (hi : Inv s) (hg : Good w) : Inv (s.set h w) := by
  refine ⟨fun j => ?_, hi.tables.set h w⟩
  by_cases hjh : j = h
  · subst hjh
    rw [set_io]
    exact hg
  · rw [set_io_of_ne hjh]
    exact hi.io j

/-- Whether a watcher is displaced depends on its loop, its descriptor and its events. -/
theorem displaced_set (hloop : w.loop = (s.io h).loop) (hfd : w.fd = (s.io h).fd)
    (hevents : w.pevents = (s.io h).pevents) :
    displaced (s.set h w) h ev ↔ displaced s h ev := by
  unfold displaced
  rw [set_io, set_loops, hloop, hfd, hevents]

theorem close_spec (fds : List Nat) {Q : St → Prop} (hs : Q s) :
    Fails (has_stdio fds) Q (uv__close s fds) := by
  unfold uv__close has_stdio
  split
  · rename_i hany
    exact Fails.failed (by simpa using hany)
  · rename_i hnone
    exact Fails.ok hs (by simpa using hnone)

/-! ## The watchers of a loop -/

/-- The count of a table is the number of slots in use, and the loop keeps its own slot. -/
theorem Tables.update (ht : Tables s) {watchers : Table Nat Watcher}
    (hcount : watchers.Counted) (hown : ∃ fd, watchers.slot fd = some .loop_own) :
    Tables { s with loops := Function.update s.loops l watchers } := by
  refine ⟨fun m => ?_, fun m => ?_, ht.running⟩
  · by_cases hml : m = l
    · subst hml
      dsimp only
      rw [Function.update_self]
      exact hcount
    · dsimp only
      rw [Function.update_of_ne hml]
      exact ht.counted m
  · by_cases hml : m = l
    · subst hml
      dsimp only
      rw [Function.update_self]
      exact hown
    · dsimp only
      rw [Function.update_of_ne hml]
      exact ht.own m

/-- A watcher enters a slot that is empty. One that is taken is left as it is. -/
theorem Tables.enter (ht : Tables s) (fd : Nat) (v : Watcher) :
    Tables { s with loops := Function.update s.loops l ((s.loops l).put fd v) } := by
  obtain ⟨own, hown⟩ := ht.own l
  exact ht.update ((ht.counted l).put fd v) ⟨own, Table.put_slot hown⟩

/-- The slots of the loop are never given up. -/
theorem Tables.leave (ht : Tables s) {v : Watcher} (hv : v ≠ .loop_own)
    {watchers : Table Nat Watcher} (htake : (s.loops l).take fd v = some watchers) :
    Tables { s with loops := Function.update s.loops l watchers } := by
  obtain ⟨own, hown⟩ := ht.own l
  exact ht.update ((ht.counted l).take htake) ⟨own, Table.take_slot htake hown (Ne.symm hv)⟩

theorem Inv.with_tables (hi : Inv s) {loops : Nat → Table Nat Watcher}
    (ht : Tables { s with loops := loops }) : Inv { s with loops := loops } :=
  ⟨hi.io, ht⟩

theorem or_ne_nothing {a b : Events} (h : b ≠ no_events) : a.or b ≠ no_events := by
  rcases a with ⟨_ | _, _ | _, _ | _⟩ <;> rcases b with ⟨_ | _, _ | _, _ | _⟩ <;>
    simp_all [Events.or, no_events]

/-- What a watcher that has a descriptor is told to watch for. -/
theorem Good.watching (hg : Good w) (hfd : w.fd ≠ none) (pevents events : Events) (queued : Bool)
    (hqueued : queued = true → pevents ≠ no_events) :
    Good { w with pevents := pevents, events := events, queued := queued } :=
  { hg with pevents := fun hnone => absurd hnone hfd, queued := hqueued }

/-- A descriptor of the system is small, so only its absence is an error. -/
theorem io_start_spec (hi : Inv s) (hev : ev ≠ no_events) :
    Fails ((s.io h).fd = none) Inv (uv__io_start s l h ev) := by
  have hg := hi.io h
  unfold uv__io_start
  dsimp only
  split
  · rename_i hnone
    exact Fails.failed hnone
  · rename_i fd hfd
    have hsome : (s.io h).fd ≠ none := by
      rw [hfd]
      exact Option.some_ne_none fd
    have hsmall := hg.fd fd hfd
    have hevents : (s.io h).pevents.or ev ≠ no_events := or_ne_nothing hev
    rw [if_neg fun hbad => hbad.elim hev (Nat.not_le.mpr hsmall)]
    split
    · exact Fails.ok (hi.set (hg.watching hsome ((s.io h).pevents.or ev) (s.io h).events
        (s.io h).queued fun _ => hevents)) hsome
    · have hset : Inv (s.set h _) := hi.set (h := h)
        (hg.watching hsome ((s.io h).pevents.or ev) (s.io h).events true fun _ => hevents)
      exact Fails.ok (hset.with_tables (hset.tables.enter fd (.handle h))) hsome

/-- Nothing but the descriptor matters. -/
theorem io_start_none (hfd : (s.io h).fd = none) : uv__io_start s l h ev = none := by
  unfold uv__io_start
  dsimp only
  rw [hfd]

theorem io_stop_eq_none (ht : Tables s) (hloop : (s.io h).loop = some l) :
    uv__io_stop s l h ev = none ↔ displaced s h ev := by
  unfold uv__io_stop displaced
  dsimp only
  split
  · rename_i hnone
    simp [hnone]
  · rename_i fd hfd
    split
    · rename_i hevents
      rw [Option.map_eq_none_iff, (ht.counted l).take_eq_none_iff]
      constructor
      · rintro ⟨v, hv, hne⟩
        exact ⟨hevents, l, fd, v, hloop, hfd, hv, hne⟩
      · rintro ⟨-, m, fd', v, hm, hfd', hv, hne⟩
        rw [hloop, Option.some.injEq] at hm
        rw [hfd, Option.some.injEq] at hfd'
        subst hm hfd'
        exact ⟨v, hv, hne⟩
    · rename_i hevents
      simp [hevents]

/-- A stop keeps the invariant. -/
theorem io_stop_inv (hi : Inv s) (hstop : uv__io_stop s l h ev = some t) : Inv t := by
  have hg := hi.io h
  unfold uv__io_stop at hstop
  dsimp only at hstop
  split at hstop
  · cases hstop
    exact hi
  · rename_i fd hfd
    have hsome : (s.io h).fd ≠ none := by
      rw [hfd]
      exact Option.some_ne_none fd
    split at hstop
    · rw [Option.map_eq_some_iff] at hstop
      obtain ⟨watchers, htake, rfl⟩ := hstop
      have hset : Inv (s.set h _) := hi.set
        (hg.watching hsome ((s.io h).pevents.without ev)
          (if ((s.loops l).slot fd).isSome then no_events else (s.io h).events) false
          fun hq => absurd hq Bool.false_ne_true)
      exact hset.with_tables (hset.tables.leave Watcher.noConfusion htake)
    · rename_i hevents
      cases hstop
      exact hi.set (hg.watching hsome ((s.io h).pevents.without ev) (s.io h).events true
        fun _ => hevents)

theorem io_stop_spec (hi : Inv s) (hloop : (s.io h).loop = some l) :
    Fails (displaced s h ev) Inv (uv__io_stop s l h ev) :=
  ⟨io_stop_eq_none hi.tables hloop, fun _ => io_stop_inv hi⟩

/-- What a handle keeps of which no more was changed than its watcher. -/
structure Rewatched (v w : Io) : Prop where
  kind : w.kind = v.kind
  loop : w.loop = v.loop
  closing : w.closing = v.closing
  fd : w.fd = v.fd
  accepted_fd : w.accepted_fd = v.accepted_fd
  queued_fds : w.queued_fds = v.queued_fds
  pending : w.pending = v.pending
  reading : w.reading = v.reading

/-- Nothing was changed. -/
theorem Rewatched.refl (w : Io) : Rewatched w w := by constructor <;> rfl

theorem io_start_rewatched (hstart : uv__io_start s l h ev = some t) :
    Rewatched (s.io h) (t.io h) := by
  unfold uv__io_start at hstart
  dsimp only at hstart
  split at hstart
  · cases hstart
  · split at hstart
    · cases hstart
    · split at hstart <;> cases hstart <;> constructor <;> simp

/-- What a stop leaves of the handle that it stops. -/
theorem io_stop_rewatched (hstop : uv__io_stop s l h ev = some t) :
    Rewatched (s.io h) (t.io h) := by
  unfold uv__io_stop at hstop
  dsimp only at hstop
  split at hstop
  · cases hstop
    exact Rewatched.refl _
  · split at hstop
    · rw [Option.map_eq_some_iff] at hstop
      obtain ⟨watchers, -, rfl⟩ := hstop
      constructor <;> simp
    · cases hstop
      constructor <;> simp

/-- The events that remain are those that were not stopped. -/
theorem io_stop_pevents (hstop : uv__io_stop s l h ev = some t) (hfd : (s.io h).fd ≠ none) :
    (t.io h).pevents = (s.io h).pevents.without ev := by
  unfold uv__io_stop at hstop
  dsimp only at hstop
  split at hstop
  · rename_i hnone
    exact absurd hnone hfd
  · split at hstop
    · rw [Option.map_eq_some_iff] at hstop
      obtain ⟨watchers, -, rfl⟩ := hstop
      simp
    · cases hstop
      simp

/-- A watcher that stops for good leaves the slot of its descriptor empty. -/
theorem io_stop_slot (hempty : (s.io h).pevents.without ev = no_events)
    (hfd : (s.io h).fd = some fd) (hstop : uv__io_stop s l h ev = some t) :
    (t.loops l).slot fd = none := by
  unfold uv__io_stop at hstop
  dsimp only at hstop
  rw [hfd] at hstop
  dsimp only at hstop
  rw [if_pos hempty, Option.map_eq_some_iff] at hstop
  obtain ⟨watchers, htake, rfl⟩ := hstop
  dsimp only
  rw [Function.update_self]
  unfold Table.take at htake
  split at htake
  · rename_i hnone
    cases htake
    exact hnone
  · split at htake
    · cases htake
      exact Function.update_self ..
    · cases htake

/-- With no event left the slot was given up. -/
theorem not_displaced_of_stopped {ev' : Events} (hloop : (s.io h).loop = some l)
    (hempty : (s.io h).pevents.without ev = no_events)
    (hstop : uv__io_stop s l h ev = some t) : ¬displaced t h ev' := by
  have hloop' : (t.io h).loop = (s.io h).loop := (io_stop_rewatched hstop).loop
  have hfd' : (t.io h).fd = (s.io h).fd := (io_stop_rewatched hstop).fd
  rintro ⟨-, m, fd, v, hm, hfd, hv, -⟩
  rw [hloop', hloop, Option.some.injEq] at hm
  subst hm
  rw [io_stop_slot hempty (hfd'.symm.trans hfd) hstop] at hv
  cases hv

/-- What has been stopped can be stopped again. -/
theorem not_displaced_of_stop (hloop : (s.io h).loop = some l)
    (hstop : uv__io_stop s l h ev = some t) : ¬displaced t h ev := by
  by_cases hempty : (s.io h).pevents.without ev = no_events
  · exact not_displaced_of_stopped hloop hempty hstop
  · have hfd' : (t.io h).fd = (s.io h).fd := (io_stop_rewatched hstop).fd
    rintro ⟨hnone, m, fd, v, -, hfd, -⟩
    have hsome : (s.io h).fd ≠ none := by
      rw [← hfd', hfd]
      exact Option.some_ne_none fd
    rw [io_stop_pevents hstop hsome] at hnone
    apply hempty
    rw [← hnone]
    unfold Events.without
    cases ev.pollin <;> cases ev.pollout <;> cases ev.rdhup <;> simp

/-- Nothing is watched for. -/
def Idle (w : Io) : Prop := w.pevents = no_events ∧ w.queued = false

/-- A watcher without events is not in the queue. -/
theorem io_stop_idle (hstop : uv__io_stop s l h ev = some t)
    (hempty : (s.io h).pevents.without ev = no_events)
    (hfd : (s.io h).fd = none → Idle (s.io h)) : Idle (t.io h) := by
  unfold uv__io_stop at hstop
  dsimp only at hstop
  split at hstop
  · rename_i hnone
    cases hstop
    exact hfd hnone
  · rw [if_pos hempty, Option.map_eq_some_iff] at hstop
    obtain ⟨watchers, -, rfl⟩ := hstop
    unfold Idle
    simp [hempty]

/-- To start a watcher does not make it the one that is entered, or another. -/
theorem io_start_displaced (hloop : (s.io h).loop = some l)
    (hstart : uv__io_start s l h ev = some t) : displaced t h ev ↔ displaced s h ev := by
  have hevents : ((s.io h).pevents.or ev).without ev = (s.io h).pevents.without ev := by
    unfold Events.or Events.without
    cases ev.pollin <;> cases ev.pollout <;> cases ev.rdhup <;> simp
  unfold uv__io_start at hstart
  dsimp only at hstart
  split at hstart
  · cases hstart
  · rename_i fd hfd
    split at hstart
    · cases hstart
    · split at hstart
      · cases hstart
        unfold displaced
        rw [set_io, set_loops, hevents]
      · cases hstart
        unfold displaced
        simp only [set_io, hevents]
        refine and_congr_right fun _ => ?_
        have hput : ∀ v : Watcher, v ≠ .handle h →
            (((s.loops l).put fd (.handle h)).slot fd = some v ↔ (s.loops l).slot fd = some v) := by
          intro v hv
          unfold Table.put
          split
          · rename_i hnone
            rw [Option.isNone_iff_eq_none] at hnone
            dsimp only
            rw [Function.update_self, hnone]
            simp [Ne.symm hv]
          · rfl
        constructor
        · rintro ⟨m, fd', v, hm, hfd', hv, hne⟩
          rw [hloop, Option.some.injEq] at hm
          rw [hfd, Option.some.injEq] at hfd'
          subst hm hfd'
          rw [Function.update_self] at hv
          exact ⟨l, fd, v, hloop, hfd, (hput v hne).mp hv, hne⟩
        · rintro ⟨m, fd', v, hm, hfd', hv, hne⟩
          rw [hloop, Option.some.injEq] at hm
          rw [hfd, Option.some.injEq] at hfd'
          subst hm hfd'
          refine ⟨l, fd, v, hloop, hfd, ?_, hne⟩
          rw [Function.update_self]
          exact (hput v hne).mpr hv

/-! ## What each function of libuv asserts -/

/-- A result with its state. -/
theorem Fails.paired {P : Prop} {o : Option St} (ho : Fails P Inv o) (err : Int) :
    Fails P (fun r : Int × St => Inv r.2) (o.map fun t => (err, t)) :=
  Fails.map (f := fun t => (err, t)) ho

theorem POLLIN_ne : POLLIN ≠ no_events := by decide

theorem POLLOUT_ne : POLLOUT ≠ no_events := by decide

/-- A stream that is not connected yet has no descriptor, and this is asserted. -/
theorem read_start_spec (hi : Inv s) (hstream : (s.io h).kind.stream = true)
    (hopen : (s.io h).closing = false) :
    Fails ((s.io h).fd = none) (fun r => Inv r.2) (uv_read_start s l h) := by
  have hg := hi.io h
  unfold uv_read_start
  dsimp only
  rw [if_neg (by simp [hstream]), if_neg (by simp [hopen])]
  by_cases hfd : (s.io h).fd = none
  · rw [io_start_none (by rw [set_io]; exact hfd)]
    exact Fails.failed hfd
  · have hset : Inv (s.set h { s.io h with reading := true }) :=
      hi.set { hg with reading := fun _ => hfd }
    exact (Fails.paired (io_start_spec hset POLLIN_ne) 0).congr (by rw [set_io])

/-- Only a stream that reads is stopped. -/
theorem read_stop_spec (hi : Inv s) (hloop : (s.io h).loop = some l) :
    Fails ((s.io h).reading = true ∧ displaced s h POLLIN) (fun r => Inv r.2)
      (uv_read_stop s l h) := by
  have hg := hi.io h
  have hset : Inv (s.set h { s.io h with reading := false }) :=
    hi.set { hg with reading := fun hr => absurd hr Bool.false_ne_true }
  unfold uv_read_stop
  dsimp only
  by_cases hreading : (s.io h).reading = true
  · rw [if_neg (by simp [hreading])]
    refine (Fails.paired (io_stop_spec hset (by rw [set_io]; exact hloop)) 0).congr ?_
    rw [and_iff_right hreading]
    exact displaced_set rfl rfl rfl
  · rw [if_pos (by simp [hreading])]
    exact Fails.ok hi fun hr => hreading hr.1

/-- A TTY is no stream for uv_shutdown. The flags are checked before the descriptor. -/
theorem shutdown_spec (hi : Inv s) (hstream : (s.io h).kind.stream = true)
    (hopen : (s.io h).closing = false) :
    Fails ((s.io h).kind = .TTY ∨ (s.io h).writable = true ∧
      (s.io h).shut = false ∧ (s.io h).shutting = false ∧ (s.io h).fd = none)
      (fun r => Inv r.2) (uv_shutdown s l h) := by
  have hset : Inv (s.set h { s.io h with shutting := true }) := hi.set { hi.io h with }
  have hkind : (s.io h).kind ≠ .TCP ∧ (s.io h).kind ≠ .Pipe ↔ (s.io h).kind = .TTY := by
    cases hk : (s.io h).kind <;> simp [hk, Kind.stream] at hstream ⊢
  unfold uv_shutdown
  dsimp only
  rw [if_congr hkind rfl rfl]
  refine Fails.guard fun htty => ?_
  split
  · rename_i hrefused
    refine Fails.ok hi ?_
    rintro ⟨hw, hshut, hshutting, -⟩
    simp [hw, hshut, hshutting, hopen] at hrefused
  · rename_i hok
    simp only [hopen, Bool.or_false, Bool.or_eq_true, Bool.not_eq_true', not_or,
      Bool.not_eq_false, Bool.not_eq_true] at hok
    refine (Fails.paired (io_start_spec hset POLLOUT_ne) 0).congr ?_
    rw [set_io]
    exact ⟨fun hfd => ⟨hok.1.1, hok.1.2, hok.2, hfd⟩, fun h => h.2.2.2⟩

/-! ### Writing -/

/-- The requests of a handle that has a descriptor, what is left of the sizes adding up. -/
theorem Good.writing (hg : Good w) (hfd : w.fd ≠ none) (queue : List Req) (failed : List Nat)
    (size : Nat) (pending : Bool)
    (hsize : size = (queue.map Req.left).sum + failed.sum) :
    Good { w with
      write_queue := queue, failed := failed, write_queue_size := size, pending := pending } :=
  { hg with
    size := hsize
    pending := fun _ hnone => absurd hnone hfd }

section

variable {req : Req} {rest : List Req}

/-- The error after so many bytes leaves the request to be reported. -/
theorem write_error_spec {n : Nat} (hi : Inv s) (hloop : (s.io h).loop = some l)
    (hfd : (s.io h).fd ≠ none)
    (hqueue : (s.io h).write_queue = req :: rest) (hn : n ≤ req.left) :
    Fails (displaced s h POLLOUT) Inv (uv__write_error s l h req rest n) := by
  have hg := hi.io h
  have hsize := hg.size
  rw [hqueue, List.map_cons, List.sum_cons] at hsize
  have hset : Inv (s.set h { s.io h with
      write_queue := rest
      failed := (s.io h).failed ++ [req.left - n]
      write_queue_size := (s.io h).write_queue_size - n
      pending := true }) :=
    hi.set (hg.writing hfd rest ((s.io h).failed ++ [req.left - n])
      ((s.io h).write_queue_size - n) true
      (by rw [List.sum_append, List.sum_singleton]; omega))
  unfold uv__write_error
  dsimp only
  rw [feed_set]
  exact (io_stop_spec hset (by rw [set_io]; exact hloop)).congr (displaced_set rfl rfl rfl)

/-- The request at the head sends a handle that has no descriptor, is done, goes on when the stream
is writable, or fails. -/
theorem write_cases (result : WriteResult) (hi : Inv s) (hfd : (s.io h).fd ≠ none)
    (hqueue : (s.io h).write_queue = req :: rest) :
    (first_unsendable s (req :: rest) ∧ uv__write s l h result = none) ∨
    ¬first_unsendable s (req :: rest) ∧
      ((¬first_fails s (req :: rest) result ∧
        uv__write s l h result = some (uv__write_done s h rest req.left)) ∨
      (∃ n, n ≤ req.left ∧ ¬first_fails s (req :: rest) result ∧ uv__write s l h result =
        uv__io_start (s.set h { s.io h with
          write_queue := { req with left := req.left - n } :: rest
          write_queue_size := (s.io h).write_queue_size - n }) l h POLLOUT) ∨
      ∃ n, n ≤ req.left ∧ first_fails s (req :: rest) result ∧
        uv__write s l h result = uv__write_error s l h req rest n) := by
  have hsize := (hi.io h).size
  rw [hqueue, List.map_cons, List.sum_cons] at hsize
  have hhead : first_fails s (req :: rest) result ↔
      result.fails ∨ ∃ k, req.send_handle = some k ∧ (s.io k).closing = true := by
    simp [first_fails]
  have hlost : first_unsendable s (req :: rest) ↔
      ∃ k, req.send_handle = some k ∧ (s.io k).closing = false ∧
        uv__handle_fd (s.io k) = none := by
    simp [first_unsendable]
  rw [hhead, hlost]
  unfold uv__write
  dsimp only
  rw [if_neg hfd, hqueue]
  dsimp only
  by_cases hclosed : req.send_handle.any fun k => (s.io k).closing
  · obtain ⟨k, hk, hclosing⟩ := (Option.any_eq_true _ _).mp hclosed
    rw [if_pos hclosed]
    refine .inr ⟨?_, .inr (.inr ⟨0, Nat.zero_le _, .inr ⟨k, hk, hclosing⟩, rfl⟩)⟩
    rintro ⟨k', hk', hopen, -⟩
    cases hk.symm.trans hk'
    rw [hclosing] at hopen
    cases hopen
  have hnone : ¬∃ k, req.send_handle = some k ∧ (s.io k).closing = true :=
    fun hany => hclosed ((Option.any_eq_true _ _).mpr hany)
  rw [if_neg hclosed, or_iff_left hnone]
  by_cases hlacks : req.send_handle.any fun k => (uv__handle_fd (s.io k)).isNone
  · obtain ⟨k, hk, hfd⟩ := (Option.any_eq_true _ _).mp hlacks
    rw [if_pos hlacks]
    have hopen : (s.io k).closing = false := by
      by_contra hclosing
      exact hnone ⟨k, hk, by simpa using hclosing⟩
    exact .inl ⟨⟨k, hk, hopen, Option.isNone_iff_eq_none.mp hfd⟩, rfl⟩
  rw [if_neg hlacks]
  refine .inr ⟨?_, ?_⟩
  · rintro ⟨k, hk, -, hfd⟩
    exact hlacks ((Option.any_eq_true _ _).mpr ⟨k, hk, Option.isNone_iff_eq_none.mpr hfd⟩)
  cases result with
  | wrote answer =>
    dsimp only
    generalize hm : (if (s.io h).blocking = true then req.left else min (answer.getD 0) req.left) =
      m
    have hle : m ≤ req.left := by
      rw [← hm]
      split <;> omega
    rw [if_neg (by omega)]
    by_cases hall : m = req.left ∧ ((s.io h).blocking = true ∨ answer.isSome = true)
    · rw [if_pos hall, hall.1]
      exact .inl ⟨id, rfl⟩
    · rw [if_neg hall]
      exact .inr (.inl ⟨m, hle, id, rfl⟩)
  | error n =>
    dsimp only
    generalize hm : (if (s.io h).blocking = true then min n req.left else 0) = m
    have hle : m ≤ req.left := by
      rw [← hm]
      split <;> omega
    rw [if_neg (by omega)]
    exact .inr (.inr ⟨m, hle, trivial, rfl⟩)

/-- The first request leaves the queue, written or failed. -/
theorem write_done_inv (hi : Inv s) (hfd : (s.io h).fd ≠ none)
    (hqueue : (s.io h).write_queue = req :: rest) : Inv (uv__write_done s h rest req.left) := by
  have hg := hi.io h
  have hsize := hg.size
  rw [hqueue, List.map_cons, List.sum_cons] at hsize
  unfold uv__write_done
  dsimp only
  rw [feed_set]
  exact hi.set (hg.writing hfd rest (s.io h).failed ((s.io h).write_queue_size - req.left) true
    (by omega))

/-- A request of which some bytes were written. -/
theorem Inv.write_on {n : Nat} (hi : Inv s) (hfd : (s.io h).fd ≠ none)
    (hqueue : (s.io h).write_queue = req :: rest) (hn : n ≤ req.left) :
    Inv (s.set h { s.io h with
      write_queue := { req with left := req.left - n } :: rest
      write_queue_size := (s.io h).write_queue_size - n }) := by
  have hg := hi.io h
  have hsize := hg.size
  rw [hqueue, List.map_cons, List.sum_cons] at hsize
  refine hi.set (hg.writing hfd _ (s.io h).failed _ (s.io h).pending ?_)
  rw [List.map_cons, List.sum_cons]
  dsimp only
  omega

/-- One round of uv__write. What it asserts is about the first request. -/
theorem write_spec (result : WriteResult) (hi : Inv s) (hloop : (s.io h).loop = some l)
    (hfd : (s.io h).fd ≠ none) :
    Fails (first_asserts s h (s.io h).write_queue result) Inv (uv__write s l h result) := by
  unfold first_asserts
  cases hqueue : (s.io h).write_queue with
  | nil =>
    have heq : uv__write s l h result = some s := by
      unfold uv__write
      dsimp only
      rw [if_neg hfd, hqueue]
    rw [heq]
    exact Fails.ok hi fun hbad => by simp [first_unsendable, first_fails] at hbad
  | cons req rest =>
    rcases write_cases (l := l) result hi hfd hqueue with
      ⟨hlost, heq⟩ | ⟨hlost, ⟨hok, heq⟩ | ⟨n, hn, hok, heq⟩ | ⟨n, hn, hfails, heq⟩⟩ <;> rw [heq]
    · exact Fails.failed (.inl hlost)
    · exact Fails.ok (write_done_inv hi hfd hqueue) fun hbad => hbad.elim hlost fun hb => hok hb.1
    · refine (io_start_spec (hi.write_on hfd hqueue hn) POLLOUT_ne).congr ?_
      rw [set_io]
      exact iff_of_false hfd fun hbad => hbad.elim hlost fun hb => hok hb.1
    · refine (write_error_spec hi hloop hfd hqueue hn).congr ?_
      rw [or_iff_right hlost, and_iff_right hfails]

/-- After the write the descriptor is in other hands if it was before, and the watcher
has not been stopped. -/
theorem write_displaced {result : WriteResult} (hi : Inv s) (hloop : (s.io h).loop = some l)
    (hfd : (s.io h).fd ≠ none) (hqueue : (s.io h).write_queue ≠ [])
    (hwrite : uv__write s l h result = some t) :
    (t.io h).loop = some l ∧ (displaced t h POLLOUT ↔
      ¬first_fails s (s.io h).write_queue result ∧ displaced s h POLLOUT) := by
  obtain ⟨req, rest, hcons⟩ := List.exists_cons_of_ne_nil hqueue
  rw [hcons]
  rcases write_cases (l := l) result hi hfd hcons with
    ⟨-, heq⟩ | ⟨-, ⟨hok, heq⟩ | ⟨n, -, hok, heq⟩ | ⟨n, -, hfails, heq⟩⟩ <;> rw [heq] at hwrite
  · cases hwrite
  · unfold uv__write_done at hwrite
    dsimp only at hwrite
    rw [feed_set] at hwrite
    cases hwrite
    rw [set_io]
    rw [and_iff_right hok]
    exact ⟨hloop, displaced_set rfl rfl rfl⟩
  · have hloop' := (io_start_rewatched hwrite).loop
    rw [set_io] at hloop'
    refine ⟨hloop'.trans hloop, (io_start_displaced (by rw [set_io]; exact hloop) hwrite).trans ?_⟩
    rw [and_iff_right hok]
    exact displaced_set rfl rfl rfl
  · unfold uv__write_error at hwrite
    dsimp only at hwrite
    rw [feed_set] at hwrite
    have hloop' := (io_stop_rewatched hwrite).loop
    rw [set_io] at hloop'
    refine ⟨hloop'.trans hloop, iff_of_false ?_ fun hbad => hbad.1 hfails⟩
    exact not_displaced_of_stop (by rw [set_io]; exact hloop) hwrite

end

/-- The handle with one more request in its queue. -/
def submitted (w : Io) (req : Req) : Io :=
  { w with
    write_queue := w.write_queue ++ [req], write_queue_size := w.write_queue_size + req.left }

/-- A request is queued, written or not. -/
theorem Inv.submit (hi : Inv s) (req : Req) (hfd : (s.io h).fd ≠ none) :
    Inv (s.set h (submitted (s.io h) req)) := by
  refine hi.set ((hi.io h).writing hfd _ (s.io h).failed _ (s.io h).pending ?_)
  rw [List.map_append, List.sum_append, List.map_singleton, List.sum_singleton, (hi.io h).size]
  omega

section

variable {bufs : List Nat} {send_handle : Option Nat} {alloc : Bool} {result : WriteResult}

/-- A write that is refused changes nothing. -/
theorem write2_refused (hstream : (s.io h).kind.stream = true) (hbufs : bufs ≠ [])
    (hrefused : ¬accepted s h send_handle alloc) :
    ∃ err, err < 0 ∧ uv_write2 s l h bufs send_handle alloc result = some (err, s) := by
  unfold uv_write2
  dsimp only
  rw [if_neg (by simp [hbufs, hstream])]
  by_cases hfd : (s.io h).fd = none
  · rw [if_pos hfd]
    exact ⟨UV_EBADF, by decide, rfl⟩
  rw [if_neg hfd]
  by_cases hkind : send_handle.isSome ∧ ((s.io h).kind ≠ .Pipe ∨ !(s.io h).ipc)
  · rw [if_pos hkind]
    exact ⟨UV_EINVAL, by decide, rfl⟩
  rw [if_neg hkind]
  by_cases hclosed : send_handle.any fun k => (uv__handle_fd (s.io k)).isNone
  · rw [if_pos hclosed]
    exact ⟨UV_EBADF, by decide, rfl⟩
  rw [if_neg hclosed]
  by_cases halloc : alloc = true
  · refine absurd ⟨hfd, fun hsome => ?_, ?_, halloc⟩ hrefused
    · by_contra hnot
      apply hkind
      refine ⟨Option.isSome_iff_ne_none.mpr hsome, ?_⟩
      by_cases hpipe : (s.io h).kind = .Pipe
      · exact Or.inr (by simpa [hpipe] using hnot)
      · exact Or.inl hpipe
    · rintro k rfl
      simpa using hclosed
  · rw [if_pos (by simpa using halloc)]
    exact ⟨UV_ENOMEM, by decide, rfl⟩

/-- A write that is accepted is queued, and written at once if it is the first. -/
theorem write2_accepted (hstream : (s.io h).kind.stream = true) (hbufs : bufs ≠ [])
    (haccepted : accepted s h send_handle alloc) :
    uv_write2 s l h bufs send_handle alloc result =
      let t := s.set h (submitted (s.io h) ⟨bufs.sum, send_handle⟩)
      if (s.io h).connect_req = true then some (0, t)
      else if (s.io h).write_queue_size = 0 then
        (uv__write t l h result).map fun s => (0, s)
      else if (s.io h).blocking = true then none
      else (uv__io_start t l h POLLOUT).map fun s => (0, s) := by
  obtain ⟨hfd, hipc, hfds, halloc⟩ := haccepted
  have hkind : ¬(send_handle.isSome ∧ ((s.io h).kind ≠ .Pipe ∨ !(s.io h).ipc)) := by
    rintro ⟨hsome, hnot⟩
    have hpipe := hipc (Option.isSome_iff_ne_none.mp hsome)
    simp [hpipe] at hnot
  have hopen : ¬send_handle.any (fun k => (uv__handle_fd (s.io k)).isNone) := by
    intro hclosed
    obtain ⟨k, hk, hnone⟩ := (Option.any_eq_true _ _).mp hclosed
    exact hfds k hk (Option.isNone_iff_eq_none.mp hnone)
  unfold uv_write2
  dsimp only
  rw [if_neg (by simp [hbufs, hstream]), if_neg hfd, if_neg hkind, if_neg hopen,
    if_neg (by simp [halloc])]
  rfl

/-- Which handles are closing, or have no descriptor, does not depend on the new request. -/
theorem submitted_same {req : Req} (k : Nat) :
    ((s.set h (submitted (s.io h) req)).io k).closing = (s.io k).closing ∧
      uv__handle_fd ((s.set h (submitted (s.io h) req)).io k) = uv__handle_fd (s.io k) := by
  by_cases hkh : k = h
  · subst hkh
    rw [set_io]
    exact ⟨rfl, rfl⟩
  · rw [set_io_of_ne hkh]
    exact ⟨rfl, rfl⟩

theorem displaced_submitted {req : Req} :
    displaced (s.set h (submitted (s.io h) req)) h ev ↔ displaced s h ev :=
  displaced_set rfl rfl rfl

theorem first_fails_submitted {queue : List Req} {req : Req} :
    first_fails (s.set h (submitted (s.io h) req)) queue result ↔ first_fails s queue result := by
  unfold first_fails
  simp only [submitted_same]

/-- The asserts of the first request do not look at the new one. -/
theorem first_asserts_submitted {queue : List Req} {req : Req} :
    first_asserts (s.set h (submitted (s.io h) req)) h queue result ↔
      first_asserts s h queue result := by
  unfold first_asserts first_unsendable
  simp only [submitted_same, first_fails_submitted, displaced_submitted]

theorem write2_spec (hi : Inv s) (hloop : (s.io h).loop = some l)
    (hstream : (s.io h).kind.stream = true) (hbufs : bufs ≠ []) :
    Fails (accepted s h send_handle alloc ∧ write_asserts s h ⟨bufs.sum, send_handle⟩ result)
      (fun r => Inv r.2) (uv_write2 s l h bufs send_handle alloc result) := by
  by_cases haccepted : accepted s h send_handle alloc
  · have hfd := haccepted.1
    have hset := hi.submit ⟨bufs.sum, send_handle⟩ hfd
    rw [write2_accepted hstream hbufs haccepted, and_iff_right haccepted]
    unfold write_asserts
    dsimp only
    split
    · rename_i hconnect
      exact Fails.ok hset fun hbad => by rw [hbad.1] at hconnect; cases hconnect
    · rename_i hconnect
      rw [Bool.not_eq_true] at hconnect
      rw [and_iff_right hconnect]
      split
      · rename_i hzero
        have hspec := write_spec (h := h) (l := l) result hset
          (by rw [set_io]; exact hloop) (by rw [set_io]; exact hfd)
        refine (Fails.paired hspec 0).congr ?_
        rw [set_io, first_asserts_submitted]
        simp [submitted, hzero]
      · rename_i hpending
        split
        · rename_i hblocking
          exact Fails.failed (.inr ⟨hpending, hblocking⟩)
        · rename_i hblocking
          refine (Fails.paired (io_start_spec hset POLLOUT_ne) 0).congr ?_
          rw [set_io]
          exact iff_of_false hfd fun hbad => by simp [hpending, hblocking] at hbad
  · obtain ⟨err, -, heq⟩ : ∃ err, err < 0 ∧
        uv_write2 s l h bufs send_handle alloc result = some (err, s) :=
      write2_refused hstream hbufs haccepted
    rw [heq]
    exact Fails.ok hi fun hbad => haccepted hbad.1

theorem sum_dropLast {xs : List Nat} {x : Nat} (hx : xs.getLast? = some x) :
    xs.sum = xs.dropLast.sum + x := by
  calc xs.sum = (xs.dropLast ++ [x]).sum := by rw [List.dropLast_append_getLast? x hx]
    _ = xs.dropLast.sum + x := by rw [List.sum_append, List.sum_singleton]

/-- The request that is taken back is one of those that the size counts. -/
theorem unqueue_spec {before : Io} {left : Nat} {u : Io} (hg : Good w)
    (hu : uv_try_write_unqueue before w = (left, u)) :
    left ≤ u.write_queue_size ∧
    Good { u with write_queue_size := u.write_queue_size - left } ∧
    u.fd = w.fd ∧ u.loop = w.loop ∧ u.pevents = w.pevents := by
  have hsize := hg.size
  unfold uv_try_write_unqueue at hu
  split at hu
  · rename_i req hlast
    have hleft : (w.write_queue.map Req.left).getLast? = some req.left := by
      rw [List.getLast?_map, hlast]
      rfl
    have hsum := sum_dropLast hleft
    rw [← List.map_dropLast] at hsum
    cases hu
    exact ⟨by dsimp only; omega, { hg with size := by dsimp only; omega }, rfl, rfl, rfl⟩
  · split at hu
    · cases hu
      exact ⟨Nat.zero_le _, { hg with }, rfl, rfl, rfl⟩
    · have hsum : w.failed.sum = w.failed.dropLast.sum + w.failed.getLast?.getD 0 := by
        cases hlast : w.failed.getLast? with
        | none =>
          rw [List.getLast?_eq_none_iff] at hlast
          simp [hlast]
        | some left => exact sum_dropLast hlast
      cases hu
      exact ⟨by dsimp only; omega, { hg with size := by dsimp only; omega }, rfl, rfl, rfl⟩

/-- The request is taken back, and the watcher stops. -/
theorem try_write_end_spec {before : Io} {size : Nat} (hi : Inv s)
    (hloop : (s.io h).loop = some l) :
    Fails (before.pevents.pollout = false ∧ displaced s h POLLOUT) (fun r => Inv r.2)
      (uv_try_write_end s l h before size) := by
  unfold uv_try_write_end
  generalize hu : uv_try_write_unqueue before (s.io h) = p
  obtain ⟨left, u⟩ := p
  obtain ⟨hle, hgood, hfd, hl, hevents⟩ := unqueue_spec (hi.io h) hu
  have hset : Inv (s.set h { u with write_queue_size := u.write_queue_size - left }) :=
    hi.set hgood
  dsimp only
  rw [if_neg (by omega)]
  split
  · rename_i hpollout
    exact Fails.ok hset fun hbad => by rw [hpollout] at hbad; cases hbad.1
  · rename_i hpollout
    rw [Bool.not_eq_true] at hpollout
    refine (Fails.paired (io_stop_spec hset (by rw [set_io]; exact hl.trans hloop)) _).congr ?_
    rw [and_iff_right hpollout]
    exact displaced_set hl hfd hevents

theorem try_write_spec (hi : Inv s) (hloop : (s.io h).loop = some l)
    (hstream : (s.io h).kind.stream = true) (hbufs : bufs ≠ []) :
    Fails (accepted s h none alloc ∧ (s.io h).connect_req = false ∧
        (s.io h).write_queue_size = 0 ∧
        (first_asserts s h ((s.io h).write_queue ++ [⟨bufs.sum, none⟩]) result ∨
          (s.io h).pevents.pollout = false ∧ displaced s h POLLOUT))
      (fun r => Inv r.2) (uv_try_write s l h bufs alloc result) := by
  unfold uv_try_write
  dsimp only
  split
  · rename_i hbusy
    refine Fails.ok hi ?_
    rintro ⟨-, hconnect, hzero, -⟩
    simp [hconnect, hzero] at hbusy
  rename_i hidle
  obtain ⟨hconnect, hzero⟩ : (s.io h).connect_req = false ∧ (s.io h).write_queue_size = 0 := by
    simpa using hidle
  by_cases haccepted : accepted s h none alloc
  · have hset := hi.submit (h := h) ⟨bufs.sum, none⟩ haccepted.1
    have hfd : ((s.set h (submitted (s.io h) ⟨bufs.sum, none⟩)).io h).fd ≠ none := by
      rw [set_io]
      exact haccepted.1
    have hloop' : ((s.set h (submitted (s.io h) ⟨bufs.sum, none⟩)).io h).loop = some l := by
      rw [set_io]
      exact hloop
    have hqueue : ((s.set h (submitted (s.io h) ⟨bufs.sum, none⟩)).io h).write_queue ≠ [] := by
      rw [set_io]
      simp [submitted]
    have hwrite := write_spec result hset hloop' hfd
    rw [set_io, first_asserts_submitted] at hwrite
    rw [write2_accepted hstream hbufs haccepted, and_iff_right haccepted, and_iff_right hconnect,
      and_iff_right hzero]
    dsimp only
    rw [if_neg (by simp [hconnect]), if_pos hzero]
    cases ht : uv__write (s.set h (submitted (s.io h) ⟨bufs.sum, none⟩)) l h result with
    | none => exact Fails.failed (.inl (hwrite.iff.mp ht))
    | some t =>
      have hok : ¬first_asserts s h ((s.io h).write_queue ++ [⟨bufs.sum, none⟩]) result :=
        (ht ▸ hwrite).not
      obtain ⟨hloop_t, hdisplaced⟩ := write_displaced hset hloop' hfd hqueue ht
      rw [displaced_submitted, set_io, first_fails_submitted] at hdisplaced
      simp only [Option.map_some, ne_eq, not_true_eq_false, if_false]
      refine (try_write_end_spec (hwrite.post t ht) hloop_t).congr ?_
      rw [hdisplaced, or_iff_right hok]
      refine and_congr_right fun _ => and_iff_right_of_imp fun hd hfails => ?_
      exact hok (.inr ⟨hfails, hd⟩)
  · obtain ⟨err, herr, heq⟩ : ∃ err, err < 0 ∧
        uv_write2 s l h bufs none alloc result = some (err, s) :=
      write2_refused hstream hbufs haccepted
    rw [heq]
    dsimp only
    rw [if_pos (by omega)]
    exact Fails.ok hi fun hbad => haccepted hbad.1

end

end

end pyuv.stream_io
