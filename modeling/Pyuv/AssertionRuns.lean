-- The runs of TCP, Pipe, TTY and Poll handles in which no assertion of libuv fails: those without a
-- misuse. One lemma for each event of the loop, then the runs.
import Pyuv.AssertionCalls

set_option linter.style.nameCheck false

namespace pyuv.stream_io

open asserts slots watchers
open handle (Ret)

variable {s t : St} {h k l fd : Nat} {w : Io} {os : Int}

/-! ## The io watchers -/

/-- A loop has a watcher of its own, so it does not find a watcher to start and none to count. -/
theorem Tables.used_ne (ht : Tables s) (l : Nat) : (s.loops l).used ≠ 0 := by
  obtain ⟨fd, hown⟩ := ht.own l
  exact ((ht.counted l).pos (k := fd) (by rw [hown]; exact Option.some_ne_none _)).ne'

theorem io_poll_spec {ctl : EpollCtl} (hi : Inv s) (hqueued : (s.io h).queued = true) :
    Fails (ctl.refuses (s.io h)) Inv (uv__io_poll s l h ctl) := by
  have hg := hi.io h
  have hevents := hg.queued hqueued
  have hfd : (s.io h).fd ≠ none := fun hnone => hevents (hg.pevents hnone)
  have hset : Inv (s.set h { s.io h with queued := false, events := (s.io h).pevents }) :=
    hi.set (hg.watching hfd (s.io h).pevents (s.io h).pevents false
      fun hq => absurd hq Bool.false_ne_true)
  unfold uv__io_poll
  dsimp only
  rw [if_neg (hi.tables.used_ne l), if_neg (not_or.mpr ⟨hevents, hfd⟩)]
  cases ctl with
  | done => exact Fails.ok hset id
  | eexist modified =>
    unfold EpollCtl.refuses
    dsimp only
    split
    · rename_i hmodified
      exact Fails.ok hset fun hbad => hbad.elim (absurd hmodified.1) (by simp [hmodified.2])
    · rename_i hnot
      refine Fails.failed ?_
      by_cases hnew : (s.io h).events = no_events
      · exact .inr (by simpa [hnew] using hnot)
      · exact .inl hnew
  | error => exact Fails.failed trivial

/-- A watcher that its loop has entered under its descriptor. -/
theorem not_displaced_of_slot {ev : Events} (hloop : (s.io h).loop = some l)
    (hfd : (s.io h).fd = some fd) (hslot : (s.loops l).slot fd = some (.handle h)) :
    ¬displaced s h ev := by
  rintro ⟨-, m, fd', v, hm, hfd', hv, hne⟩
  rw [hloop, Option.some.injEq] at hm
  rw [hfd, Option.some.injEq] at hfd'
  subst hm hfd'
  rw [hslot, Option.some.injEq] at hv
  exact hne hv.symm

theorem server_io_spec {r : Report} (hi : Inv s) (hfd : (s.io h).fd ≠ none) :
    Fails (r.pollin = false ∨ (s.io h).accepted_fd ≠ none ∨ (s.io h).closing = true) Inv
      (uv__server_io s l h r) := by
  unfold uv__server_io
  refine (Fails.guard (P := False) fun _ => ?_).congr ?_
  · exact (io_start_spec hi POLLIN_ne).congr (iff_of_false hfd id)
  · rw [or_false, Bool.not_eq_true']

/-- What the callback of a watcher asserts, that of a listening stream with a descriptor. -/
theorem cb_spec {r : Report} (hi : Inv s)
    (hlistening : (s.io h).listening = true → r.pollin = true → (s.io h).fd ≠ none)
    (hpoll : (s.io h).kind = .Poll → r.pollerr = true →
      (s.io h).loop = some l ∧ ¬displaced s h all_events)
    (hstream : (s.io h).fd = none → (s.io h).connect_req = true ∨ (s.io h).closing = true) :
    Fails ((s.io h).kind.stream = true ∧ ((s.io h).closing = true ∨
        (s.io h).listening = true ∧ (r.pollin = false ∨ (s.io h).accepted_fd ≠ none)))
      Inv (cb s l h r) := by
  have hg := hi.io h
  unfold cb
  dsimp only
  split
  · rename_i hlisten
    rw [and_iff_right (hg.listening hlisten), and_iff_right hlisten]
    by_cases hpollin : r.pollin = true
    · refine (server_io_spec hi (hlistening hlisten hpollin)).congr ?_
      tauto
    · rw [Bool.not_eq_true] at hpollin
      unfold uv__server_io
      rw [if_pos (.inl (by simp [hpollin]))]
      exact Fails.failed (.inr (.inl hpollin))
  rename_i hplain
  rw [or_iff_left (fun hbad => hplain hbad.1)]
  split
  · rename_i hkind
    have hnot : ¬((s.io h).kind.stream = true ∧ (s.io h).closing = true) := by
      rw [hkind]
      exact fun hbad => Bool.noConfusion hbad.1
    unfold uv__poll_io
    split
    · rename_i hpollerr
      obtain ⟨hloop, hown⟩ := hpoll hkind hpollerr
      exact (io_stop_spec hi hloop).congr (iff_of_false hown hnot)
    · exact Fails.ok hi hnot
  · split
    · rename_i hkind
      rw [and_iff_right hkind]
      unfold uv__stream_io
      split
      · rename_i hclosing
        exact Fails.failed hclosing
      · rename_i hopen
        split
        · exact Fails.ok hi hopen
        · rename_i hconnected
          rw [if_neg fun hnone => (hstream hnone).elim hconnected hopen]
          exact Fails.ok hi hopen
    · rename_i hkind
      exact Fails.ok hi fun hbad => hkind hbad.1

/-- Which callback a report comes to depends on the handle: a listening one has uv__server_io. -/
theorem polled_spec {r : Report} (hi : Inv s) (hloop : (s.io h).loop = some l)
    (hfd : (s.io h).fd = some fd) (hslot : (s.loops l).slot fd = some (.handle h)) :
    Fails (Event.misuse s h (.polled r)) Inv (cb s l h (r.seen (s.io h))) := by
  have hsome : (s.io h).fd ≠ none := by
    rw [hfd]
    exact Option.some_ne_none fd
  exact cb_spec hi (fun _ _ => hsome) (fun _ _ => ⟨hloop, not_displaced_of_slot hloop hfd hslot⟩)
    fun hnone => absurd hnone hsome

/-- It is called without POLLIN, and without POLLERR. -/
theorem run_pending_spec (hi : Inv s) (hpending : (s.io h).pending = true) :
    Fails (Event.misuse s h .run_pending) Inv (uv__run_pending s l h) := by
  have hset : Inv (s.set h { s.io h with pending := false }) :=
    hi.set { hi.io h with pending := fun hp => absurd hp Bool.false_ne_true }
  unfold uv__run_pending
  refine (cb_spec hset (fun _ hpollin => ?_) (fun _ hpollerr => ?_) ?_).congr ?_
  · exact absurd hpollin (by decide)
  · exact absurd hpollerr (by decide)
  · rw [set_io]
    exact (hi.io h).pending hpending
  · rw [set_io]
    unfold Event.misuse
    dsimp only
    refine and_congr_right fun _ => or_congr_right (and_iff_left ?_)
    exact .inl rfl

/-! ## Listening and connecting -/

/-- One turn of the loop of uv__server_io. -/
theorem accept_round_spec {result : Accepted} (hi : Inv s) (hfd : (s.io h).fd ≠ none)
    (hpossible : result.possible = true) :
    Fails (Event.misuse s h (.accept_round result)) Inv (uv__accept_round s h result) := by
  unfold uv__accept_round
  refine Fails.guard fun _ => ?_
  cases result with
  | connection fd =>
    refine Fails.ok (hi.set { hi.io h with accepted := ?_ }) (by rintro ⟨closed, ⟨⟩, -⟩)
    rintro fd' ⟨⟩
    exact ⟨of_decide_eq_true hpossible, hfd⟩
  | error closed =>
    refine (close_spec closed hi).congr ⟨fun hstdio => ⟨closed, rfl, hstdio⟩, ?_⟩
    rintro ⟨closed', ⟨⟩, hstdio⟩
    exact hstdio

/-- The error that waits is not one of a connect that goes on. -/
theorem stream_connect_spec (hi : Inv s) (hloop : (s.io h).loop = some l)
    (hconnect : (s.io h).connect_req = true) (hopen : (s.io h).closing = false)
    (hpending : (s.io h).fd ≠ none ∨ (s.io h).pending = false) :
    Fails (Event.misuse s h (.connected os)) Inv (uv__stream_connect s l h os) := by
  have hg := hi.io h
  have herror := hg.connect_req hconnect hopen
  unfold uv__stream_connect Event.misuse
  dsimp only
  have hassert : ¬((s.io h).kind ≠ .TCP ∧ (s.io h).kind ≠ .Pipe ∨
      (s.io h).delayed_error = 0 ∧ (s.io h).fd = none) := by
    rintro (⟨htcp, hpipe⟩ | ⟨hnone, hfd⟩)
    · exact (hg.connects hconnect).elim htcp hpipe
    · exact (herror hfd).1 hnone
  rw [if_neg hassert]
  generalize herr : (if (s.io h).delayed_error ≠ 0 then (s.io h).delayed_error else os) = error
  split
  · rename_i hprogress
    refine Fails.ok (hi.set { hg with connect_req := fun _ _ hnone => ?_ }) fun hm => hm.1 hprogress
    rw [if_pos (herror hnone).1] at herr
    exact absurd (herr.trans hprogress) (herror hnone).2
  rename_i hdone
  generalize hw : ({ s.io h with delayed_error := 0, connect_req := false, connect_failed := _ }
    : Io) = w
  have hset : Inv (s.set h w) := by
    subst hw
    refine hi.set { hg with
      pending := fun hp hnone => ?_
      connect_req := fun hc => absurd hc Bool.false_ne_true
      connects := fun hc => absurd hc Bool.false_ne_true }
    rw [hpending.resolve_left (not_not.mpr hnone)] at hp
    cases hp
  have hsame : displaced (s.set h w) h POLLOUT ↔ displaced s h POLLOUT := by
    subst hw
    exact displaced_set rfl rfl rfl
  have hloop' : ((s.set h w).io h).loop = some l := by
    subst hw
    rw [set_io]
    exact hloop
  rw [and_iff_right hdone]
  split
  · rename_i hstops
    refine (io_stop_spec hset hloop').congr ?_
    rw [hsame, and_iff_right hstops]
  · rename_i hgoes_on
    exact Fails.ok hset fun hm => hgoes_on hm.1

/-! ## Writing and shutting down -/

theorem flush_inv (hi : Inv s) : Inv (uv__stream_flush_write_queue s h) := by
  refine hi.set { hi.io h with size := ?_ }
  dsimp only
  rw [List.map_nil, List.sum_nil, List.sum_append, (hi.io h).size]
  omega

/-- The callbacks of writes assert nothing here. -/
theorem write_callback_spec (hi : Inv s) : Fails False Inv (uv__write_callback s h) := by
  have hsize := (hi.io h).size
  unfold uv__write_callback
  dsimp only
  split
  · exact Fails.ok hi id
  · rename_i left rest hfailed
    rw [hfailed, List.sum_cons] at hsize
    rw [if_neg (by omega)]
    exact Fails.ok (hi.set { hi.io h with size := by dsimp only; omega }) id

theorem drain_spec (hi : Inv s) (hloop : (s.io h).loop = some l) :
    Fails (displaced s h POLLOUT) Inv (uv__drain s l h os) := by
  unfold uv__drain
  refine Fails.map (Q := Inv) ((io_stop_spec hi hloop).mono fun t ht => ?_)
  dsimp only
  split
  · exact ht.set { ht.io h with }
  · exact ht

/-! ## Reading -/

theorem read_stopped_spec (hi : Inv s) (hloop : (s.io h).loop = some l) :
    Fails ((s.io h).reading = true ∧ displaced s h POLLIN) Inv
      ((uv_read_stop s l h).map Prod.snd) :=
  Fails.map (Q := Inv) (read_stop_spec hi hloop)

/-- The second stop finds what the first one has left. -/
theorem stream_eof_spec (hi : Inv s) (hloop : (s.io h).loop = some l) :
    Fails (displaced s h POLLIN) Inv (uv__stream_eof s l h) := by
  unfold uv__stream_eof
  refine (Fails.bind (R := False) (io_stop_spec hi hloop) fun t ht hinv => ?_).congr
    (or_iff_left id)
  refine (read_stopped_spec hinv ((io_stop_rewatched ht).loop.trans hloop)).congr
    (iff_of_false (fun hd => ?_) id)
  exact not_displaced_of_stop hloop ht hd.2

/-- After an error the stream is stopped, if the callback has not done so. -/
theorem after_read_spec {ended : Bool} (hi : Inv s) (hloop : (s.io h).loop = some l) :
    Fails (Event.misuse s h (.after_read ended)) Inv (after_read s l h ended) := by
  have hset : Inv (s.set h { s.io h with reading := false }) :=
    hi.set { hi.io h with reading := fun hr => absurd hr Bool.false_ne_true }
  unfold after_read Event.misuse
  dsimp only
  split
  · rename_i hended
    exact Fails.ok hset fun hm => by rw [hended] at hm; cases hm.1
  · rename_i hgoes_on
    rw [Bool.not_eq_true] at hgoes_on
    rw [and_iff_right hgoes_on]
    split
    · rename_i hreading
      refine (io_stop_spec hset (by rw [set_io]; exact hloop)).congr ?_
      rw [and_iff_right hreading]
      exact displaced_set rfl rfl rfl
    · rename_i hidle
      exact Fails.ok hi fun hm => hidle hm.1

/-- A descriptor that there is no memory for is closed. -/
theorem recv_cmsg_spec {alloc : Bool} (hi : Inv s) (hfd : (s.io h).fd ≠ none)
    (hsmall : fd < INT_MAX) :
    Fails (Event.misuse s h (.received fd alloc)) Inv (uv__stream_recv_cmsg s h fd alloc) := by
  have hg := hi.io h
  unfold uv__stream_recv_cmsg Event.misuse
  dsimp only
  split
  · rename_i hnone
    refine Fails.ok (hi.set { hg with accepted := ?_ }) fun hm => hm.1 hnone
    rintro fd' ⟨⟩
    exact ⟨hsmall, hfd⟩
  · rename_i hqueues
    split
    · rename_i halloc
      refine Fails.ok (hi.set { hg with queued_fds := fun fd' hfd' => ?_ })
        fun hm => by rw [halloc] at hm; cases hm.2.1
      rcases List.mem_append.mp hfd' with hold | hnew
      · exact hg.queued_fds fd' hold
      · rw [List.mem_singleton.mp hnew]
        exact hsmall
    · rename_i halloc
      rw [Bool.not_eq_true] at halloc
      refine (close_spec [fd] hi).congr ?_
      rw [has_stdio_singleton, and_iff_right hqueues, and_iff_right halloc]

/-! ## The end of a handle -/

/-- The callbacks give back the whole size. -/
theorem write_callbacks_sum (failed : List Nat) :
    uv__write_callbacks failed.sum failed = some 0 := by
  induction failed with
  | nil => rfl
  | cons left rest ih =>
    unfold uv__write_callbacks
    rw [List.sum_cons, if_neg (by omega), Nat.add_sub_cancel_left]
    exact ih

/-- A stream is destroyed when nothing is watched any more. -/
theorem stream_destroy_spec (hi : Inv s) (hclosing : (s.io h).closing = true) :
    Fails (uv__io_active (s.io h) = true) Inv (uv__stream_destroy s h) := by
  have hg := hi.io h
  have hsum : (s.io h).write_queue_size =
      ((s.io h).failed ++ (s.io h).write_queue.map Req.left).sum := by
    rw [List.sum_append, hg.size, Nat.add_comm]
  unfold uv__stream_destroy
  dsimp only
  rw [hsum, write_callbacks_sum]
  refine (Fails.guard (P := False) fun _ => Fails.ok ?_ id).congr (or_iff_left id)
  exact hi.set { hg with
    size := rfl
    pending := fun _ _ => .inr hclosing
    connect_req := fun hc => absurd hc Bool.false_ne_true
    connects := fun hc => absurd hc Bool.false_ne_true }

/-- The end of a closing, in its turn of the loop. -/
theorem finish_close_spec (hi : Inv s) (hclosing : (s.io h).closing = true) :
    Fails (Event.misuse s h .finish_close) Inv (uv__finish_close s h) := by
  have hset : Inv (s.set h { s.io h with closed := true }) := hi.set { hi.io h with }
  have hactive : uv__io_active { s.io h with closed := true } = uv__io_active (s.io h) := rfl
  unfold uv__finish_close Event.misuse
  dsimp only
  split
  · rename_i hstream
    have hkind : (s.io h).kind ≠ .UDP := fun hudp => by simp [hudp, Kind.stream] at hstream
    refine (stream_destroy_spec hset (by rw [set_io]; exact hclosing)).congr ?_
    rw [set_io, hactive]
    simp [hstream, hkind]
  · rename_i hstream
    split
    · rename_i hbad
      refine Fails.failed ?_
      exact hbad.2.imp (fun ha => ⟨.inr hbad.1, ha⟩) fun hfd => ⟨hbad.1, hfd⟩
    · rename_i hok
      refine Fails.ok hset ?_
      rintro (⟨hkind, ha⟩ | ⟨hkind, hfd⟩)
      · exact hok ⟨hkind.resolve_left hstream, .inl ha⟩
      · exact hok ⟨hkind, .inr hfd⟩

/-- Every event of the loop. -/
theorem event_spec (hi : Inv s) (hloop : (s.io h).loop = some l) {ev : Event}
    (hdue : ev.due s l h = true) : Fails (ev.misuse s h) Inv (ev.run s l h) := by
  cases ev with
  | io_poll ctl => exact io_poll_spec hi hdue
  | polled r =>
    obtain ⟨fd, hfd, hslot⟩ := (Option.any_eq_true _ _).mp (of_decide_eq_true hdue).1
    exact polled_spec hi hloop hfd (of_decide_eq_true hslot)
  | run_pending => exact run_pending_spec hi hdue
  | accept_round result =>
    obtain ⟨-, hfd, hpossible⟩ := of_decide_eq_true hdue
    exact accept_round_spec hi hfd hpossible
  | not_accepted => exact io_stop_spec hi hloop
  | connected os =>
    obtain ⟨hconnect, hopen, hpending⟩ := of_decide_eq_true hdue
    exact stream_connect_spec hi hloop hconnect (by simpa using hopen) (by simpa using hpending)
  | flush => exact Fails.ok (flush_inv hi) id
  | write_callback => exact write_callback_spec hi
  | writable result => exact write_spec result hi hloop (of_decide_eq_true hdue).2
  | drained os => exact drain_spec hi hloop
  | read_again =>
    exact (io_start_spec hi POLLIN_ne).congr (iff_of_false ((hi.io h).reading hdue) id)
  | read_error =>
    exact (read_stopped_spec hi hloop).congr (and_iff_right hdue)
  | eof => exact stream_eof_spec hi hloop
  | after_read ended => exact after_read_spec hi hloop
  | received fd alloc =>
    obtain ⟨-, hreading, hsmall⟩ := of_decide_eq_true hdue
    exact recv_cmsg_spec hi ((hi.io h).reading hreading) hsmall
  | finish_close => exact finish_close_spec hi (of_decide_eq_true hdue).1

/-! ## The runs -/

/-- A step fails an assertion if it is a misuse, and keeps the invariant otherwise. -/
structure Step (p : Prop) (t : St) : Prop where
  fails : p → t.aborted = true
  keeps : ¬p → Inv t

theorem call_step {c : Call} (hi : Inv s) (hstep : step s (.call h c) = some t) :
    Step (misuse s (.call h c)) t := by
  unfold step at hstep
  dsimp only at hstep
  split at hstep
  · rename_i hok
    obtain ⟨hcall, hinv⟩ := call_spec hi hok.2.2.1 hok.2.2.2
    unfold misuse
    dsimp only
    rw [← hcall]
    clear hcall
    generalize c.run s h = p at hstep hinv ⊢
    obtain ⟨r, u⟩ := p
    by_cases habort : r = .abort
    · subst habort
      cases hstep
      exact ⟨fun _ => rfl, fun hnot => absurd rfl hnot⟩
    · have hnext : some u = some t := by
        cases r <;> first | exact hstep | exact absurd rfl habort
      cases hnext
      exact ⟨fun hr => absurd hr habort, fun _ => hinv⟩
  · cases hstep

theorem event_step {ev : Event} (hi : Inv s) (hstep : step s (.event h ev) = some t) :
    Step (misuse s (.event h ev)) t := by
  unfold step at hstep
  dsimp only at hstep
  split at hstep
  · cases hstep
  · rename_i l hloop
    split at hstep
    · rename_i hok
      cases hstep
      have hspec := event_spec hi hloop hok.2
      unfold misuse
      dsimp only
      cases hrun : ev.run s l h with
      | none => exact ⟨fun _ => rfl, fun hnot => absurd (hspec.iff.mp hrun) hnot⟩
      | some u => exact ⟨fun hm => absurd hm (hrun ▸ hspec).not, fun _ => hspec.post u hrun⟩
    · cases hstep

/-- The watchers of the other handles come and go. -/
theorem step_spec (hi : Inv s) {a : Act} (hstep : step s a = some t) : Step (misuse s a) t := by
  cases a with
  | call h c => exact call_step hi hstep
  | event h ev => exact event_step hi hstep
  | entered l fd =>
    unfold step at hstep
    dsimp only at hstep
    split at hstep
    · cases hstep
      exact ⟨fun hm => hm.elim, fun _ => hi.with_tables (hi.tables.enter fd .other)⟩
    · cases hstep
  | left l fd =>
    unfold step at hstep
    dsimp only at hstep
    split at hstep
    · rw [Option.map_eq_some_iff] at hstep
      obtain ⟨watchers, htake, rfl⟩ := hstep
      exact ⟨fun hm => hm.elim,
        fun _ => hi.with_tables (hi.tables.leave Watcher.noConfusion htake)⟩
    · cases hstep

/-- At the start there are no descriptors but the loop's. -/
theorem start_inv (kind : Nat → Kind) (async_fd : Nat → Nat) (own : Nat → Finset Nat) :
    Inv (start kind async_fd own) := by
  refine ⟨fun h => Good.new (kind h), fun l => ⟨insert (async_fd l) (own l), fun fd => ?_, rfl⟩,
    fun l => ⟨async_fd l, ?_⟩, rfl⟩
  · unfold start
    dsimp only
    by_cases hfd : fd ∈ insert (async_fd l) (own l) <;> simp [hfd]
  · exact if_pos (Finset.mem_insert_self _ _)

end pyuv.stream_io
