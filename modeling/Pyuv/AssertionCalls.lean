-- What the functions of libuv that give descriptors to TCP, Pipe and Poll handles, and take them
-- away, assert, and from this what each method asserts.
import Pyuv.Assertions

set_option linter.style.nameCheck false

namespace pyuv.stream_io

open asserts slots watchers
open handle (Ret)

variable {s t : St} {h j k l fd : Nat} {ev : Events} {v w : Io}

/-! ### Descriptors -/

/-- A handle gets a descriptor, or keeps it. -/
theorem Good.opened (hg : Good w) (hsmall : fd < INT_MAX) : Good { w with fd := some fd } := by
  have hsome : some fd ≠ none := Option.some_ne_none fd
  refine { hg with
    fd := ?_
    accepted := fun fd' hfd' => ⟨(hg.accepted fd' hfd').1, hsome⟩
    poll := fun _ _ => hsome
    reading := fun _ => hsome
    pevents := fun hnone => absurd hnone hsome
    pending := fun _ hnone => absurd hnone hsome
    connect_req := fun _ _ hnone => absurd hnone hsome }
  rintro fd' ⟨⟩
  exact hsmall

/-- A watcher that gets a descriptor. uv__io_start asserts that it is below INT_MAX. -/
theorem Inv.set_fd (hi : Inv s) (hsmall : fd < INT_MAX) :
    Inv (s.set h { s.io h with fd := some fd }) :=
  hi.set ((hi.io h).opened hsmall)

/-- No handle loses its descriptor. -/
def KeepFds (s t : St) : Prop := ∀ j, (s.io j).fd ≠ none → (t.io j).fd ≠ none

theorem keep_fds_set (hw : (s.io h).fd ≠ none → w.fd ≠ none) : KeepFds s (s.set h w) := by
  intro j hj
  by_cases hjh : j = h
  · subst hjh
    rw [set_io]
    exact hw hj
  · rwa [set_io_of_ne hjh]

/-- Whether or not the stream gets the descriptor, no handle loses one. -/
theorem stream_open_spec (writable : Bool) (os : Int) (hi : Inv s) (hsmall : fd < INT_MAX) :
    Inv (uv__stream_open s h fd writable os).2 ∧
    KeepFds s (uv__stream_open s h fd writable os).2 ∧
    ((uv__stream_open s h fd writable os).1 ≠ 0 ↔
      (s.io h).fd ≠ none ∧ (s.io h).fd ≠ some fd ∨ options_fail (s.io h) os) ∧
    ((uv__stream_open s h fd writable os).1 = 0 →
      ((uv__stream_open s h fd writable os).2.io h).fd ≠ none) := by
  have hwritable : Inv (s.set h { s.io h with writable := (s.io h).writable || writable }) :=
    hi.set { hi.io h with }
  have hsome : some fd ≠ none := Option.some_ne_none fd
  unfold uv__stream_open options_fail
  dsimp only
  split
  · rename_i hbusy
    refine ⟨hi, fun j => id, iff_of_true (by simp [UV_EBUSY]) (.inl hbusy), fun hzero => ?_⟩
    exact absurd (show UV_EBUSY = 0 from hzero) (by decide)
  · rename_i hfree
    split
    · rename_i hrefused
      have herr : os ≠ 0 := hrefused.2.2.ne
      exact ⟨hwritable, keep_fds_set id, iff_of_true herr (.inr hrefused),
        fun hzero => absurd hzero herr⟩
    · rename_i hok
      have hset := hwritable.set_fd (h := h) hsmall
      rw [set_set, set_io] at hset
      refine ⟨hset, keep_fds_set fun _ => hsome, iff_of_false (fun hbad => hbad rfl) ?_,
        fun _ => ?_⟩
      · exact fun hbad => hbad.elim hfree hok
      · rw [set_io]
        exact hsome

section

variable {os : Int}

/-- Whatever becomes of the client, the server keeps its descriptor. -/
theorem accept_open_spec {r : Int × St} (hi : Inv s) (hsmall : fd < INT_MAX)
    (hr : uv_accept_open s k fd os = some r) :
    Inv r.2 ∧ KeepFds s r.2 ∧ (r.1 ≠ 0 ↔ not_opened (s.io k) fd os) := by
  have hstream := stream_open_spec (h := k) true os hi hsmall
  unfold uv_accept_open at hr
  unfold not_opened
  split at hr
  · rename_i hkind
    cases hr
    rw [if_neg (by simp [hkind])]
    exact ⟨hstream.1, hstream.2.1, hstream.2.2.1⟩
  · rename_i hkind
    cases hr
    rw [if_neg (by simp [hkind])]
    exact ⟨hstream.1, hstream.2.1, hstream.2.2.1⟩
  · rename_i hkind
    rw [if_pos hkind]
    split at hr
    · rename_i hfd
      cases hr
      exact ⟨hi, fun j => id, iff_of_true (by simp [UV_EBUSY]) (.inl hfd)⟩
    · rename_i hfd
      split at hr
      · rename_i hos
        cases hr
        exact ⟨hi, fun j => id, iff_of_true hos.ne (.inr hos)⟩
      · rename_i hos
        cases hr
        exact ⟨hi.set_fd hsmall, keep_fds_set fun _ => Option.some_ne_none fd,
          iff_of_false (fun hbad => hbad rfl) fun hbad => hbad.elim hfd hos⟩
  · cases hr

/-- With a descriptor there is something to watch for. -/
theorem accept_done_spec (err : Int) {P : Prop} (hP : ¬P) (hi : Inv s)
    (hfd : (s.io h).fd ≠ none) :
    Fails P (fun r => Inv r.2) (uv_accept_done s l h err) := by
  have hg := hi.io h
  unfold uv_accept_done
  dsimp only
  split
  · rename_i fd fds hqueue
    refine Fails.ok (hi.set { hg with accepted := ?_, queued_fds := fun fd' hfd' => ?_ }) hP
    · rintro fd' ⟨⟩
      exact ⟨hg.queued_fds fd (hqueue ▸ List.mem_cons_self), hfd⟩
    · exact hg.queued_fds fd' (hqueue ▸ List.mem_cons_of_mem fd hfd')
  · have hset : Inv (s.set h { s.io h with accepted_fd := none }) :=
      hi.set { hg with accepted := fun fd hnone => nomatch hnone }
    split
    · refine (Fails.paired (io_start_spec hset POLLIN_ne) _).congr (iff_of_false ?_ hP)
      rw [set_io]
      exact hfd
    · exact Fails.ok hset hP

theorem has_stdio_singleton : has_stdio [fd] ↔ fd ≤ STDERR_FILENO := by
  unfold has_stdio
  simp

theorem accept_open_eq_none (htype : (s.io k).kind.stream = true ∨ (s.io k).kind = .UDP) :
    uv_accept_open s k fd os = none ↔ (s.io k).kind = .TTY := by
  unfold uv_accept_open
  cases hkind : (s.io k).kind <;> simp [hkind, Kind.stream] at htype ⊢
  split
  · split <;> exact Option.some_ne_none _
  · exact Option.some_ne_none _

/-- A client of the wrong type is only refused. -/
theorem accept_spec (hi : Inv s)
    (htype : (s.io k).kind.stream = true ∨ (s.io k).kind = .UDP) :
    Fails ((s.io h).uv_loop ≠ (s.io k).uv_loop ∨ ∃ fd, (s.io h).accepted_fd = some fd ∧
        fd ≤ STDERR_FILENO ∧ (s.io k).kind ≠ .TTY ∧ not_opened (s.io k) fd os)
      (fun r => Inv r.2) (uv_accept s l h k os) := by
  unfold uv_accept
  refine Fails.guard fun _ => ?_
  cases haccepted : (s.io h).accepted_fd with
  | none => exact Fails.ok hi fun hbad => by simp at hbad
  | some fd =>
    obtain ⟨hsmall, hfd⟩ := (hi.io h).accepted fd haccepted
    have htty : uv_accept_open s k fd os = none ↔ (s.io k).kind = .TTY :=
      accept_open_eq_none htype
    dsimp only
    cases hr : uv_accept_open s k fd os with
    | none =>
      refine Fails.ok hi ?_
      rintro ⟨-, -, -, hnot, -⟩
      exact hnot (htty.mp hr)
    | some r =>
      obtain ⟨ht, hkeep, herr⟩ := accept_open_spec hi hsmall hr
      have hnot : (s.io k).kind ≠ .TTY := fun hbad => by simp [htty.mpr hbad] at hr
      dsimp only
      split
      · rename_i hzero
        refine accept_done_spec r.1 ?_ ht (hkeep h hfd)
        rintro ⟨fd', hfd', -, -, hrefused⟩
        cases hfd'
        exact herr.mpr hrefused hzero
      · rename_i hrefused
        have hclose := Fails.bind
          (close_spec [fd] (Q := fun t => Inv t ∧ (t.io h).fd ≠ none) ⟨ht, hkeep h hfd⟩)
          fun u _ hu => accept_done_spec (l := l) (P := False) r.1 id hu.1 hu.2
        refine hclose.congr ?_
        rw [or_false, has_stdio_singleton]
        constructor
        · exact fun hstdio => ⟨fd, rfl, hstdio, hnot, herr.mp hrefused⟩
        · rintro ⟨fd', hfd', hstdio, -⟩
          cases hfd'
          exact hstdio

variable {sock : Except Int Nat} {opened os delayed : Int}

/-- A handle that has a descriptor, while it connects. -/
theorem Good.connecting (hg : Good w) (hfd : w.fd ≠ none) (connect_req pending : Bool)
    (delayed_error : Int) (hkind : connect_req = true → w.kind = .TCP ∨ w.kind = .Pipe) :
    Good { w with
      connect_req := connect_req, pending := pending, delayed_error := delayed_error } :=
  { hg with
    connects := hkind
    pending := fun _ hnone => absurd hnone hfd
    connect_req := fun _ _ hnone => absurd hnone hfd }

/-- A watcher that waits for its turn has a descriptor. -/
theorem feed_inv (hi : Inv s) (hfd : (s.io h).fd ≠ none) : Inv (uv__io_feed s h) :=
  hi.set ((hi.io h).connecting hfd (s.io h).connect_req true (s.io h).delayed_error
    (hi.io h).connects)

theorem stream_open_kind {writable : Bool} :
    ((uv__stream_open s h fd writable os).2.io h).kind = (s.io h).kind := by
  unfold uv__stream_open
  dsimp only
  split
  · rfl
  · split <;> rw [set_io]

/-- What a socket becomes that a handle makes for itself. -/
structure Socketed (s : St) (h : Nat) (r : Int × St) : Prop where
  inv : Inv r.2
  kind : (r.2.io h).kind = (s.io h).kind
  fd : r.1 = 0 → (r.2.io h).fd ≠ none

/-- A socket that the handle refuses is closed. -/
theorem new_socket_spec (writable : Bool) (opened : Int) (hi : Inv s)
    (hsock : possible_sock sock = true) :
    Fails (closes_socket (s.io h) sock opened) (Socketed s h)
      (maybe_new_socket s h sock writable opened) := by
  unfold maybe_new_socket closes_socket
  dsimp only
  split
  · rename_i hfd
    refine Fails.ok ⟨hi.set { hi.io h with }, by rw [set_io], fun _ => ?_⟩ fun hbad => hfd hbad.1
    rw [set_io]
    exact hfd
  rename_i hnone
  rw [not_not] at hnone
  cases sock with
  | error err =>
    have herr : err < 0 := (of_decide_eq_true hsock).1
    exact Fails.ok ⟨hi, rfl, fun hzero => absurd hzero herr.ne⟩ (by rintro ⟨-, -, fd, ⟨⟩, -⟩)
  | ok fd =>
    obtain ⟨hinv, -, herr, hfd⟩ :=
      stream_open_spec (h := h) writable opened hi (of_decide_eq_true hsock)
    have hkind : ((uv__stream_open s h fd writable opened).2.io h).kind = (s.io h).kind :=
      stream_open_kind
    dsimp only
    split
    · rename_i hzero
      refine Fails.ok ⟨hinv, hkind, fun _ => hfd hzero⟩ ?_
      rintro ⟨-, hrefused, -⟩
      exact herr.mpr (.inr hrefused) hzero
    · rename_i hrefused
      have hoptions : options_fail (s.io h) opened :=
        (herr.mp hrefused).resolve_left fun hbusy => hbusy.1 hnone
      refine (Fails.map (Q := Socketed s h) (close_spec [fd]
        ⟨hinv, hkind, fun hzero => absurd hzero hrefused⟩)).congr ?_
      rw [has_stdio_singleton, and_iff_right hnone, and_iff_right hoptions]
      exact ⟨fun hstdio => ⟨fd, rfl, hstdio⟩, by rintro ⟨fd', ⟨⟩, hstdio⟩; exact hstdio⟩

/-- A new socket whose options cannot be set is closed, and uv__close asserts that it is none of
stdio. -/
theorem tcp_bind_spec {refused : Bool} (hi : Inv s) (hsock : possible_sock sock = true) :
    Fails (refused = false ∧ closes_socket (s.io h) sock opened) (fun r => Inv r.2)
      (uv__tcp_bind s h refused sock opened os delayed) := by
  unfold uv__tcp_bind
  split
  · rename_i hrefused
    exact Fails.ok hi fun hbad => by rw [hrefused] at hbad; cases hbad.1
  · rename_i hok
    rw [Bool.not_eq_true] at hok
    refine (Fails.map (Q := fun r : Int × St =>
      Inv r.2) ((new_socket_spec true opened hi hsock).mono ?_)).congr
      (and_iff_right hok).symm
    intro r hr
    dsimp only
    split
    · exact hr.inv
    · rename_i hzero
      rw [not_not] at hzero
      split
      · exact hr.inv
      · exact hr.inv.set ((hr.inv.io h).connecting (hr.fd hzero) (r.2.io h).connect_req
          (r.2.io h).pending delayed (hr.inv.io h).connects)

/-- The new socket is closed where bind fails. -/
theorem pipe_bind_spec (hi : Inv s) (hsock : possible_sock sock = true) :
    Fails ((s.io h).fd = none ∧ os < 0 ∧ ∃ fd, sock = .ok fd ∧ fd ≤ STDERR_FILENO)
      (fun r => Inv r.2) (uv_pipe_bind s h sock os) := by
  unfold uv_pipe_bind
  split
  · rename_i hfd
    exact Fails.ok hi fun hbad => hfd hbad.1
  rename_i hnone
  rw [not_not] at hnone
  cases sock with
  | error err => exact Fails.ok hi (by rintro ⟨-, -, fd, ⟨⟩, -⟩)
  | ok fd =>
    dsimp only
    split
    · rename_i hos
      refine (Fails.paired (close_spec [fd] hi) os).congr ?_
      rw [has_stdio_singleton, and_iff_right hnone, and_iff_right hos]
      exact ⟨fun hstdio => ⟨fd, rfl, hstdio⟩, by rintro ⟨fd', ⟨⟩, hstdio⟩; exact hstdio⟩
    · rename_i hos
      exact Fails.ok (hi.set_fd (of_decide_eq_true hsock)) fun hbad => hos hbad.2.1

/-- A second connect is refused before there is a socket. -/
theorem tcp_connect_spec (hi : Inv s) (hkind : (s.io h).kind = .TCP)
    (hsock : possible_sock sock = true) :
    Fails ((s.io h).connect_req = false ∧ closes_socket (s.io h) sock opened)
      (fun r => Inv r.2) (uv__tcp_connect s l h sock opened os delayed) := by
  unfold uv__tcp_connect
  split
  · rename_i hconnect
    exact Fails.ok hi fun hbad => by rw [hconnect] at hbad; cases hbad.1
  rename_i hidle
  rw [Bool.not_eq_true] at hidle
  refine (Fails.bind (R := False) (new_socket_spec true opened hi hsock) ?_).congr ?_
  · intro r _ hr
    dsimp only
    split
    · exact Fails.ok hr.inv id
    · rename_i hzero
      rw [not_not] at hzero
      have hfd := hr.fd hzero
      have hset : ∀ (connect_req : Bool) (delayed : Int), Inv (r.2.set h
          { r.2.io h with connect_req := connect_req, delayed_error := delayed }) :=
        fun connect_req delayed => hr.inv.set
          ((hr.inv.io h).connecting hfd connect_req (r.2.io h).pending delayed
            fun _ => .inl (hr.kind.trans hkind))
      split
      · exact Fails.ok (hset (r.2.io h).connect_req 0) id
      · have hstart := io_start_spec (h := h) (l := l) (hset true delayed) POLLOUT_ne
        rw [set_io] at hstart
        refine Fails.map (Q := fun r : Int × St =>
          Inv r.2) ⟨hstart.iff.trans (iff_of_false hfd id), ?_⟩
        intro t ht
        have hfd' := (io_start_rewatched ht).fd
        rw [set_io] at hfd'
        dsimp only
        split
        · exact feed_inv (hstart.post t ht) (by rw [hfd']; exact hfd)
        · exact hstart.post t ht
  · rw [or_false, and_iff_right hidle]

/-- Without a descriptor there is an error to report. -/
theorem pipe_connect_out_inv {err : Int} (hi : Inv s) (hkind : (s.io h).kind = .Pipe)
    (herr : (s.io h).fd = none → err ≠ 0 ∧ err ≠ UV_EINPROGRESS) :
    Inv (uv_pipe_connect_out s h err).2 := by
  have hset : ∀ pending : Bool, Inv (s.set h
      { s.io h with delayed_error := err, connect_req := true, pending := pending }) :=
    fun pending => hi.set { hi.io h with
      connects := fun _ => .inr hkind
      pending := fun _ _ => .inl rfl
      connect_req := fun _ _ hnone => herr hnone }
  unfold uv_pipe_connect_out
  dsimp only
  split
  · rw [feed_set]
    exact hset true
  · exact hset (s.io h).pending

/-- The descriptor is there already, so nothing is closed. -/
theorem pipe_connect_sock_spec (new_sock : Bool) (hi : Inv s) (hkind : (s.io h).kind = .Pipe)
    (hfd : (s.io h).fd ≠ none) :
    Fails False (fun r => Inv r.2) (uv_pipe_connect_sock s l h new_sock os) := by
  unfold uv_pipe_connect_sock
  split
  · exact Fails.ok (pipe_connect_out_inv hi hkind fun hnone => absurd hnone hfd) id
  · have hset : Inv (s.set h { s.io h with writable := (s.io h).writable || new_sock }) :=
      hi.set { hi.io h with }
    have hstart := io_start_spec (h := h) (l := l) hset
      (show POLLIN.or POLLOUT ≠ no_events by decide)
    rw [set_io] at hstart
    dsimp only
    refine Fails.map (Q := fun r : Int × St => Inv r.2) ⟨hstart.iff.trans (iff_of_false hfd id), ?_⟩
    intro t ht
    have hsame := io_start_rewatched ht
    rw [set_io] at hsame
    exact pipe_connect_out_inv (hstart.post t ht) (hsame.kind.trans hkind)
      fun hnone => absurd (hsame.fd.symm.trans hnone) hfd

theorem pipe_connect_spec (hi : Inv s) (hkind : (s.io h).kind = .Pipe)
    (hsock : possible_sock sock = true) :
    Fails False (fun r => Inv r.2) (uv_pipe_connect s l h sock os) := by
  unfold uv_pipe_connect
  split
  · rename_i hfd
    exact pipe_connect_sock_spec false hi hkind hfd
  · cases sock with
    | error err =>
      obtain ⟨herr, hother⟩ := of_decide_eq_true hsock
      exact Fails.ok (pipe_connect_out_inv hi hkind fun _ => ⟨herr.ne, hother⟩) id
    | ok fd =>
      refine pipe_connect_sock_spec true (hi.set_fd (of_decide_eq_true hsock)) ?_ ?_ <;>
        rw [set_io]
      · exact hkind
      · exact Option.some_ne_none fd

/-- A stream that has a descriptor begins to listen. -/
theorem listen_start_spec (hi : Inv s) (hstream : (s.io h).kind.stream = true)
    (hfd : (s.io h).fd ≠ none) :
    Fails False (fun r => Inv r.2)
      ((uv__io_start (s.set h { s.io h with listening := true }) l h POLLIN).map
        fun s => ((0 : Int), s)) := by
  have hset : Inv (s.set h { s.io h with listening := true }) :=
    hi.set { hi.io h with listening := fun _ => hstream }
  refine (Fails.paired (io_start_spec hset POLLIN_ne) 0).congr (iff_of_false ?_ id)
  rw [set_io]
  exact hfd

/-- An error that bind put off is returned before there is a socket. -/
theorem tcp_listen_spec (hi : Inv s) (hkind : (s.io h).kind = .TCP)
    (hsock : possible_sock sock = true) :
    Fails ((s.io h).delayed_error = 0 ∧ closes_socket (s.io h) sock opened)
      (fun r => Inv r.2) (uv_tcp_listen s l h sock opened os) := by
  unfold uv_tcp_listen
  split
  · rename_i hdelayed
    exact Fails.ok hi fun hbad => hdelayed hbad.1
  rename_i hnone
  rw [not_not] at hnone
  refine (Fails.bind (R := False) (new_socket_spec false opened hi hsock) ?_).congr ?_
  · intro r _ hr
    dsimp only
    split
    · exact Fails.ok hr.inv id
    · rename_i hzero
      rw [not_not] at hzero
      split
      · exact Fails.ok hr.inv id
      · exact listen_start_spec hr.inv (by rw [hr.kind, hkind]; rfl) (hr.fd hzero)
  · rw [or_false, and_iff_right hnone]

theorem pipe_listen_spec (hi : Inv s) (hkind : (s.io h).kind = .Pipe) :
    Fails False (fun r => Inv r.2) (uv_pipe_listen s l h os) := by
  unfold uv_pipe_listen
  split
  · exact Fails.ok hi id
  · rename_i hfd
    split
    · exact Fails.ok hi id
    · exact listen_start_spec hi (by rw [hkind]; rfl) hfd

/-- Whatever the descriptor is that is opened. -/
theorem open_inv {nonblock : Int} (hi : Inv s) (hsmall : fd < INT_MAX) :
    Inv (uv_open s h fd nonblock os).2 := by
  unfold uv_open
  split
  · exact hi
  · split
    · exact hi
    · split
      · split
        · exact hi
        · exact hi.set_fd hsmall
      · exact (stream_open_spec true os hi hsmall).1

theorem tcp_option_inv {set : Io → Io} (hi : Inv s) (hset : Inv (s.set h (set (s.io h)))) :
    Inv (uv_tcp_option s h set os).2 := by
  unfold uv_tcp_option
  split
  · exact hi
  · exact hset

/-! ### Polls, and closing -/

theorem poll_stop_spec (hi : Inv s) (hloop : (s.io h).loop = some l)
    (hopen : (s.io h).closing = false) :
    Fails (displaced s h all_events) (fun r => Inv r.2) (uv_poll_stop s l h) := by
  unfold uv_poll_stop
  rw [if_neg (by simp [hopen])]
  exact Fails.paired (io_stop_spec hi hloop) 0

theorem poll_events_ne {events : Int} (h0 : 0 ≤ events) (h7 : events ≤ 7) (hne : events ≠ 0) :
    poll_events events ≠ no_events := by
  obtain ⟨n, rfl⟩ := Int.eq_ofNat_of_zero_le h0
  have hall : ∀ m : Fin 8, m ≠ 0 → poll_events (m : Int) ≠ no_events := by decide
  exact hall ⟨n, by omega⟩ fun hzero => hne (by simpa using hzero)

/-- The events of the caller are asserted to be in range, after Poll_func_start has passed them
on. -/
theorem poll_start_spec (events : Int) (hi : Inv s) (hloop : (s.io h).loop = some l)
    (hopen : (s.io h).closing = false) (hfd : (s.io h).fd ≠ none) :
    Fails ((events < 0 ∨ 7 < events) ∨ displaced s h all_events) (fun r => Inv r.2)
      (uv_poll_start s l h events) := by
  unfold uv_poll_start
  refine Fails.guard fun hrange => ?_
  rw [if_neg (by simp [hopen])]
  refine (Fails.bind (R := False) (io_stop_spec hi hloop) ?_).congr (or_iff_left id)
  intro t ht hinv
  split
  · exact Fails.ok hinv id
  · rename_i hne
    have hfd' : (t.io h).fd = (s.io h).fd := (io_stop_rewatched ht).fd
    refine (Fails.paired (io_start_spec hinv (poll_events_ne (by omega) (by omega) hne)) 0).congr
      (iff_of_false ?_ id)
    rw [hfd']
    exact hfd

/-- Without a descriptor there is nothing to stop. -/
theorem Good.idle (hg : Good w) (hfd : w.fd = none) : Idle w := by
  refine ⟨hg.pevents hfd, ?_⟩
  by_contra hqueued
  rw [Bool.not_eq_false] at hqueued
  exact hg.queued hqueued (hg.pevents hfd)

theorem without_all_events (ev : Events) : ev.without all_events = no_events := by
  simp [Events.without, all_events, no_events]

/-- A handle on the way to be closed, `v` before. -/
structure Quiet (v : Io) (h : Nat) (t : St) : Prop where
  inv : Inv t
  idle : Idle (t.io h)
  pending : (t.io h).pending = false
  kind : (t.io h).kind = v.kind
  loop : (t.io h).loop = v.loop
  closing : (t.io h).closing = v.closing
  to_close : to_close (t.io h) = to_close v

/-- What a close closes is read from four fields. -/
theorem to_close_eq (hkind : w.kind = v.kind) (hfd : w.fd = v.fd)
    (haccepted : w.accepted_fd = v.accepted_fd) (hqueued : w.queued_fds = v.queued_fds) :
    to_close w = to_close v := by
  unfold to_close
  rw [hkind, hfd, haccepted, hqueued]

/-- After uv__io_close another stop finds nothing to assert. -/
theorem io_close_spec (hi : Inv s) (hloop : (s.io h).loop = some l) :
    Fails (displaced s h all_events) (fun t => Quiet (s.io h) h t ∧ ∀ ev, ¬displaced t h ev)
      (uv__io_close s l h) := by
  unfold uv__io_close
  refine Fails.map (Q := fun t => Quiet (s.io h) h t ∧ ∀ ev, ¬displaced t h ev)
    ⟨(io_stop_spec hi hloop).iff, ?_⟩
  intro t ht
  have hempty := without_all_events (s.io h).pevents
  have hinv := io_stop_inv hi ht
  have hsame := io_stop_rewatched ht
  have hnot : ∀ ev, ¬displaced t h ev := fun ev => not_displaced_of_stopped hloop hempty ht
  refine ⟨⟨hinv.set { hinv.io h with pending := fun hp => absurd hp Bool.false_ne_true },
    ?_, ?_, ?_, ?_, ?_, ?_⟩, fun ev => ?_⟩
  · rw [set_io]
    exact io_stop_idle ht hempty (hi.io h).idle
  · rw [set_io]
  · rw [set_io]
    exact hsame.kind
  · rw [set_io]
    exact hsame.loop
  · rw [set_io]
    exact hsame.closing
  · rw [set_io]
    exact to_close_eq hsame.kind hsame.fd hsame.accepted_fd hsame.queued_fds
  · have hset : displaced (t.set h { t.io h with pending := false }) h ev ↔ displaced t h ev :=
      displaced_set rfl rfl rfl
    exact fun hd => hnot ev (hset.mp hd)

/-- There is nothing left to stop. -/
theorem read_stop_quiet (hq : Quiet v h s) (hloop : (s.io h).loop = some l)
    (hnot : ¬displaced s h POLLIN) :
    Fails False (fun r => Quiet v h r.2 ∧ (r.2.io h).reading = false) (uv_read_stop s l h) := by
  have hspec := read_stop_spec hq.inv hloop
  refine ⟨hspec.iff.trans (iff_of_false (fun hbad => hnot hbad.2) id), fun r hr => ?_⟩
  have hinv := hspec.post r hr
  unfold uv_read_stop at hr
  dsimp only at hr
  split at hr
  · rename_i hreading
    cases hr
    exact ⟨hq, by simpa using hreading⟩
  · rw [Option.map_eq_some_iff] at hr
    obtain ⟨t, ht, rfl⟩ := hr
    have hsame := io_stop_rewatched ht
    have hidle : Idle (t.io h) := by
      apply io_stop_idle ht <;> rw [set_io]
      · rw [hq.idle.1]
        rfl
      · exact fun _ => hq.idle
    rw [set_io] at hsame
    refine ⟨⟨hinv, hidle, hsame.pending.trans hq.pending, hsame.kind.trans hq.kind,
      hsame.loop.trans hq.loop, hsame.closing.trans hq.closing, ?_⟩, hsame.reading⟩
    exact (to_close_eq hsame.kind hsame.fd hsame.accepted_fd hsame.queued_fds).trans hq.to_close

/-- The descriptors are given up. -/
theorem Quiet.closed (hq : Quiet v h s) (hkind : v.kind ≠ .Poll) (hclosing : v.closing = true)
    (hreading : (s.io h).reading = false) :
    Inv (s.set h { s.io h with fd := none, accepted_fd := none, queued_fds := [] }) := by
  have hg := hq.inv.io h
  have hclosed : (s.io h).closing = true := hq.closing.trans hclosing
  refine hq.inv.set { hg with
    fd := fun fd hnone => nomatch hnone
    accepted := fun fd hnone => nomatch hnone
    queued_fds := fun fd hmem => nomatch hmem
    poll := fun hpoll => absurd (hq.kind.symm.trans hpoll) hkind
    reading := ?_
    pevents := fun _ => hq.idle.1
    pending := ?_
    connect_req := ?_ }
  · intro hr
    rw [hreading] at hr
    cases hr
  · intro hp
    rw [hq.pending] at hp
    cases hp
  · intro _ hopen
    rw [hclosed] at hopen
    cases hopen

/-- The descriptors that a stream still has are closed, the ones it got from a peer included. -/
theorem stream_close_spec (hi : Inv s) (hloop : (s.io h).loop = some l)
    (hkind : (s.io h).kind ≠ .Poll) (hclosing : (s.io h).closing = true) :
    Fails (displaced s h all_events ∨ has_stdio (to_close (s.io h))) Inv
      (uv__stream_close s l h) := by
  unfold uv__stream_close
  refine Fails.bind (io_close_spec hi hloop) fun t _ ht => ?_
  have hloop' : (t.io h).loop = some l := ht.1.loop.trans hloop
  refine (Fails.bind (read_stop_quiet ht.1 hloop' (ht.2 POLLIN)) fun r _ hr => ?_).congr
    (or_iff_right id)
  rw [← hr.1.to_close]
  refine (Fails.bind (R := False) (close_spec _ (Q := fun u => u = r.2) rfl) ?_).congr
    (or_iff_left id)
  rintro u - rfl
  have hidle : uv__io_active (r.2.io h) = false := by
    unfold uv__io_active
    rw [hr.1.idle.1]
    rfl
  rw [if_neg (by simp [hidle])]
  exact Fails.ok (hr.1.closed hkind hclosing hr.2) id

/-- Closing stops the watcher, and then closes what is not a Poll. -/
theorem handle_close_spec (hi : Inv s) (hloop : (s.io h).loop = some l)
    (hopen : (s.io h).closing = false) :
    Fails (displaced s h all_events ∨ (s.io h).kind ≠ .Poll ∧ has_stdio (to_close (s.io h))) Inv
      (uv_close s l h) := by
  have hset : Inv (s.set h { s.io h with closing := true }) :=
    hi.set { hi.io h with
      pending := fun _ _ => .inr rfl
      connect_req := fun _ hbad => Bool.noConfusion hbad }
  have hsame : displaced (s.set h { s.io h with closing := true }) h all_events ↔
      displaced s h all_events := displaced_set rfl rfl rfl
  unfold uv_close
  dsimp only
  rw [if_neg (by simp [hopen])]
  split
  · rename_i hpoll
    refine (io_stop_spec hset (by rw [set_io]; exact hloop)).congr ?_
    rw [hsame]
    exact (or_iff_left fun hbad => hbad.1 hpoll).symm
  · rename_i hkind
    refine (stream_close_spec hset (by rw [set_io]; exact hloop) (by rw [set_io]; exact hkind)
      (by rw [set_io])).congr ?_
    rw [hsame, and_iff_right hkind, set_io]
    rfl

/-! ## The methods -/

/-- The guards of a method pass a handle that is initialised and open. -/
theorem check_open_eq_ok : check_open s h = .ok l ↔
    (s.io h).loop = some l ∧ (s.io h).closing = false := by
  unfold check_open
  split
  · rename_i hnone
    simp [hnone]
  · rename_i m hm
    rw [hm]
    by_cases hclosing : (s.io h).closing = true <;> simp [hclosing]

/-- A call that aborts exactly under `p`. -/
structure Aborts (p : Prop) (r : Ret × St) : Prop where
  iff : r.1 = .abort ↔ p
  inv : Inv r.2

/-- Another way to say when it aborts. -/
theorem Aborts.congr {p q : Prop} {r : Ret × St} (ha : Aborts p r) (hpq : p ↔ q) : Aborts q r :=
  ⟨ha.iff.trans hpq, ha.inv⟩

/-- A method aborts where the guard lets it through, its arguments are good, and libuv has no
result. -/
theorem method_spec (type : ExcType) (bad_args : Option PyErr) {uv : Nat → Option (Int × St)}
    {p : Prop} (hi : Inv s)
    (huv : ∀ l, (s.io h).loop = some l → (s.io h).closing = false → bad_args = none →
      Fails p (fun r => Inv r.2) (uv l)) :
    Aborts (is_open s h ∧ bad_args = none ∧ p) (method s h type bad_args uv) := by
  unfold method
  split
  · rename_i e he
    refine ⟨iff_of_false Ret.noConfusion ?_, hi⟩
    rintro ⟨⟨⟨l, hl⟩, hopen⟩, -⟩
    rw [check_open_eq_ok.mpr ⟨hl, hopen⟩] at he
    cases he
  · rename_i l hl
    obtain ⟨hloop, hopen⟩ := check_open_eq_ok.mp hl
    have his_open : is_open s h := ⟨⟨l, hloop⟩, hopen⟩
    split
    · rename_i e
      exact ⟨iff_of_false Ret.noConfusion (by simp), hi⟩
    · have hspec := huv l hloop hopen rfl
      rw [and_iff_right his_open, and_iff_right rfl, ← hspec.iff]
      unfold returns
      split
      · rename_i hr
        exact ⟨iff_of_true rfl hr, hi⟩
      · rename_i err t hr
        have ht : Inv t := hspec.post (err, t) hr
        rw [hr]
        split <;> exact ⟨iff_of_false Ret.noConfusion (Option.some_ne_none _), ht⟩

/-- A method without arguments to check. -/
theorem method_none_spec {type : ExcType} {uv : Nat → Option (Int × St)} {p : Prop} (hi : Inv s)
    (huv : ∀ l, (s.io h).loop = some l → (s.io h).closing = false →
      Fails p (fun r => Inv r.2) (uv l)) :
    Aborts (is_open s h ∧ p) (method s h type none uv) :=
  (method_spec type none hi fun l hloop hopen _ => huv l hloop hopen).congr
    (and_congr_right fun _ => and_iff_right rfl)

theorem callable_required_eq_none {callback : CallbackArg} :
    callable_required callback = none ↔ callback = .callable := by
  unfold callable_required
  cases callback <;> simp

theorem callable_or_None_eq_none {callback : CallbackArg} :
    callable_or_None_required callback = none ↔ callback ≠ .other := by
  unfold callable_or_None_required
  cases callback <;> simp

theorem orElse_eq_none {α : Type*} {a b : Option α} : (a <|> b) = none ↔ a = none ∧ b = none := by
  cases a <;> simp

/-- Data without an error has a buffer, if only an empty one. -/
theorem data_bufs {data : Data} (hdata : data.error = none) : data.bufs ≠ [] := by
  cases data with
  | buffer size => exact List.cons_ne_nil size []
  | sequence sizes =>
    cases sizes with
    | nil => cases hdata
    | cons size sizes => exact List.cons_ne_nil size sizes
  | bad e => cases hdata

section

variable {callback : CallbackArg}

/-- A new handle of any type. -/
theorem Good.new (kind : Kind) : Good (tp_new kind) := by
  constructor <;> simp [tp_new]

/-- The initialisation never aborts. -/
theorem tp_init_spec (flag blocking : Bool) (err : Int) (hi : Inv s) (hsmall : fd < INT_MAX) :
    (tp_init s h l fd flag blocking err).1 ≠ .abort ∧
      Inv (tp_init s h l fd flag blocking err).2 := by
  have hg := Good.new (s.io h).kind
  have huv : Good { tp_new (s.io h).kind with uv_loop := some l } := { hg with }
  have hnamed : (s.io h).kind ≠ .Poll →
      Good { tp_new (s.io h).kind with uv_loop := some l, loop := some l } :=
    fun hkind => { hg with poll := fun hpoll => absurd hpoll hkind }
  have hopened : Good { tp_new (s.io h).kind with
      uv_loop := some l, loop := some l, fd := some fd } :=
    { hg.opened hsmall with poll := fun _ _ => Option.some_ne_none fd }
  unfold tp_init
  dsimp only
  split
  · exact ⟨Ret.noConfusion, hi⟩
  split
  · refine ⟨Ret.noConfusion, ?_⟩
    dsimp only
    split
    · exact hi.set huv
    · exact hi
  split
  · rename_i hkind
    have hpipe : (s.io h).kind = .Pipe := hkind
    exact ⟨Ret.noConfusion, hi.set { hnamed (by rw [hpipe]; decide) with }⟩
  · exact ⟨Ret.noConfusion, hi.set { hopened with }⟩
  · exact ⟨Ret.noConfusion, hi.set hopened⟩
  · rename_i hkind
    refine ⟨Ret.noConfusion, ?_⟩
    dsimp only
    split
    · exact hi.set hopened
    · exact hi.set (hnamed hkind)

/-- A write that is refused by a guard or by its arguments asserts nothing. -/
theorem write_call_spec {data : Data} {send_handle : Obj} {alloc : Bool} {result : WriteResult}
    (hi : Inv s) (hstream : (s.io h).kind.stream = true) :
    Aborts (is_open s h ∧
        Call.misuse s h (.write data callback send_handle alloc result))
      (Stream_func_write s h data callback send_handle alloc result) := by
  have hargs : (callable_or_None_required callback <|> bad_send_handle s send_handle <|>
      data.error) = none ↔
      callback ≠ .other ∧ bad_send_handle s send_handle = none ∧ data.error = none := by
    rw [orElse_eq_none, orElse_eq_none, callable_or_None_eq_none]
  have hspec := method_spec (h := h) (s.io h).kind.error
    (callable_or_None_required callback <|> bad_send_handle s send_handle <|> data.error) hi
    fun l hloop _ hgood => (write2_spec hi hloop hstream (data_bufs (hargs.mp hgood).2.2) :
      Fails _ _ (uv_write2 s l h data.bufs send_handle.id? alloc result))
  rw [hargs] at hspec
  exact hspec

theorem listen_call_spec {backlog : Int} (hi : Inv s)
    (hkind : (s.io h).kind = .TCP ∨ (s.io h).kind = .Pipe) (hsock : possible_sock sock = true) :
    Aborts (is_open s h ∧ Call.misuse s h (.listen callback backlog sock opened os))
      (func_listen s h callback backlog sock opened os) := by
  have hargs : (int_required backlog <|> (if backlog < 0 then
      some (PyErr.text .ValueError "backlog must be bigger than 0") else none) <|>
      callable_required callback) = none ↔
      int_required backlog = none ∧ 0 ≤ backlog ∧ callback = .callable := by
    rw [orElse_eq_none, orElse_eq_none, callable_required_eq_none]
    by_cases hneg : backlog < 0
    · simp [hneg]
    · simp [hneg, not_lt.mp hneg]
  unfold func_listen
  refine (method_spec (p := (s.io h).kind = .TCP ∧ (s.io h).delayed_error = 0 ∧
    closes_socket (s.io h) sock opened) _ _ hi fun l _ _ _ => ?_).congr
    (and_congr_right fun _ => and_congr_left' hargs)
  split
  · rename_i htcp
    exact (tcp_listen_spec hi htcp hsock).congr (and_iff_right htcp).symm
  · rename_i hpipe
    exact (pipe_listen_spec hi (hkind.resolve_left hpipe)).congr
      (iff_of_false id fun hbad => hpipe hbad.1)

/-- The method of the type checks the client, and nothing checks its loop. -/
theorem accept_client_spec {client : Obj} {type : ExcType} {bad_args : Option PyErr} (hi : Inv s)
    (hbad : bad_args = none →
      ∃ k, client = .handle k ∧ ((s.io k).kind.stream = true ∨ (s.io k).kind = .UDP)) :
    Aborts (is_open s h ∧ bad_args = none ∧ ∃ k, client = .handle k ∧
        ((s.io h).uv_loop ≠ (s.io k).uv_loop ∨ ∃ fd, (s.io h).accepted_fd = some fd ∧
          fd ≤ STDERR_FILENO ∧ (s.io k).kind ≠ .TTY ∧ not_opened (s.io k) fd os))
      (method s h type bad_args fun l =>
        client.id?.elim (some (0, s)) fun k => uv_accept s l h k os) := by
  apply method_spec type bad_args hi
  intro l _ _ hargs
  obtain ⟨k, rfl, htype⟩ := hbad hargs
  have hspec : Fails _ _ (uv_accept s l h k os) := accept_spec hi htype
  refine hspec.congr ⟨fun hasserts => ⟨k, rfl, hasserts⟩, ?_⟩
  rintro ⟨k', ⟨⟩, hasserts⟩
  exact hasserts

/-- A client that TCP.accept lets through is one of the types that uv_accept knows. -/
theorem bad_TCP_client_handle {client : Obj} (hgood : bad_TCP_client s client = none) :
    ∃ k, client = .handle k ∧ ((s.io k).kind.stream = true ∨ (s.io k).kind = .UDP) := by
  cases client with
  | handle k =>
    refine ⟨k, rfl, .inl ?_⟩
    by_contra hnot
    simp [bad_TCP_client, hnot] at hgood
  | Py_None => cases hgood
  | other => cases hgood

theorem bad_Pipe_client_handle {client : Obj} (hgood : bad_Pipe_client s client = none) :
    ∃ k, client = .handle k ∧ ((s.io k).kind.stream = true ∨ (s.io k).kind = .UDP) := by
  cases client with
  | handle k =>
    refine ⟨k, rfl, ?_⟩
    by_contra hnot
    rw [not_or] at hnot
    simp [bad_Pipe_client, hnot] at hgood
  | Py_None => cases hgood
  | other => cases hgood

/-- The server has nothing to accept if no connection waits, and then nothing is asserted. -/
theorem accept_call_spec {client : Obj} (hi : Inv s) :
    Aborts (is_open s h ∧ Call.misuse s h (.accept client os))
      (Call.run s h (.accept client os)) := by
  unfold Call.run Call.misuse accept_asserts
  dsimp only
  split
  · exact accept_client_spec hi bad_TCP_client_handle
  · exact accept_client_spec hi bad_Pipe_client_handle

/-- TCP and Pipe in one: the type decides which of the two is called. -/
theorem connect_call_spec (hi : Inv s)
    (hkind : (s.io h).kind = .TCP ∨ (s.io h).kind = .Pipe) (hsock : possible_sock sock = true) :
    Aborts (is_open s h ∧ Call.misuse s h (.connect callback sock opened os delayed))
      (func_connect s h callback sock opened os delayed) := by
  unfold func_connect
  refine (method_spec (p := (s.io h).kind = .TCP ∧ (s.io h).connect_req = false ∧
    closes_socket (s.io h) sock opened) _ _ hi fun l _ _ _ => ?_).congr
    (and_congr_right fun _ => and_congr_left' callable_required_eq_none)
  split
  · rename_i htcp
    exact (tcp_connect_spec hi htcp hsock).congr (and_iff_right htcp).symm
  · rename_i hpipe
    exact (pipe_connect_spec hi (hkind.resolve_left hpipe) hsock).congr
      (iff_of_false id fun hbad => hpipe hbad.1)

/-- A bad address is refused before the socket is made. -/
theorem bind_call_spec {refused : Bool} (hi : Inv s) (hsock : possible_sock sock = true) :
    Aborts (is_open s h ∧ Call.misuse s h (.bind refused sock opened os delayed))
      (func_bind s h refused sock opened os delayed) := by
  apply method_none_spec hi
  intro l _ _
  unfold Call.misuse
  dsimp only
  split
  · exact tcp_bind_spec hi hsock
  · exact pipe_bind_spec hi hsock

/-- A method without an assertion. -/
theorem method_safe {type : ExcType} {uv : Nat → Int × St} (hi : Inv s)
    (huv : ∀ l, Inv (uv l).2) :
    Aborts (is_open s h ∧ False) (method s h type none fun l => some (uv l)) :=
  method_none_spec hi fun l _ _ => Fails.ok (huv l) id

/-- The events are not checked by the method. -/
theorem poll_start_call_spec {events : Int} (hi : Inv s) (hkind : (s.io h).kind = .Poll) :
    Aborts (is_open s h ∧ Call.misuse s h (.poll_start events callback))
      (Poll_func_start s h events callback) := by
  unfold Poll_func_start
  refine (method_spec _ _ hi fun l hloop hopen _ => poll_start_spec events hi hloop
    hopen ((hi.io h).poll hkind (by rw [hloop]; exact Option.some_ne_none l))).congr ?_
  rw [orElse_eq_none, callable_required_eq_none, and_assoc]
  exact Iff.rfl

/-- A handle that is closed already is refused. -/
theorem close_call_spec (hi : Inv s) :
    Aborts (is_open s h ∧ Call.misuse s h (.close callback)) (Handle_func_close s h callback) := by
  unfold Handle_func_close
  refine (method_spec _ _ hi fun l hloop hopen _ =>
    Fails.paired (handle_close_spec hi hloop hopen) 0).congr (and_congr_right fun _ => ?_)
  unfold Call.misuse
  by_cases hother : callback = .other <;> simp [hother]

end

/-- Every method, for every handle that has it. -/
theorem call_spec (hi : Inv s) {c : Call} (hmethod : c.method_of (s.io h).kind = true)
    (hpossible : c.possible = true) : Aborts (is_open s h ∧ c.misuse s h) (c.run s h) := by
  cases c with
  | tp_init l fd flag blocking err =>
    have hspec := tp_init_spec (h := h) (l := l) flag blocking err hi
      (of_decide_eq_true hpossible)
    exact ⟨iff_of_false hspec.1 (fun hm => hm.2), hspec.2⟩
  | start_read callback =>
    exact (method_spec _ _ hi fun l _ hopen _ => read_start_spec hi hmethod hopen).congr
      (and_congr_right fun _ => and_congr_left' callable_required_eq_none)
  | stop_read => exact method_none_spec hi fun l hloop _ => read_stop_spec hi hloop
  | shutdown => exact method_none_spec hi fun l _ hopen => shutdown_spec hi hmethod hopen
  | write data callback send_handle alloc result =>
    exact write_call_spec hi (of_decide_eq_true hmethod).1
  | try_write size alloc result =>
    refine (method_none_spec hi fun l hloop _ => try_write_spec hi hloop hmethod
      (List.cons_ne_nil size [])).congr (and_congr_right fun _ => ?_)
    rw [List.sum_singleton]
    exact Iff.rfl
  | listen callback backlog sock opened os =>
    exact listen_call_spec hi (of_decide_eq_true hmethod) hpossible
  | accept client os => exact accept_call_spec hi
  | connect callback sock opened os delayed =>
    exact connect_call_spec hi (of_decide_eq_true hmethod) hpossible
  | bind refused sock opened os delayed => exact bind_call_spec hi hpossible
  | open_fd fd nonblock os =>
    exact method_safe hi fun l => open_inv hi (of_decide_eq_true hpossible)
  | nodelay enable os =>
    exact method_safe hi fun l => tcp_option_inv hi (hi.set { hi.io h with })
  | keepalive enable os =>
    exact method_safe hi fun l => tcp_option_inv hi (hi.set { hi.io h with })
  | poll_start events callback => exact poll_start_call_spec hi (of_decide_eq_true hmethod)
  | poll_stop => exact method_none_spec hi fun l hloop hopen => poll_stop_spec hi hloop hopen
  | close callback => exact close_call_spec hi

end

end pyuv.stream_io
